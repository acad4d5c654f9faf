import Andromeda.Image
import Andromeda.Log

namespace Andromeda

inductive Channel where
  | out
  | err
  deriving DecidableEq, Repr

structure Summary where
  sources : List String
  kind : Option ImageKind
  version : String
  checksum : Int
  length : Int
  blockCount : Int
  frames : Nat
  duplicates : List Int
  deriving DecidableEq, Repr

inductive Shown where
  | text (channel : Channel) (markup : String)
  | panel (channel : Channel) (title content : String)
  | table (channel : Channel) (title : String) (columns : List String)
      (rows : List (List String))
  | summary (channel : Channel) (summary : Summary)
  | trace (channel : Channel)
  | log (record : LogRecord)
  deriving DecidableEq, Repr

def Shown.markups : Shown → List String
  | .text _ markup => [markup]
  | .panel _ title content => [title, content]
  | .table _ title columns rows => title :: columns ++ rows.flatten
  | .summary .. | .trace _ | .log _ => []

end Andromeda
