import Andromeda.Display.Markup
import Andromeda.Display.Shown

namespace Andromeda

def summaryChar (char : Char) : List Char :=
  if char = '"' ∨ char = '\\' then ['\\', char]
  else if char = '\n' then ['\\', 'n']
  else if char = '\r' then ['\\', 'r']
  else if char = '\t' then ['\\', 't']
  else if char.toNat < 0x20 then '\\' :: 'u' :: (hexNumeral 4 char.toNat).toList
  else [char]

def summaryString (text : String) : String :=
  .ofList ('"' :: (text.toList.flatMap summaryChar ++ ['"']))

def summaryList (items : List String) : String := "[" ++ ", ".intercalate items ++ "]"

def Summary.fields (summary : Summary) : List (String × String) :=
  let checksum := summary.checksum
  let length := summary.length
  let count := summary.blockCount
  let frames := summary.frames
  [("sources", summaryList (summary.sources.map summaryString)),
    ("kind", (summary.kind.map fun kind => summaryString kind.name).getD "null"),
    ("version", summaryString summary.version), ("checksum", s!"{checksum}"),
    ("length", s!"{length}"), ("block_count", s!"{count}"), ("frames", s!"{frames}"),
    ("duplicates", summaryList (summary.duplicates.map fun index => s!"{index}"))]

def Summary.text (summary : Summary) : String :=
  let lines := summary.fields.map fun field => "  " ++ summaryString field.1 ++ ": " ++ field.2
  "\x7b\n" ++ ",\n".intercalate lines ++ "\n\x7d"

def Shown.channel : Shown → Channel
  | .text channel _ => channel
  | .panel channel _ _ => channel
  | .table channel _ _ _ => channel
  | .summary channel _ => channel
  | .trace channel => channel
  | .log _ => .err

def Shown.plainText? : Shown → Option String
  | .text _ markup => some (plain markup)
  | .panel _ title content => some (plain title ++ "\n" ++ plain content)
  | .table _ title columns rows =>
    let lines := (columns :: rows).map fun cells => "\t".intercalate (cells.map plain)
    some ("\n".intercalate (plain title :: lines))
  | .summary _ figures => some figures.text
  | .trace _ => none
  | .log record => some (record.level.name ++ " " ++ record.message)

end Andromeda
