/-!
Paths in their written form: a root, if there is one, and the parts between the slashes.
Empty parts and parts that stay in place are left out; a part that leads up is kept.
-/

namespace Andromeda

structure Path where
  /-- One slash or two, or nothing for a path from the current directory. -/
  root : String
  parts : List String
  deriving DecidableEq, Repr

def splitParts (part : List Char) : List Char → List (List Char)
  | [] => [part.reverse]
  | char :: chars =>
    if char = '/' then part.reverse :: splitParts [] chars
    else splitParts (char :: part) chars

def rootText : List Char → String
  | '/' :: '/' :: '/' :: _ => "/"
  | '/' :: '/' :: _ => "//"
  | '/' :: _ => "/"
  | _ => ""

def Path.ofText (text : String) : Path :=
  let parts := (splitParts [] text.toList).map String.ofList
  ⟨rootText text.toList, parts.filter fun part => part ≠ "" ∧ part ≠ "."⟩

/-- The path that a text writes. No path has a null character in it. -/
def Path.read? (text : String) : Option Path :=
  if text.toList.contains (.ofNat 0) then none else some (.ofText text)

def Path.text (path : Path) : String :=
  if path.root = "" ∧ path.parts = [] then "." else path.root ++ "/".intercalate path.parts

def Path.parent (path : Path) : Path := { path with parts := path.parts.dropLast }

/-- The path one part further on, where the last part leads up whenever it can. -/
def Path.enter (path : Path) (part : String) : Path :=
  if part ≠ ".." then { path with parts := path.parts ++ [part] }
  else if path.parts.all fun part => part = ".." then
    if path.root = "" then { path with parts := path.parts ++ [part] } else path
  else path.parent

end Andromeda
