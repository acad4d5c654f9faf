/-!
Markup: text with tags in square brackets. A tag opens at a bracket that is followed by a
lower-case letter or one of `#`, `/` and `@`, holds no other opening bracket, and closes at
the next closing one. A backslash in front of the bracket makes it plain text, unless that
backslash is itself behind an odd number of them.
-/

namespace Andromeda

def styled (style text : String) : String :=
  "[" ++ style ++ "]" ++ text ++ "[/" ++ style ++ "]"

inductive Piece where
  | char (char : Char)
  | tag (name : List Char)
  deriving DecidableEq, Repr

def opensTag (char : Char) : Bool :=
  char.isLower || char = '#' || char = '/' || char = '@'

/-- The rest of a tag's name, and what follows its closing bracket. -/
def tagName? (name : List Char) : List Char → Option (List Char × List Char)
  | [] => none
  | char :: chars =>
    if char = ']' then some (name.reverse, chars)
    else if char = '[' then none
    else tagName? (char :: name) chars

def tagAt? : List Char → Option (List Char × List Char)
  | '[' :: char :: chars => if opensTag char then tagName? [char] chars else none
  | _ => none

/-- Pieces of a text, given whether an odd number of backslashes stands in front of it and
how many of its characters belong to a tag already read. -/
def piecesFrom (escaped : Bool) (skip : Nat) (done : List Piece) : List Char → List Piece
  | [] => done.reverse
  | char :: chars =>
    match skip with
    | skip + 1 => piecesFrom false skip done chars
    | 0 =>
      match if escaped then none else tagAt? (char :: chars) with
      | some (name, _) => piecesFrom false (name.length + 1) (.tag name :: done) chars
      | none => piecesFrom (char = '\\' && !escaped) 0 (.char char :: done) chars

def pieces (text : List Char) : List Piece := piecesFrom false 0 [] text

def tags (text : List Char) : List (List Char) :=
  (pieces text).filterMap fun piece =>
    match piece with
    | .tag name => some name
    | .char _ => none

def plain (text : String) : String :=
  .ofList <| (pieces text.toList).filterMap fun piece =>
    match piece with
    | .tag _ => none
    | .char char => some char

end Andromeda
