import Andromeda.Display.Markup
import Andromeda.Display.Shown
import Andromeda.Text.Blank
import Andromeda.Text.Lower

/-!
Consoles. A console takes marked-up text only if each of its closing tags closes one that is open
there; any other text it refuses, and the command that hands it over is broken off.
-/

namespace Andromeda

structure Console where
  /-- The form in which names of styles are compared. It is empty for a blank name. -/
  normal : List Char → List Char
  /-- Whether the parameters of a handler can be read, which they are when its tag is closed. -/
  handles : List Char → Bool

structure OpenTag where
  name : List Char
  parameters : List Char
  deriving DecidableEq, Repr

namespace Console

def finishes (console : Console) (tag : OpenTag) : Bool :=
  tag.name.head? ≠ some '@' || tag.parameters.isEmpty || console.handles tag.parameters

/-- The tags that stay open when one is closed: the latest of a name, or the latest of all. -/
def close? (console : Console) (opened : List OpenTag) (name : List Char) :
    Option (List OpenTag) := do
  let closes (tag : OpenTag) : Bool := name = [] || tag.name = name
  let tag ← opened.find? closes
  if console.finishes tag then some (opened.eraseP closes) else none

def passTag? (console : Console) (opened : List OpenTag) (tag : List Char) :
    Option (List OpenTag) :=
  let name := tag.takeWhile (· ≠ '=')
  let parameters := (tag.dropWhile (· ≠ '=')).tail
  match name with
  | '/' :: name => console.close? opened (console.normal name)
  | name => some (⟨console.normal name, parameters⟩ :: opened)

def passTags? (console : Console) (opened : List OpenTag) (tags : List (List Char)) :
    Option (List OpenTag) :=
  tags.foldlM console.passTag? opened

def takes (console : Console) (text : String) : Bool :=
  (console.passTags? [] (tags text.toList)).isSome

def shows (console : Console) (item : Shown) : Bool := item.markups.all console.takes

/-- A console without abbreviated styles. -/
def standard : Console := ⟨fun name => lowerFrom [] (trimBlanks name), fun _ => true⟩

end Console

end Andromeda
