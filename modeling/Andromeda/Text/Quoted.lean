import Andromeda.Text.Hexadecimal
import Andromeda.Text.Printable

/-!
Quoted text, as names appear in messages. The quote is a single one unless the text holds a
single quote and no double one; the quote in use, the backslash and every character that
does not print are written with a backslash.
-/

namespace Andromeda

def codePoint (width : Nat) (char : Char) : List Char :=
  (hexNumeral width char.toNat).toList.map Char.toLower

def quotedChar (quote char : Char) : List Char :=
  if char = quote ∨ char = '\\' then ['\\', char]
  else if char = '\n' then ['\\', 'n']
  else if char = '\r' then ['\\', 'r']
  else if char = '\t' then ['\\', 't']
  else if prints char then [char]
  else if char.toNat < 0x100 then '\\' :: 'x' :: codePoint 2 char
  else if char.toNat < 0x10000 then '\\' :: 'u' :: codePoint 4 char
  else '\\' :: 'U' :: codePoint 8 char

def quoted (text : String) : String :=
  let chars := text.toList
  let quote := if chars.contains '\'' && !chars.contains '"' then '"' else '\''
  .ofList (quote :: (chars.flatMap (quotedChar quote) ++ [quote]))

end Andromeda
