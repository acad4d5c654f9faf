import Andromeda.Number.Binary64
import Andromeda.Text.Blank

/-!
Reading numerals. Blanks may stand around a numeral and a sign in front of it, and single
underscores may divide it. A whole number may also have zeros in front of it, with any
underscores among them, and a point with one zero or more behind it. A real one may have either
blanks around it or underscores inside.
-/

namespace Andromeda

def digitsValue (digits : List Char) : Nat :=
  digits.foldl (fun value digit => value * 10 + (digit.toNat - 48)) 0

def signed (negative : Bool) (value : Nat) : Int := if negative then -value else value

def hasPair (mark : Char) : List Char → Bool
  | first :: second :: chars =>
    (first = mark && second = mark) || hasPair mark (second :: chars)
  | _ => false

/-- A text without its underscores. There have to be some, none of them at an end of the text
or beside another. -/
def joinDivided? (chars : List Char) : Option (List Char) :=
  if chars.contains '_' ∧ chars.head? ≠ some '_' ∧ chars.getLast? ≠ some '_' ∧
      ¬ hasPair '_' chars then
    some (chars.filter fun char => char ≠ '_')
  else none

def splitSign : List Char → Bool × List Char
  | '-' :: chars => (true, chars)
  | '+' :: chars => (false, chars)
  | chars => (false, chars)

/-- What follows the zeros and underscores at the head of a numeral, of which the last one is
given. That one stays in front of a point and when nothing follows. A minus sign may still come
behind them. -/
def behindZeros? (last : Char) : List Char → Option (List Char)
  | [] => some [last]
  | char :: chars =>
    if char = '0' ∨ char = '_' then behindZeros? char chars
    else if char = '.' then some (last :: char :: chars)
    else if char.isDigit ∨ char = '-' then some (char :: chars)
    else none

def dropZeros? : List Char → Option (List Char)
  | [] => none
  | char :: chars =>
    if char = '0' then behindZeros? char chars
    else if char.isDigit then some (char :: chars)
    else none

/-- A numeral up to its point. Behind a point there have to be zeros and nothing else. -/
def dropFraction? (numeral : List Char) : Option (List Char) :=
  match numeral.dropWhile fun char => char ≠ '.' with
  | [] => some numeral
  | _ :: zeros =>
    if zeros ≠ [] ∧ zeros.all fun char => char = '0' then
      some (numeral.takeWhile fun char => char ≠ '.')
    else none

/-- Digits alone. A zero in front has to be the only one. -/
def readDigits? : List Char → Option Nat
  | [] => none
  | digit :: digits =>
    if digit = '0' ∧ digits ≠ [] then none
    else if (digit :: digits).all Char.isDigit then some (digitsValue (digit :: digits))
    else none

/-- The whole number that digits give behind a sign, a minus or not. Without a minus sign there
the digits may have their own. -/
def readSigned? : Bool → List Char → Option Int
  | false, '-' :: digits => (readDigits? digits).map (signed true)
  | negative, digits => (readDigits? digits).map (signed negative)

def readInteger? (text : String) : Option Int := do
  let (negative, chars) := splitSign (trimBlanks text.toList)
  let whole ← dropFraction? (← dropZeros? chars)
  readSigned? negative ((joinDivided? whole).getD whole)

def readExponent? : List Char → Option Int
  | [] => some 0
  | mark :: chars =>
    if mark = 'e' ∨ mark = 'E' then
      let (negative, digits) := splitSign chars
      if digits = [] ∨ ¬ digits.all Char.isDigit then none
      else some (signed negative (digitsValue digits))
    else none

def digitRun (chars : List Char) : List Char × List Char :=
  (chars.takeWhile Char.isDigit, chars.dropWhile Char.isDigit)

def readFraction : List Char → List Char × List Char
  | '.' :: chars => digitRun chars
  | chars => ([], chars)

def readPlainReal? (numeral : List Char) : Option Binary64 :=
  let (negative, chars) := splitSign numeral
  let word := String.ofList (chars.map Char.toLower)
  if word = "inf" ∨ word = "infinity" then some (.infinite negative)
  else if word = "nan" then some .nan
  else
    let (whole, rest) := digitRun chars
    let (fraction, rest) := readFraction rest
    if whole.isEmpty ∧ fraction.isEmpty then none
    else (readExponent? rest).map fun exponent =>
      .ofDecimal negative (digitsValue (whole ++ fraction)) (exponent - fraction.length)

def readReal? (text : String) : Option Binary64 :=
  readPlainReal? (trimBlanks text.toList) <|>
    (joinDivided? text.toList).bind readPlainReal?

end Andromeda
