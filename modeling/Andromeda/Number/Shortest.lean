import Andromeda.Number.Binary64

/-!
The shortest decimal of a binary number: the fewest digits that read back as the same
number, and of those the ones nearest to it.
-/

namespace Andromeda

def leadingZeros (number divisor : Nat) : Nat → Nat
  | 0 => 0
  | count + 1 =>
    if divisor ≤ number * 10 then 0 else leadingZeros (number * 10) divisor count + 1

/-- Where the point stands in a positive quotient, counted from its first digit. -/
def decimalPoint (number divisor : Nat) : Int :=
  if divisor ≤ number then (Nat.toDigits 10 (number / divisor)).length
  else -(leadingZeros number divisor 400 : Int)

/-- The better neighbour on a decimal grid, of those that read back. -/
def neighbour? (readsBack : Nat → Bool) (number divisor : Nat) : Option Nat :=
  let below := number / divisor
  let twice := 2 * (number % divisor)
  let nearBelow := twice < divisor || (twice == divisor && below % 2 == 0)
  match readsBack below, readsBack (below + 1) with
  | true, true => some (if nearBelow then below else below + 1)
  | true, false => some below
  | false, true => some (below + 1)
  | false, false => none

/-- The digits and the power of ten of the shortest decimal, tried from coarse grids to fine
ones. -/
def shortestFrom (number divisor : Nat) (point : Int) (grid : Int) : Nat → Nat × Int
  | 0 => (number / divisor, 0)
  | count + 1 =>
    let power := point - grid
    let target := Binary64.nearest false number divisor
    let readsBack (digits : Nat) : Bool :=
      let (above, below) := scaleDown 10 (-power) digits 1
      Binary64.nearest false above below = target
    let (scaled, unit) := scaleDown 10 power number divisor
    match neighbour? readsBack scaled unit with
    | some digits => (digits, power)
    | none => shortestFrom number divisor point (grid + 1) count

def shortest (number divisor : Nat) : Nat × Int :=
  shortestFrom number divisor (decimalPoint number divisor) 1 17

def trimZeros (digits : List Char) : List Char :=
  (digits.reverse.dropWhile fun digit => digit = '0').reverse

def zeros (count : Nat) : List Char := List.replicate count '0'

/-- An exponent has a sign and at least two digits. -/
def exponentText (exponent : Int) : List Char :=
  let digits := Nat.toDigits 10 exponent.natAbs
  (if exponent < 0 then '-' else '+') :: (zeros (2 - digits.length) ++ digits)

/-- A decimal with the point after `point` digits. It is positional from four zeros behind
the point up to sixteen digits in front of it, and shows at least one digit behind it. -/
def decimalText (digits : List Char) (point : Int) : List Char :=
  if -4 < point ∧ point ≤ 16 then
    if point ≤ 0 then '0' :: '.' :: (zeros (-point).toNat ++ digits)
    else
      let whole := digits.take point.toNat ++ zeros (point.toNat - digits.length)
      let fraction := digits.drop point.toNat
      whole ++ '.' :: (if fraction.isEmpty then ['0'] else fraction)
  else
    let fraction := digits.drop 1
    digits.take 1 ++ (if fraction.isEmpty then [] else '.' :: fraction) ++
      'e' :: exponentText (point - 1)

def magnitudeText (significand : Nat) (exponent : Int) : List Char :=
  if significand = 0 then ['0', '.', '0']
  else
    let (number, divisor) := scaleDown 2 (-exponent) significand 1
    let (digits, power) := shortest number divisor
    let written := Nat.toDigits 10 digits
    decimalText (trimZeros written) (written.length + power)

def Binary64.text : Binary64 → String
  | .finite negative significand exponent =>
    .ofList ((if negative then ['-'] else []) ++ magnitudeText significand exponent)
  | .infinite negative => if negative then "-inf" else "inf"
  | .nan => "nan"

end Andromeda
