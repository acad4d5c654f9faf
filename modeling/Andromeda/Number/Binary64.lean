/-!
Numbers in 64-bit binary floating point, as exact values. Arithmetic is exact and then rounded
once to the nearest number.
-/

namespace Andromeda

/-- A finite number is its significand times a power of two. -/
inductive Binary64 where
  | finite (negative : Bool) (significand : Nat) (exponent : Int)
  | infinite (negative : Bool)
  | nan
  deriving DecidableEq, Repr

/-- A quotient rounded to the nearest whole number, a tie to the even one. -/
def roundDiv (number divisor : Nat) : Nat :=
  let quotient := number / divisor
  let twice := 2 * (number % divisor)
  if twice < divisor ∨ (twice = divisor ∧ quotient % 2 = 0) then quotient else quotient + 1

def scaleDown (base : Nat) (power : Int) (number divisor : Nat) : Nat × Nat :=
  if 0 ≤ power then (number, divisor * Nat.pow base power.toNat)
  else (number * Nat.pow base (-power).toNat, divisor)

def binaryOrder (number divisor : Nat) : Int :=
  let order : Int := (Nat.log2 number : Int) - Nat.log2 divisor
  let (number, divisor) := scaleDown 2 order number divisor
  if number < divisor then order - 1 else order

/-- A significand of at most 53 bits, or the next power of two, in its only written form. -/
def Binary64.normal (negative : Bool) (significand : Nat) (exponent : Int) : Binary64 :=
  if significand = Nat.pow 2 53 then
    if exponent = 971 then .infinite negative else .finite negative (Nat.pow 2 52) (exponent + 1)
  else if 971 < exponent then .infinite negative
  else .finite negative significand exponent

/-- The number nearest to a quotient of whole numbers, a tie to the even significand. -/
def Binary64.nearest (negative : Bool) (number divisor : Nat) : Binary64 :=
  if number = 0 then .finite negative 0 0
  else
    let exponent := max (binaryOrder number divisor - 52) (-1074)
    let (scaled, divisor) := scaleDown 2 exponent number divisor
    .normal negative (roundDiv scaled divisor) exponent

def Binary64.ofDecimal (negative : Bool) (digits : Nat) (power : Int) : Binary64 :=
  let places : Int := (Nat.toDigits 10 digits).length
  if digits = 0 ∨ places + power < -400 then .finite negative 0 0
  else if 400 < places + power then .infinite negative
  else
    let (number, divisor) := scaleDown 10 (-power) digits 1
    .nearest negative number divisor

def dyadic (significand : Nat) (exponent : Int) : Rat :=
  if 0 ≤ exponent then ((significand * Nat.pow 2 exponent.toNat : Nat) : Rat)
  else mkRat significand (Nat.pow 2 (-exponent).toNat)

def Binary64.value? : Binary64 → Option Rat
  | .finite negative significand exponent =>
    let magnitude := dyadic significand exponent
    some (if negative then -magnitude else magnitude)
  | _ => none

def Binary64.ofExact (value : Rat) : Binary64 :=
  .nearest (value < 0) value.num.natAbs value.den

def Binary64.isNegative : Binary64 → Bool
  | .finite negative _ _ => negative
  | .infinite negative => negative
  | .nan => false

def Binary64.negate : Binary64 → Binary64
  | .finite negative significand exponent => .finite (!negative) significand exponent
  | .infinite negative => .infinite (!negative)
  | .nan => .nan

/-- The number nearest to a sum. A sum of zero is negative only if both parts are. -/
def Binary64.add (first second : Binary64) : Binary64 :=
  match first.value?, second.value? with
  | some left, some right =>
    if left + right = 0 then .finite (first.isNegative && second.isNegative) 0 0
    else .ofExact (left + right)
  | some _, none => second
  | none, some _ => first
  | none, none => if first = second then first else .nan

end Andromeda
