namespace Andromeda

def hexDigit (digit : Nat) : Char :=
  if digit < 10 then .ofNat (48 + digit) else .ofNat (55 + digit)

def hexDigits (number : Nat) : List Char :=
  if number < 16 then [hexDigit number]
  else hexDigits (number / 16) ++ [hexDigit (number % 16)]

/-- A numeral filled with zeros to a width. A minus sign stands in front of the zeros and
takes one place of the width. -/
def hexNumeral (width : Nat) (number : Int) : String :=
  let digits := hexDigits number.natAbs
  if number < 0 then
    .ofList ('-' :: (List.replicate (width - 1 - digits.length) '0' ++ digits))
  else .ofList (List.replicate (width - digits.length) '0' ++ digits)

end Andromeda
