import Clat.Number.FloatText

/-! Decimal forms of binary64 numbers with a given number of places, rounded from the exact
value to the nearest and to the even one on a tie. -/
namespace Clat.Number.Binary64

/-- A magnitude times a power of ten, rounded to an integer. -/
def roundScaled (significand : Nat) (exponent place : Int) : Nat :=
  roundDiv (significand * Nat.pow 2 exponent.toNat * Nat.pow 10 place.toNat)
    (Nat.pow 2 (-exponent).toNat * Nat.pow 10 (-place).toNat)

/-- Digits with a point before the last `places` of them. -/
def pointed (places : Nat) (point : Bool) (digits : List Char) : List Char :=
  let digits := List.replicate (places + 1 - digits.length) '0' ++ digits
  let whole := digits.length - places
  digits.take whole ++ (if point then ['.'] else []) ++ digits.drop whole

/-- A magnitude with a number of places after the point. -/
def fixedForm (significand : Nat) (exponent : Int) (places : Nat) (point : Bool) : List Char :=
  pointed places point (decimal (roundScaled significand exponent places))

/-- The digits of a magnitude, one more than `places`, and the exponent of the first. -/
def leadingDigits (significand : Nat) (exponent : Int) (places : Nat) : List Char × Int :=
  if significand = 0 then (List.replicate (places + 1) '0', 0)
  else
    let lead := leadingPlace significand exponent
    let digits := decimal (roundScaled significand exponent (places - lead))
    if places + 1 < digits.length then (digits.take (places + 1), lead + 1) else (digits, lead)

/-- A magnitude with one digit before the point, and its exponent. -/
def scientificForm (significand : Nat) (exponent : Int) (places : Nat) (point : Bool) :
    List Char :=
  let (digits, lead) := leadingDigits significand exponent places
  pointed places point digits ++ exponentText lead

/-- The text without zeros at the end of its fraction. -/
def dropZeros (text : List Char) : List Char :=
  if text.contains '.' then
    ((text.reverse.dropWhile (· = '0')).dropWhile (· = '.')).reverse
  else text

/-- A magnitude with a number of significant digits, in the shorter of the two forms. -/
def generalForm (significand : Nat) (exponent : Int) (digits : Nat) (keep : Bool) : List Char :=
  let count := max digits 1
  let (found, lead) := leadingDigits significand exponent (count - 1)
  let strip (text : List Char) : List Char := if keep then text else dropZeros text
  if leastPositional ≤ lead ∧ lead < count then
    let places := (count - 1 - lead).toNat
    strip (fixedForm significand exponent places (keep || 0 < places))
  else strip (pointed (count - 1) (keep || 1 < count) found) ++ exponentText lead

end Clat.Number.Binary64
