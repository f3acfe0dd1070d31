/-! Positional digits of natural numbers, most significant first. -/
namespace Clat.Number

def digitChar (digit : Nat) : Char :=
  if digit < 10 then Char.ofNat (48 + digit) else Char.ofNat (87 + digit)

/-- The value of a digit, with letters of either case from ten on. -/
def digitValue? (c : Char) : Option Nat :=
  let n := c.toNat
  if 48 ≤ n && n ≤ 57 then some (n - 48)
  else if 97 ≤ n && n ≤ 122 then some (n - 87)
  else if 65 ≤ n && n ≤ 90 then some (n - 55)
  else none

def isDigitOf (base : Nat) (c : Char) : Bool := (digitValue? c).any (· < base)

/-- Whether a character is one of the ten ASCII digits. -/
abbrev isAsciiDigit (c : Char) : Bool := c.isDigit

/-- The digits of a number in a base, with no zero in front. -/
def digits (base : Nat) (n : Nat) : List Char :=
  if _h : n < base ∨ base < 2 then [digitChar n]
  else digits base (n / base) ++ [digitChar (n % base)]
termination_by n
decreasing_by exact Nat.div_lt_self (by omega) (by omega)

abbrev decimal (n : Nat) : List Char := digits 10 n

def signedDecimal (i : Int) : List Char :=
  if i < 0 then '-' :: decimal i.natAbs else decimal i.natAbs

/-- The lowest digits of a number in a base, in a field of fixed width. -/
def fixedDigits (base : Nat) : Nat → Nat → List Char
  | 0, _ => []
  | width + 1, n => fixedDigits base width (n / base) ++ [digitChar (n % base)]

/-- The number that digits stand for in a base; other characters count as zero. -/
def ofDigits (base : Nat) (text : List Char) : Nat :=
  text.foldl (fun n c => n * base + (digitValue? c).getD 0) 0

end Clat.Number
