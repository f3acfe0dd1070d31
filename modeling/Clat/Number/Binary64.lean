/-! Binary64 numbers as exact values. A finite number is a sign, a significand below 2^53
and a power of two not under -1074; among such forms the stored one has the least power.
Every operation computes the exact result first and rounds it once, to the nearest number
and to the even significand on a tie. -/
namespace Clat.Number

inductive Binary64 where
  | nan
  | infinite (negative : Bool)
  | finite (negative : Bool) (significand : Nat) (exponent : Int)
  deriving DecidableEq, Repr

namespace Binary64

def leastExponent : Int := -1074

def greatestExponent : Int := 971

def signedZero (negative : Bool) : Binary64 := .finite negative 0 leastExponent

/-- The quotient rounded to the nearest integer, to the even one on a tie. -/
def roundDiv (num den : Nat) : Nat :=
  let floor := num / den
  let twice := 2 * (num % den)
  if twice < den then floor
  else if den < twice then floor + 1
  else floor + floor % 2

/-- The exponent at which the quotient of two positive numbers has a 53-bit integer part. -/
def exponentOfRatio (num den : Nat) : Int :=
  let guess : Int := (num.log2 : Int) - den.log2 - 53
  let reaches : Bool :=
    if 0 ≤ guess then den * Nat.pow 2 (guess.toNat + 53) ≤ num
    else den * Nat.pow 2 53 ≤ num * Nat.pow 2 (-guess).toNat
  if reaches then guess + 1 else guess

/-- The number nearest to a quotient with a positive divisor. -/
def ofRatio (negative : Bool) (num den : Nat) : Binary64 :=
  if num = 0 then signedZero negative
  else
    let exponent := max leastExponent (exponentOfRatio num den)
    let significand :=
      if 0 ≤ exponent then roundDiv num (den * Nat.pow 2 exponent.toNat)
      else roundDiv (num * Nat.pow 2 (-exponent).toNat) den
    let (significand, exponent) :=
      if significand = Nat.pow 2 53 then (Nat.pow 2 52, exponent + 1) else (significand, exponent)
    if greatestExponent < exponent then .infinite negative
    else .finite negative significand exponent

/-- The number nearest to an integer times a power of two. -/
def ofDyadic (negative : Bool) (significand : Nat) (exponent : Int) : Binary64 :=
  if 0 ≤ exponent then ofRatio negative (significand * Nat.pow 2 exponent.toNat) 1
  else ofRatio negative significand (Nat.pow 2 (-exponent).toNat)

def ofNat (n : Nat) : Binary64 := ofRatio false n 1

/-- The number nearest to `digits` times ten to `exponent`; `count` is how many digits
there are. Magnitudes far outside the range are not computed. -/
def ofDecimal (negative : Bool) (digits count : Nat) (exponent : Int) : Binary64 :=
  if digits = 0 then signedZero negative
  else if 310 < count + exponent ∧ Nat.pow 10 count ≤ 10 * digits then .infinite negative
  else if count + exponent < -326 then signedZero negative
  else if 0 ≤ exponent then ofRatio negative (digits * Nat.pow 10 exponent.toNat) 1
  else ofRatio negative digits (Nat.pow 10 (-exponent).toNat)

def neg : Binary64 → Binary64
  | .nan => .nan
  | .infinite negative => .infinite !negative
  | .finite negative significand exponent => .finite (!negative) significand exponent

def mul : Binary64 → Binary64 → Binary64
  | .nan, _ => .nan
  | _, .nan => .nan
  | .infinite s, .infinite t => .infinite (s != t)
  | .infinite s, .finite t m _ => if m = 0 then .nan else .infinite (s != t)
  | .finite s m _, .infinite t => if m = 0 then .nan else .infinite (s != t)
  | .finite s m e, .finite t n f => ofDyadic (s != t) (m * n) (e + f)

/-- A finite number as an integer multiple of two to the least exponent. -/
def units (negative : Bool) (significand : Nat) (exponent : Int) : Int :=
  let magnitude : Int := significand * Nat.pow 2 (exponent - leastExponent).toNat
  if negative then -magnitude else magnitude

/-- The sum. A sum of zeros is negative only if both are; any other zero sum is positive. -/
def add : Binary64 → Binary64 → Binary64
  | .nan, _ => .nan
  | _, .nan => .nan
  | .infinite s, .infinite t => if s = t then .infinite s else .nan
  | .infinite s, .finite .. => .infinite s
  | .finite .., .infinite t => .infinite t
  | .finite s m e, .finite t n f =>
    let total := units s m e + units t n f
    if total = 0 then signedZero (s && t && m = 0 && n = 0)
    else ofDyadic (total < 0) total.natAbs leastExponent

/-- The integer part, toward zero, of a finite number. -/
def truncate? : Binary64 → Option Int
  | .finite negative significand exponent =>
    let magnitude : Nat :=
      if 0 ≤ exponent then significand * Nat.pow 2 exponent.toNat
      else significand / Nat.pow 2 (-exponent).toNat
    some (if negative then -(magnitude : Int) else magnitude)
  | _ => none

def equalsInt : Binary64 → Int → Bool
  | .finite negative significand exponent, i =>
    units negative significand exponent = i * Nat.pow 2 (-leastExponent).toNat
  | _, _ => false

/-- Numeric equality: zeros of either sign are equal, and nothing equals `nan`. -/
def equals : Binary64 → Binary64 → Bool
  | .infinite s, .infinite t => s = t
  | .finite s m e, .finite t n f => units s m e = units t n f
  | _, _ => false

end Binary64
end Clat.Number
