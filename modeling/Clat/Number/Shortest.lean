import Clat.Number.Binary64

/-! The shortest decimal that reads back as a given binary64 number, and of several such
the nearest to it. On the grid of decimals with a fixed number of places a number has two
neighbours; if any grid point reads back, a neighbour does. -/
namespace Clat.Number.Binary64

structure Decimal where
  digits : Nat
  exponent : Int
  deriving DecidableEq, Repr

/-- Compares `a` times a power of two with `d` times a power of ten. -/
def compareScaled (a : Nat) (twoExponent : Int) (d : Nat) (tenExponent : Int) : Ordering :=
  compare (a * Nat.pow 2 twoExponent.toNat * Nat.pow 10 (-tenExponent).toNat)
    (d * Nat.pow 10 tenExponent.toNat * Nat.pow 2 (-twoExponent).toNat)

/-- The exponent of the leading decimal digit of a positive finite number. -/
def leadingPlace (significand : Nat) (exponent : Int) : Int :=
  let guess := (significand.log2 + exponent) * 30103 / 100000
  if compareScaled significand exponent 1 (guess + 1) != .lt then guess + 1
  else if compareScaled significand exponent 1 guess == .lt then guess - 1
  else guess

/-- Whether a decimal lies in the interval that rounds to the number. Bounds are in
quarters of the last place; they belong to the interval when the significand is even. -/
def readsBack (significand : Nat) (exponent : Int) (d : Decimal) : Bool :=
  let below := if significand = Nat.pow 2 52 ∧ leastExponent < exponent then 1 else 2
  let low := compareScaled (4 * significand - below) (exponent - 2) d.digits d.exponent
  let high := compareScaled (4 * significand + 2) (exponent - 2) d.digits d.exponent
  if significand % 2 = 0 then low != .gt && high != .lt else low == .lt && high == .gt

/-- The neighbour of a number on the grid of multiples of ten to `place` that reads back,
the nearer one if both do, the even one if they are as near. -/
def onGrid? (significand : Nat) (exponent place : Int) : Option Decimal :=
  let floor :=
    significand * Nat.pow 2 exponent.toNat * Nat.pow 10 (-place).toNat
      / (Nat.pow 10 place.toNat * Nat.pow 2 (-exponent).toNat)
  let lower : Decimal := ⟨floor, place⟩
  let upper : Decimal := ⟨floor + 1, place⟩
  match readsBack significand exponent lower, readsBack significand exponent upper with
  | true, false => some lower
  | false, true => some upper
  | false, false => none
  | true, true =>
    match compareScaled (2 * significand) exponent (2 * floor + 1) place with
    | .lt => some lower
    | .gt => some upper
    | .eq => some (if floor % 2 = 0 then lower else upper)

def Decimal.strip (d : Decimal) : Nat → Decimal
  | 0 => d
  | fuel + 1 =>
    if d.digits % 10 = 0 ∧ d.digits ≠ 0 then
      Decimal.strip ⟨d.digits / 10, d.exponent + 1⟩ fuel
    else d

/-- The shortest decimal that reads back as a positive finite number. Seventeen digits
always do. -/
def shortest (significand : Nat) (exponent : Int) : Decimal :=
  let lead := leadingPlace significand exponent
  let found := (List.range 17).findSome? fun (more : Nat) =>
    onGrid? significand exponent (lead - (more : Int))
  (found.getD ⟨0, 0⟩).strip 20

end Clat.Number.Binary64
