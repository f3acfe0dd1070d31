/-! Internet checksum arithmetic over unbounded accumulators. A sum is kept wide and
is folded to 16 bits only where a 16-bit value is needed. Negative accumulators occur
only when a caller starts from one; they follow floor division, as two's complement
does. -/
namespace Clat.Checksum

abbrev base : Int := 65536

def word (high low : UInt8) : Int := high.toNat * 256 + low.toNat

/-- Adds the big-endian words of the octets to a running sum. An odd last octet is the
high octet of a word padded with zero. -/
def add (running : Int) : List UInt8 → Int
  | [] => running
  | [high] => running + word high 0
  | high :: low :: rest => add (running + word high low) rest

/-- Carries above the low 16 bits are added back in until none is left. -/
def fold (sum : Int) : Int :=
  if 65535 < sum then fold (sum % base + sum / base) else sum
termination_by sum.toNat
decreasing_by simp only [base]; omega

/-- The ones' complement of a value, kept to 16 bits. -/
def complement (value : Int) : Int := (-value - 1) % base

def finish (sum : Int) : Int := complement (fold sum)

/-- The field that keeps a structure's checksum when octets summing to `before` give way
to octets summing to `after`: RFC 1624, section 3, with an end-around borrow. -/
def adjust (field before after : Int) : Int :=
  let fresh := fold (complement field + after)
  let stale := fold before
  if stale < fresh then complement (fresh - stale) else complement (fresh - stale - 1)

/-- Bitwise or of an octet moved up by eight bits and an unbounded value. -/
def orHigh (octet : Nat) (value : Int) : Int :=
  value / base * base + ((octet * 256) ||| (value % base).toNat : Nat)

/-- Exchanges the two octets of a 16-bit value. A value that does not fit keeps what
lies above its low octet, moved down by eight bits. -/
def swap16 (value : Int) : Int := orHigh (value % 256).toNat (value / 256)

theorem add_cons_cons (running : Int) (high low : UInt8) (rest : List UInt8) :
    add running (high :: low :: rest) = add (running + word high low) rest := rfl

theorem fold_of_le {sum : Int} (h : sum ≤ 65535) : fold sum = sum := by
  rw [fold, if_neg (by omega)]

theorem fold_of_lt {sum : Int} (h : 65535 < sum) :
    fold sum = fold (sum % base + sum / base) := by
  rw [fold, if_pos h]

end Clat.Checksum
