import Clat.Checksum
import Mathlib.Data.List.Induction

/-! Sums of octets. An octet counts by its place: 256 at an even offset and 1 at an odd one.
A change of one octet therefore changes the sum by the weight of its place. -/
namespace Clat.Checksum

/-- What an octet at an offset counts in a sum. -/
def weight (offset : Nat) : Int := if offset % 2 = 0 then 256 else 1

theorem weight_add_two (offset : Nat) : weight (offset + 2) = weight offset := by
  simp [weight]

theorem add_eq (running : Int) (octets : List UInt8) :
    add running octets = running + add 0 octets := by
  induction octets using List.twoStepInduction generalizing running with
  | nil => simp [add]
  | singleton high => simp [add]
  | cons_cons high low rest ih =>
    rw [add_cons_cons, add_cons_cons, ih (running + _), ih (0 + _)]
    omega

theorem add_zero_cons_cons (high low : UInt8) (rest : List UInt8) :
    add 0 (high :: low :: rest) = word high low + add 0 rest := by
  rw [add_cons_cons, add_eq, Int.zero_add]

/-- Octets after an even number of others form words of their own. -/
theorem add_append (running : Int) {octets : List UInt8} (rest : List UInt8)
    (even : octets.length % 2 = 0) :
    add running (octets ++ rest) = add (add running octets) rest := by
  induction octets using List.twoStepInduction generalizing running with
  | nil => rfl
  | singleton high => simp at even
  | cons_cons high low others ih =>
    simp only [List.cons_append, add_cons_cons]
    exact ih _ (by simp only [List.length_cons] at even; omega)

/-- The sum of octets after an even number of others. -/
theorem add_zero_append {octets : List UInt8} (even : octets.length % 2 = 0)
    (rest : List UInt8) : add 0 (octets ++ rest) = add 0 octets + add 0 rest := by
  rw [add_append 0 rest even, add_eq]

theorem word_nonneg (high low : UInt8) : 0 ≤ word high low := by
  simp only [word]
  omega

theorem add_nonneg (octets : List UInt8) : 0 ≤ add 0 octets := by
  induction octets using List.twoStepInduction with
  | nil => simp [add]
  | singleton high => simpa [add] using word_nonneg high 0
  | cons_cons high low rest ih =>
    have := word_nonneg high low
    rw [add_zero_cons_cons]
    omega

theorem word_eq_zero_iff (high low : UInt8) : word high low = 0 ↔ high = 0 ∧ low = 0 := by
  rw [← UInt8.toNat_inj, ← UInt8.toNat_inj]
  simp only [word, UInt8.toNat_zero]
  omega

/-- Nothing but zero octets adds up to zero. -/
theorem add_eq_zero_iff (octets : List UInt8) : add 0 octets = 0 ↔ ∀ octet ∈ octets, octet = 0 := by
  induction octets using List.twoStepInduction with
  | nil => simp [add]
  | singleton high => simp [add, word_eq_zero_iff]
  | cons_cons high low rest ih =>
    have := word_nonneg high low
    have := add_nonneg rest
    rw [add_zero_cons_cons, List.forall_mem_cons, List.forall_mem_cons, ← ih, ← and_assoc,
      ← word_eq_zero_iff]
    omega

/-- A change of one octet changes the sum by the weight of its place. -/
theorem add_set (running : Int) {octets : List UInt8} {offset : Nat}
    (inside : offset < octets.length) (octet : UInt8) :
    add running (octets.set offset octet) =
      add running octets + weight offset * (octet.toNat - (octets.getD offset 0).toNat) := by
  induction octets using List.twoStepInduction generalizing running offset with
  | nil => simp at inside
  | singleton high =>
    obtain rfl : offset = 0 := by simpa using inside
    simp [add, word, weight]
    omega
  | cons_cons high low rest ih =>
    match offset with
    | 0 =>
      rw [List.set_cons_zero, add_cons_cons, add_cons_cons, add_eq (running + word octet low),
        add_eq (running + word high low)]
      simp [word, weight]
      omega
    | 1 =>
      rw [List.set_cons_succ, List.set_cons_zero, add_cons_cons, add_cons_cons,
        add_eq (running + word high octet), add_eq (running + word high low)]
      simp [word, weight]
      omega
    | offset + 2 =>
      have later : offset < rest.length := by simp only [List.length_cons] at inside; omega
      simpa only [List.set_cons_succ, add_cons_cons, List.getD_cons_succ, weight_add_two]
        using ih _ later

end Clat.Checksum
