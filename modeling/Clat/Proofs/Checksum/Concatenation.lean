import Clat.Proofs.Checksum.Adjust
import Clat.Proofs.Checksum.Sum

/-! Sums of octets that follow others. Behind an even number of octets they keep their places in
their words, so the sums add up. Behind an odd number each of them takes the other place, which
multiplies what it counts by 256 modulo 65535. Their sum then counts with its octets exchanged, as a
field at an odd offset does. -/
namespace Clat.Checksum

/-- The last of an odd number of octets leaves the low place of its word to the first octet behind
it. -/
theorem add_append_odd (running : Int) {octets : List UInt8} (rest : List UInt8)
    (odd : octets.length % 2 = 1) :
    add running (octets ++ rest) = add running octets + add 0 (0 :: rest) := by
  induction octets using List.twoStepInduction generalizing running with
  | nil => cases odd
  | singleton high =>
    cases rest with
    | nil => simp [add, word]
    | cons low others =>
      rw [List.singleton_append, add_cons_cons, add_zero_cons_cons, add_eq]
      simp only [add, word, UInt8.toNat_zero]
      omega
  | cons_cons high low others ih =>
    rw [List.cons_append, List.cons_append, add_cons_cons, add_cons_cons]
    apply ih
    simp only [List.length_cons] at odd
    omega

/-- Octets that all move on by one place count 256 times what they counted. -/
theorem add_zero_cons_modEq (octets : List UInt8) :
    add 0 (0 :: octets) ≡ 256 * add 0 octets [ZMOD modulus] := by
  induction octets using List.twoStepInduction with
  | nil => rfl
  | singleton high =>
    simp only [add, word, Int.ModEq, modulus, UInt8.toNat_zero]
    omega
  | cons_cons high low rest ih =>
    have single : [low].length % 2 = 1 := rfl
    have behind : add 0 (low :: rest) = add 0 [low] + add 0 (0 :: rest) :=
      add_append_odd 0 rest single
    rw [add_zero_cons_cons, add_zero_cons_cons, behind]
    simp only [add, word, Int.ModEq, modulus, UInt8.toNat_zero] at ih ⊢
    omega

/-- Exchanging the octets is a multiplication by 256. -/
theorem swap16_modEq {value : Int} (fits : IsField16 value) :
    swap16 value ≡ 256 * value [ZMOD modulus] := by
  rw [swap16_of_field fits]
  simp only [Int.ModEq, modulus]
  omega

theorem swap16_eq_zero_iff {value : Int} (fits : IsField16 value) : swap16 value = 0 ↔ value = 0 := by
  rw [swap16_of_field fits]
  obtain ⟨least, greatest⟩ := fits
  omega

section Odd

variable {front : List UInt8} (back : List UInt8) (odd : front.length % 2 = 1)
include odd

theorem add_append_odd_modEq (running : Int) :
    add running (front ++ back) ≡ add running front + swap16 (fold (add 0 back))
      [ZMOD modulus] := by
  have nonneg := add_nonneg back
  have folded := fold_isField16 nonneg
  rw [add_append_odd running back odd]
  apply Int.ModEq.add_left
  calc add 0 (0 :: back)
      ≡ 256 * add 0 back [ZMOD modulus] := add_zero_cons_modEq back
    _ ≡ 256 * fold (add 0 back) [ZMOD modulus] := (fold_modEq nonneg).symm.mul_left 256
    _ ≡ swap16 (fold (add 0 back)) [ZMOD modulus] := (swap16_modEq folded).symm

/-- Both sums are zero for zero octets only, so they have one fold. -/
theorem fold_append_odd :
    fold (add 0 (front ++ back)) = fold (add 0 front + swap16 (fold (add 0 back))) := by
  have frontNonneg := add_nonneg front
  have backNonneg := add_nonneg back
  have folded := fold_isField16 backNonneg
  have swapped := (swap16_isField16 folded).1
  rw [fold_eq_iff (add_nonneg _) (Int.add_nonneg frontNonneg swapped)
    (add_append_odd_modEq back odd 0)]
  have zero : add 0 front + swap16 (fold (add 0 back)) = 0 ↔ add 0 front = 0 ∧ add 0 back = 0 := by
    rw [← fold_eq_zero_iff backNonneg, ← swap16_eq_zero_iff folded]
    omega
  rw [zero, add_eq_zero_iff, add_eq_zero_iff, add_eq_zero_iff, List.forall_mem_append]

end Odd

/-- The sum of octets put together of two parts. Behind an even number of octets, the second part is
added to the sum of the first. Behind an odd number, what is added is the folded sum of the second
part with its octets exchanged: this gives the sum modulo 65535 and, of the two zeros, the same fold.
-/
theorem add_concatenated (running : Int) (front back : List UInt8) :
    (front.length % 2 = 0 → add (add running front) back = add running (front ++ back)) ∧
      (front.length % 2 = 1 →
        add running (front ++ back) ≡ add running front + swap16 (fold (add 0 back))
          [ZMOD 65535] ∧
        fold (add 0 (front ++ back)) = fold (add 0 front + swap16 (fold (add 0 back)))) := by
  constructor
  · intro even
    exact (add_append running back even).symm
  · intro odd
    exact ⟨add_append_odd_modEq back odd running, fold_append_odd back odd⟩

/-- Octets in front that leave a place in their last word, and such that do not. -/
theorem add_concatenated_straddling :
    let front : List UInt8 := [0xff, 0xff, 0x12]
    let whole : List UInt8 := [0xff, 0xff]
    let back : List UInt8 := [0xff, 0xff, 0x34, 0x56, 0x78]
    front.length % 2 = 1 ∧ add (-1) (front ++ back) = 0x268a9 ∧
      add (-1) front + swap16 (fold (add 0 back)) = 0x168aa ∧
      (0x268a9 : Int) ≡ 0x168aa [ZMOD 65535] ∧
      whole.length % 2 = 0 ∧ add (-1) whole = 0xfffe ∧ add 0xfffe back = 0x2ac53 ∧
      add (-1) (whole ++ back) = 0x2ac53 := by
  intro front whole back
  have odd : front.length % 2 = 1 := by decide
  have even : whole.length % 2 = 0 := by decide
  have total : add (-1) (front ++ back) = 0x268a9 := by decide
  have folded : fold (add 0 back) = 0xac56 := by
    rw [fold_of_pos (by decide)]
    decide
  have parts : add (-1) front + swap16 (fold (add 0 back)) = 0x168aa := by
    rw [folded]
    decide
  have start : add (-1) whole = 0xfffe := by decide
  have rest : add 0xfffe back = 0x2ac53 := by decide
  obtain ⟨congruent, -⟩ := (add_concatenated (-1) front back).2 odd
  rw [total, parts] at congruent
  have exact := (add_concatenated (-1) whole back).1 even
  rw [start, rest] at exact
  exact ⟨odd, total, parts, congruent, even, start, rest, exact.symm⟩

end Clat.Checksum
