import Clat.Proofs.Checksum.Fold
import Mathlib.Tactic.SplitIfs

/-! The adjusted field, and fields at odd offsets. Complement is negation modulo 65535, so the
adjusted field differs from the field by what the octets lost or gained, and updates of one field
compose. A field at an odd offset counts with its octets exchanged. -/
namespace Clat.Checksum

/-- What fits in a 16-bit field. -/
def IsField16 (value : Int) : Prop := 0 ≤ value ∧ value ≤ modulus

theorem complement_of_field {field : Int} (fits : IsField16 field) :
    complement field = modulus - field := by
  obtain ⟨least, greatest⟩ := fits
  simp only [complement, base, modulus] at *
  omega

theorem fold_isField16 {sum : Int} (nonneg : 0 ≤ sum) : IsField16 (fold sum) :=
  ⟨fold_nonneg nonneg, fold_le nonneg⟩

theorem finish_isField16 {sum : Int} (nonneg : 0 ≤ sum) : IsField16 (finish sum) := by
  have folded := fold_isField16 nonneg
  rw [finish, complement_of_field folded]
  obtain ⟨least, greatest⟩ := folded
  exact ⟨by omega, by omega⟩

/-- Complements of 16-bit values are different for different values. -/
theorem finish_eq_iff {sum other : Int} (nonneg : 0 ≤ sum) (nonneg' : 0 ≤ other) :
    finish sum = finish other ↔ fold sum = fold other := by
  rw [finish, finish, complement_of_field (fold_isField16 nonneg),
    complement_of_field (fold_isField16 nonneg')]
  omega

theorem fresh_nonneg {field after : Int} (fits : IsField16 field) (new : 0 ≤ after) :
    0 ≤ modulus - field + after := by
  have := fits.2
  omega

/-- The adjusted field is the old sum less the fresh one. The end-around borrow takes one off
where that would be negative, which makes it 65535 more. -/
theorem adjust_eq {field before after : Int} (fits : IsField16 field) (old : 0 ≤ before)
    (new : 0 ≤ after) :
    let fresh := fold (modulus - field + after)
    let stale := fold before
    adjust field before after
      = if stale < fresh then modulus + stale - fresh else stale - fresh := by
  obtain ⟨freshLeast, freshGreatest⟩ := fold_isField16 (fresh_nonneg fits new)
  obtain ⟨staleLeast, staleGreatest⟩ := fold_isField16 old
  simp only [adjust, complement_of_field fits]
  split_ifs with borrow
  · rw [complement_of_field ⟨by omega, by omega⟩]
    omega
  · simp only [complement, base, modulus] at *
    omega

theorem adjust_isField16 {field before after : Int} (fits : IsField16 field) (old : 0 ≤ before)
    (new : 0 ≤ after) : IsField16 (adjust field before after) := by
  obtain ⟨freshLeast, freshGreatest⟩ := fold_isField16 (fresh_nonneg fits new)
  obtain ⟨staleLeast, staleGreatest⟩ := fold_isField16 old
  rw [adjust_eq fits old new]
  split_ifs with borrow
  · exact ⟨by omega, by omega⟩
  · exact ⟨by omega, by omega⟩

/-- The field loses what the octets gain. -/
theorem adjust_modEq {field before after : Int} (fits : IsField16 field) (old : 0 ≤ before)
    (new : 0 ≤ after) : adjust field before after ≡ field + before - after [ZMOD modulus] := by
  have fresh := fold_modEq (fresh_nonneg fits new)
  have stale := fold_modEq old
  rw [adjust_eq fits old new]
  simp only [Int.ModEq, modulus] at *
  split_ifs <;> omega

/-- A field that the new octets count too takes no part: the update is that of a field of zeros. -/
theorem adjust_add_field {field before rest : Int} (fits : IsField16 field) (old : 0 ≤ before)
    (nonneg : 0 ≤ rest) : adjust field before (rest + field) = adjust 0 before rest := by
  have zero : IsField16 0 := ⟨by decide, by decide⟩
  have counted : 0 ≤ rest + field := Int.add_nonneg nonneg fits.1
  have cancelled : modulus - field + (rest + field) = modulus - 0 + rest := by omega
  rw [adjust_eq fits old counted, adjust_eq zero old nonneg, cancelled]

/-- A field below 65535 stays below, so of the two zeros it is never the second. -/
theorem adjust_lt {field before after : Int} (least : 0 ≤ field) (below : field < modulus)
    (old : 0 ≤ before) (new : 0 ≤ after) : adjust field before after < modulus := by
  have fits : IsField16 field := ⟨least, Int.le_of_lt below⟩
  have some : 0 < modulus - field + after := by omega
  have stale := fold_le old
  rw [adjust_eq fits old new, fold_of_pos some]
  simp only [modulus] at *
  split_ifs <;> omega

/-- The update with a borrow is the one with complements, RFC 1624, equation 3: the complements of
the field and of the old sum are added to the sum of the new octets, and the total is folded once.
Both give the same of the two zeros. -/
theorem adjust_eq_finish {field before after : Int} (fits : IsField16 field) (old : 0 ≤ before)
    (new : 0 ≤ after) :
    adjust field before after = finish (complement field + finish before + after) := by
  have fresh := fresh_nonneg fits new
  obtain ⟨staleLeast, staleGreatest⟩ := fold_isField16 old
  rw [adjust_eq fits old new, finish, finish, complement_of_field fits,
    complement_of_field (fold_isField16 old)]
  generalize fold before = stale at *
  have late : modulus - field + (modulus - stale) + after
      = modulus - field + after + (modulus - stale) := by
    omega
  rw [late, complement_of_field (fold_isField16 (by omega))]
  -- The late fold is that of nothing only if there is neither a complement nor an octet to add.
  obtain nothing | some := Int.le_iff_eq_or_lt.mp fresh
  · rw [← nothing, fold_zero, if_neg (by omega), Int.zero_add]
    obtain lost | kept := Int.le_iff_eq_or_lt.mp staleGreatest
    · rw [lost, Int.sub_self, fold_zero]
    · rw [fold_of_pos (by omega)]
      simp only [modulus] at *
      omega
  · rw [fold_of_pos some, fold_of_pos (by omega)]
    simp only [modulus] at *
    split_ifs <;> omega

theorem adjust_eq_finish_otherZero :
    IsField16 65535 ∧ (0 : Int) ≤ 131070 ∧ (0 : Int) ≤ 0 ∧
      adjust 65535 131070 0 = finish (complement 65535 + finish 131070 + 0) ∧
      adjust 65535 131070 0 = 65535 := by
  have fits : IsField16 65535 := ⟨by decide, by decide⟩
  have same := adjust_eq_finish fits (by decide : (0 : Int) ≤ 131070) (Int.le_refl 0)
  have folded : fold 131070 = 65535 := by rw [fold_of_pos (by decide)]; rfl
  refine ⟨fits, by decide, by decide, same, ?_⟩
  rw [same, finish, finish, folded, show complement 65535 = 0 from rfl, Int.add_zero, Int.add_zero,
    fold_zero]
  rfl

/-- Below 65535 a field stands for its residue alone, and the update moves it from one residue to
another. -/
theorem adjust_eq_emod {field before after : Int} (least : 0 ≤ field) (below : field < modulus)
    (old : 0 ≤ before) (new : 0 ≤ after) :
    adjust field before after = (field + before - after) % modulus := by
  have fits : IsField16 field := ⟨least, Int.le_of_lt below⟩
  have nonneg := (adjust_isField16 fits old new).1
  have residue := Int.emod_eq_of_lt nonneg (adjust_lt least below old new)
  have congruent : adjust field before after % modulus = (field + before - after) % modulus :=
    adjust_modEq fits old new
  rw [← residue, congruent]

/-- An update by the same octets gives a field back, unless it is the second of the zeros, for which
it gives the first. -/
theorem adjust_self_iff {field sum : Int} (fits : IsField16 field) (nonneg : 0 ≤ sum) :
    adjust field sum sum = field ↔ field ≠ modulus := by
  constructor
  · rintro same rfl
    rw [adjust_eq fits nonneg nonneg, Int.sub_self, Int.zero_add, if_neg (Int.lt_irrefl _),
      Int.sub_self] at same
    exact absurd same (by decide)
  · intro first
    have below : field < modulus := by
      have greatest := fits.2
      omega
    rw [adjust_eq_emod fits.1 below nonneg nonneg, Int.add_sub_cancel,
      Int.emod_eq_of_lt fits.1 below]

/-- Updates of a field below 65535 act on it as the sums of its octets follow each other: it stays
below, nothing happens where nothing changes, two updates in a row are the update from the first
octets to the last, and an update back restores the field. -/
theorem adjust_action {field s t u : Int} (least : 0 ≤ field) (below : field ≤ 0xfffe)
    (first : 0 ≤ s) (second : 0 ≤ t) (third : 0 ≤ u) :
    (0 ≤ adjust field s t ∧ adjust field s t ≤ 0xfffe) ∧
      adjust field s s = field ∧
      adjust (adjust field s t) t u = adjust field s u ∧
      adjust (adjust field s t) t s = field := by
  have small : field < modulus := Int.lt_of_le_of_lt below (by decide)
  have fits : IsField16 field := ⟨least, Int.le_of_lt small⟩
  have movedLeast := (adjust_isField16 fits first second).1
  have movedSmall := adjust_lt least small first second
  have kept : adjust field s s = field := (adjust_self_iff fits first).2 (Int.ne_of_lt small)
  have composed {v : Int} (last : 0 ≤ v) :
      adjust (adjust field s t) t v = adjust field s v := by
    calc adjust (adjust field s t) t v
        = (adjust field s t + t - v) % modulus :=
          adjust_eq_emod movedLeast movedSmall second last
      _ = ((field + s - t) % modulus + (t - v)) % modulus := by
          rw [adjust_eq_emod least small first second, Int.add_sub_assoc]
      _ = (field + s - t + (t - v)) % modulus := Int.emod_add_emod _ _ _
      _ = (field + s - v) % modulus := by
          congr 1
          omega
      _ = adjust field s v := (adjust_eq_emod least small first last).symm
  exact ⟨⟨movedLeast, Int.le_of_lt_add_one movedSmall⟩, kept, composed third,
    (composed first).trans kept⟩

theorem adjust_action_greatest :
    (0 : Int) ≤ 0xfffe ∧ (0xfffe : Int) ≤ 0xfffe ∧ (0 : Int) ≤ 131070 ∧ (0 : Int) ≤ 0 ∧
      adjust 0xfffe 131070 0 = 0xfffe ∧
      adjust (adjust 0xfffe 131070 0) 0 131070 = 0xfffe := by
  have acts := adjust_action (by decide : (0 : Int) ≤ 0xfffe) (Int.le_refl _)
    (by decide : (0 : Int) ≤ 131070) (Int.le_refl 0) (Int.le_refl 0)
  refine ⟨by decide, Int.le_refl _, by decide, Int.le_refl 0, ?_, acts.2.2.2⟩
  rw [adjust_eq_emod (by decide) (by decide) (by decide) (by decide)]
  rfl

/-- The 16-bit value with two octets exchanged. -/
theorem swap16_of_field {value : Int} (fits : IsField16 value) :
    swap16 value = value % 256 * 256 + value / 256 := by
  obtain ⟨least, greatest⟩ := fits
  simp only [modulus] at greatest
  have high : ((value / 256) % base).toNat < 2 ^ 8 := by
    simp only [base]
    omega
  have joined := Nat.two_pow_add_eq_or_of_lt high (value % 256).toNat
  simp only [swap16, orHigh]
  rw [Nat.mul_comm, show (256 : Nat) = 2 ^ 8 from rfl, ← joined]
  simp only [base] at *
  omega

theorem swap16_isField16 {value : Int} (fits : IsField16 value) : IsField16 (swap16 value) := by
  rw [swap16_of_field fits]
  obtain ⟨least, greatest⟩ := fits
  simp only [IsField16, modulus] at *
  omega

/-- Exchanging twice changes nothing. -/
theorem swap16_swap16 {value : Int} (fits : IsField16 value) : swap16 (swap16 value) = value := by
  rw [swap16_of_field (swap16_isField16 fits), swap16_of_field fits]
  obtain ⟨least, greatest⟩ := fits
  simp only [modulus] at *
  omega

end Clat.Checksum
