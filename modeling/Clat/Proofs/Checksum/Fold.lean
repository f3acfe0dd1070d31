import Clat.Checksum
import Mathlib.Data.Int.ModEq

/-! The loop of a fold, and folding in closed form. Carries are worth one in the low 16 bits, so a
fold keeps its sum modulo 65535. Of the two zeros of ones' complement it gives 0 for the sum 0
alone and 65535 for every other multiple. A pass takes about a word off the sum, so the loop ends
after no more passes than the sum has words. -/
namespace Clat.Checksum

/-- What sums and 16-bit fields are compared by. -/
abbrev modulus : Int := 65535

/-- One pass of the loop: what is above the low 16 bits is added to them. -/
def carry (sum : Int) : Int := sum % base + sum / base

/-- The loop, started with a sum, ends after a number of passes with a value. -/
inductive Folds : Int → Nat → Int → Prop where
  | done {sum : Int} (small : sum ≤ 65535) : Folds sum 0 sum
  | pass {sum value : Int} {passes : Nat} (large : 65535 < sum)
      (later : Folds (carry sum) passes value) : Folds sum (passes + 1) value

section Loop

variable {sum value : Int} {passes : Nat}

theorem fold_carry (large : 65535 < sum) : fold (carry sum) = fold sum :=
  (fold_of_lt large).symm

/-- The loop ends from every sum. -/
theorem folds_fold (sum : Int) : ∃ passes, Folds sum passes (fold sum) := by
  induction sum using fold.induct with
  | case1 sum large ih =>
    obtain ⟨passes, later⟩ := ih
    rw [fold_of_lt large]
    exact ⟨passes + 1, .pass large later⟩
  | case2 sum small =>
    have ended : sum ≤ 65535 := Int.not_lt.1 small
    rw [fold_of_le ended]
    exact ⟨0, .done ended⟩

theorem Folds.eq_fold (folds : Folds sum passes value) : value = fold sum := by
  induction folds with
  | done small => exact (fold_of_le small).symm
  | pass large _ ih => exact ih.trans (fold_carry large)

theorem folds_iff : (∃ passes, Folds sum passes value) ↔ value = fold sum := by
  constructor
  · rintro ⟨passes, folds⟩
    exact folds.eq_fold
  · rintro rfl
    exact folds_fold sum

/-- A pass takes a word off the bound. The bound leaves room for a carry, since a pass over the
greatest sum of two words, say, leaves more than a word. -/
theorem carry_lt {words : Nat} (bound : sum < base ^ (words + 1) + modulus) :
    carry sum < base ^ words + modulus := by
  rw [Int.pow_succ] at bound
  generalize base ^ words = power at bound ⊢
  simp only [carry, base, modulus] at bound ⊢
  omega

theorem Folds.passes_le {words : Nat} (folds : Folds sum passes value)
    (bound : sum < base ^ words + modulus) : passes ≤ words := by
  induction folds generalizing words with
  | done small => exact Nat.zero_le words
  | pass large _ ih =>
    cases words with
    | zero =>
      simp only [Int.pow_zero, modulus] at bound
      omega
    | succ words => exact Nat.succ_le_succ (ih (carry_lt bound))

/-- Carries never reach zero. -/
theorem carry_pos (positive : 0 < sum) : 0 < carry sum := by
  simp only [carry, base]
  omega

theorem carry_modEq (sum : Int) : carry sum ≡ sum [ZMOD modulus] := by
  simp only [Int.ModEq, carry, base, modulus]
  omega

end Loop

/-- A positive sum folds to its residue modulo 65535, and to 65535 where that is zero. -/
theorem fold_of_pos {sum : Int} (positive : 0 < sum) : fold sum = (sum - 1) % modulus + 1 := by
  induction sum using fold.induct with
  | case1 sum large ih =>
    have kept : carry sum - 1 ≡ sum - 1 [ZMOD modulus] := (carry_modEq sum).sub_right 1
    calc fold sum
        = fold (carry sum) := (fold_carry large).symm
      _ = (carry sum - 1) % modulus + 1 := ih (carry_pos positive)
      _ = (sum - 1) % modulus + 1 := by rw [kept.eq]
  | case2 sum small =>
    rw [fold_of_le (by omega)]
    simp only [modulus]
    omega

@[simp]
theorem fold_zero : fold 0 = 0 := fold_of_le (by decide)

theorem fold_nonneg {sum : Int} (nonneg : 0 ≤ sum) : 0 ≤ fold sum := by
  obtain rfl | positive := Int.le_iff_eq_or_lt.mp nonneg
  · simp
  · rw [fold_of_pos positive]
    simp only [modulus]
    omega

theorem fold_le {sum : Int} (nonneg : 0 ≤ sum) : fold sum ≤ modulus := by
  obtain rfl | positive := Int.le_iff_eq_or_lt.mp nonneg
  · simp
  · rw [fold_of_pos positive]
    simp only [modulus]
    omega

theorem fold_modEq {sum : Int} (nonneg : 0 ≤ sum) : fold sum ≡ sum [ZMOD modulus] := by
  obtain rfl | positive := Int.le_iff_eq_or_lt.mp nonneg
  · simp
  · rw [fold_of_pos positive]
    simp only [Int.ModEq, modulus]
    omega

theorem fold_eq_zero_iff {sum : Int} (nonneg : 0 ≤ sum) : fold sum = 0 ↔ sum = 0 := by
  constructor
  · intro folded
    by_contra nonzero
    rw [fold_of_pos (by omega)] at folded
    simp only [modulus] at folded
    omega
  · rintro rfl
    exact fold_zero

/-- Congruent sums have one fold unless exactly one of them is the sum of nothing. -/
theorem fold_eq_iff {sum other : Int} (nonneg : 0 ≤ sum) (nonneg' : 0 ≤ other)
    (congruent : sum ≡ other [ZMOD modulus]) :
    fold sum = fold other ↔ (sum = 0 ↔ other = 0) := by
  constructor
  · intro same
    rw [← fold_eq_zero_iff nonneg, ← fold_eq_zero_iff nonneg', same]
  · intro zeros
    by_cases zero : sum = 0
    · rw [zero, zeros.mp zero]
    · have nonzero : other ≠ 0 := fun h => zero (zeros.mpr h)
      rw [fold_of_pos (by omega), fold_of_pos (by omega)]
      simp only [Int.ModEq, modulus] at congruent ⊢
      omega

/-- A sum may be folded at any time before more is added to it. -/
theorem fold_fold_add {sum other : Int} (nonneg : 0 ≤ sum) (nonneg' : 0 ≤ other) :
    fold (fold sum + other) = fold (sum + other) := by
  have folded := fold_nonneg nonneg
  have zero := fold_eq_zero_iff nonneg
  have congruent : fold sum + other ≡ sum + other [ZMOD modulus] :=
    (fold_modEq nonneg).add_right other
  rw [fold_eq_iff (by omega) (by omega) congruent]
  omega

/-- From every sum the loop ends with its fold, after no more passes than the sum has words. A sum
that is not negative folds to zero if it is zero and else to its residue between 1 and 65535, so
that a sum may be folded before more is added. A negative one stays as it is. -/
theorem fold_closedForm (sum : Int) :
    (∀ value, (∃ passes, Folds sum passes value) ↔ value = fold sum) ∧
      (∀ words, sum < base ^ words → ∃ passes ≤ words, Folds sum passes (fold sum)) ∧
      (0 ≤ sum →
        fold sum = (if sum = 0 then 0 else 1 + (sum - 1) % 0xffff) ∧
          (0 ≤ fold sum ∧ fold sum ≤ 0xffff) ∧
          fold sum ≡ sum [ZMOD 0xffff] ∧
          (fold sum = 0 ↔ sum = 0) ∧
          ∀ other, 0 ≤ other → fold (fold sum + other) = fold (sum + other)) ∧
      (sum < 0 → fold sum = sum) := by
  refine ⟨fun value => folds_iff, ?_, ?_, ?_⟩
  · intro words bound
    obtain ⟨passes, folds⟩ := folds_fold sum
    have room : sum < base ^ words + modulus :=
      Int.lt_trans bound (Int.lt_add_of_pos_right _ (by decide))
    exact ⟨passes, folds.passes_le room, folds⟩
  · intro nonneg
    refine ⟨?_, ⟨fold_nonneg nonneg, fold_le nonneg⟩, fold_modEq nonneg, fold_eq_zero_iff nonneg,
      fun other nonneg' => fold_fold_add nonneg nonneg'⟩
    split
    · next zero => rw [zero, fold_zero]
    · next nonzero => rw [fold_of_pos (by omega), Int.add_comm]
  · intro negative
    exact fold_of_le (by omega)

theorem fold_closedForm_twoWords :
    Folds 0xffffffff 2 0xffff ∧ (0xffffffff : Int) < base ^ 2 ∧
      (∃ passes ≤ 2, Folds 0xffffffff passes (fold 0xffffffff)) ∧
      (0 : Int) ≤ 0xffffffff ∧ fold 0xffffffff = 0xffff ∧
      (0 : Int) ≤ 1 ∧ fold (0xffff + 1) = fold (0xffffffff + 1) ∧
      (-1 : Int) < 0 ∧ fold (-1) = -1 := by
  obtain ⟨ends, within, closed, -⟩ := fold_closedForm 0xffffffff
  have twice : Folds 0xffffffff 2 0xffff :=
    .pass (by decide) (.pass (by decide) (.done (by decide)))
  have bound : (0xffffffff : Int) < base ^ 2 := by decide
  have folded : 0xffff = fold 0xffffffff := (ends 0xffff).1 ⟨2, twice⟩
  obtain ⟨-, -, -, -, added⟩ := closed (by decide)
  have more := added 1 (by decide)
  rw [← folded] at more
  obtain ⟨-, -, -, kept⟩ := fold_closedForm (-1)
  exact ⟨twice, bound, within 2 bound, by decide, folded.symm, by decide, more, by decide,
    kept (by decide)⟩

end Clat.Checksum
