import Clat.Proofs.Number.Rounding
import Mathlib.Algebra.Order.Field.Power
import Mathlib.Tactic.Linarith
import Mathlib.Tactic.NormNum
import Mathlib.Tactic.Positivity
import Mathlib.Tactic.Ring

/-! The shortest decimal of a number is in the interval of the number. A grid of seventeen digits is
finer than the interval, so that one of the neighbours on it is inside. -/
namespace Clat.Number.Binary64

section Place

/-- Powers are compared by comparing powers of them. -/
theorem ten_zpow_le_of {place size p : Int} {q : Nat} (some : q ≠ 0)
    (estimate : place * q ≤ p * size) (bound : ((10 : ℚ) ^ p) ^ size ≤ (2 ^ q) ^ size) :
    (10 : ℚ) ^ place ≤ 2 ^ size := by
  rw [← pow_le_pow_iff_left₀ (by positivity) (by positivity) some]
  calc ((10 : ℚ) ^ place) ^ q = 10 ^ (place * q) := by rw [zpow_mul, zpow_natCast]
    _ ≤ 10 ^ (p * size) := zpow_le_zpow_right₀ (by norm_num) estimate
    _ = (10 ^ p) ^ size := zpow_mul _ _ _
    _ ≤ (2 ^ q) ^ size := bound
    _ = (2 ^ size) ^ q := by rw [← zpow_natCast, ← zpow_natCast, zpow_comm]

/-- The estimate of the leading place is too great by one at most. -/
theorem ten_zpow_le {guess size : Int} (estimate : 100000 * guess ≤ 30103 * size)
    (least : -1074 ≤ size) (greatest : size ≤ 1023) : (10 : ℚ) ^ (guess - 1) ≤ 2 ^ size := by
  rcases lt_or_ge size 0 with negative | some
  · have bound : (2 : ℚ) ^ 93 ≤ 10 ^ (28 : Int) := by norm_num
    obtain ⟨n, rfl⟩ := Int.exists_eq_neg_ofNat negative.le
    refine ten_zpow_le_of (p := 28) (q := 93) (by decide) (by omega) ?_
    rw [zpow_neg, zpow_neg, zpow_natCast, zpow_natCast]
    exact inv_anti₀ (by positivity) (pow_le_pow_left₀ (by positivity) bound n)
  · have bound : (10 : ℚ) ^ (59 : Int) ≤ 2 ^ 196 := by norm_num
    obtain ⟨n, rfl⟩ := Int.eq_ofNat_of_zero_le some
    refine ten_zpow_le_of (p := 59) (q := 196) (by decide) (by omega) ?_
    rw [zpow_natCast, zpow_natCast]
    exact pow_le_pow_left₀ (by positivity) bound n

variable {s : Nat} {e : Int}

/-- The leading place of a number is not beyond the number. -/
theorem leadingPlace_le (canonical : Canonical s e) (greatest : e ≤ greatestExponent)
    (positive : 0 < s) : (10 : ℚ) ^ leadingPlace s e ≤ binary s e := by
  have reaches {place : Int} (given : compareScaled s e 1 place ≠ .lt) :
      (10 : ℚ) ^ place ≤ binary s e := by
    rw [ne_eq, compareScaled_lt_iff, not_lt, Decimal.value] at given
    simpa using given
  unfold leadingPlace
  dsimp only
  generalize estimate : ((s.log2 : Int) + e) * 30103 / 100000 = guess
  split
  · rename_i more
    exact reaches (by simpa using more)
  split
  · obtain ⟨low, -⟩ := two_pow_log2 s positive
    have size : s.log2 ≤ 52 := by
      have bits := (Nat.log2_lt positive.ne').2 canonical.small
      omega
    have least := canonical.least
    have step : (10 : ℚ) ^ (guess - 1) ≤ 2 ^ ((s.log2 : Int) + e) := by
      unfold leastExponent at least
      unfold greatestExponent at greatest
      exact ten_zpow_le (by omega) (by omega) (by omega)
    rw [zpow_add₀ two_ne_zero, zpow_natCast] at step
    exact step.trans (mul_le_mul_of_nonneg_right low (by positivity))
  · rename_i reached
    exact reaches (by simpa using reached)

end Place

section Grid

variable {s : Nat} {e place : Int} {d : Decimal} {v : ℚ}

/-- The neighbours of a number on a grid have it between them. -/
theorem floor_between (s : Nat) (e place : Int) :
    Decimal.value ⟨s * Nat.pow 2 e.toNat * Nat.pow 10 (-place).toNat
        / (Nat.pow 10 place.toNat * Nat.pow 2 (-e).toNat), place⟩ ≤ binary s e ∧
      binary s e < Decimal.value ⟨s * Nat.pow 2 e.toNat * Nat.pow 10 (-place).toNat
        / (Nat.pow 10 place.toNat * Nat.pow 2 (-e).toNat) + 1, place⟩ := by
  have size : 0 < Nat.pow 10 place.toNat * Nat.pow 2 (-e).toNat :=
    Nat.mul_pos (Nat.pow_pos (by decide)) (Nat.pow_pos two_pos)
  constructor
  · rw [← scaled_ge_iff, mul_assoc (_ / _)]
    exact Nat.div_mul_le_self _ _
  · rw [← not_le, ← scaled_ge_iff, mul_assoc (_ + _), not_le]
    exact Nat.lt_mul_of_div_lt (Nat.lt_succ_self _) size

theorem low_eq (positive : 0 < s) :
    binary (4 * s - below s e) (e - 2) = binary s e - below s e / 4 * 2 ^ e := by
  have reach := below_le s e
  rw [binary_quarter, binary, Nat.cast_sub (by omega)]
  push_cast
  ring

theorem high_eq : binary (4 * s + 2) (e - 2) = binary s e + 1 / 2 * 2 ^ e := by
  rw [binary_quarter, binary]
  push_cast
  ring

/-- A rational under a number and out of its interval is under the interval. -/
theorem le_low (under : v ≤ binary s e) (out : ¬ Rounds s e v) :
    v ≤ binary (4 * s - below s e) (e - 2) := by
  have scale : (0 : ℚ) < 2 ^ e := by positivity
  by_contra above
  rw [not_le] at above
  have high : v < binary (4 * s + 2) (e - 2) := by
    rw [high_eq]
    linarith
  exact out ⟨above.le, high.le, fun _ => ⟨above, high⟩⟩

/-- A rational above a number and out of its interval is above the interval. -/
theorem high_le (positive : 0 < s) (beyond : binary s e < v) (out : ¬ Rounds s e v) :
    binary (4 * s + 2) (e - 2) ≤ v := by
  have low : binary (4 * s - below s e) (e - 2) < v := by
    have scale : (0 : ℚ) ≤ below s e / 4 * 2 ^ e := by positivity
    rw [low_eq positive]
    linarith
  by_contra under
  rw [not_le] at under
  exact out ⟨low.le, under.le, fun _ => ⟨low, under⟩⟩

/-- The interval of a number is wider than what seventeen digits leave. -/
theorem width (canonical : Canonical s e) (positive : 0 < s) :
    binary s e / 10 ^ 16 <
      binary (4 * s + 2) (e - 2) - binary (4 * s - below s e) (e - 2) := by
  have scale : (0 : ℚ) < 2 ^ e := by positivity
  have small : (s : ℚ) < 2 ^ 53 := by exact_mod_cast canonical.small
  have parts : (s : ℚ) / 10 ^ 16 < 1 / 2 + below s e / 4 := by
    unfold below
    split
    · rename_i first
      rw [first.1]
      norm_num
    · rw [div_lt_iff₀ (by norm_num)]
      norm_num at small ⊢
      linarith
  rw [high_eq, low_eq positive]
  calc binary s e / 10 ^ 16 = (s : ℚ) / 10 ^ 16 * 2 ^ e := by rw [binary]; ring
    _ < (1 / 2 + (below s e : ℚ) / 4) * 2 ^ e := mul_lt_mul_of_pos_right parts scale
    _ = binary s e + 1 / 2 * 2 ^ e - (binary s e - below s e / 4 * 2 ^ e) := by ring

/-- On a grid of seventeen digits a neighbour of the number is in its interval. -/
theorem onGrid?_isSome (canonical : Canonical s e) (positive : 0 < s)
    (fine : (10 : ℚ) ^ (place + 16) ≤ binary s e) : (onGrid? s e place).isSome = true := by
  obtain ⟨under, beyond⟩ := floor_between s e place
  unfold onGrid?
  dsimp only
  generalize s * Nat.pow 2 e.toNat * Nat.pow 10 (-place).toNat
    / (Nat.pow 10 place.toNat * Nat.pow 2 (-e).toNat) = floor at under beyond
  split
  · rfl
  · rfl
  · rename_i outLow outHigh
    have low := le_low under fun rounds => by
      rw [readsBack_iff.2 rounds] at outLow
      cases outLow
    have high := high_le positive beyond fun rounds => by
      rw [readsBack_iff.2 rounds] at outHigh
      cases outHigh
    have step : Decimal.value ⟨floor + 1, place⟩ = Decimal.value ⟨floor, place⟩ + 10 ^ place := by
      unfold Decimal.value
      push_cast
      ring
    have grid : (10 : ℚ) ^ place ≤ binary s e / 10 ^ 16 := by
      rw [zpow_add₀ (by norm_num)] at fine
      rw [le_div_iff₀ (by positivity)]
      exact_mod_cast fine
    linarith [width canonical positive]
  · split <;> rfl

theorem onGrid?_rounds (found : onGrid? s e place = some d) : Rounds s e d.value := by
  rw [← readsBack_iff]
  unfold onGrid? at found
  dsimp only at found
  split at found
  · rename_i low high
    cases found
    exact low
  · rename_i low high
    cases found
    exact high
  · cases found
  · rename_i low high
    split at found
    · cases found
      exact low
    · cases found
      exact high
    · cases found
      split
      · exact low
      · exact high

end Grid

theorem Decimal.value_strip (d : Decimal) (fuel : Nat) : (d.strip fuel).value = d.value := by
  induction fuel generalizing d with
  | zero => rfl
  | succ fuel ih =>
    rw [Decimal.strip]
    split
    · rename_i zero
      obtain ⟨rest, whole⟩ := Nat.dvd_of_mod_eq_zero zero.1
      rw [ih, Decimal.value, Decimal.value, whole, Nat.mul_div_cancel_left _ (by decide),
        zpow_add_one₀ (by norm_num)]
      push_cast
      ring
    · rfl

/-- The shortest decimal of a positive number is in the interval of the number. -/
theorem shortest_rounds {s : Nat} {e : Int} (canonical : Canonical s e)
    (greatest : e ≤ greatestExponent) (positive : 0 < s) : Rounds s e (shortest s e).value := by
  have finest : (onGrid? s e (leadingPlace s e - (16 : Nat))).isSome = true := by
    apply onGrid?_isSome canonical positive
    rw [Nat.cast_ofNat, sub_add_cancel]
    exact leadingPlace_le canonical greatest positive
  have some : ((List.range 17).findSome? fun (more : Nat) =>
      onGrid? s e (leadingPlace s e - (more : Int))).isSome = true :=
    List.findSome?_isSome_iff.2 ⟨16, by decide, finest⟩
  obtain ⟨d, found⟩ := Option.isSome_iff_exists.1 some
  obtain ⟨more, -, onGrid⟩ := List.exists_of_findSome?_eq_some found
  unfold shortest
  dsimp only
  rw [found, Option.getD_some, Decimal.value_strip]
  exact onGrid?_rounds onGrid

end Clat.Number.Binary64
