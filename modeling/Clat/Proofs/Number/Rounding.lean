import Clat.Number.Shortest
import Mathlib.Algebra.Order.Field.Power
import Mathlib.Algebra.Order.Ring.Rat
import Mathlib.Tactic.FieldSimp
import Mathlib.Tactic.Linarith
import Mathlib.Tactic.NormNum
import Mathlib.Tactic.Positivity
import Mathlib.Tactic.Ring
import Mathlib.Tactic.SplitIfs

/-! Rounding of rationals to binary64. Every positive rational lies in the interval of one number,
the one it is rounded to: intervals of different numbers have at most a bound in common, and then
one of the two does not count its bounds. -/
namespace Clat.Number.Binary64

/-- The rational that a significand and an exponent of two stand for. -/
def binary (significand : Nat) (exponent : Int) : ℚ := significand * 2 ^ exponent

def Decimal.value (d : Decimal) : ℚ := d.digits * 10 ^ d.exponent

/-- The form in which a finite number is kept, apart from the greatest exponent: with 53 bits, or
with the least exponent. -/
structure Canonical (significand : Nat) (exponent : Int) : Prop where
  small : significand < 2 ^ 53
  least : leastExponent ≤ exponent
  full : exponent = leastExponent ∨ 2 ^ 52 ≤ significand

/-- How far the interval of a number reaches down, in quarters of its last place. -/
def below (significand : Nat) (exponent : Int) : Nat :=
  if significand = Nat.pow 2 52 ∧ leastExponent < exponent then 1 else 2

/-- Whether a rational is in the interval of a number. The bounds count if the significand is
even. -/
structure Rounds (significand : Nat) (exponent : Int) (value : ℚ) : Prop where
  low : binary (4 * significand - below significand exponent) (exponent - 2) ≤ value
  high : value ≤ binary (4 * significand + 2) (exponent - 2)
  odd : significand % 2 = 1 →
    binary (4 * significand - below significand exponent) (exponent - 2) < value ∧
      value < binary (4 * significand + 2) (exponent - 2)

section Scaling

theorem zpow_mul_toNat {b : ℚ} (some : b ≠ 0) (x : Int) :
    b ^ x * b ^ (-x).toNat = b ^ x.toNat := by
  obtain ⟨n, rfl | rfl⟩ := x.eq_nat_or_neg
  · simp
  · simp [some]

theorem binary_add (significand n : Nat) (exponent : Int) :
    binary significand (exponent + n) = binary (significand * 2 ^ n) exponent := by
  unfold binary
  rw [zpow_add₀ two_ne_zero, zpow_natCast]
  push_cast
  ring

theorem binary_le_iff {s t : Nat} {exponent : Int} :
    binary s exponent ≤ binary t exponent ↔ s ≤ t := by
  unfold binary
  rw [mul_le_mul_iff_of_pos_right (by positivity), Nat.cast_le]

theorem binary_inj {s t : Nat} {exponent : Int} (same : binary s exponent = binary t exponent) :
    s = t :=
  Nat.le_antisymm (binary_le_iff.1 same.le) (binary_le_iff.1 same.ge)

variable {a d : Nat} {t x : Int}

/-- What both sides of a comparison are multiplied by to be integers. -/
def scale (t x : Int) : ℚ := 2 ^ (-t).toNat * 10 ^ (-x).toNat

theorem scale_pos (t x : Int) : 0 < scale t x := by
  unfold scale
  positivity

theorem cast_binary (a : Nat) (t x : Int) :
    ((a * Nat.pow 2 t.toNat * Nat.pow 10 (-x).toNat : Nat) : ℚ) = binary a t * scale t x := by
  simp only [Nat.pow_eq]
  push_cast
  rw [← zpow_mul_toNat two_ne_zero t, binary, scale]
  ring

theorem cast_decimal (d : Nat) (t x : Int) :
    ((d * Nat.pow 10 x.toNat * Nat.pow 2 (-t).toNat : Nat) : ℚ) =
      Decimal.value ⟨d, x⟩ * scale t x := by
  have ten : (10 : ℚ) ≠ 0 := by norm_num
  simp only [Nat.pow_eq]
  push_cast
  rw [← zpow_mul_toNat ten x, Decimal.value, scale]
  ring

/-- Integers are compared in place of a binary and a decimal. -/
theorem scaled_le_iff :
    a * Nat.pow 2 t.toNat * Nat.pow 10 (-x).toNat ≤ d * Nat.pow 10 x.toNat * Nat.pow 2 (-t).toNat ↔
      binary a t ≤ Decimal.value ⟨d, x⟩ := by
  rw [← @Nat.cast_le ℚ, cast_binary, cast_decimal, mul_le_mul_iff_of_pos_right (scale_pos t x)]

theorem scaled_ge_iff :
    d * Nat.pow 10 x.toNat * Nat.pow 2 (-t).toNat ≤ a * Nat.pow 2 t.toNat * Nat.pow 10 (-x).toNat ↔
      Decimal.value ⟨d, x⟩ ≤ binary a t := by
  rw [← @Nat.cast_le ℚ, cast_binary, cast_decimal, mul_le_mul_iff_of_pos_right (scale_pos t x)]

theorem compareScaled_lt_iff :
    compareScaled a t d x = .lt ↔ binary a t < Decimal.value ⟨d, x⟩ := by
  rw [compareScaled, Nat.compare_eq_lt, ← not_le, ← not_le, scaled_ge_iff]

theorem compareScaled_gt_iff :
    compareScaled a t d x = .gt ↔ Decimal.value ⟨d, x⟩ < binary a t := by
  rw [compareScaled, Nat.compare_eq_gt, ← not_le, ← not_le, scaled_le_iff]

theorem readsBack_iff {significand : Nat} {exponent : Int} {d : Decimal} :
    readsBack significand exponent d = true ↔ Rounds significand exponent d.value := by
  obtain ⟨digits, place⟩ := d
  unfold readsBack
  rw [← below]
  split
  · rename_i even
    simp only [Bool.and_eq_true, bne_iff_ne, ne_eq, compareScaled_gt_iff, compareScaled_lt_iff,
      not_lt]
    constructor
    · rintro ⟨low, high⟩
      exact ⟨low, high, by omega⟩
    · intro rounds
      exact ⟨rounds.low, rounds.high⟩
  · rename_i odd
    simp only [Bool.and_eq_true, beq_iff_eq, compareScaled_gt_iff, compareScaled_lt_iff]
    constructor
    · rintro ⟨low, high⟩
      exact ⟨low.le, high.le, fun _ => ⟨low, high⟩⟩
    · intro rounds
      exact rounds.odd (by omega)

end Scaling

section Intervals

variable {s s' : Nat} {e e' : Int} {v : ℚ}

theorem below_le (s : Nat) (e : Int) : below s e ≤ 2 := by
  unfold below
  split
  · exact Nat.le_succ 1
  · exact Nat.le_refl 2

/-- The interval of a number ends where that of a greater one starts, or before. They meet only
where one of the two is odd. -/
theorem Canonical.apart (canonical : Canonical s e) (canonical' : Canonical s' e')
    (before : e < e' ∨ e = e' ∧ s < s') :
    4 * s + 2 ≤ (4 * s' - below s' e') * 2 ^ (e' - e).toNat ∧
      (4 * s + 2 = (4 * s' - below s' e') * 2 ^ (e' - e).toNat → s % 2 = 1 ∨ s' % 2 = 1) := by
  have small := canonical.small
  have least := canonical.least
  have reach := below_le s' e'
  rcases before with lower | ⟨rfl, smaller⟩
  · -- Twice the interval of the greater number starts beyond all significands of 53 bits.
    have full : 2 ^ 52 ≤ s' := canonical'.full.resolve_left (by omega)
    have doubled : (4 * s' - below s' e') * 2 ≤ (4 * s' - below s' e') * 2 ^ (e' - e).toNat :=
      Nat.mul_le_mul_left _ (Nat.le_pow (by omega))
    have start : 2 ^ 55 - 2 ≤ (4 * s' - below s' e') * 2 := by
      by_cases first : s' = 2 ^ 52
      · rw [below, if_pos ⟨first, by omega⟩, first]
        norm_num
      · omega
    constructor
    · omega
    · intro meet
      left
      omega
  · rw [sub_self, Int.toNat_zero, pow_zero, mul_one]
    constructor
    · omega
    · intro meet
      omega

/-- Rationals in the interval of a number are not in that of a greater one. -/
theorem Rounds.not_before (rounds : Rounds s e v) (canonical : Canonical s e)
    (canonical' : Canonical s' e') (before : e < e' ∨ e = e' ∧ s < s') : ¬ Rounds s' e' v := by
  intro rounds'
  obtain ⟨gap, meet⟩ := canonical.apart canonical' before
  have place : e' - 2 = e - 2 + ((e' - e).toNat : Int) := by
    omega
  have start : binary (4 * s' - below s' e') (e' - 2) =
      binary ((4 * s' - below s' e') * 2 ^ (e' - e).toNat) (e - 2) := by
    rw [place, binary_add]
  have low := rounds'.low
  have high := rounds.high
  have order : binary (4 * s + 2) (e - 2) ≤ _ := binary_le_iff.2 gap
  have ends : binary (4 * s + 2) (e - 2) = v := by
    apply le_antisymm _ high
    rw [start] at low
    exact order.trans low
  have starts : binary (4 * s' - below s' e') (e' - 2) = v := by
    apply le_antisymm low
    rw [start]
    exact high.trans order
  have meets := binary_inj (ends.trans (starts.symm.trans start))
  rcases meet meets with odd | odd
  · obtain ⟨-, strict⟩ := rounds.odd odd
    exact absurd ends strict.ne'
  · obtain ⟨strict, -⟩ := rounds'.odd odd
    exact absurd starts strict.ne

/-- A rational is in the interval of one number at most. -/
theorem Rounds.unique (rounds : Rounds s e v) (rounds' : Rounds s' e' v)
    (canonical : Canonical s e) (canonical' : Canonical s' e') : s = s' ∧ e = e' := by
  by_contra different
  have order : (e < e' ∨ e = e' ∧ s < s') ∨ (e' < e ∨ e' = e ∧ s' < s) := by
    omega
  rcases order with before | before
  · exact rounds.not_before canonical canonical' before rounds'
  · exact rounds'.not_before canonical' canonical before rounds

end Intervals

section Ratio

variable {num den m : Nat} {e : Int} {q v : ℚ}

/-- An integer next to a rational: none is nearer, and it is even if another one is as near. -/
structure Nearest (m : Nat) (q : ℚ) : Prop where
  low : m - 1 / 2 ≤ q
  high : q ≤ m + 1 / 2
  odd : m % 2 = 1 → m - 1 / 2 < q ∧ q < m + 1 / 2

theorem roundDiv_nearest (num : Nat) (positive : 0 < den) :
    Nearest (roundDiv num den) (num / den : ℚ) := by
  have size : (0 : ℚ) < den := by exact_mod_cast positive
  have split : (num / den : ℚ) = (num / den : Nat) + (num % den : Nat) / (den : ℚ) := by
    have whole : (den : ℚ) * (num / den : Nat) + (num % den : Nat) = num := by
      exact_mod_cast Nat.div_add_mod num den
    rw [← whole]
    field_simp
  have start : (0 : ℚ) ≤ (num % den : Nat) / (den : ℚ) := by positivity
  have stop : (num % den : Nat) / (den : ℚ) < 1 := by
    rw [div_lt_one size]
    exact_mod_cast Nat.mod_lt num positive
  unfold roundDiv
  dsimp only
  rw [split]
  generalize num / den = floor
  generalize num % den = rest at start stop
  rcases Nat.lt_trichotomy (2 * rest) den with less | tie | more
  · have half : (rest : ℚ) / den < 1 / 2 := by
      rw [div_lt_div_iff₀ size two_pos, one_mul, mul_comm]
      exact_mod_cast less
    rw [if_pos less]
    exact ⟨by linarith, by linarith, fun _ => ⟨by linarith, by linarith⟩⟩
  · have half : (rest : ℚ) / den = 1 / 2 := by
      rw [div_eq_div_iff size.ne' two_ne_zero, one_mul, mul_comm]
      exact_mod_cast tie
    rw [if_neg (by omega), if_neg (by omega), half]
    rcases Nat.mod_two_eq_zero_or_one floor with even | odd
    · rw [even]
      refine ⟨?_, ?_, ?_⟩
      · push_cast
        linarith
      · push_cast
        linarith
      · omega
    · rw [odd]
      refine ⟨?_, ?_, ?_⟩
      · push_cast
        linarith
      · push_cast
        linarith
      · omega
  · have half : 1 / 2 < (rest : ℚ) / den := by
      rw [div_lt_div_iff₀ two_pos size, one_mul, mul_comm _ (2 : ℚ)]
      exact_mod_cast more
    have next : ((floor + 1 : Nat) : ℚ) = floor + 1 := by
      push_cast
      rfl
    rw [if_neg (by omega), if_pos more]
    exact ⟨by linarith, by linarith, fun _ => ⟨by linarith, by linarith⟩⟩

theorem binary_quarter (s : Nat) (e : Int) : binary s (e - 2) = s / 4 * 2 ^ e := by
  rw [binary, zpow_sub₀ two_ne_zero]
  ring

/-- A number with 53 bits, or with the least exponent, is what a rational near to it rounds to. -/
theorem Nearest.rounds (nearest : Nearest m q) (least : leastExponent ≤ e) (small : m < 2 ^ 53)
    (full : e = leastExponent ∨ 2 ^ 52 ≤ q) (start : 0 ≤ q) :
    Canonical m e ∧ Rounds m e (q * 2 ^ e) := by
  have scale : (0 : ℚ) < 2 ^ e := by positivity
  have whole : e = leastExponent ∨ 2 ^ 52 ≤ m := by
    refine full.imp_right fun full => ?_
    have high := nearest.high
    by_contra less
    have small : (m : ℚ) + 1 ≤ 2 ^ 52 := by exact_mod_cast Nat.lt_of_not_le less
    linarith
  have low : ((4 * m - below m e : Nat) : ℚ) / 4 ≤ q ∧
      (m % 2 = 1 → ((4 * m - below m e : Nat) : ℚ) / 4 < q) := by
    by_cases first : m = Nat.pow 2 52 ∧ leastExponent < e
    · -- Below the least significand of 53 bits the interval is shorter, but there is no rational.
      have full : 2 ^ 52 ≤ q := full.resolve_left (by omega)
      have reach : ((4 * Nat.pow 2 52 - 1 : Nat) : ℚ) / 4 < 2 ^ 52 := by
        norm_num
      rw [below, if_pos first, first.1]
      exact ⟨(reach.trans_le full).le, fun _ => reach.trans_le full⟩
    · rw [below, if_neg first]
      rcases Nat.eq_zero_or_pos m with rfl | positive
      · simpa using start
      · have reach : ((4 * m - 2 : Nat) : ℚ) = 4 * m - 2 := by
          rw [Nat.cast_sub (by omega)]
          push_cast
          rfl
        rw [reach]
        refine ⟨by linarith [nearest.low], fun odd => ?_⟩
        linarith [(nearest.odd odd).1]
  refine ⟨⟨small, least, whole⟩, ?_, ?_, ?_⟩
  · rw [binary_quarter, mul_le_mul_iff_of_pos_right scale]
    exact low.1
  · rw [binary_quarter, mul_le_mul_iff_of_pos_right scale]
    have high := nearest.high
    push_cast
    linarith
  · intro odd
    obtain ⟨-, high⟩ := nearest.odd odd
    rw [binary_quarter, binary_quarter, mul_lt_mul_iff_of_pos_right scale,
      mul_lt_mul_iff_of_pos_right scale]
    refine ⟨low.2 odd, ?_⟩
    push_cast
    linarith

/-- What is rounded up to 54 bits has the least significand of the next exponent. -/
theorem Nearest.rounds_up (nearest : Nearest (2 ^ 53) q) (least : leastExponent ≤ e)
    (small : q < 2 ^ 53) : Canonical (2 ^ 52) (e + 1) ∧ Rounds (2 ^ 52) (e + 1) (q * 2 ^ e) := by
  have scale : (0 : ℚ) < 2 ^ e := by positivity
  have twice : (2 : ℚ) ^ (e + 1) = 2 * 2 ^ e := by
    rw [zpow_add_one₀ two_ne_zero, mul_comm]
  have reach : below (2 ^ 52) (e + 1) = 1 := if_pos ⟨rfl, by omega⟩
  have low := nearest.low
  refine ⟨⟨by norm_num, by omega, .inr le_rfl⟩, ?_, ?_, ?_⟩
  · rw [reach, binary_quarter, twice, ← mul_assoc, mul_le_mul_iff_of_pos_right scale]
    push_cast at low
    norm_num
    linarith
  · rw [binary_quarter, twice, ← mul_assoc, mul_le_mul_iff_of_pos_right scale]
    norm_num
    linarith
  · intro odd
    norm_num at odd

theorem two_pow_log2 (num : Nat) (positive : 0 < num) :
    (2 : ℚ) ^ num.log2 ≤ num ∧ (num : ℚ) < 2 ^ (num.log2 + 1) := by
  constructor
  · exact_mod_cast Nat.log2_self_le positive.ne'
  · exact_mod_cast Nat.lt_log2_self

theorem binary_two_pow (n : Nat) (e : Int) : binary (2 ^ n) e = 2 ^ (e + n) := by
  rw [binary, zpow_add₀ two_ne_zero, zpow_natCast, mul_comm]
  push_cast
  rfl

theorem reaches_iff (num : Nat) (positive : 0 < den) (g : Int) :
    (if 0 ≤ g then decide (den * Nat.pow 2 (g.toNat + 53) ≤ num)
      else decide (den * Nat.pow 2 53 ≤ num * Nat.pow 2 (-g).toNat)) = true ↔
      (2 : ℚ) ^ (g + 53) ≤ num / den := by
  have size : (0 : ℚ) < den := by exact_mod_cast positive
  rw [le_div_iff₀ size]
  by_cases up : 0 ≤ g
  · obtain ⟨n, rfl⟩ := Int.eq_ofNat_of_zero_le up
    rw [if_pos up, decide_eq_true_iff, mul_comm den]
    simp only [Int.toNat_natCast, Nat.pow_eq]
    exact_mod_cast Iff.rfl
  · obtain ⟨n, rfl⟩ := Int.exists_eq_neg_ofNat (show g ≤ 0 by omega)
    have split : (2 : ℚ) ^ (-(n : Int) + 53) * 2 ^ n = 2 ^ 53 := by
      rw [zpow_add₀ two_ne_zero, mul_right_comm, zpow_neg, zpow_natCast,
        inv_mul_cancel₀ (by positivity), one_mul]
      rfl
    rw [if_neg up, decide_eq_true_iff, neg_neg, Int.toNat_natCast, Nat.pow_eq, Nat.pow_eq,
      ← @Nat.cast_le ℚ]
    simp only [Nat.cast_mul, Nat.cast_pow, Nat.cast_ofNat]
    rw [← split, mul_comm (den : ℚ), mul_right_comm, mul_le_mul_iff_of_pos_right (by positivity)]

/-- The exponent for a quotient leaves it 53 bits. -/
theorem exponentOfRatio_spec (positive : 0 < num) (positive' : 0 < den) :
    binary (2 ^ 52) (exponentOfRatio num den) ≤ num / den ∧
      (num / den : ℚ) < binary (2 ^ 53) (exponentOfRatio num den) := by
  have size : (0 : ℚ) < den := by exact_mod_cast positive'
  obtain ⟨least, bound⟩ := two_pow_log2 num positive
  obtain ⟨least', bound'⟩ := two_pow_log2 den positive'
  obtain ⟨g, guess⟩ : ∃ g : Int, (num.log2 : Int) - den.log2 - 53 = g := ⟨_, rfl⟩
  have low : (2 : ℚ) ^ (g + 52) ≤ num / den := by
    have front : (2 : ℚ) ^ num.log2 = 2 ^ (g + 52) * 2 ^ (den.log2 + 1) := by
      rw [← zpow_natCast, ← zpow_natCast, ← zpow_add₀ two_ne_zero]
      congr 1
      omega
    rw [le_div_iff₀ size]
    calc (2 : ℚ) ^ (g + 52) * den
        ≤ 2 ^ (g + 52) * 2 ^ (den.log2 + 1) := by gcongr
      _ = 2 ^ num.log2 := front.symm
      _ ≤ num := least
  have high : (num / den : ℚ) < 2 ^ (g + 54) := by
    have front : (2 : ℚ) ^ (num.log2 + 1) = 2 ^ (g + 54) * 2 ^ den.log2 := by
      rw [← zpow_natCast, ← zpow_natCast, ← zpow_add₀ two_ne_zero]
      congr 1
      omega
    rw [div_lt_iff₀ size]
    calc (num : ℚ) < 2 ^ (num.log2 + 1) := bound
      _ = 2 ^ (g + 54) * 2 ^ den.log2 := front
      _ ≤ 2 ^ (g + 54) * den := by gcongr
  unfold exponentOfRatio
  dsimp only
  rw [guess, binary_two_pow, binary_two_pow]
  by_cases reaches : (2 : ℚ) ^ (g + 53) ≤ num / den
  · rw [if_pos ((reaches_iff num positive' g).2 reaches), show g + 1 + (52 : Nat) = g + 53 by omega,
      show g + 1 + (53 : Nat) = g + 54 by omega]
    exact ⟨reaches, high⟩
  · rw [if_neg fun given => reaches ((reaches_iff num positive' g).1 given)]
    exact ⟨low, not_le.1 reaches⟩

/-- A quotient is rounded in units of a power of two. -/
theorem roundDiv_units (num : Nat) (positive : 0 < den) (e : Int) :
    ∃ q : ℚ, q * 2 ^ e = num / den ∧
      Nearest (if 0 ≤ e then roundDiv num (den * Nat.pow 2 e.toNat)
        else roundDiv (num * Nat.pow 2 (-e).toNat) den) q := by
  have size : (0 : ℚ) < den := by exact_mod_cast positive
  by_cases up : 0 ≤ e
  · obtain ⟨n, rfl⟩ := Int.eq_ofNat_of_zero_le up
    refine ⟨num / (den * Nat.pow 2 n : Nat), ?_, ?_⟩
    · rw [Nat.pow_eq, zpow_natCast]
      push_cast
      field_simp
    · rw [if_pos up]
      exact roundDiv_nearest num (Nat.mul_pos positive (Nat.pow_pos two_pos))
  · obtain ⟨n, rfl⟩ := Int.exists_eq_neg_ofNat (show e ≤ 0 by omega)
    refine ⟨(num * Nat.pow 2 n : Nat) / den, ?_, ?_⟩
    · rw [Nat.pow_eq, zpow_neg, zpow_natCast]
      push_cast
      field_simp
    · rw [if_neg up, neg_neg]
      exact roundDiv_nearest _ positive

theorem Nearest.le (nearest : Nearest m q) (small : q < 2 ^ 53) : m ≤ 2 ^ 53 := by
  by_contra large
  have next : (2 : ℚ) ^ 53 + 1 ≤ m := by exact_mod_cast Nat.lt_of_not_le large
  linarith [nearest.low]

/-- A quotient is rounded to the number in whose interval it is, or to infinity where the exponent
of that is too great. -/
theorem ofRatio_rounds (negative : Bool) (positive : 0 < num) (positive' : 0 < den) :
    ∃ s e, Canonical s e ∧ Rounds s e (num / den) ∧ ofRatio negative num den =
      if greatestExponent < e then .infinite negative else .finite negative s e := by
  obtain ⟨full, small⟩ := exponentOfRatio_spec positive positive'
  unfold ofRatio
  rw [if_neg positive.ne']
  dsimp only
  generalize place : max leastExponent (exponentOfRatio num den) = e
  obtain ⟨q, worth, nearest⟩ := roundDiv_units num positive' e
  have scale : (0 : ℚ) < 2 ^ e := by positivity
  have least : leastExponent ≤ e := place ▸ le_max_left _ _
  rw [← worth, binary] at full small
  push_cast at full small
  have start : 0 ≤ q := by
    apply le_of_mul_le_mul_right _ scale
    rw [zero_mul, worth]
    positivity
  have bound : q < 2 ^ 53 := by
    have reach : (2 : ℚ) ^ exponentOfRatio num den ≤ 2 ^ e :=
      zpow_le_zpow_right₀ one_le_two (place ▸ le_max_right _ _)
    apply lt_of_mul_lt_mul_right _ scale.le
    exact small.trans_le (mul_le_mul_of_nonneg_left reach (by positivity))
  have bits : e = leastExponent ∨ 2 ^ 52 ≤ q := by
    rcases max_choice leastExponent (exponentOfRatio num den) with same | same
    · exact .inl (place.symm.trans same)
    · right
      rw [← same, place] at full
      exact le_of_mul_le_mul_right full scale
  rw [← worth]
  generalize (if 0 ≤ e then roundDiv num (den * Nat.pow 2 e.toNat)
    else roundDiv (num * Nat.pow 2 (-e).toNat) den) = m at nearest ⊢
  by_cases carry : m = Nat.pow 2 53
  · subst carry
    obtain ⟨canonical, rounds⟩ := Nearest.rounds_up nearest least bound
    exact ⟨2 ^ 52, e + 1, canonical, rounds, by simp only [if_pos]; rfl⟩
  · have fits : m < 2 ^ 53 := Nat.lt_of_le_of_ne (nearest.le bound) carry
    obtain ⟨canonical, rounds⟩ := nearest.rounds least fits bits start
    exact ⟨m, e, canonical, rounds, by simp only [if_neg carry]⟩

/-- A quotient in the interval of a number is rounded to the number. -/
theorem Rounds.ofRatio_eq {s : Nat} (rounds : Rounds s e v) (canonical : Canonical s e)
    (greatest : e ≤ greatestExponent) (positive : 0 < num) (positive' : 0 < den)
    (worth : v = num / den) {negative : Bool} :
    ofRatio negative num den = .finite negative s e := by
  obtain ⟨s', e', canonical', rounds', made⟩ := ofRatio_rounds negative positive positive'
  rw [← worth] at rounds'
  obtain ⟨rfl, rfl⟩ := rounds.unique rounds' canonical canonical'
  rw [made, if_neg (by omega)]

end Ratio

/-- The numbers that there are: a finite one is in canonical form, and its exponent is in range. -/
def Proper : Binary64 → Prop
  | .finite _ significand exponent =>
    Canonical significand exponent ∧ exponent ≤ greatestExponent
  | _ => True

section Proper

theorem proper_signedZero (negative : Bool) : (signedZero negative).Proper :=
  ⟨⟨by norm_num, le_rfl, .inl rfl⟩, by decide⟩

theorem proper_ofRatio (negative : Bool) (num : Nat) {den : Nat} (positive : 0 < den) :
    (ofRatio negative num den).Proper := by
  rcases Nat.eq_zero_or_pos num with rfl | some
  · exact proper_signedZero negative
  · obtain ⟨s, e, canonical, -, made⟩ := ofRatio_rounds negative some positive
    rw [made]
    split
    · trivial
    · exact ⟨canonical, by omega⟩

theorem proper_ofDyadic (negative : Bool) (significand : Nat) (exponent : Int) :
    (ofDyadic negative significand exponent).Proper := by
  unfold ofDyadic
  split
  · exact proper_ofRatio negative _ one_pos
  · exact proper_ofRatio negative _ (Nat.pow_pos two_pos)

theorem proper_ofNat (n : Nat) : (ofNat n).Proper := proper_ofRatio false n one_pos

theorem proper_ofDecimal (negative : Bool) (digits count : Nat) (exponent : Int) :
    (ofDecimal negative digits count exponent).Proper := by
  unfold ofDecimal
  split_ifs
  · exact proper_signedZero negative
  · trivial
  · exact proper_signedZero negative
  · exact proper_ofRatio negative _ one_pos
  · exact proper_ofRatio negative _ (Nat.pow_pos (by decide))

theorem proper_neg {value : Binary64} (proper : value.Proper) : value.neg.Proper := by
  cases value with
  | nan => trivial
  | infinite negative => trivial
  | finite negative significand exponent => exact proper

theorem proper_add (x y : Binary64) : (x.add y).Proper := by
  fun_cases add x y with
  | case7 => exact proper_signedZero _
  | case8 => exact proper_ofDyadic _ _ _
  | _ => trivial

end Proper

end Clat.Number.Binary64
