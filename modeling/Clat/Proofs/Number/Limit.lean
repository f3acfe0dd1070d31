import Clat.Number.Integer
import Mathlib.Data.List.Induction
import Mathlib.Data.List.TakeWhile
import Mathlib.Tactic.SplitIfs
import Mathlib.Tactic.Ring

/-! The limit on decimal numerals. Digits of a number and the number of digits determine each
other's size, so an integer that was read within the limit can be written within it. -/
namespace Clat.Number

theorem length_digits_pos (base n : Nat) : 0 < (digits base n).length := by
  rw [digits]
  split <;> simp

theorem length_digits_le_iff {base n size : Nat} (radix : 2 ≤ base) :
    (digits base n).length ≤ size + 1 ↔ n < base ^ (size + 1) := by
  induction n using digits.induct base generalizing size with
  | case1 n small =>
    rw [digits, dif_pos small]
    have below : n < base := by omega
    have : base ≤ base ^ (size + 1) := Nat.le_self_pow (by omega) base
    simp
    omega
  | case2 n large ih =>
    have above : base ≤ n := by omega
    rw [digits, dif_neg large, List.length_append, List.length_singleton]
    cases size with
    | zero =>
      have := length_digits_pos base (n / base)
      rw [Nat.zero_add, Nat.pow_one]
      omega
    | succ size =>
      rw [Nat.add_le_add_iff_right, ih, Nat.div_lt_iff_lt_mul (by omega), ← Nat.pow_succ]

/-- A number is written within the limit if it is below the first with a digit more. -/
theorem length_decimal_le_limit_iff {n : Nat} :
    (decimal n).length ≤ digitLimit ↔ n < 10 ^ digitLimit := by
  obtain ⟨places, positive⟩ : ∃ places, digitLimit = places + 1 := ⟨4299, rfl⟩
  rw [positive]
  exact length_digits_le_iff (by decide)

theorem ofDigits_append (base : Nat) (text : List Char) (c : Char) :
    ofDigits base (text ++ [c]) = ofDigits base text * base + (digitValue? c).getD 0 := by
  simp [ofDigits]

theorem ofDigits_lt {base : Nat} {text : List Char} (radix : 0 < base)
    (places : ∀ c ∈ text, isDigitOf base c = true) : ofDigits base text < base ^ text.length := by
  induction text using List.reverseRecOn with
  | nil => simp [ofDigits]
  | append_singleton text c ih =>
    have front := ih fun c member => places c (by simp [member])
    have last : (digitValue? c).getD 0 < base := by
      have place := places c (by simp)
      cases value : digitValue? c with
      | none => simpa using radix
      | some value' => simpa [isDigitOf, value] using place
    rw [ofDigits_append, List.length_append, List.length_singleton, Nat.pow_succ]
    calc ofDigits base text * base + (digitValue? c).getD 0
        < ofDigits base text * base + base := by omega
      _ = (ofDigits base text + 1) * base := by ring
      _ ≤ base ^ text.length * base := Nat.mul_le_mul_right base front

/-- The digits of a decimal numeral. -/
def placesOf (text : List Char) : List Char :=
  let body := dropBaseMark 10 (takeSign ((text.map plainChar).dropWhile isPlainBlank)).2
  (body.takeWhile fun c => isDigitOf 10 c || c = '_').filter (· ≠ '_')

theorem isDigitOf_of_mem_placesOf {text : List Char} {c : Char} (place : c ∈ placesOf text) :
    isDigitOf 10 c = true := by
  rw [placesOf, List.mem_filter] at place
  obtain ⟨taken, mark⟩ := place
  have kept := List.mem_takeWhile_imp taken
  simp_all

theorem readInteger_ok {text : List Char} {value : Int} (read : readInteger 10 text = .ok value) :
    (placesOf text).length ≤ digitLimit ∧ value.natAbs = ofDigits 10 (placesOf text) := by
  simp only [readInteger, readPlain, ← placesOf.eq_1] at read
  split_ifs at read with grouped long empty sign
  all_goals
    cases read
    simp at long
  · exact ⟨long, by simp⟩
  · exact ⟨long, by simp⟩

/-- An integer that is read in decimal can be written in decimal. -/
theorem length_decimal_of_readInteger {text : List Char} {value : Int}
    (read : readInteger 10 text = .ok value) : (decimal value.natAbs).length ≤ digitLimit := by
  obtain ⟨short, size⟩ := readInteger_ok read
  have digits : ∀ c ∈ placesOf text, isDigitOf 10 c = true := fun _ => isDigitOf_of_mem_placesOf
  have below := ofDigits_lt (by decide) digits
  rw [length_decimal_le_limit_iff, size]
  exact Nat.lt_of_lt_of_le below (Nat.pow_le_pow_right (by decide) short)

theorem isAsciiDigit_iff (c : Char) : isAsciiDigit c = true ↔ 48 ≤ c.toNat ∧ c.toNat ≤ 57 := by
  rw [isAsciiDigit, Char.isDigit, Bool.and_eq_true, decide_eq_true_eq, decide_eq_true_eq]
  exact Iff.rfl

theorem isDigitOf_of_isAsciiDigit {c : Char} (digit : isAsciiDigit c = true) :
    isDigitOf 10 c = true := by
  have range := (isAsciiDigit_iff c).1 digit
  simp [isDigitOf, digitValue?, range]
  omega

theorem plainChar_of_isAsciiDigit {c : Char} (digit : isAsciiDigit c = true) :
    plainChar c = c := by
  have range := (isAsciiDigit_iff c).1 digit
  rw [plainChar, if_pos (by omega)]

theorem dropBaseMark_ten (text : List Char) : dropBaseMark 10 text = text := by
  fun_cases dropBaseMark 10 text <;> simp_all

theorem wellGrouped_of_not_mem {text : List Char} (none : '_' ∉ text) :
    wellGrouped text = true := by
  fun_induction wellGrouped text <;> simp_all

section Digits

variable {whole : List Char} (digits : ∀ c ∈ whole, isAsciiDigit c = true)
include digits

theorem map_plainChar_digits : whole.map plainChar = whole := by
  rw [List.map_congr_left fun c member => plainChar_of_isAsciiDigit (digits c member)]
  exact List.map_id' whole

theorem takeSign_digits (negative : Bool) (some : whole ≠ []) :
    takeSign (((if negative then '-' :: whole else whole).map plainChar).dropWhile isPlainBlank)
      = (negative, whole) := by
  cases negative with
  | true =>
    have minus : plainChar '-' = '-' := by decide
    rw [if_pos rfl, List.map_cons, map_plainChar_digits digits, minus,
      List.dropWhile_cons_of_neg (by decide), takeSign]
  | false =>
    obtain ⟨first, rest, rfl⟩ := List.exists_cons_of_ne_nil some
    have range := (isAsciiDigit_iff first).1 (digits first (by simp))
    have other {c : Char} (mark : ¬ (48 ≤ c.toNat ∧ c.toNat ≤ 57)) : first ≠ c := by
      rintro rfl
      exact mark range
    have solid : isPlainBlank first = false := by
      simp [isPlainBlank, other (c := ' ') (by decide)]
      omega
    rw [if_neg (by decide), map_plainChar_digits digits,
      List.dropWhile_cons_of_neg (by simp [solid])]
    unfold takeSign
    split
    · rename_i same
      exact absurd (List.cons.inj same).1 (other (by decide))
    · rename_i same
      exact absurd (List.cons.inj same).1 (other (by decide))
    · rfl

/-- Digits behind blanks and a sign are read as they stand, unless they are too many. -/
theorem readPlain_digits {negative : Bool} (some : whole ≠ []) {text : List Char}
    (split : takeSign (text.dropWhile isPlainBlank) = (negative, whole)) (shown : List Char) :
    readPlain 10 shown text =
      if digitLimit < whole.length then .error (.tooManyDigits whole.length)
      else .ok (if negative then -(ofDigits 10 whole : Int) else ofDigits 10 whole) := by
  have kept c (member : c ∈ whole) : (isDigitOf 10 c || decide (c = '_')) = true := by
    rw [isDigitOf_of_isAsciiDigit (digits c member), Bool.true_or]
  have unmarked : '_' ∉ whole := fun member => absurd (digits '_' member) (by decide)
  have places : whole.filter (· ≠ '_') = whole := by
    rw [List.filter_eq_self]
    intro c member
    simp
    rintro rfl
    exact unmarked member
  simp only [readPlain, split, dropBaseMark_ten, List.takeWhile_eq_self_iff.2 kept,
    List.dropWhile_eq_nil_iff.2 kept, places, wellGrouped_of_not_mem unmarked]
  simp [some]

/-- Digits are read as they stand, unless they are too many. -/
theorem readInteger_digits (negative : Bool) (some : whole ≠ []) :
    readInteger 10 (if negative then '-' :: whole else whole) =
      if digitLimit < whole.length then .error (.tooManyDigits whole.length)
      else .ok (if negative then -(ofDigits 10 whole : Int) else ofDigits 10 whole) :=
  readPlain_digits digits some (takeSign_digits digits negative some) _

end Digits

end Clat.Number
