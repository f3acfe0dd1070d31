import Clat.Proofs.Number.Limit

/-! Digits read back. The digits of a number in a base up to 36 are digits of that base, have no
zero in front, and stand for the number. -/
namespace Clat.Number

theorem digitValue?_digitChar {digit : Nat} (small : digit < 36) :
    digitValue? (digitChar digit) = some digit := by
  have all : ∀ digit < 36, digitValue? (digitChar digit) = some digit := by decide
  exact all digit small

/-- Digits are decimal digits or small letters. -/
theorem digitChar_range {digit : Nat} (small : digit < 36) :
    48 ≤ (digitChar digit).toNat ∧ (digitChar digit).toNat ≤ 57 ∨
      97 ≤ (digitChar digit).toNat ∧ (digitChar digit).toNat ≤ 122 := by
  have all : ∀ digit < 36, 48 ≤ (digitChar digit).toNat ∧ (digitChar digit).toNat ≤ 57 ∨
      97 ≤ (digitChar digit).toNat ∧ (digitChar digit).toNat ≤ 122 := by
    decide
  exact all digit small

theorem digits_ne_nil (base n : Nat) : digits base n ≠ [] :=
  List.ne_nil_of_length_pos (length_digits_pos base n)

section Base

variable {base : Nat} (radix : 2 ≤ base)
include radix

theorem exists_digitChar_of_mem_digits {n : Nat} {c : Char} (member : c ∈ digits base n) :
    ∃ digit < base, c = digitChar digit := by
  induction n using digits.induct base with
  | case1 n small =>
    rw [digits, dif_pos small, List.mem_singleton] at member
    exact ⟨n, by omega, member⟩
  | case2 n large ih =>
    rw [digits, dif_neg large, List.mem_append, List.mem_singleton] at member
    rcases member with front | last
    · exact ih front
    · exact ⟨n % base, Nat.mod_lt n (by omega), last⟩

/-- A number of several digits has no zero in front. -/
theorem head_digits {n : Nat} (several : 1 < (digits base n).length) :
    ∃ digit, 0 < digit ∧ digit < base ∧ (digits base n).head? = some (digitChar digit) := by
  induction n using digits.induct base with
  | case1 n small =>
    rw [digits, dif_pos small] at several
    simp at several
  | case2 n large ih =>
    have above : base ≤ n := by omega
    rw [digits, dif_neg large, List.head?_append]
    by_cases more : 1 < (digits base (n / base)).length
    · obtain ⟨digit, positive, small, first⟩ := ih more
      exact ⟨digit, positive, small, by rw [first, Option.some_or]⟩
    · have positive : 0 < n / base := Nat.div_pos above (by omega)
      have one : (digits base (n / base)).length ≤ 0 + 1 := by omega
      have below := (length_digits_le_iff radix).1 one
      rw [Nat.zero_add, Nat.pow_one] at below
      refine ⟨n / base, positive, below, ?_⟩
      rw [digits, dif_pos (Or.inl below), List.head?_singleton, Option.some_or]

variable (letters : base ≤ 36)
include letters

theorem ofDigits_digits (n : Nat) : ofDigits base (digits base n) = n := by
  induction n using digits.induct base with
  | case1 n small =>
    have one : digitValue? (digitChar n) = some n := digitValue?_digitChar (by omega)
    rw [digits, dif_pos small]
    simp [ofDigits, one]
  | case2 n large ih =>
    have last : n % base < base := Nat.mod_lt n (by omega)
    have value := digitValue?_digitChar (show n % base < 36 by omega)
    rw [digits, dif_neg large, ofDigits_append, ih, value, Option.getD_some, Nat.mul_comm]
    exact Nat.div_add_mod n base

theorem isDigitOf_of_mem_digits {n : Nat} {c : Char} (member : c ∈ digits base n) :
    isDigitOf base c = true := by
  obtain ⟨digit, small, rfl⟩ := exists_digitChar_of_mem_digits radix member
  rw [isDigitOf, digitValue?_digitChar (by omega)]
  simpa using small

end Base

theorem ofDigits_append_list (base : Nat) (front back : List Char) :
    ofDigits base (front ++ back) =
      ofDigits base front * base ^ back.length + ofDigits base back := by
  induction back using List.reverseRecOn with
  | nil => simp [ofDigits]
  | append_singleton back c ih =>
    rw [← List.append_assoc, ofDigits_append, ih, ofDigits_append, List.length_append,
      List.length_singleton, Nat.pow_succ]
    ring

theorem ofDigits_zeros (base count : Nat) : ofDigits base (List.replicate count '0') = 0 := by
  induction count with
  | zero => rfl
  | succ count ih =>
    have zero : digitValue? '0' = some 0 := rfl
    rw [List.replicate_succ', ofDigits_append, ih, zero, Option.getD_some, Nat.zero_mul]

/-- Zeros in front do not count. -/
theorem ofDigits_dropWhile (base : Nat) (text : List Char) :
    ofDigits base (text.dropWhile (· = '0')) = ofDigits base text := by
  induction text with
  | nil => rfl
  | cons c text ih =>
    by_cases zero : c = '0'
    · have nothing : digitValue? '0' = some 0 := rfl
      rw [List.dropWhile_cons_of_pos (by simpa using zero), ih, zero]
      simp [ofDigits, nothing]
    · rw [List.dropWhile_cons_of_neg (by simpa using zero)]

/-- A number with no zero in front has as many digits as its size asks for. -/
theorem pow_le_ofDigits {first : Char} {rest : List Char} (digit : isAsciiDigit first = true)
    (some : first ≠ '0') : 10 ^ rest.length ≤ ofDigits 10 (first :: rest) := by
  have range := (isAsciiDigit_iff first).1 digit
  have positive : 48 < first.toNat := by
    apply Nat.lt_of_le_of_ne range.1
    intro zero
    exact some (Char.ext (UInt32.toNat_inj.1 zero.symm))
  have value : ofDigits 10 [first] = first.toNat - 48 := by
    simp [ofDigits, digitValue?, range]
  rw [← List.singleton_append, ofDigits_append_list, value]
  exact Nat.le_trans (Nat.le_mul_of_pos_left _ (by omega)) (Nat.le_add_right _ _)

theorem length_fixedDigits (base width n : Nat) : (fixedDigits base width n).length = width := by
  induction width generalizing n with
  | zero => rfl
  | succ width ih => rw [fixedDigits, List.length_append, ih, List.length_singleton]

theorem exists_digitChar_of_mem_fixedDigits {base width n : Nat} (radix : 0 < base) {c : Char}
    (member : c ∈ fixedDigits base width n) : ∃ digit < base, c = digitChar digit := by
  induction width generalizing n with
  | zero => cases member
  | succ width ih =>
    rw [fixedDigits, List.mem_append, List.mem_singleton] at member
    rcases member with front | last
    · exact ih front
    · exact ⟨n % base, Nat.mod_lt n radix, last⟩

/-- A field that is wide enough holds the number. -/
theorem ofDigits_fixedDigits {base width n : Nat} (radix : 2 ≤ base) (letters : base ≤ 36)
    (fits : n < base ^ width) : ofDigits base (fixedDigits base width n) = n := by
  induction width generalizing n with
  | zero =>
    rw [Nat.pow_zero] at fits
    rw [fixedDigits, show n = 0 by omega]
    rfl
  | succ width ih =>
    have front : n / base < base ^ width := Nat.div_lt_of_lt_mul (by rwa [Nat.mul_comm])
    have last : n % base < base := Nat.mod_lt n (by omega)
    have value := digitValue?_digitChar (show n % base < 36 by omega)
    rw [fixedDigits, ofDigits_append, ih front, value, Option.getD_some, Nat.mul_comm]
    exact Nat.div_add_mod n base

theorem fixedDigits_inj {base width n m : Nat} (radix : 2 ≤ base) (letters : base ≤ 36)
    (fits : n < base ^ width) (fits' : m < base ^ width)
    (same : fixedDigits base width n = fixedDigits base width m) : n = m := by
  rw [← ofDigits_fixedDigits radix letters fits, same, ofDigits_fixedDigits radix letters fits']

theorem isAsciiDigit_digitChar {digit : Nat} (small : digit < 10) :
    isAsciiDigit (digitChar digit) = true := by
  have all : ∀ digit < 10, isAsciiDigit (digitChar digit) = true := by decide
  exact all digit small

theorem isAsciiDigit_of_mem_decimal {n : Nat} {c : Char} (member : c ∈ decimal n) :
    isAsciiDigit c = true := by
  obtain ⟨digit, small, rfl⟩ := exists_digitChar_of_mem_digits (by decide) member
  exact isAsciiDigit_digitChar small

theorem isAsciiDigit_of_mem_fixedDigits {width n : Nat} {c : Char}
    (member : c ∈ fixedDigits 10 width n) : isAsciiDigit c = true := by
  obtain ⟨digit, small, rfl⟩ := exists_digitChar_of_mem_fixedDigits (by decide) member
  exact isAsciiDigit_digitChar small

theorem decimal_inj {n m : Nat} (same : decimal n = decimal m) : n = m := by
  have read (k : Nat) : ofDigits 10 (decimal k) = k := ofDigits_digits (by decide) (by decide) k
  rw [← read n, same, read m]

/-- A minus is in front of a negative number, and nowhere else. -/
theorem signedDecimal_inj {value other : Int} (same : signedDecimal value = signedDecimal other) :
    value = other := by
  have unsigned (n m : Nat) : '-' :: decimal n ≠ decimal m := by
    intro clash
    have digit := isAsciiDigit_of_mem_decimal (clash ▸ List.mem_cons_self : '-' ∈ decimal m)
    exact absurd digit (by decide)
  unfold signedDecimal at same
  by_cases negative : value < 0
  · by_cases negative' : other < 0
    · rw [if_pos negative, if_pos negative'] at same
      have size := decimal_inj (List.cons.inj same).2
      omega
    · rw [if_pos negative, if_neg negative'] at same
      exact absurd same (unsigned _ _)
  · by_cases negative' : other < 0
    · rw [if_neg negative, if_pos negative'] at same
      exact absurd same.symm (unsigned _ _)
    · rw [if_neg negative, if_neg negative'] at same
      have size := decimal_inj same
      omega

theorem range_of_mem_signedDecimal {value : Int} {c : Char} (member : c ∈ signedDecimal value) :
    45 ≤ c.toNat ∧ c.toNat ≤ 57 := by
  have digit (inside : c ∈ decimal value.natAbs) : 45 ≤ c.toNat ∧ c.toNat ≤ 57 := by
    have range := (isAsciiDigit_iff c).1 (isAsciiDigit_of_mem_decimal inside)
    omega
  unfold signedDecimal at member
  split at member
  · rcases List.mem_cons.1 member with rfl | inside
    · decide
    · exact digit inside
  · exact digit member

end Clat.Number
