import Clat.Proofs.Number.FloatText
import Clat.Proofs.Number.Shortest
import Mathlib.Algebra.Order.Field.Power
import Mathlib.Tactic.Linarith
import Mathlib.Tactic.NormNum
import Mathlib.Tactic.Positivity
import Mathlib.Tactic.Ring

/-! Texts of binary64 numbers are read back. The digits of a text stand for the shortest decimal of
the number, in whatever form they are laid out, and that decimal is in the interval of no other
number. -/
namespace Clat.Number.Binary64

section Decimals

variable {s digits count : Nat} {e x : Int} {v : ℚ}

/-- No rational in an interval comes near to 10 ^ 310. -/
theorem Rounds.lt_top (rounds : Rounds s e v) (canonical : Canonical s e)
    (greatest : e ≤ greatestExponent) : v < 10 ^ (310 : Int) := by
  have size : ((4 * s + 2 : Nat) : ℚ) / 4 < 2 ^ 53 := by
    have small : (s : ℚ) + 1 ≤ 2 ^ 53 := by exact_mod_cast canonical.small
    push_cast
    linarith
  have scale : (2 : ℚ) ^ e ≤ 2 ^ (971 : Int) := zpow_le_zpow_right₀ one_le_two greatest
  have bound : (2 : ℚ) ^ (1024 : Int) ≤ 10 ^ (310 : Int) := by
    have small : (10 : ℚ) ^ ((-309 : Int) - 1) ≤ 2 ^ (-1024 : Int) :=
      ten_zpow_le (by decide) (by decide) (by decide)
    rw [show (-309 : Int) - 1 = -310 by decide, zpow_neg, zpow_neg] at small
    exact (inv_le_inv₀ (by positivity) (by positivity)).1 small
  calc v ≤ ((4 * s + 2 : Nat) : ℚ) / 4 * 2 ^ e := by rw [← binary_quarter]; exact rounds.high
    _ < 2 ^ 53 * 2 ^ e := mul_lt_mul_of_pos_right size (by positivity)
    _ ≤ 2 ^ 53 * 2 ^ (971 : Int) := mul_le_mul_of_nonneg_left scale (by positivity)
    _ = 2 ^ (1024 : Int) := by rw [← zpow_natCast, ← zpow_add₀ two_ne_zero]; rfl
    _ ≤ 10 ^ (310 : Int) := bound

/-- No rational in an interval of a positive number is under 10 ^ -326. -/
theorem Rounds.bottom_le (rounds : Rounds s e v) (canonical : Canonical s e) (positive : 0 < s) :
    10 ^ (-326 : Int) ≤ v := by
  have one : (1 : ℚ) ≤ s := by exact_mod_cast positive
  have reach : (below s e : ℚ) ≤ 2 := by exact_mod_cast below_le s e
  have scale : (2 : ℚ) ^ (-1074 : Int) ≤ 2 ^ e := zpow_le_zpow_right₀ one_le_two canonical.least
  have bound : (10 : ℚ) ^ ((-324 : Int) - 1) ≤ 2 ^ (-1074 : Int) :=
    ten_zpow_le (by decide) (by decide) (by decide)
  have tenth : (10 : ℚ) ^ (-326 : Int) = 1 / 10 * 10 ^ ((-324 : Int) - 1) := by
    rw [show (-326 : Int) = -1 + (-324 - 1) by decide, zpow_add₀ (by norm_num)]
    norm_num
  calc (10 : ℚ) ^ (-326 : Int) = 1 / 10 * 10 ^ ((-324 : Int) - 1) := tenth
    _ ≤ 1 / 10 * 2 ^ e := mul_le_mul_of_nonneg_left (bound.trans scale) (by norm_num)
    _ ≤ (s - below s e / 4) * 2 ^ e := mul_le_mul_of_nonneg_right (by linarith) (by positivity)
    _ = binary (4 * s - below s e) (e - 2) := by rw [low_eq positive, binary]; ring
    _ ≤ v := rounds.low

/-- A decimal in the interval of a number is rounded to the number. -/
theorem Rounds.ofDecimal_eq (rounds : Rounds s e (Decimal.value ⟨digits, x⟩))
    (canonical : Canonical s e) (greatest : e ≤ greatestExponent) (positive : 0 < s)
    (least : 10 ^ count ≤ 10 * digits) (bound : digits < 10 ^ count) (negative : Bool) :
    ofDecimal negative digits count x = .finite negative s e := by
  have top := rounds.lt_top canonical greatest
  have bottom := rounds.bottom_le canonical positive
  have some : 0 < digits := by
    have power : 0 < 10 ^ count := Nat.pow_pos (by decide)
    omega
  have ten : (10 : ℚ) ≠ 0 := by norm_num
  have scale : (0 : ℚ) < 10 ^ x := by positivity
  have size : (10 : ℚ) ^ (count + x) = 10 ^ count * 10 ^ x := by
    rw [zpow_add₀ ten, zpow_natCast]
  rw [Decimal.value] at top bottom
  have notLarge : ¬ (310 < count + x ∧ Nat.pow 10 count ≤ 10 * digits) := by
    rintro ⟨large, -⟩
    have places : (10 : ℚ) ^ count ≤ 10 * digits := by exact_mod_cast least
    have reach : (10 : ℚ) ^ (310 + 1 : Int) ≤ 10 ^ (count + x) :=
      zpow_le_zpow_right₀ (by norm_num) (by omega)
    rw [zpow_add_one₀ ten, size] at reach
    have less := mul_le_mul_of_nonneg_right places scale.le
    linarith
  have notSmall : ¬ count + x < -326 := by
    intro small
    have places : (digits : ℚ) < 10 ^ count := by exact_mod_cast bound
    have reach : (10 : ℚ) ^ (count + x) ≤ 10 ^ (-326 : Int) :=
      zpow_le_zpow_right₀ (by norm_num) small.le
    rw [size] at reach
    have less := mul_lt_mul_of_pos_right places scale
    linarith
  unfold ofDecimal
  rw [if_neg some.ne', if_neg notLarge, if_neg notSmall]
  split
  · rename_i whole
    obtain ⟨n, rfl⟩ := Int.eq_ofNat_of_zero_le whole
    have worth : Decimal.value ⟨digits, n⟩ =
        (digits * Nat.pow 10 (n : Int).toNat : Nat) / (1 : Nat) := by
      rw [Decimal.value, Int.toNat_natCast, Nat.pow_eq, zpow_natCast]
      push_cast
      ring
    exact rounds.ofRatio_eq canonical greatest (Nat.mul_pos some (Nat.pow_pos (by decide))) one_pos
      worth
  · rename_i fraction
    obtain ⟨n, rfl⟩ := Int.exists_eq_neg_ofNat (show x ≤ 0 by omega)
    have worth : Decimal.value ⟨digits, -n⟩ = digits / (Nat.pow 10 (- -(n : Int)).toNat : Nat) := by
      rw [Decimal.value, neg_neg, Int.toNat_natCast, Nat.pow_eq, zpow_neg, zpow_natCast]
      push_cast
      ring
    exact rounds.ofRatio_eq canonical greatest some (Nat.pow_pos (by decide)) worth

end Decimals

section Reading

variable {s : Nat} {e x : Int} {whole fraction tail : List Char} {negative : Bool}

/-- Digits that stand for a decimal in the interval of a number are read as the number. -/
theorem Rounds.ofPlaces_eq
    (rounds : Rounds s e (Decimal.value ⟨ofDigits 10 (whole ++ fraction), x - fraction.length⟩))
    (canonical : Canonical s e) (greatest : e ≤ greatestExponent) (positive : 0 < s)
    (digits : ∀ c ∈ whole ++ fraction, isAsciiDigit c = true) (negative : Bool) :
    ofPlaces negative whole fraction x = .finite negative s e := by
  have bottom := rounds.bottom_le canonical positive
  unfold ofPlaces
  dsimp only
  rw [← ofDigits_dropWhile] at rounds bottom
  have kept : ∀ c ∈ (whole ++ fraction).dropWhile (· = '0'), isAsciiDigit c = true :=
    fun c member => digits c ((List.dropWhile_suffix _).subset member)
  have front : ∀ c ∈ ((whole ++ fraction).dropWhile (· = '0')).head?, c ≠ '0' := by
    intro c first zero
    have stops := List.head?_dropWhile_not (· = '0') (whole ++ fraction)
    rw [first] at stops
    simp [zero] at stops
  generalize (whole ++ fraction).dropWhile (· = '0') = places at *
  cases places with
  | nil =>
    have power : (0 : ℚ) < 10 ^ (-326 : Int) := by positivity
    have nothing : Decimal.value ⟨ofDigits 10 [], x - fraction.length⟩ = 0 := by
      simp [Decimal.value, ofDigits]
    rw [nothing] at bottom
    exact absurd power (not_lt.2 bottom)
  | cons first rest =>
    have least : 10 ^ rest.length ≤ _ :=
      pow_le_ofDigits (kept first List.mem_cons_self) (front first rfl)
    have bound := ofDigits_lt (by decide) fun c member => isDigitOf_of_isAsciiDigit (kept c member)
    refine rounds.ofDecimal_eq canonical greatest positive ?_ bound negative
    rw [List.length_cons, Nat.pow_succ, Nat.mul_comm]
    exact Nat.mul_le_mul_left 10 least

theorem readExponent?_exponentText (exponent : Int) :
    readExponent? (exponentText exponent) = some exponent := by
  have size : ofDigits 10 (decimal exponent.natAbs) = exponent.natAbs :=
    ofDigits_digits (by decide) (by decide) _
  have digits : ∀ c ∈ decimal exponent.natAbs, isAsciiDigit c = true :=
    fun _ => isAsciiDigit_of_mem_decimal
  obtain ⟨places, padded⟩ : ∃ places, (if (decimal exponent.natAbs).length < 2 then
      '0' :: decimal exponent.natAbs else decimal exponent.natAbs) = places := ⟨_, rfl⟩
  obtain ⟨all, some, worth⟩ : places.all isAsciiDigit = true ∧ places.isEmpty = false ∧
      ofDigits 10 places = exponent.natAbs := by
    rw [← padded, List.all_eq_true]
    split
    · have nothing : ofDigits 10 ['0'] = 0 := rfl
      refine ⟨List.forall_mem_cons.2 ⟨rfl, digits⟩, rfl, ?_⟩
      rw [← List.singleton_append, ofDigits_append_list, size, nothing, Nat.zero_mul, Nat.zero_add]
    · exact ⟨digits, List.isEmpty_eq_false_iff.2 (digits_ne_nil 10 _), size⟩
  unfold exponentText
  dsimp only
  rw [padded]
  by_cases negative : exponent < 0
  · rw [if_pos negative]
    simp [readExponent?, takeSign, some, -List.all_eq_true, all, worth, abs_of_neg negative]
  · rw [if_neg negative]
    simp [readExponent?, takeSign, some, -List.all_eq_true, all, worth,
      abs_of_nonneg (not_lt.1 negative)]

/-- Texts that start with a digit are no names. -/
theorem ne_name {first letter : Char} {name : List Char} (digit : isAsciiDigit first = true)
    (other : isAsciiDigit letter = false) (body : List Char) :
    (first :: body).map Char.toLower ≠ letter :: name := by
  intro same
  have range := (isAsciiDigit_iff first).1 digit
  have lower : first.toLower = first := by
    refine dif_neg ?_
    rintro ⟨upper, -⟩
    have beyond : 65 ≤ first.toNat := UInt32.le_iff_toNat_le.1 upper
    omega
  rw [List.map_cons, lower] at same
  cases same
  rw [digit] at other
  cases other

theorem not_named (some : whole ≠ []) (digits : ∀ c ∈ whole, isAsciiDigit c = true)
    (rest : List Char) :
    ¬ (decide ((whole ++ rest).map Char.toLower = "inf".toList) ||
        decide ((whole ++ rest).map Char.toLower = "infinity".toList)) = true ∧
      (whole ++ rest).map Char.toLower ≠ "nan".toList := by
  obtain ⟨first, others, rfl⟩ := List.exists_cons_of_ne_nil some
  have digit := digits first List.mem_cons_self
  rw [Bool.or_eq_true, decide_eq_true_iff, decide_eq_true_iff]
  refine ⟨?_, ne_name digit rfl _⟩
  rintro (name | name)
  · exact ne_name digit rfl _ name
  · exact ne_name digit rfl _ name

/-- A text of digits with a point is read by its parts. -/
theorem readUnsigned?_point (some : whole ≠ [])
    (digits : ∀ c ∈ whole ++ fraction, isAsciiDigit c = true)
    (solid : tail.takeWhile isAsciiDigit = []) (read : readExponent? tail = .some x) :
    readUnsigned? negative (whole ++ '.' :: (fraction ++ tail)) =
      .some (ofPlaces negative whole fraction x) := by
  have left : ∀ c ∈ whole, isAsciiDigit c = true :=
    fun c member => digits c (List.mem_append_left fraction member)
  have right : ∀ c ∈ fraction, isAsciiDigit c = true :=
    fun c member => digits c (List.mem_append_right whole member)
  have rest : tail.dropWhile isAsciiDigit = tail := by
    have split := tail.takeWhile_append_dropWhile (p := isAsciiDigit)
    rwa [solid, List.nil_append] at split
  have filled : whole.isEmpty = false := List.isEmpty_eq_false_iff.2 some
  have taken : (whole ++ '.' :: (fraction ++ tail)).takeWhile isAsciiDigit = whole := by
    rw [List.takeWhile_append_of_pos left, List.takeWhile_cons_of_neg (by decide), List.append_nil]
  have dropped : (whole ++ '.' :: (fraction ++ tail)).dropWhile isAsciiDigit =
      '.' :: (fraction ++ tail) := by
    rw [List.dropWhile_append_of_pos left, List.dropWhile_cons_of_neg (by decide)]
  have taken' : (fraction ++ tail).takeWhile isAsciiDigit = fraction := by
    rw [List.takeWhile_append_of_pos right, solid, List.append_nil]
  have dropped' : (fraction ++ tail).dropWhile isAsciiDigit = tail := by
    rw [List.dropWhile_append_of_pos right, rest]
  obtain ⟨notInfinite, notNan⟩ := not_named some left ('.' :: (fraction ++ tail))
  unfold readUnsigned?
  dsimp only
  rw [if_neg notInfinite, if_neg notNan, taken, dropped]
  simp only [taken', dropped', filled, Bool.false_and, read]
  rfl

/-- A text of digits without a point is read by its parts. -/
theorem readUnsigned?_plain (some : whole ≠ []) (digits : ∀ c ∈ whole, isAsciiDigit c = true)
    (x : Int) :
    readUnsigned? negative (whole ++ exponentText x) = .some (ofPlaces negative whole [] x) := by
  have filled : whole.isEmpty = false := List.isEmpty_eq_false_iff.2 some
  have read := readExponent?_exponentText x
  obtain ⟨tail, marked⟩ : ∃ tail, exponentText x = 'e' :: tail := ⟨_, rfl⟩
  rw [marked] at read ⊢
  have taken : (whole ++ 'e' :: tail).takeWhile isAsciiDigit = whole := by
    rw [List.takeWhile_append_of_pos digits, List.takeWhile_cons_of_neg (by decide),
      List.append_nil]
  have dropped : (whole ++ 'e' :: tail).dropWhile isAsciiDigit = 'e' :: tail := by
    rw [List.dropWhile_append_of_pos digits, List.dropWhile_cons_of_neg (by decide)]
  obtain ⟨notInfinite, notNan⟩ := not_named some digits ('e' :: tail)
  unfold readUnsigned?
  dsimp only
  rw [if_neg notInfinite, if_neg notNan, taken, dropped]
  simp only [filled, Bool.false_and]
  exact congrArg (Option.map (ofPlaces negative whole [])) read

end Reading

section Forms

variable {s : Nat} {e x : Int} {text places : List Char} {v : ℚ}

/-- Texts of digits with a point or an exponent, and the rational that such a text stands for. -/
inductive Denotes : List Char → ℚ → Prop where
  | point {whole fraction tail : List Char} {x : Int} (some : whole ≠ [])
      (digits : ∀ c ∈ whole ++ fraction, isAsciiDigit c = true)
      (solid : tail.takeWhile isAsciiDigit = []) (read : readExponent? tail = .some x) :
      Denotes (whole ++ '.' :: (fraction ++ tail))
        (Decimal.value ⟨ofDigits 10 (whole ++ fraction), x - fraction.length⟩)
  | plain {whole : List Char} (some : whole ≠ []) (digits : ∀ c ∈ whole, isAsciiDigit c = true)
      (x : Int) : Denotes (whole ++ exponentText x) (Decimal.value ⟨ofDigits 10 whole, x⟩)

/-- A text is read as the number in whose interval the rational is that it stands for. -/
theorem Denotes.read (denotes : Denotes text v) (rounds : Rounds s e v) (canonical : Canonical s e)
    (greatest : e ≤ greatestExponent) (positive : 0 < s) (negative : Bool) :
    readUnsigned? negative text = some (.finite negative s e) := by
  cases denotes with
  | point some digits solid read =>
    rw [readUnsigned?_point some digits solid read,
      rounds.ofPlaces_eq canonical greatest positive digits]
  | @plain whole some digits x =>
    have all : ∀ c ∈ whole ++ [], isAsciiDigit c = true := by rwa [List.append_nil]
    have same : Rounds s e
        (Decimal.value ⟨ofDigits 10 (whole ++ []), x - ([] : List Char).length⟩) := by
      simpa using rounds
    rw [readUnsigned?_plain some digits, same.ofPlaces_eq canonical greatest positive all]

theorem Decimal.value_mul_pow (digits count : Nat) (exponent : Int) :
    Decimal.value ⟨digits * 10 ^ count, exponent⟩ = Decimal.value ⟨digits, exponent + count⟩ := by
  unfold Decimal.value
  rw [zpow_add₀ (by norm_num), zpow_natCast]
  push_cast
  ring

theorem isAsciiDigit_of_mem_zeros (count : Nat) :
    ∀ c ∈ List.replicate count '0', isAsciiDigit c = true := by
  intro c member
  rw [List.eq_of_mem_replicate member]
  rfl

variable (filled : places ≠ []) (digits : ∀ c ∈ places, isAsciiDigit c = true)
include digits

/-- Zeros between the point and the digits. -/
theorem denotes_zeros_first (count : Nat) :
    Denotes ('0' :: '.' :: List.replicate count '0' ++ places)
      (Decimal.value ⟨ofDigits 10 places, -(count + places.length : Nat)⟩) := by
  have all : ∀ c ∈ ['0'] ++ (List.replicate count '0' ++ places), isAsciiDigit c = true :=
    List.forall_mem_append.2 ⟨isAsciiDigit_of_mem_zeros 1,
      List.forall_mem_append.2 ⟨isAsciiDigit_of_mem_zeros count, digits⟩⟩
  have denotes := Denotes.point (List.cons_ne_nil '0' []) all rfl (rfl : readExponent? [] = some 0)
  have zeros : ['0'] ++ (List.replicate count '0' ++ places) =
      List.replicate (count + 1) '0' ++ places := rfl
  rw [List.append_nil, zeros, ofDigits_append_list, ofDigits_zeros, Nat.zero_mul, Nat.zero_add,
    List.length_append, List.length_replicate, zero_sub] at denotes
  exact denotes

include filled

/-- Zeros between the digits and the point. -/
theorem denotes_zeros_last (count : Nat) :
    Denotes (places ++ List.replicate count '0' ++ ['.', '0'])
      (Decimal.value ⟨ofDigits 10 places, count⟩) := by
  have all : ∀ c ∈ (places ++ List.replicate count '0') ++ ['0'], isAsciiDigit c = true :=
    List.forall_mem_append.2 ⟨List.forall_mem_append.2 ⟨digits, isAsciiDigit_of_mem_zeros count⟩,
      isAsciiDigit_of_mem_zeros 1⟩
  have denotes := Denotes.point (List.append_ne_nil_of_left_ne_nil filled _) all rfl
    (rfl : readExponent? [] = some 0)
  have zeros : places ++ List.replicate count '0' ++ ['0'] =
      places ++ List.replicate (count + 1) '0' := by
    rw [List.replicate_succ', List.append_assoc]
  have place : 0 - ((['0'] : List Char).length : Int) + (count + 1 : Nat) = count := by
    rw [List.length_singleton]
    omega
  rw [zeros, ofDigits_append_list, ofDigits_zeros, List.length_replicate, Nat.add_zero,
    Decimal.value_mul_pow, place] at denotes
  exact denotes

/-- The point among the digits. -/
theorem denotes_point_between (size : Nat) :
    Denotes (places.take (size + 1) ++ '.' :: places.drop (size + 1))
      (Decimal.value ⟨ofDigits 10 places, -(places.length - (size + 1) : Nat)⟩) := by
  have some : places.take (size + 1) ≠ [] := by
    rw [ne_eq, List.take_eq_nil_iff]
    exact fun none => none.elim (Nat.succ_ne_zero _) filled
  have all : ∀ c ∈ places.take (size + 1) ++ places.drop (size + 1), isAsciiDigit c = true := by
    rwa [List.take_append_drop]
  have denotes := Denotes.point some all rfl (rfl : readExponent? [] = .some 0)
  rw [List.append_nil, List.take_append_drop, List.length_drop, zero_sub] at denotes
  exact denotes

/-- The digits of a decimal stand for it, however they are laid out. -/
theorem layOut_denotes (x : Int) :
    Denotes (layOut places x) (Decimal.value ⟨ofDigits 10 places, x + 1 - places.length⟩) := by
  unfold layOut
  split
  · split
    · exact absurd rfl filled
    · have denotes := Denotes.plain filled digits x
      simpa using denotes
    · rename_i first rest _
      have denotes := Denotes.point (List.cons_ne_nil first []) digits rfl
        (readExponent?_exponentText x)
      have place : x + 1 - ((first :: rest).length : Int) = x - rest.length := by
        rw [List.length_cons]
        omega
      rw [place]
      exact denotes
  split
  · rename_i small
    have denotes := denotes_zeros_first digits (-x - 1).toNat
    have place : -(((-x - 1).toNat + places.length : Nat) : Int) = x + 1 - places.length := by
      omega
    rwa [place] at denotes
  dsimp only
  split
  · rename_i large short
    have denotes := denotes_zeros_last filled digits (x.toNat + 1 - places.length)
    have place : ((x.toNat + 1 - places.length : Nat) : Int) = x + 1 - places.length := by
      omega
    rwa [place] at denotes
  · rename_i large long
    have denotes := denotes_point_between filled digits x.toNat
    have place : -((places.length - (x.toNat + 1) : Nat) : Int) = x + 1 - places.length := by
      omega
    rwa [place] at denotes

end Forms

section Text

variable {s : Nat} {e : Int}

theorem readUnsigned?_body (canonical : Canonical s e) (greatest : e ≤ greatestExponent)
    (negative : Bool) : readUnsigned? negative (body s e) = some (.finite negative s e) := by
  unfold body
  split
  · rename_i zero
    have least : e = leastExponent := canonical.full.resolve_right (by omega)
    rw [zero, least]
    cases negative <;> decide
  · rename_i some
    have positive := Nat.pos_of_ne_zero some
    have rounds := shortest_rounds canonical greatest positive
    dsimp only
    generalize shortest s e = d at rounds
    have denotes := layOut_denotes (digits_ne_nil 10 d.digits)
      (fun _ => isAsciiDigit_of_mem_decimal) (d.exponent + (decimal d.digits).length - 1)
    have worth : ofDigits 10 (decimal d.digits) = d.digits :=
      ofDigits_digits (by decide) (by decide) d.digits
    rw [sub_add_cancel, add_sub_cancel_right, worth] at denotes
    exact denotes.read rounds canonical greatest positive negative

theorem readUnsigned?_sign {sign : Char} (signs : sign = '-' ∨ sign = '+') (rest : List Char)
    (negative : Bool) : readUnsigned? negative (sign :: rest) = none := by
  have solid : isAsciiDigit sign = false := by
    rcases signs with rfl | rfl <;> rfl
  rcases signs with rfl | rfl
  · simp [readUnsigned?, solid]
  · simp [readUnsigned?, solid]

/-- The text of a number that is not negative starts with no sign. -/
theorem takeSign_body (canonical : Canonical s e) (greatest : e ≤ greatestExponent) :
    takeSign (body s e) = (false, body s e) := by
  have read := readUnsigned?_body canonical greatest false
  unfold takeSign
  split
  · rename_i rest start
    rw [start, readUnsigned?_sign (.inl rfl)] at read
    cases read
  · rename_i rest start
    rw [start, readUnsigned?_sign (.inr rfl)] at read
    cases read
  · rfl

/-- A text of a number is its own ASCII form, with no blank around. -/
theorem trim_text (value : Binary64) :
    (((value.text.map plainChar).dropWhile isPlainBlank).reverse.dropWhile isPlainBlank).reverse =
      value.text := by
  have range : ∀ c ∈ value.text, 33 ≤ c.toNat ∧ c.toNat < 127 := by
    intro c member
    rcases mem_text member with digit | sign
    · have range := (isAsciiDigit_iff c).1 digit
      omega
    · have all : ∀ c ∈ signs, 33 ≤ c.toNat ∧ c.toNat < 127 := by simp [signs]
      exact all c sign
  have solid : ∀ c ∈ value.text, isPlainBlank c = false := by
    intro c member
    have inside := range c member
    have other : c ≠ ' ' := by
      rintro rfl
      exact absurd inside (by decide)
    simp [isPlainBlank, other]
    omega
  have kept (text : List Char) (solid : ∀ c ∈ text, isPlainBlank c = false) :
      text.dropWhile isPlainBlank = text := by
    cases text with
    | nil => rfl
    | cons c text =>
      have first : ¬ isPlainBlank c = true := by simp [solid c List.mem_cons_self]
      exact List.dropWhile_cons_of_neg first
  have plain : value.text.map plainChar = value.text := by
    have same : ∀ c ∈ value.text, plainChar c = c := fun c member => if_pos (range c member).2
    rw [List.map_congr_left same]
    exact List.map_id' _
  rw [plain, kept _ solid, kept _ fun c member => solid c (List.mem_reverse.1 member),
    List.reverse_reverse]

/-- The text of a number is read as the number. -/
theorem ofText?_text {value : Binary64} (proper : value.Proper) :
    ofText? value.text = some value := by
  cases value with
  | nan => decide
  | infinite negative => cases negative <;> decide
  | finite negative s e =>
    obtain ⟨canonical, greatest⟩ := proper
    unfold ofText?
    dsimp only
    rw [trim_text, text_finite]
    cases negative with
    | true => exact readUnsigned?_body canonical greatest true
    | false =>
      rw [if_neg Bool.false_ne_true, takeSign_body canonical greatest]
      exact readUnsigned?_body canonical greatest false

/-- Numbers with one text are one number. -/
theorem text_inj {value other : Binary64} (proper : value.Proper) (proper' : other.Proper)
    (same : value.text = other.text) : value = other := by
  have read := ofText?_text proper
  rw [same, ofText?_text proper'] at read
  exact (Option.some.inj read).symm

theorem proper_readUnsigned? {negative : Bool} {text : List Char} {value : Binary64}
    (read : readUnsigned? negative text = some value) : value.Proper := by
  have made {empty : Bool} {whole fraction : List Char} {exponent? : Option Int}
      (read : (if empty = true then none
        else exponent?.map (ofPlaces negative whole fraction)) = some value) : value.Proper := by
    split at read
    · cases read
    · obtain ⟨exponent, -, rfl⟩ := Option.map_eq_some_iff.1 read
      exact proper_ofDecimal negative _ _ _
  unfold readUnsigned? at read
  dsimp only at read
  split at read
  · cases read
    trivial
  split at read
  · cases read
    trivial
  split at read
  · exact made read
  · exact made read

theorem proper_ofText? {text : List Char} {value : Binary64} (read : ofText? text = some value) :
    value.Proper :=
  proper_readUnsigned? read

end Text

end Clat.Number.Binary64
