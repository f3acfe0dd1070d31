import Clat.Proofs.Number.Digits
import Clat.Proofs.Number.Padding
import Clat.Reader

/-! Numerals at the front of texts. A numeral has blanks, at most one sign, and some digits. The
characters of its parts have nothing in common, so that a text starts with one longest numeral; the
integer of a text is that of its longest numeral, if nothing is left over. -/
namespace Clat.Reader

open Clat.Number Clat.Text

namespace Numeral

/-- The parts of a numeral: blanks, at most one sign, and some digits. -/
structure Proper (n : Numeral) : Prop where
  blanks : ∀ c ∈ n.blanks, isBlank c = true
  sign : n.sign = [] ∨ n.sign = ['+'] ∨ n.sign = ['-']
  digits : ∀ c ∈ n.digits, isAsciiDigit c = true
  filled : n.digits ≠ []

/-- What makes a numeral one that is read: there is no separator among the blanks, and the digits
are not too many. -/
structure Readable (n : Numeral) : Prop where
  padding : ∀ c ∈ n.blanks, isSeparator c = false
  short : n.digits.length ≤ digitLimit

-- Decided by going through the lists: a bound over all characters would be decided by trying each.
instance (n : Numeral) : Decidable n.Proper :=
  decidable_of_iff (n.blanks.all isBlank = true ∧ (n.sign = [] ∨ n.sign = ['+'] ∨ n.sign = ['-']) ∧
      n.digits.all isAsciiDigit = true ∧ n.digits ≠ [])
    ⟨fun ⟨blanks, sign, digits, filled⟩ =>
        ⟨List.all_eq_true.1 blanks, sign, List.all_eq_true.1 digits, filled⟩,
      fun ⟨blanks, sign, digits, filled⟩ =>
        ⟨List.all_eq_true.2 blanks, sign, List.all_eq_true.2 digits, filled⟩⟩

instance (n : Numeral) : Decidable n.Readable :=
  decidable_of_iff (n.blanks.any isSeparator = false ∧ n.digits.length ≤ digitLimit)
    ⟨fun ⟨padding, short⟩ => ⟨by simpa using padding, short⟩,
      fun ⟨padding, short⟩ => ⟨by simpa using padding, short⟩⟩

/-- The integer that a numeral stands for. -/
def value (n : Numeral) : Int :=
  if n.sign = ['-'] then -(ofDigits 10 n.digits : Int) else ofDigits 10 n.digits

end Numeral

/-- A text that is a numeral. -/
def IsNumeral (text : List Char) : Prop := ∃ n : Numeral, n.Proper ∧ n.text = text

/-- A text starts with a numeral, and with no longer one. -/
structure Longest (front text : List Char) : Prop where
  numeral : IsNumeral front
  inFront : front <+: text
  longest : ∀ other, IsNumeral other → other <+: text → other.length ≤ front.length

section Front

theorem takeWhile_dropWhile_blanks {blanks : List Char} {c : Char}
    (blank : ∀ c ∈ blanks, isBlank c = true) (solid : isBlank c = false) (rest : List Char) :
    (blanks ++ c :: rest).takeWhile isBlank = blanks ∧
      (blanks ++ c :: rest).dropWhile isBlank = c :: rest := by
  rw [List.takeWhile_append_of_pos blank, List.dropWhile_append_of_pos blank]
  simp [solid]

/-- Digits are neither blanks nor signs. -/
theorem isBlank_of_isAsciiDigit {c : Char} (digit : isAsciiDigit c = true) :
    isBlank c = false ∧ c ≠ '-' ∧ c ≠ '+' := by
  have range := (isAsciiDigit_iff c).1 digit
  refine ⟨?_, ?_, ?_⟩
  · simp [isBlank]
    omega
  · rintro rfl
    exact absurd range (by decide)
  · rintro rfl
    exact absurd range (by decide)

/-- A numeral in front of a text is found with all digits that follow it. -/
theorem numeral?_append {n : Numeral} (proper : n.Proper) (rest : List Char) :
    numeral? (n.text ++ rest) =
      some ⟨n.blanks, n.sign, n.digits ++ rest.takeWhile isAsciiDigit,
        rest.dropWhile isAsciiDigit⟩ := by
  obtain ⟨blanks, sign, digits, _⟩ := n
  obtain ⟨blank, signed, digit, filled⟩ := proper
  simp only at blank signed digit filled
  obtain ⟨first, others, rfl⟩ := List.exists_cons_of_ne_nil filled
  obtain ⟨solid, unlike⟩ := isBlank_of_isAsciiDigit (digit first List.mem_cons_self)
  have taken : (first :: (others ++ rest)).takeWhile isAsciiDigit
      = first :: others ++ rest.takeWhile isAsciiDigit := List.takeWhile_append_of_pos digit
  have dropped : (first :: (others ++ rest)).dropWhile isAsciiDigit
      = rest.dropWhile isAsciiDigit := List.dropWhile_append_of_pos digit
  rcases signed with rfl | rfl | rfl
  · obtain ⟨front, body⟩ := takeWhile_dropWhile_blanks blank solid (others ++ rest)
    simp [numeral?, Numeral.text, front, body, unlike, taken, dropped]
  · obtain ⟨front, body⟩ := takeWhile_dropWhile_blanks blank (show isBlank '+' = false by decide)
      (first :: (others ++ rest))
    simp [numeral?, Numeral.text, front, body, taken, dropped]
  · obtain ⟨front, body⟩ := takeWhile_dropWhile_blanks blank (show isBlank '-' = false by decide)
      (first :: (others ++ rest))
    simp [numeral?, Numeral.text, front, body, taken, dropped]

/-- At most one character in front is a sign. -/
theorem sign_append (body : List Char) :
    let sign := (body.take 1).filter fun c => c = '-' || c = '+'
    (sign = [] ∨ sign = ['+'] ∨ sign = ['-']) ∧ sign ++ body.drop sign.length = body := by
  cases body with
  | nil => simp
  | cons c rest =>
    by_cases minus : c = '-'
    · simp [minus]
    · by_cases plus : c = '+'
      · simp [plus]
      · simp [minus, plus]

/-- What is found is a numeral at the front of the text. -/
theorem numeral?_ok {text : List Char} {n : Numeral} (found : numeral? text = some n) :
    n.Proper ∧ n.text ++ n.rest = text := by
  obtain ⟨signed, whole⟩ := sign_append (text.dropWhile isBlank)
  unfold numeral? at found
  simp only at found
  generalize ((text.dropWhile isBlank).take 1).filter (fun c => c = '-' || c = '+') = sign
    at found signed whole
  generalize (text.dropWhile isBlank).drop sign.length = body at found whole
  split at found
  · cases found
  · rename_i filled
    cases found
    refine ⟨⟨?_, signed, ?_, filled⟩, ?_⟩
    · exact fun c member => List.mem_takeWhile_imp member
    · exact fun c member => List.mem_takeWhile_imp member
    · rw [Numeral.text, List.append_assoc, List.append_assoc, List.takeWhile_append_dropWhile,
        whole, List.takeWhile_append_dropWhile]

/-- A numeral at the front is found unless there is none. -/
theorem numeral?_eq_none_iff {text : List Char} :
    numeral? text = none ↔ ∀ front, front <+: text → ¬ IsNumeral front := by
  constructor
  · rintro missing front ⟨rest, rfl⟩ ⟨n, proper, rfl⟩
    rw [numeral?_append proper] at missing
    cases missing
  · intro absent
    cases found : numeral? text with
    | none => rfl
    | some n =>
      obtain ⟨proper, rfl⟩ := numeral?_ok found
      exact absurd ⟨n, proper, rfl⟩ (absent n.text (List.prefix_append n.text n.rest))

/-- The numeral that is found is the longest one at the front. -/
theorem longest_of_numeral? {text : List Char} {n : Numeral} (found : numeral? text = some n) :
    Longest n.text text := by
  obtain ⟨proper, whole⟩ := numeral?_ok found
  refine ⟨⟨n, proper, rfl⟩, ⟨n.rest, whole⟩, ?_⟩
  rintro _ ⟨m, proper', rfl⟩ ⟨rest, rfl⟩
  rw [numeral?_append proper'] at found
  cases found
  simp only [Numeral.text, List.length_append]
  omega

/-- The numeral that a whole text is. -/
theorem numeral?_text {n : Numeral} (proper : n.Proper) :
    numeral? n.text = some ⟨n.blanks, n.sign, n.digits, []⟩ := by
  have found := numeral?_append proper []
  rwa [List.append_nil, List.takeWhile_nil, List.append_nil, List.dropWhile_nil] at found

/-- A text has at most one reading as a numeral. -/
theorem parts_of_text_eq {n m : Numeral} (proper : n.Proper) (proper' : m.Proper)
    (same : n.text = m.text) : n.blanks = m.blanks ∧ n.sign = m.sign ∧ n.digits = m.digits := by
  have found := numeral?_text proper
  rw [same, numeral?_text proper'] at found
  obtain ⟨blanks, sign, digits, -⟩ := Numeral.mk.inj (Option.some.inj found)
  exact ⟨blanks.symm, sign.symm, digits.symm⟩

theorem value_of_text_eq {n m : Numeral} (proper : n.Proper) (proper' : m.Proper)
    (same : n.text = m.text) : n.value = m.value := by
  obtain ⟨-, sign, digits⟩ := parts_of_text_eq proper proper' same
  rw [Numeral.value, Numeral.value, sign, digits]

end Front

section Integer

/-- Integers are read from the numerals that are readable. -/
theorem readInteger_numeral {n : Numeral} (proper : n.Proper) :
    (n.Readable → readInteger 10 n.text = .ok n.value) ∧
      (¬ n.Readable → ∃ error, readInteger 10 n.text = .error error) := by
  by_cases padding : ∀ c ∈ n.blanks, isSeparator c = false
  · have read := readInteger_padded proper.blanks proper.sign proper.digits proper.filled padding
    constructor
    · rintro ⟨-, short⟩
      rw [Numeral.text, read, if_neg (Nat.not_lt.2 short), Numeral.value]
    · intro unreadable
      have long : digitLimit < n.digits.length :=
        Nat.lt_of_not_le fun short => unreadable ⟨padding, short⟩
      rw [Numeral.text, read, if_pos long]
      exact ⟨_, rfl⟩
  · constructor
    · rintro ⟨clear, -⟩
      exact absurd clear padding
    · rintro -
      simp only [not_forall, Bool.not_eq_false] at padding
      obtain ⟨c, member, separator⟩ := padding
      rw [Numeral.text, List.append_assoc]
      exact readInteger_separator proper.blanks member separator (n.sign ++ n.digits)

/-- A text that is a numeral is its integer, if the numeral is readable. -/
theorem parseInteger_numeral {n : Numeral} (proper : n.Proper) :
    parseInteger n.text =
      if n.Readable then .ok n.value else .error (.tooManyDigits (n.sign = ['-']) n.text.length) := by
  obtain ⟨reads, refuses⟩ := readInteger_numeral proper
  have text : Numeral.text ⟨n.blanks, n.sign, n.digits, []⟩ = n.text := rfl
  have nonempty : n.text.isEmpty = false := by
    rw [List.isEmpty_eq_false_iff]
    exact List.append_ne_nil_of_right_ne_nil _ proper.filled
  unfold parseInteger
  rw [nonempty, numeral?_text proper]
  by_cases readable : n.Readable
  · simp only [text, reads readable, if_pos readable]
    rfl
  · obtain ⟨error, refused⟩ := refuses readable
    simp only [text, refused, if_neg readable]
    rfl

/-- The numeral that an integer is written as. -/
def Numeral.ofInt (value : Int) : Numeral where
  blanks := []
  sign := if value < 0 then ['-'] else []
  digits := decimal value.natAbs
  rest := []

theorem Numeral.proper_ofInt (value : Int) : (ofInt value).Proper where
  blanks c member := by cases member
  sign := by
    unfold ofInt
    by_cases negative : value < 0
    · simp [negative]
    · simp [negative]
  digits c := isAsciiDigit_of_mem_decimal
  filled := digits_ne_nil 10 value.natAbs

theorem Numeral.text_ofInt (value : Int) : (ofInt value).text = signedDecimal value := by
  unfold text ofInt signedDecimal
  by_cases negative : value < 0
  · simp [negative]
  · simp [negative]

theorem Numeral.value_ofInt (number : Int) : (ofInt number).value = number := by
  have size : ofDigits 10 (decimal number.natAbs) = number.natAbs :=
    ofDigits_digits (by decide) (by decide) _
  unfold value ofInt
  rw [size]
  by_cases negative : number < 0
  · simp only [if_pos negative, if_true]
    omega
  · simp [negative]
    omega

end Integer

end Clat.Reader
