import Clat.Proofs.Number.Limit

/-! Blanks in front of integers. Every blank may stand there but the information separators: these
are no part of an integer, and nothing behind one is read. -/
namespace Clat.Number

open Clat.Text

theorem isPlainBlank_plainChar {c : Char} (blank : isBlank c = true)
    (other : isSeparator c = false) : isPlainBlank (plainChar c) = true := by
  by_cases low : c.toNat < 0x7f
  · have same : plainChar c = c := if_pos low
    have place : c.toNat = 0x20 ∨ 9 ≤ c.toNat ∧ c.toNat ≤ 0x0d := by
      simp [isBlank] at blank
      simp [isSeparator] at other
      omega
    rw [same, isPlainBlank]
    rcases place with space | range
    · have space : c = ' ' := Char.ext (UInt32.toNat_inj.1 space)
      rw [space]
      decide
    · simp [range]
  · rw [plainChar, if_neg low, if_pos blank]
    decide

section Separator

variable {c : Char} (separator : isSeparator c = true)
include separator

theorem separator_range : 0x1c ≤ c.toNat ∧ c.toNat ≤ 0x1f := by
  simpa [isSeparator] using separator

theorem isPlainBlank_separator : isPlainBlank (plainChar c) = false := by
  have range := separator_range separator
  have same : plainChar c = c := if_pos (by omega)
  have other : c ≠ ' ' := by
    rintro rfl
    exact absurd range (by decide)
  rw [same, isPlainBlank]
  simp [other]
  omega

/-- A numeral does not start with a separator. -/
theorem readPlain_separator (shown rest : List Char) :
    readPlain 10 shown (plainChar c :: rest) = .error (.notANumeral 10 shown) := by
  have range := separator_range separator
  have same : plainChar c = c := if_pos (by omega)
  have unlike (other : Char) (far : ¬ (0x1c ≤ other.toNat ∧ other.toNat ≤ 0x1f)) : c ≠ other := by
    rintro rfl
    exact far range
  have noDigit : (isDigitOf 10 c || decide (c = '_')) = false := by
    have none : digitValue? c = none := by
      simp only [digitValue?, Bool.and_eq_true, decide_eq_true_eq]
      rw [if_neg (by omega), if_neg (by omega), if_neg (by omega)]
    simp [isDigitOf, none, unlike '_' (by decide)]
  have unsigned : takeSign (c :: rest) = (false, c :: rest) := by
    unfold takeSign
    split
    · rename_i minus
      exact absurd (List.cons.inj minus).1 (unlike _ (by decide))
    · rename_i plus
      exact absurd (List.cons.inj plus).1 (unlike _ (by decide))
    · rfl
  have solid := isPlainBlank_separator separator
  rw [same] at solid ⊢
  simp [readPlain, solid, unsigned, dropBaseMark_ten, noDigit, wellGrouped]

end Separator

section Blanks

variable {blanks : List Char} (blank : ∀ c ∈ blanks, isBlank c = true)
include blank

theorem dropWhile_padding (padding : ∀ c ∈ blanks, isSeparator c = false) (rest : List Char) :
    ((blanks ++ rest).map plainChar).dropWhile isPlainBlank
      = (rest.map plainChar).dropWhile isPlainBlank := by
  rw [List.map_append, List.dropWhile_append_of_pos]
  intro c member
  obtain ⟨other, among, rfl⟩ := List.mem_map.1 member
  exact isPlainBlank_plainChar (blank other among) (padding other among)

/-- Nothing is read behind a separator. -/
theorem readInteger_separator {c : Char} (member : c ∈ blanks) (separator : isSeparator c = true)
    (rest : List Char) : ∃ error, readInteger 10 (blanks ++ rest) = .error error := by
  rw [readInteger]
  generalize quoted (blanks ++ rest) = shown
  induction blanks with
  | nil => cases member
  | cons first others ih =>
    by_cases stops : isSeparator first = true
    · exact ⟨_, readPlain_separator stops shown ((others ++ rest).map plainChar)⟩
    · have later : c ∈ others := by
        refine (List.mem_cons.1 member).resolve_left ?_
        rintro rfl
        exact stops separator
      have alone : ∀ c ∈ [first], isBlank c = true := by simpa using blank first List.mem_cons_self
      have skipped := dropWhile_padding alone (by simpa using stops) (others ++ rest)
      obtain ⟨error, refused⟩ := ih (fun c member => blank c (List.mem_cons_of_mem first member))
        later
      refine ⟨error, refused ▸ ?_⟩
      rw [List.singleton_append, ← List.cons_append] at skipped
      rw [readPlain, readPlain, skipped]

variable {sign whole : List Char} (signed : sign = [] ∨ sign = ['+'] ∨ sign = ['-'])
  (digits : ∀ c ∈ whole, isAsciiDigit c = true) (some : whole ≠ [])
include signed digits some

/-- An integer with a sign and digits is read behind blanks, unless its digits are too many. -/
theorem readInteger_padded (padding : ∀ c ∈ blanks, isSeparator c = false) :
    readInteger 10 (blanks ++ sign ++ whole) =
      if digitLimit < whole.length then .error (.tooManyDigits whole.length)
      else .ok (if sign = ['-'] then -(ofDigits 10 whole : Int) else ofDigits 10 whole) := by
  have split : takeSign (((blanks ++ sign ++ whole).map plainChar).dropWhile isPlainBlank)
      = (decide (sign = ['-']), whole) := by
    rw [List.append_assoc, dropWhile_padding blank padding]
    rcases signed with rfl | rfl | rfl
    · exact takeSign_digits digits false some
    · have plus : plainChar '+' = '+' := by decide
      rw [List.singleton_append, List.map_cons, map_plainChar_digits digits, plus,
        List.dropWhile_cons_of_neg (by decide), takeSign]
      rfl
    · exact takeSign_digits digits true some
  rw [readInteger, readPlain_digits digits some split]
  simp only [decide_eq_true_eq]

end Blanks

end Clat.Number
