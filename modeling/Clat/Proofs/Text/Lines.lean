import Clat.Text.Blank
import Clat.Text.Lines
import Mathlib.Data.List.TakeWhile

/-! Lines and the blanks around them. Every character that ends a line is a blank. A text falls
into lines at its line ends, and what is trimmed off a text are the blanks around it. -/
namespace Clat.Text

theorem isBlank_of_endsLine {c : Char} (ends : endsLine c = true) : isBlank c = true := by
  simp only [endsLine, isBlank, Bool.or_eq_true, Bool.and_eq_true, decide_eq_true_eq] at ends ⊢
  omega

theorem lines_cons_of_plain {c : Char} (plain : endsLine c = false) {first : List Char}
    {others : List (List Char)} {rest : List Char} (read : lines rest = first :: others) :
    lines (c :: rest) = (c :: first) :: others := by
  rw [lines, if_neg (by rw [plain]; exact Bool.false_ne_true), read]
  · rfl
  · rintro rest' rfl -
    cases plain

theorem lines_cons_of_ends {c : Char} (ends : endsLine c = true) {rest : List Char}
    (unpaired : c = '\r' → rest.head? ≠ some '\n') : lines (c :: rest) = [] :: lines rest := by
  rw [lines, if_pos ends]
  rintro rest' rfl rfl
  exact unpaired rfl rfl

/-- What stands before the first line end is put in front of the first line. -/
theorem lines_append_of_plain {line : List Char} (one : ∀ c ∈ line, endsLine c = false)
    {first : List Char} {others : List (List Char)} {rest : List Char}
    (read : lines rest = first :: others) : lines (line ++ rest) = (line ++ first) :: others := by
  induction line with
  | nil => exact read
  | cons c line ih =>
    obtain ⟨start, more⟩ := List.forall_mem_cons.1 one
    exact lines_cons_of_plain start (ih more)

theorem lines_of_plain {line : List Char} (one : ∀ c ∈ line, endsLine c = false)
    (some : line ≠ []) : lines line = [line] := by
  induction line with
  | nil => exact absurd rfl some
  | cons c line ih =>
    obtain ⟨start, more⟩ := List.forall_mem_cons.1 one
    cases line with
    | nil =>
      rw [lines, if_neg (by rw [start]; exact Bool.false_ne_true)]
      · rfl
      · rintro rest' rfl -
        cases start
    | cons second rest => exact lines_cons_of_plain start (ih more (List.cons_ne_nil second rest))

theorem lines_ne_nil {text : List Char} (some : text ≠ []) : lines text ≠ [] := by
  fun_cases lines text with
  | case1 => exact absurd rfl some
  | case2 => exact List.cons_ne_nil _ _
  | case3 => exact List.cons_ne_nil _ _
  | case4 c rest _ plain =>
    cases lines rest <;> exact List.cons_ne_nil _ _

/-- A text that ends with a line end may be cut off, unless that is in the middle of a pair. -/
theorem lines_append_of_ended {text rest : List Char}
    (ended : ∀ c, text.getLast? = some c → endsLine c = true)
    (apart : text.getLast? = some '\r' → rest.head? ≠ some '\n') :
    lines (text ++ rest) = lines text ++ lines rest := by
  fun_induction lines text with
  | case1 => rfl
  | case2 text ih =>
    have cut : lines (text ++ rest) = lines text ++ lines rest := by
      cases text with
      | nil => rfl
      | cons c text => exact ih ended apart
    rw [List.cons_append, List.cons_append, lines, cut, List.cons_append]
  | case3 c text unpaired ends ih =>
    have cut : lines (text ++ rest) = lines text ++ lines rest := by
      cases text with
      | nil => rfl
      | cons second text => exact ih ended apart
    rw [List.cons_append, lines, if_pos ends, cut, List.cons_append]
    rintro rest' rfl paired
    cases text with
    | nil =>
      rw [List.nil_append] at paired
      exact apart rfl (by rw [paired]; rfl)
    | cons second text =>
      cases paired
      exact unpaired _ rfl rfl
  | case4 c text unpaired plain ih =>
    cases text with
    | nil => exact absurd (ended c rfl) plain
    | cons second text =>
      have cut := ih ended apart
      obtain ⟨first, others, read⟩ := List.exists_cons_of_ne_nil
        (lines_ne_nil (List.cons_ne_nil second text))
      rw [read] at cut ⊢
      have start : endsLine c = false := by simpa using plain
      exact lines_cons_of_plain start cut

theorem unifyLineEnds_of_not_mem {text : List Char} (free : '\r' ∉ text) :
    unifyLineEnds text = text := by
  induction text with
  | nil => rfl
  | cons c text ih =>
    rw [List.mem_cons, not_or] at free
    rw [unifyLineEnds, ih free.2]
    · rintro rest rfl -
      exact free.1 rfl
    · rintro rfl
      exact free.1 rfl

/-- The end of a text is trimmed first; the blanks before it go only if nothing is left of it. -/
theorem trimEnd_append (text rest : List Char) :
    trimEnd (text ++ rest) =
      if trimEnd rest = [] then trimEnd text else text ++ trimEnd rest := by
  induction text with
  | nil =>
    by_cases empty : trimEnd rest = []
    · rw [if_pos empty, List.nil_append, empty, trimEnd]
    · rw [if_neg empty, List.nil_append, List.nil_append]
  | cons c text ih =>
    rw [List.cons_append, trimEnd, ih]
    by_cases empty : trimEnd rest = []
    · rw [if_pos empty, if_pos empty, trimEnd]
    · rw [if_neg empty, if_neg empty, List.cons_append]
      cases text <;> simp

theorem trimEnd_of_blank {text : List Char} (all : ∀ c ∈ text, isBlank c = true) :
    trimEnd text = [] := by
  induction text with
  | nil => rfl
  | cons c text ih =>
    obtain ⟨first, others⟩ := List.forall_mem_cons.1 all
    rw [trimEnd, ih others]
    exact if_pos first

/-- Blanks at the end are taken off, up to a character that is none. -/
theorem trimEnd_append_blank {text blanks : List Char} (all : ∀ c ∈ blanks, isBlank c = true)
    (solid : ∀ c, text.getLast? = some c → isBlank c = false) :
    trimEnd (text ++ blanks) = text := by
  rw [trimEnd_append, if_pos (trimEnd_of_blank all)]
  induction text with
  | nil => rfl
  | cons c text ih =>
    cases text with
    | nil =>
      have last : isBlank c = false := solid c rfl
      rw [trimEnd, trimEnd]
      exact if_neg (by rw [last]; exact Bool.false_ne_true)
    | cons second text =>
      rw [trimEnd, ih solid]

theorem trim_of_blank {text : List Char} (all : ∀ c ∈ text, isBlank c = true) :
    trim text = [] := by
  rw [trim, List.dropWhile_eq_nil_iff.2 all, trimEnd]

/-- Blanks around a text are taken off, if it neither starts nor ends with one. -/
theorem trim_append_blank {front text back : List Char} (before : ∀ c ∈ front, isBlank c = true)
    (after : ∀ c ∈ back, isBlank c = true)
    (start : ∀ c, text.head? = some c → isBlank c = false)
    (stop : ∀ c, text.getLast? = some c → isBlank c = false) :
    trim (front ++ text ++ back) = text := by
  cases text with
  | nil =>
    apply trim_of_blank
    intro c member
    rw [List.append_nil, List.mem_append] at member
    exact member.elim (before c) (after c)
  | cons c text =>
    have first : isBlank c = false := start c rfl
    rw [trim, List.append_assoc, List.dropWhile_append_of_pos before, List.cons_append,
      List.dropWhile_cons_of_neg (by rw [first]; exact Bool.false_ne_true), ← List.cons_append]
    exact trimEnd_append_blank after stop

/-- What is trimmed off the end are blanks. -/
theorem exists_trimEnd (text : List Char) :
    ∃ blanks, text = trimEnd text ++ blanks ∧ (∀ c ∈ blanks, isBlank c = true) ∧
      ∀ c, (trimEnd text).getLast? = some c → isBlank c = false := by
  induction text with
  | nil => exact ⟨[], rfl, by simp, by simp [trimEnd]⟩
  | cons c text ih =>
    obtain ⟨blanks, form, all, solid⟩ := ih
    rw [trimEnd]
    cases kept : trimEnd text with
    | nil =>
      rw [kept, List.nil_append] at form
      subst form
      cases first : isBlank c with
      | true => exact ⟨c :: text, by simp, List.forall_mem_cons.2 ⟨first, all⟩, by simp⟩
      | false => exact ⟨text, by simp, all, by simp [first]⟩
    | cons second others =>
      rw [kept] at form solid
      exact ⟨blanks, by rw [List.cons_append, ← form], all, solid⟩

end Clat.Text
