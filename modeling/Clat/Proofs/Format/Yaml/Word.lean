import Clat.Format.Yaml.Scan.Fetch

/-! Words on a line. A run of letters, digits, dots and colons is one plain scalar, up to a blank,
the end of the line, or a colon before either. -/
namespace Clat.Format.Yaml

/-- Digits, small letters and the underscore. -/
def nameChars : List Char := "0123456789abcdefghijklmnopqrstuvwxyz_".toList

/-- The characters of words: those of names, the dot and the colon. -/
def wordChars : List Char := '.' :: ':' :: nameChars

/-- Whether a character takes one column of a line. -/
def Inline (c : Char) : Prop := isBreak c = false ∧ c ≠ '\ufeff'

/-- Whether a character stands in a line and is neither a blank nor the start of a comment. -/
structure Solid (c : Char) : Prop where
  inline : Inline c
  space : c ≠ ' '
  tab : c ≠ '\t'
  remark : c ≠ '#'

instance (c : Char) : Decidable (Inline c) := inferInstanceAs (Decidable (_ ∧ _))

instance (c : Char) : Decidable (Solid c) :=
  decidable_of_iff (Inline c ∧ c ≠ ' ' ∧ c ≠ '\t' ∧ c ≠ '#')
    ⟨fun ⟨inline, space, tab, remark⟩ => ⟨inline, space, tab, remark⟩,
      fun ⟨inline, space, tab, remark⟩ => ⟨inline, space, tab, remark⟩⟩

section Chars

variable {c : Char}

theorem solid_of_word (word : c ∈ wordChars) : Solid c := by
  have all : wordChars.all (fun c => decide (Solid c)) = true := by decide
  simpa using List.all_eq_true.1 all c word

theorem isAllowed_of_word (word : c ∈ wordChars) : isAllowed c = true := by
  have all : wordChars.all isAllowed = true := by decide
  exact List.all_eq_true.1 all c word

theorem not_endsToken_of_word (word : c ∈ wordChars) : endsToken (some c) = false := by
  have all : wordChars.all (fun c => !endsToken (some c)) = true := by decide
  simpa using List.all_eq_true.1 all c word

theorem word_of_name (name : c ∈ nameChars) : c ∈ wordChars :=
  List.mem_cons_of_mem _ (List.mem_cons_of_mem _ name)

theorem marks_not_name : ':' ∉ nameChars ∧ '.' ∉ nameChars := by decide

end Chars

/-- Whether a text can be the key of a line: a name that is not too long. -/
structure IsName (key : List Char) : Prop where
  filled : key ≠ []
  name : ∀ c ∈ key, c ∈ nameChars
  short : key.length ≤ Scanner.keyReach

theorem IsName.word {key : List Char} (isName : IsName key) : ∀ c ∈ key, c ∈ wordChars :=
  fun c member => word_of_name (isName.name c member)

section Marks

variable {c : Char} {passed rest run : List Char}

/-- The place in the first line of a text that has some characters before it. -/
def Mark.inLine (passed rest : List Char) : Mark :=
  ⟨passed.length, 0, passed.length, passed.reverse, rest⟩

theorem Mark.ofText_eq (text : List Char) : ofText text = inLine [] text := rfl

@[simp]
theorem Mark.column_inLine (passed rest : List Char) :
    (inLine passed rest).column = passed.length := rfl

theorem Mark.step_inLine (inline : Inline c) :
    (inLine passed (c :: rest)).step = inLine (passed ++ [c]) rest := by
  obtain ⟨line, mark⟩ := inline
  unfold step inLine
  simp [line, mark]

theorem Mark.advance_inLine (inline : ∀ c ∈ run, Inline c) :
    (inLine passed (run ++ rest)).advance run.length = inLine (passed ++ run) rest := by
  induction run generalizing passed with
  | nil => rw [List.append_nil]; rfl
  | cons c run ih =>
    obtain ⟨first, others⟩ := List.forall_mem_cons.1 inline
    rw [List.cons_append, List.length_cons, advance, step_inLine first, ih others,
      List.append_assoc, List.singleton_append]

theorem inline_space : Inline ' ' := by decide

theorem inline_colon : Inline ':' := by decide

/-- Nothing is passed over at a character of a token. -/
theorem skipComment_solid (solid : Solid c) :
    skipComment (.inLine passed (c :: rest)) = .inLine passed (c :: rest) := by
  unfold skipComment Mark.skipWhile Mark.takeWhile Mark.peek
  simp [Mark.inLine, solid.space, solid.remark, Mark.advance]

theorem skipComment_space (solid : Solid c) :
    skipComment (.inLine passed (' ' :: c :: rest)) = .inLine (passed ++ [' ']) (c :: rest) := by
  have blank : (Mark.inLine passed (' ' :: c :: rest)).skipWhile (· = ' ')
      = .inLine (passed ++ [' ']) (c :: rest) := by
    unfold Mark.skipWhile Mark.takeWhile
    simp only [Mark.inLine, List.takeWhile_cons, solid.space, decide_true, decide_false, if_true,
      Bool.false_eq_true, if_false]
    exact Mark.step_inLine inline_space
  have remark : (Mark.inLine (passed ++ [' ']) (c :: rest)).peek ≠ some '#' := by
    simpa [Mark.peek, Mark.inLine] using solid.remark
  unfold skipComment
  simp only [blank]
  rw [if_neg remark]

theorem skipComment_end {mark : Mark} (ahead : mark.ahead = []) : skipComment mark = mark := by
  unfold skipComment Mark.skipWhile Mark.takeWhile Mark.peek
  simp [ahead, Mark.advance]

theorem lineBreak_inline (inline : Inline c) :
    lineBreak (.inLine passed (c :: rest)) = ([], .inLine passed (c :: rest)) := by
  have plain : isBreak c = false := inline.1
  unfold lineBreak Mark.inLine
  split
  · simp_all [isBreak]
  · simp_all [isBreak]
  · simp_all

theorem lineBreak_end {mark : Mark} (ahead : mark.ahead = []) : lineBreak mark = ([], mark) := by
  unfold lineBreak
  rw [ahead]

end Marks

section Runs

variable {c : Char} {run rest passed : List Char}

/-- A run of words goes on as long as their characters, if no colon at its end ends a key. -/
theorem plainRun_append (word : ∀ c ∈ run, c ∈ wordChars)
    (goesOn : run.getLast? = some ':' → endsToken rest.head? = false) :
    plainRun false (run ++ rest) = run ++ plainRun false rest := by
  induction run with
  | nil => rfl
  | cons c run ih =>
    obtain ⟨first, others⟩ := List.forall_mem_cons.1 word
    have solid := solid_of_word first
    have key : (decide (c = ':') && endsKey false (run ++ rest).head?) = false := by
      by_cases is : c = ':'
      · have more : endsToken (run ++ rest).head? = false := by
          cases run with
          | nil => exact goesOn (congrArg some is)
          | cons next run => exact not_endsToken_of_word (others next List.mem_cons_self)
        rw [endsKey, more, Bool.false_and, Bool.or_false, Bool.and_false]
      · rw [decide_eq_false is, Bool.false_and]
    have later : plainRun false (run ++ rest) = run ++ plainRun false rest := by
      apply ih others
      intro last
      apply goesOn
      rw [List.getLast?_cons, last]
      rfl
    have inline : isBreak c = false := solid.inline.1
    rw [List.cons_append, plainRun]
    simp only [solid.space, solid.tab, inline, key, later, decide_false, Bool.or_false,
      Bool.false_and, Bool.false_eq_true, if_false, List.cons_append]

theorem plainRun_colon (ends : endsToken rest.head? = true) :
    plainRun false (':' :: rest) = [] := by
  have inline : isBreak ':' = false := by decide
  rw [plainRun]
  simp [inline, endsKey, ends]

theorem scanGap_inline (solid : Solid c) :
    scanGap (.inLine passed (c :: rest)) = ⟨[], false, .inLine passed (c :: rest)⟩ := by
  have stays : (Mark.inLine passed (c :: rest)).takeWhile (· = ' ')
      = ([], .inLine passed (c :: rest)) := by
    unfold Mark.takeWhile
    simp [Mark.inLine, solid.space, Mark.advance]
  unfold scanGap
  simp only [stays, lineBreak_inline solid.inline]

/-- What may follow the last word of a text: nothing, or the end of the line. -/
def IsEnding (ending : List Char) : Prop := ending = [] ∨ ending = ['\n']

/-- A scalar ends where nothing but the end of the line follows it. -/
theorem scanGap_ending {ending : List Char} (isEnding : IsEnding ending) (passed : List Char) :
    ((scanGap (.inLine passed ending)).text = [] ∨
        (scanGap (.inLine passed ending)).next.column = 0) ∧
      (scanGap (.inLine passed ending)).next.ahead = [] := by
  rcases isEnding with rfl | rfl
  · exact ⟨.inl rfl, rfl⟩
  · exact ⟨.inr rfl, rfl⟩

/-- A run of words that ends where it stands is one scalar. -/
theorem scanPlain_run (filled : run ≠ []) (word : ∀ c ∈ run, c ∈ wordChars)
    (whole : plainRun false (run ++ rest) = run) (passed : List Char) (parent : Int)
    (ends : (scanGap (.inLine (passed ++ run) rest)).text = [] ∨
      (scanGap (.inLine (passed ++ run) rest)).next.column < parent + 1) :
    scanPlain false parent (.inLine passed (run ++ rest)) =
      (⟨.scalar (String.ofList run) true, .inLine passed (run ++ rest),
          .inLine (passed ++ run) rest⟩,
        (scanGap (.inLine (passed ++ run) rest)).next,
        (scanGap (.inLine (passed ++ run) rest)).feeds) := by
  have stop : (Mark.inLine passed (run ++ rest)).advance run.length
      = .inLine (passed ++ run) rest :=
    Mark.advance_inLine fun c member => (solid_of_word (word c member)).inline
  obtain ⟨first, others, rfl⟩ := List.exists_cons_of_ne_nil filled
  have solid := solid_of_word (word first List.mem_cons_self)
  have remark : (Mark.inLine passed (first :: others ++ rest)).peek ≠ some '#' := by
    simpa [Mark.peek, Mark.inLine] using solid.remark
  have ahead : (Mark.inLine passed (first :: others ++ rest)).ahead = first :: others ++ rest := rfl
  obtain ⟨gap, after⟩ : ∃ gap, scanGap (.inLine (passed ++ first :: others) rest) = gap := ⟨_, rfl⟩
  rw [after] at ends ⊢
  have stops : (gap.text.isEmpty || (!false && decide (gap.next.column < parent + 1))) = true := by
    rcases ends with empty | outdented
    · rw [empty, List.isEmpty_nil, Bool.true_or]
    · rw [decide_eq_true outdented, Bool.not_false, Bool.and_true, Bool.or_true]
  unfold scanPlain
  unfold scanRuns
  rw [if_neg remark]
  simp only [ahead, whole, stop, after, stops, if_true, List.nil_append, List.append_nil]

end Runs

end Clat.Format.Yaml
