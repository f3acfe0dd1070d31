import Clat.Format.Yaml.Construct
import Clat.Proofs.Text.Split

/-! Forms of plain scalars. A text with a colon in it and no point or sign is an integer in base 60,
or a text; decimal digits with two points between them are a text. -/
namespace Clat.Format.Yaml

open Clat.Number Clat.Text

variable {text : List Char} {c : Char}

theorem isWordOf_of_mem {words : List String} (member : c ∈ text)
    (foreign : ∀ word ∈ words, c ∉ word.toList) : isWordOf words text = false := by
  rw [isWordOf, List.contains_eq_mem, decide_eq_false_iff_not]
  intro among
  apply foreign _ among
  rw [String.toList_ofList]
  exact member

theorem dropFeed_of_not_mem (free : '\n' ∉ text) : dropFeed text = text := by
  rw [dropFeed, if_neg fun last => free (List.mem_of_getLast? last)]

theorem dropSign_of_not_mem (minus : '-' ∉ text) (plus : '+' ∉ text) : dropSign text = text := by
  unfold dropSign
  split
  · exact absurd List.mem_cons_self minus
  · exact absurd List.mem_cons_self plus
  · rfl

theorem after?_of_not_mem (free : c ∉ text) : after? c text = none := by
  cases text with
  | nil => rfl
  | cons head rest => rw [after?, if_neg fun same => free (by rw [same]; exact List.mem_cons_self)]

/-- A date has minus signs between its parts. -/
theorem isMomentForm_of_not_mem (free : '-' ∉ text) : isMomentForm text = false := by
  have none : readMoment? text = none := by
    unfold readMoment?
    cases taken : takeDigits? 4 4 text with
    | none => rfl
    | some found =>
      obtain ⟨year, rest⟩ := found
      unfold takeDigits? at taken
      simp only [Option.ite_none_left_eq_some, Option.some.injEq, Prod.mk.injEq] at taken
      obtain ⟨-, -, rfl⟩ := taken
      have undashed (size : Nat) : after? '-' (text.drop size) = none :=
        after?_of_not_mem fun member => free (List.mem_of_mem_drop member)
      simp only [Option.bind_eq_bind, Option.bind_some, undashed, Option.bind_none]
  rw [isMomentForm, none]

theorem isFraction_of_not_mem (free : '.' ∉ text) : isFraction text = false := by
  unfold isFraction
  split
  · exact absurd List.mem_cons_self free
  · rfl

/-- A float has a point, with colons in it too. -/
theorem isFloatForm_of_not_mem (free : '.' ∉ text) (colon : ':' ∈ text)
    (signs : dropSign text = text) : isFloatForm text = false := by
  have some (words : List String) (foreign : ∀ word ∈ words, ':' ∉ word.toList) :
      isWordOf words text = false := isWordOf_of_mem colon foreign
  have body : isFloatBody text = false := by
    rw [isFloatBody, isFraction_of_not_mem, Bool.and_false]
    exact fun member => free (List.dropWhile_subset _ member)
  have sixty : isSixtyFloat text = false := by
    have pointless : (text.dropWhile isDigitMark).dropWhile (· ≠ '.') = [] := by
      rw [List.dropWhile_eq_nil_iff]
      intro c member
      have inside := List.dropWhile_subset _ member
      simp
      rintro rfl
      exact free inside
    rw [isSixtyFloat, pointless, Bool.and_false]
  have bare : isBareFraction text = false := by
    rw [isBareFraction, isFraction_of_not_mem free, Bool.false_and]
  rw [isFloatForm, signs, body, bare, sixty, some _ (by decide), some _ (by decide)]
  rfl

/-- A text with a colon and without a point or a sign is an integer or a text. -/
theorem resolvePlain_of_colon (colon : ':' ∈ text)
    (free : '.' ∉ text ∧ '-' ∉ text ∧ '+' ∉ text ∧ '\n' ∉ text) :
    resolvePlain text = coreTag (if isIntegerBody text then "int" else "str") := by
  obtain ⟨point, minus, plus, feed⟩ := free
  have signs := dropSign_of_not_mem minus plus
  have no (words : List String) (foreign : ∀ word ∈ words, ':' ∉ word.toList) :
      isWordOf words text = false := isWordOf_of_mem colon foreign
  have other (word : List Char) (foreign : ':' ∉ word) : text ≠ word := by
    rintro rfl
    exact foreign colon
  have filled : decide (text = []) = false := decide_eq_false (other [] (by decide))
  have truth : isTruthForm text = false := no _ (by decide)
  have null : isNullForm text = false := no _ (by decide)
  have yaml : isWordOf ["!", "&", "*"] text = false := no _ (by decide)
  have merge : text ≠ "<<".toList := other _ (by decide)
  have value : text ≠ ['='] := other _ (by decide)
  unfold resolvePlain
  rw [dropFeed_of_not_mem feed]
  simp only [filled, Bool.and_false, truth, isFloatForm_of_not_mem point colon signs, isIntegerForm,
    signs, merge, null, isMomentForm_of_not_mem minus, value, yaml, if_false, Bool.false_eq_true]

section Sixty

variable {first rest : List Char}

/-- Whether a text is a place of a number in base 60 that others follow. -/
def isLeading : List Char → Bool
  | [] => false
  | c :: more => '1' ≤ c && c ≤ '9' && more.all isDigitMark

theorem someOf_of_mem {kind : Char → Bool} (member : c ∈ text) (other : kind c = false) :
    someOf kind text = false := by
  have not : text.all kind = false := by
    rw [List.all_eq_false]
    exact ⟨c, member, by rw [other]; decide⟩
  rw [someOf, not, Bool.and_false]

theorem isSixtyTail_colon : isSixtyTail (':' :: rest) = (splitOn ':' rest).all isSixty := by
  have some : (splitOn ':' rest).isEmpty = false := by
    rw [List.isEmpty_eq_false_iff]
    exact splitOn_ne_nil ':' rest
  rw [isSixtyTail, splitOn_cons_mark]
  simp only [some, Bool.not_false, Bool.true_and]

theorem isSixtyTail_other (other : c ≠ ':') : isSixtyTail (c :: rest) = false := by
  rw [isSixtyTail, splitOn]
  cases pieces : splitOn ':' rest with
  | nil => exact absurd pieces (splitOn_ne_nil ':' rest)
  | cons piece pieces => simp only [other, if_false]

/-- What starts with a zero has digits only. -/
theorem isIntegerBody_zero (mark : c = ':' ∨ c = '.') (member : c ∈ text) :
    isIntegerBody ('0' :: text) = false := by
  have after {d : Char} {rest : List Char} (same : '0' :: text = '0' :: d :: rest)
      (letter : d = 'b' ∨ d = 'x') : c ∈ rest := by
    rw [(List.cons.inj same).2] at member
    refine List.mem_of_ne_of_mem ?_ member
    rintro rfl
    rcases mark with rfl | rfl <;> rcases letter with clash | clash <;> cases clash
  unfold isIntegerBody
  split
  · rename_i same
    refine someOf_of_mem (after same (.inl rfl)) ?_
    rcases mark with rfl | rfl <;> decide
  · rename_i same
    refine someOf_of_mem (after same (.inr rfl)) ?_
    rcases mark with rfl | rfl <;> decide
  · rename_i same
    rw [(List.cons.inj same).2] at member
    cases member
  · rename_i same
    rw [(List.cons.inj same).2] at member
    refine someOf_of_mem member ?_
    rcases mark with rfl | rfl <;> decide
  · rename_i nonzero same
    exact absurd (List.cons.inj same).1.symm nonzero
  · rfl

theorem isIntegerBody_cons {d : Char} {more : List Char} (zero : c ≠ '0')
    (remains : text.dropWhile isDigitMark = d :: more) :
    isIntegerBody (c :: text) = ('1' ≤ c && c ≤ '9' && isSixtyTail (d :: more)) := by
  unfold isIntegerBody
  split
  · rename_i same
    exact absurd (List.cons.inj same).1 zero
  · rename_i same
    exact absurd (List.cons.inj same).1 zero
  · rename_i same
    exact absurd (List.cons.inj same).1 zero
  · rename_i same
    exact absurd (List.cons.inj same).1 zero
  · rename_i same
    obtain ⟨rfl, rfl⟩ := List.cons.inj same
    rw [remains]
  · rename_i same
    cases same

/-- With a colon in it, an integer is one in base 60. -/
theorem isIntegerBody_colon (free : ':' ∉ first) :
    isIntegerBody (first ++ ':' :: rest) = (isLeading first && (splitOn ':' rest).all isSixty) := by
  cases first with
  | nil => rfl
  | cons c more =>
    obtain ⟨start, after⟩ := List.ne_and_not_mem_of_not_mem_cons free
    by_cases zero : c = '0'
    · have colon : ':' ∈ more ++ ':' :: rest := List.mem_append_right _ List.mem_cons_self
      rw [zero, List.cons_append, isIntegerBody_zero (.inl rfl) colon]
      rfl
    rw [List.cons_append, isLeading]
    by_cases marks : more.all isDigitMark = true
    · have dropped : (more ++ ':' :: rest).dropWhile isDigitMark = ':' :: rest := by
        rw [List.dropWhile_append_of_pos (List.all_eq_true.1 marks),
          List.dropWhile_cons_of_neg (by decide)]
      rw [isIntegerBody_cons zero dropped, marks, Bool.and_true, isSixtyTail_colon]
    · obtain ⟨d, others, remains⟩ : ∃ d others, more.dropWhile isDigitMark = d :: others := by
        apply List.exists_cons_of_ne_nil
        rw [Ne, List.dropWhile_eq_nil_iff, ← List.all_eq_true]
        exact marks
      have inside : d ∈ more := by
        apply List.dropWhile_subset isDigitMark
        rw [remains]
        exact List.mem_cons_self
      have dropped : (more ++ ':' :: rest).dropWhile isDigitMark
          = d :: (others ++ ':' :: rest) := by
        rw [List.dropWhile_append, remains]
        rfl
      have other : d ≠ ':' := fun same => after (same ▸ inside)
      rw [isIntegerBody_cons zero dropped, isSixtyTail_other other, eq_false_of_ne_true marks,
        Bool.and_false, Bool.false_and]

/-- No place may be left out. -/
theorem isIntegerBody_gap (front back : List Char) :
    isIntegerBody (front ++ ':' :: ':' :: back) = false := by
  by_cases colon : ':' ∈ front
  · obtain ⟨first, more, rfl, free⟩ := List.eq_append_cons_of_mem colon
    rw [List.append_assoc, List.cons_append, isIntegerBody_colon free, splitOn_append_mark,
      splitOn_cons_mark, List.all_append, List.all_cons]
    simp [isSixty]
  · rw [isIntegerBody_colon colon, splitOn_cons_mark, List.all_cons]
    simp [isSixty]

/-- The value of places is a natural number. -/
theorem sixtyInteger_places (places : List Nat) :
    sixtyInteger (places.map Nat.cast)
      = (places.foldl (fun total place => total * 60 + place) 0 : Nat) := by
  have fromTotal (total : Nat) :
      (places.map Nat.cast).foldl (fun total place => total * 60 + place) (total : Int)
        = (places.foldl (fun total place => total * 60 + place) total : Nat) := by
    induction places generalizing total with
    | nil => rfl
    | cons place places ih =>
      have next : (total : Int) * 60 + place = (total * 60 + place : Nat) := by push_cast; rfl
      rw [List.map_cons, List.foldl_cons, next, ih, List.foldl_cons]
  exact fromTotal 0

/-- An integer in base 60 starts with a decimal digit other than zero, and has only digits and
colons. -/
theorem makeInteger_colon {places : List Int} (leading : isLeading first = true)
    (plain : '_' ∉ first ++ ':' :: rest)
    (read : (splitOn ':' (first ++ ':' :: rest)).mapM (readIn 10) = .ok places) :
    makeInteger (first ++ ':' :: rest) = .ok (sixtyInteger places) := by
  obtain ⟨c, more, rfl⟩ : ∃ c more, first = c :: more := by
    cases first with
    | nil => cases leading
    | cons c more => exact ⟨c, more, rfl⟩
  have kept : dropUnderscores (c :: more ++ ':' :: rest) = c :: more ++ ':' :: rest := by
    rw [dropUnderscores, List.filter_eq_self]
    intro d member
    simp
    rintro rfl
    exact plain member
  have other {d : Char} (low : ¬ '1' ≤ d) : c ≠ d := by
    rintro rfl
    simp [isLeading, low] at leading
  have zero : c ≠ '0' := other (by decide)
  have sign : takeNumberSign (c :: more ++ ':' :: rest)
      = .ok (false, c :: more ++ ':' :: rest) := by
    have minus : c ≠ '-' := other (by decide)
    have plus : c ≠ '+' := other (by decide)
    unfold takeNumberSign takeSign
    simp [minus, plus]
  have colon : (c :: more ++ ':' :: rest).contains ':' = true := by simp
  unfold makeInteger
  rw [kept, sign]
  simp only [bind, Except.bind]
  split
  · rename_i same
    exact absurd (List.cons.inj same).1 zero
  · rename_i same
    exact absurd (List.cons.inj same).1 zero
  · rename_i same
    exact absurd (List.cons.inj same).1 zero
  · rename_i same
    exact absurd (List.cons.inj same).1 zero
  · rename_i same
    cases same
  · rw [if_pos colon, read]
    rfl

end Sixty

section Dotted

variable {first second rest : List Char}

theorem isWordOf_of_digit {words : List String} (member : c ∈ text) (digit : isAsciiDigit c = true)
    (foreign : words.all (fun word => word.toList.all fun d => !isAsciiDigit d) = true) :
    isWordOf words text = false := by
  apply isWordOf_of_mem member
  intro word among inside
  have not := List.all_eq_true.1 (List.all_eq_true.1 foreign word among) c inside
  rw [digit] at not
  cases not

/-- A number of decimal digits goes on with a point at most once. -/
theorem isFloatForm_dotted {digit : Char} (number : isAsciiDigit digit = true)
    (signs : dropSign (digit :: text) = digit :: text)
    (remains : text.dropWhile isDigitMark = '.' :: (second ++ '.' :: rest))
    (digits : ∀ c ∈ second, isAsciiDigit c = true) : isFloatForm (digit :: text) = false := by
  have no (words : List String)
      (foreign : words.all (fun word => word.toList.all fun d => !isAsciiDigit d) = true) :
      isWordOf words (digit :: text) = false :=
    isWordOf_of_digit List.mem_cons_self number foreign
  have mark : isDigitMark digit = true := by rw [isDigitMark, number, Bool.true_or]
  have whole : (digit :: text).dropWhile isDigitMark = '.' :: (second ++ '.' :: rest) := by
    rw [List.dropWhile_cons_of_pos mark, remains]
  have marks : ∀ c ∈ second, isDigitMark c = true := fun c member => by
    rw [isDigitMark, digits c member, Bool.true_or]
  have fraction : isFraction ('.' :: (second ++ '.' :: rest)) = false := by
    have dropped : (second ++ '.' :: rest).dropWhile isDigitMark = '.' :: rest := by
      rw [List.dropWhile_append_of_pos marks, List.dropWhile_cons_of_neg (by decide)]
    rw [isFraction, dropped]
    cases rest with
    | nil => rfl
    | cons sign rest => simp [isExponent]
  have body : isFloatBody (digit :: text) = false := by
    rw [isFloatBody, whole, fraction, Bool.and_false]
  have bare : isBareFraction (digit :: text) = false := by
    have point : digit ≠ '.' := by
      rintro rfl
      cases number
    have no : isFraction (digit :: text) = false := by
      unfold isFraction
      split
      · rename_i same
        exact absurd (List.cons.inj same).1 point
      · rfl
    rw [isBareFraction, no, Bool.false_and]
  have sixty : isSixtyFloat (digit :: text) = false := by
    rw [isSixtyFloat, whole, List.takeWhile_cons_of_neg (by decide)]
    simp [isSixtyTail, splitOn]
  rw [isFloatForm, signs, body, bare, sixty, no _ (by decide), no _ (by decide)]
  rfl

/-- Digits with two dots between them are a text. -/
theorem resolvePlain_dotted {digit : Char} (number : isAsciiDigit digit = true)
    (free : '-' ∉ digit :: text ∧ '+' ∉ digit :: text ∧ '\n' ∉ digit :: text)
    (remains : text.dropWhile isDigitMark = '.' :: (second ++ '.' :: rest))
    (digits : ∀ c ∈ second, isAsciiDigit c = true) :
    resolvePlain (digit :: text) = coreTag "str" := by
  obtain ⟨minus, plus, feed⟩ := free
  have signs := dropSign_of_not_mem minus plus
  have no (words : List String)
      (foreign : words.all (fun word => word.toList.all fun d => !isAsciiDigit d) = true) :
      isWordOf words (digit :: text) = false :=
    isWordOf_of_digit List.mem_cons_self number foreign
  have point : '.' ∈ text := by
    apply List.dropWhile_subset isDigitMark
    rw [remains]
    exact List.mem_cons_self
  have integer : isIntegerBody (digit :: text) = false := by
    by_cases zero : digit = '0'
    · rw [zero]
      exact isIntegerBody_zero (.inr rfl) point
    · rw [isIntegerBody_cons zero remains, isSixtyTail_other (by decide), Bool.and_false]
  have truth : isTruthForm (digit :: text) = false := no _ (by decide)
  have null : isNullForm (digit :: text) = false := no _ (by decide)
  have yaml : isWordOf ["!", "&", "*"] (digit :: text) = false := no _ (by decide)
  have other (word : List Char) (foreign : '.' ∉ word) : digit :: text ≠ word := by
    rintro rfl
    exact foreign (List.mem_cons_of_mem digit point)
  have filled : decide (digit :: text = []) = false := decide_eq_false (other [] (by decide))
  have merge : digit :: text ≠ "<<".toList := other _ (by decide)
  have value : digit :: text ≠ ['='] := other _ (by decide)
  unfold resolvePlain
  rw [dropFeed_of_not_mem feed]
  simp only [filled, Bool.and_false, truth, isFloatForm_dotted number signs remains digits,
    isIntegerForm, signs, integer, merge, null, isMomentForm_of_not_mem minus, value, yaml,
    if_false, Bool.false_eq_true]

end Dotted

end Clat.Format.Yaml
