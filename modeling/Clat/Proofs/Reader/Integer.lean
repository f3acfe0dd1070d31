import Clat.Proofs.Reader

/-! 16-bit integers of items. A text is read just if it is the readable numeral of an integer in
range. Any other text is diagnosed by the longest numeral at its front: whether there is one, what
follows it, and if nothing does, on which side of the range it is put. A numeral that is not
readable is put on the side of its sign, whatever it stands for. -/
namespace Clat.Reader

open Clat.Number Clat.Text

/-- A text is a readable numeral, and its integer has 16 bits. -/
def IsInt16 (text : List Char) (value : Int) : Prop :=
  ∃ n : Numeral, n.Proper ∧ n.Readable ∧ n.text = text ∧ n.value = value ∧
    -32768 ≤ value ∧ value ≤ 32767

/-- The two sides of the range. -/
inductive Side where
  | above
  | below

/-- How the wordings start for a numeral that is put on a side. -/
def Side.start : Side → String
  | .above => "config item is too big"
  | .below => "config item is too small"

/-- The wordings for a text that is refused, by the longest numeral at its front. -/
inductive Diagnosis (text : List Char) : String → Prop where
  | empty (nothing : text = []) : Diagnosis text "config item is not numeric: empty value"
  | noNumeral (filled : text ≠ []) (none : ∀ front, front <+: text → ¬ IsNumeral front) :
    Diagnosis text ("config item is not numeric: " ++ String.ofList text)
  | trailing {front rest : List Char} (longest : Longest front text) (whole : front ++ rest = text)
    (filled : rest ≠ []) :
    Diagnosis text ("config item contains non-numeric characters: " ++ String.ofList rest)
  | outOfRange (side : Side) (whole : IsNumeral text) (detail : String) :
    Diagnosis text (side.start ++ detail)

section Wordings

theorem wording_tooBig (value greatest : Int) :
    ∃ detail, (Issue.Cause.tooBig value greatest).wording = Side.above.start ++ detail := by
  have wording : (Issue.Cause.tooBig value greatest).wording
      = "config item is too big: " ++ String.ofList (signedDecimal value)
        ++ " is higher than the maximum " ++ String.ofList (signedDecimal greatest) := rfl
  have start : "config item is too big: " = Side.above.start ++ ": " := by decide
  rw [wording, start, String.append_assoc, String.append_assoc, String.append_assoc]
  exact ⟨_, rfl⟩

theorem wording_tooSmall (value least : Int) :
    ∃ detail, (Issue.Cause.tooSmall value least).wording = Side.below.start ++ detail := by
  have wording : (Issue.Cause.tooSmall value least).wording
      = "config item is too small: " ++ String.ofList (signedDecimal value)
        ++ " is lower than the minimum " ++ String.ofList (signedDecimal least) := rfl
  have start : "config item is too small: " = Side.below.start ++ ": " := by decide
  rw [wording, start, String.append_assoc, String.append_assoc, String.append_assoc]
  exact ⟨_, rfl⟩

theorem wording_tooManyDigits (negative : Bool) (size : Nat) :
    ∃ detail, (Issue.Cause.tooManyDigits negative size).wording
      = (if negative then Side.below else Side.above).start ++ detail := by
  have wording : (Issue.Cause.tooManyDigits negative size).wording
      = "config item is too " ++ (if negative then "small" else "big") ++ ": " ++ toString size
        ++ " digits" := rfl
  have start : "config item is too " ++ (if negative then "small" else "big")
      = (if negative then Side.below else Side.above).start := by
    cases negative <;> decide
  rw [wording, start, String.append_assoc, String.append_assoc]
  exact ⟨_, rfl⟩

/-- How a text starts is told by a long enough part in front. -/
theorem prefix_append_iff {start front : String} (long : start.length ≤ front.length)
    (back : String) : start.toList <+: (front ++ back).toList ↔ start.toList <+: front.toList := by
  rw [String.toList_append]
  constructor
  · intro starts
    exact List.prefix_of_prefix_length_le starts (List.prefix_append _ _) long
  · intro starts
    exact starts.trans (List.prefix_append _ _)

/-- Wordings that start alike are for one side. -/
theorem Side.eq_of_prefix {side other : Side} {detail : String}
    (starts : side.start.toList <+: (other.start ++ detail).toList) : side = other := by
  -- The shorter start has 22 characters, and the starts differ in them.
  have common : List.take 22 side.start.toList = List.take 22 other.start.toList := by
    obtain ⟨rest, same⟩ := starts
    have cut := congrArg (List.take 22) same
    rw [String.toList_append, List.take_append_of_le_length, List.take_append_of_le_length] at cut
    · exact cut
    · cases other <;> decide
    · cases side <;> decide
  cases side <;> cases other <;> first | rfl | exact absurd common (by decide)

/-- Only numerals are put on a side of the range. -/
theorem Diagnosis.isNumeral {text : List Char} {wording : String} {side : Side}
    (diagnosis : Diagnosis text wording) (starts : side.start.toList <+: wording.toList) :
    IsNumeral text := by
  cases diagnosis with
  | empty nothing => cases side <;> exact absurd starts (by decide)
  | noNumeral filled none =>
    cases side with
    | above => exact absurd ((prefix_append_iff (by decide) _).1 starts) (by decide)
    | below => exact absurd ((prefix_append_iff (by decide) _).1 starts) (by decide)
  | trailing longest whole filled =>
    cases side with
    | above => exact absurd ((prefix_append_iff (by decide) _).1 starts) (by decide)
    | below => exact absurd ((prefix_append_iff (by decide) _).1 starts) (by decide)
  | outOfRange other whole detail => exact whole

end Wordings

section Numerals

/-- A numeral is put on a side if its integer is there, or if it is not readable and has the sign of
that side. -/
def Side.Has (n : Numeral) : Side → Prop
  | .above => 32767 < n.value ∨ ¬ n.Readable ∧ n.sign ≠ ['-']
  | .below => n.value < -32768 ∨ ¬ n.Readable ∧ n.sign = ['-']

variable {n : Numeral}

theorem Numeral.value_of_minus (minus : n.sign = ['-']) : n.value ≤ 0 := by
  rw [value, if_pos minus]
  omega

theorem Numeral.value_of_no_minus (plus : n.sign ≠ ['-']) : 0 ≤ n.value := by
  rw [value, if_neg plus]
  omega

/-- A numeral is put on a side, or it is readable and in range. -/
theorem Numeral.cases_side (n : Numeral) :
    (∃ side : Side, side.Has n) ∨ n.Readable ∧ -32768 ≤ n.value ∧ n.value ≤ 32767 := by
  by_cases readable : n.Readable
  · by_cases large : 32767 < n.value
    · exact .inl ⟨.above, .inl large⟩
    · by_cases small : n.value < -32768
      · exact .inl ⟨.below, .inl small⟩
      · exact .inr ⟨readable, by omega⟩
  · by_cases minus : n.sign = ['-']
    · exact .inl ⟨.below, .inr ⟨readable, minus⟩⟩
    · exact .inl ⟨.above, .inr ⟨readable, minus⟩⟩

variable {text : String} (path : String) (proper : n.Proper) (whole : n.text = text.toList)
include proper whole

theorem readInt16_numeral :
    readInt16 path text =
      if n.Readable then rangeOf path n.value
      else .error ⟨.tooManyDigits (n.sign = ['-']) n.text.length, path⟩ := by
  rw [readInt16, ← whole, parseInteger_numeral proper]
  split
  · rfl
  · rfl

theorem readInt16_within (readable : n.Readable) (range : -32768 ≤ n.value ∧ n.value ≤ 32767) :
    readInt16 path text = .ok n.value := by
  rw [readInt16_numeral path proper whole, if_pos readable, rangeOf, if_neg (by omega),
    if_neg (by omega)]

theorem readInt16_side {side : Side} (has : side.Has n) :
    ∃ cause detail, readInt16 path text = .error ⟨cause, path⟩ ∧ cause.kind = .format ∧
      cause.wording = side.start ++ detail := by
  rw [readInt16_numeral path proper whole]
  by_cases readable : n.Readable
  · rw [if_pos readable, rangeOf]
    cases side with
    | above =>
      have large : 32767 < n.value := has.resolve_right fun other => other.1 readable
      obtain ⟨detail, wording⟩ := wording_tooBig n.value 32767
      rw [if_neg (by omega), if_pos large]
      exact ⟨_, detail, rfl, rfl, wording⟩
    | below =>
      have small : n.value < -32768 := has.resolve_right fun other => other.1 readable
      obtain ⟨detail, wording⟩ := wording_tooSmall n.value (-32768)
      rw [if_pos small]
      exact ⟨_, detail, rfl, rfl, wording⟩
  · obtain ⟨detail, wording⟩ := wording_tooManyDigits (n.sign = ['-']) n.text.length
    have same : (if decide (n.sign = ['-']) then Side.below else Side.above) = side := by
      cases side with
      | above =>
        have plus : n.sign ≠ ['-'] := by
          intro minus
          have small := Numeral.value_of_minus minus
          exact has.elim (by omega) fun other => other.2 minus
        rw [decide_eq_false plus, if_neg Bool.false_ne_true]
      | below =>
        have minus : n.sign = ['-'] := by
          by_contra plus
          have large := Numeral.value_of_no_minus plus
          exact has.elim (by omega) fun other => plus other.2
        rw [decide_eq_true minus, if_pos rfl]
    rw [same] at wording
    rw [if_neg readable]
    exact ⟨_, detail, rfl, rfl, wording⟩

end Numerals

section Texts

variable {text : String} (path : String)

/-- A text that is no numeral has no integer. -/
theorem readInt16_other (other : ¬ IsNumeral text.toList) :
    ∃ cause, readInt16 path text = .error ⟨cause, path⟩ ∧ cause.kind = .format ∧
      Diagnosis text.toList cause.wording := by
  rw [readInt16]
  unfold parseInteger
  split
  · rename_i empty
    exact ⟨_, rfl, rfl, .empty (List.isEmpty_iff.1 empty)⟩
  · rename_i filled
    cases found : numeral? text.toList with
    | none =>
      refine ⟨_, rfl, rfl, .noNumeral ?_ (numeral?_eq_none_iff.1 found)⟩
      intro empty
      exact filled (List.isEmpty_iff.2 empty)
    | some n =>
      obtain ⟨proper, whole⟩ := numeral?_ok found
      have rest : n.rest ≠ [] := by
        intro nothing
        rw [nothing, List.append_nil] at whole
        exact other ⟨n, proper, whole⟩
      have more : (!n.rest.isEmpty) = true := by simpa using rest
      simp only [more, if_true]
      exact ⟨_, rfl, rfl, .trailing (longest_of_numeral? found) whole rest⟩

theorem readInt16_ok_iff {value : Int} :
    readInt16 path text = .ok value ↔ IsInt16 text.toList value := by
  constructor
  · intro parsed
    by_cases numeral : IsNumeral text.toList
    · obtain ⟨n, proper, whole⟩ := numeral
      rcases n.cases_side with ⟨side, has⟩ | ⟨readable, range⟩
      · obtain ⟨cause, detail, refused, -⟩ := readInt16_side path proper whole has
        rw [refused] at parsed
        cases parsed
      · rw [readInt16_within path proper whole readable range] at parsed
        obtain rfl := Except.ok.inj parsed
        exact ⟨n, proper, readable, whole, rfl, range⟩
    · obtain ⟨cause, refused, -⟩ := readInt16_other path numeral
      rw [refused] at parsed
      cases parsed
  · rintro ⟨n, proper, readable, whole, rfl, range⟩
    exact readInt16_within path proper whole readable range

/-- Every text that is not read is diagnosed. -/
theorem readInt16_diagnosed (other : ¬ ∃ value, IsInt16 text.toList value) :
    ∃ cause, readInt16 path text = .error ⟨cause, path⟩ ∧ cause.kind = .format ∧
      Diagnosis text.toList cause.wording := by
  by_cases numeral : IsNumeral text.toList
  · obtain ⟨n, proper, whole⟩ := numeral
    rcases n.cases_side with ⟨side, has⟩ | ⟨readable, range⟩
    · obtain ⟨cause, detail, refused, kind, wording⟩ := readInt16_side path proper whole has
      exact ⟨cause, refused, kind, wording ▸ .outOfRange side ⟨n, proper, whole⟩ detail⟩
    · exact absurd ⟨n.value, n, proper, readable, whole, rfl, range⟩ other
  · exact readInt16_other path numeral

end Texts

section Items

variable {items : Items} {key : String} {default : Option String} {text : String}

theorem int16_on (given : items.getOr key default = some text) (s : Session) :
    (int16 items key default).on s =
      match readInt16 (items.pathOf key) text with
      | .ok value => (.ok (.ok value), s)
      | .error issue => (.ok (.error issue), s.reported issue) := by
  have found : textOf items key default = .ok text := by rw [textOf, given]
  have read : (Except.ok text >>= readInt16 (items.pathOf key))
      = readInt16 (items.pathOf key) text := rfl
  rw [int16_eq, found, read, Stage.orFail_on]
  cases readInt16 (items.pathOf key) text with
  | ok value => rfl
  | error issue => rfl

/-- The integer of an item or of its default is read just if the text is the readable numeral of an
integer of 16 bits, and then nothing else is done. For any other text one fatal record is logged,
with the issue that the reader ends in: it is about the format and the item, and its wording is
decided by the longest numeral at the front of the text. -/
theorem int16_diagnosis (given : items.getOr key default = some text) (s : Session) :
    (∀ value t, (int16 items key default).on s = (.ok (.ok value), t) ↔
      IsInt16 text.toList value ∧ t = s) ∧
    ((¬ ∃ value, IsInt16 text.toList value) →
      ∃ issue, (int16 items key default).on s = (.ok (.error issue),
          { s with log := s.log ++ [⟨.fatal, "clatd.config.reader", issue.message⟩] }) ∧
        issue.kind = .format ∧ issue.path = items.pathOf key ∧
        Diagnosis text.toList issue.cause.wording) := by
  rw [int16_on given]
  constructor
  · intro value t
    rw [← readInt16_ok_iff (items.pathOf key)]
    cases readInt16 (items.pathOf key) text with
    | ok other => simp [eq_comm]
    | error issue => simp
  · intro other
    obtain ⟨cause, refused, kind, diagnosis⟩ := readInt16_diagnosed (items.pathOf key) other
    rw [refused]
    exact ⟨⟨cause, items.pathOf key⟩, rfl, kind, rfl, diagnosis⟩

theorem int16_diagnosis_padded :
    let items : Items := { entries := [("mtu", "\u3000-0068"), ("ipv4mtu", "\t1280 bytes")] }
    items.getOr "mtu" none = some "\u3000-0068" ∧
      (int16 items "mtu" none).on {} = (.ok (.ok (-68)), {}) ∧
      items.getOr "ipv4mtu" none = some "\t1280 bytes" ∧
      ∃ issue t, (int16 items "ipv4mtu" none).on {} = (.ok (.error issue), t) ∧
        issue.path = "/ipv4mtu" ∧ Diagnosis "\t1280 bytes".toList issue.cause.wording := by
  intro items
  have given : items.getOr "mtu" none = some "\u3000-0068" := by decide
  have given' : items.getOr "ipv4mtu" none = some "\t1280 bytes" := by decide
  have numeral : IsInt16 "\u3000-0068".toList (-68) :=
    (readInt16_ok_iff "/mtu").1 (by decide +kernel)
  have other : ¬ ∃ value, IsInt16 "\t1280 bytes".toList value := by
    rintro ⟨value, numeral⟩
    have refused : readInt16 "/ipv4mtu" "\t1280 bytes"
        = .error ⟨.trailing " bytes", "/ipv4mtu"⟩ := by
      decide +kernel
    rw [(readInt16_ok_iff "/ipv4mtu").2 numeral] at refused
    cases refused
  obtain ⟨issue, ended, -, path, diagnosis⟩ := (int16_diagnosis given' {}).2 other
  exact ⟨given, ((int16_diagnosis given {}).1 (-68) {}).2 ⟨numeral, rfl⟩, given', issue, _, ended,
    path, diagnosis⟩

end Items

section Range

variable {items : Items} {key : String} {default : Option String} {text : String}

/-- A reading of an item ends in an issue whose wording starts with a text. -/
def Refuses (items : Items) (key : String) (default : Option String) (s : Session)
    (start : String) : Prop :=
  ∃ issue t, (int16 items key default).on s = (.ok (.error issue), t) ∧
    start.toList <+: issue.cause.wording.toList

variable (given : items.getOr key default = some text) (s : Session)
include given

theorem refuses_iff (start : String) :
    Refuses items key default s start ↔
      ∃ issue, readInt16 (items.pathOf key) text = .error issue ∧
        start.toList <+: issue.cause.wording.toList := by
  rw [Refuses, int16_on given]
  cases readInt16 (items.pathOf key) text with
  | ok value => simp
  | error issue => simp

/-- The texts that are put on a side of the range. -/
theorem refuses_side_iff (side : Side) :
    Refuses items key default s side.start ↔
      ∃ n : Numeral, n.Proper ∧ n.text = text.toList ∧ side.Has n := by
  rw [refuses_iff given]
  constructor
  · rintro ⟨issue, refused, starts⟩
    have other : ¬ ∃ value, IsInt16 text.toList value := by
      rintro ⟨value, numeral⟩
      rw [(readInt16_ok_iff _).2 numeral] at refused
      cases refused
    obtain ⟨cause, refused', -, diagnosis⟩ := readInt16_diagnosed (items.pathOf key) other
    obtain rfl := Except.error.inj (refused.symm.trans refused')
    obtain ⟨n, proper, whole⟩ := diagnosis.isNumeral starts
    rcases n.cases_side with ⟨found, has⟩ | ⟨readable, range⟩
    · obtain ⟨_, detail, ended, -, wording⟩ :=
        readInt16_side (items.pathOf key) proper whole has
      obtain ⟨rfl, -⟩ := Issue.mk.inj (Except.error.inj (refused.symm.trans ended))
      rw [wording] at starts
      obtain rfl := Side.eq_of_prefix starts
      exact ⟨n, proper, whole, has⟩
    · exact absurd ⟨n.value, n, proper, readable, whole, rfl, range⟩ other
  · rintro ⟨n, proper, whole, has⟩
    obtain ⟨cause, detail, refused, -, wording⟩ :=
      readInt16_side (items.pathOf key) proper whole has
    refine ⟨_, refused, ?_⟩
    rw [wording]
    exact (prefix_append_iff (Nat.le_refl _) detail).2 (List.prefix_refl _)

/-- Which texts are put above the range and below it, and when that is true of them: always, unless
the text is a numeral in range that is not readable. -/
theorem int16_truthful :
    (Refuses items key default s "config item is too big" ↔
      ∃ n : Numeral, n.Proper ∧ n.text = text.toList ∧
        (32767 < n.value ∨ ¬ n.Readable ∧ n.sign ≠ ['-'])) ∧
    (Refuses items key default s "config item is too small" ↔
      ∃ n : Numeral, n.Proper ∧ n.text = text.toList ∧
        (n.value < -32768 ∨ ¬ n.Readable ∧ n.sign = ['-'])) ∧
    ((Refuses items key default s "config item is too big" →
          ∃ n : Numeral, n.Proper ∧ n.text = text.toList ∧ 32767 < n.value) ∧
        (Refuses items key default s "config item is too small" →
          ∃ n : Numeral, n.Proper ∧ n.text = text.toList ∧ n.value < -32768) ↔
      ¬ ∃ n : Numeral, n.Proper ∧ n.text = text.toList ∧ ¬ n.Readable ∧
        -32768 ≤ n.value ∧ n.value ≤ 32767) := by
  have above := refuses_side_iff given s .above
  have below := refuses_side_iff given s .below
  refine ⟨above, below, ?_⟩
  constructor
  · rintro ⟨big, small⟩ ⟨n, proper, whole, unreadable, range⟩
    by_cases minus : n.sign = ['-']
    · obtain ⟨m, proper', whole', less⟩ :=
        small (below.2 ⟨n, proper, whole, .inr ⟨unreadable, minus⟩⟩)
      have same := value_of_text_eq proper proper' (whole.trans whole'.symm)
      omega
    · obtain ⟨m, proper', whole', more⟩ :=
        big (above.2 ⟨n, proper, whole, .inr ⟨unreadable, minus⟩⟩)
      have same := value_of_text_eq proper proper' (whole.trans whole'.symm)
      omega
  · intro clear
    constructor
    · intro big
      obtain ⟨n, proper, whole, more | ⟨unreadable, plus⟩⟩ := above.1 big
      · exact ⟨n, proper, whole, more⟩
      · have nonneg := Numeral.value_of_no_minus plus
        refine ⟨n, proper, whole, Int.not_le.1 fun less => clear ?_⟩
        exact ⟨n, proper, whole, unreadable, by omega, less⟩
    · intro small
      obtain ⟨n, proper, whole, less | ⟨unreadable, minus⟩⟩ := below.1 small
      · exact ⟨n, proper, whole, less⟩
      · have nonpos := Numeral.value_of_minus minus
        refine ⟨n, proper, whole, Int.not_le.1 fun more => clear ?_⟩
        exact ⟨n, proper, whole, unreadable, more, by omega⟩

end Range

theorem int16_truthful_large :
    let items : Items := { entries := [("mtu", "+040000")] }
    items.getOr "mtu" none = some "+040000" ∧
      Refuses items "mtu" none {} "config item is too big" := by
  intro items
  have given : items.getOr "mtu" none = some "+040000" := by decide
  refine ⟨given, (int16_truthful given {}).1.2 ⟨⟨[], ['+'], "040000".toList, []⟩, ?_⟩⟩
  exact ⟨by decide, by decide, .inl (by decide)⟩

/-- A numeral that is not readable and has no minus is put above the range, even if it is in it. -/
theorem refuses_inRange {items : Items} {key : String} {default : Option String} {text : String}
    {n : Numeral} (proper : n.Proper) (whole : n.text = text.toList)
    (given : items.getOr key default = some text) (unreadable : ¬ n.Readable)
    (range : 0 ≤ n.value ∧ n.value ≤ 32767) (plus : n.sign ≠ ['-']) (s : Session) :
    Refuses items key default s "config item is too big" ∧
      ¬ ∃ n : Numeral, n.Proper ∧ n.text = text.toList ∧ 32767 < n.value := by
  refine ⟨(refuses_side_iff given s .above).2 ⟨n, proper, whole, .inr ⟨unreadable, plus⟩⟩, ?_⟩
  rintro ⟨m, proper', whole', more⟩
  have same := value_of_text_eq proper proper' (whole.trans whole'.symm)
  omega

/-- The digit 5 behind an information separator. -/
def separated : Items where
  entries := [("mtu", "\x1c5")]

/-- More zeros than are read. -/
def zeros : Items where
  entries := [("mtu", String.ofList (List.replicate 4301 '0'))]

/-- Of five behind a separator, and of zero with too many digits, it is said that they are too
big. -/
theorem inRange_tooBig :
    (separated.getOr "mtu" none = some "\x1c5" ∧
      (int16 separated "mtu" none).on {} = (.ok (.error ⟨.tooManyDigits false 2, "/mtu"⟩),
        { log := [⟨.fatal, "clatd.config.reader", "[/mtu] config item is too big: 2 digits"⟩] }) ∧
      Refuses separated "mtu" none {} "config item is too big" ∧
      ¬ ∃ n : Numeral, n.Proper ∧ n.text = "\x1c5".toList ∧ 32767 < n.value) ∧
    (Refuses zeros "mtu" none {} "config item is too big" ∧
      ¬ ∃ n : Numeral, n.Proper ∧ n.text = List.replicate 4301 '0' ∧ 32767 < n.value) := by
  constructor
  · have given : separated.getOr "mtu" none = some "\x1c5" := by decide
    have proper : Numeral.Proper ⟨['\x1c'], [], ['5'], []⟩ := by decide
    have said := refuses_inRange proper rfl given (by decide) (by decide) (by decide) {}
    refine ⟨given, ?_, said⟩
    rw [int16_on given]
    decide +kernel
  · have text : (String.ofList (List.replicate 4301 '0')).toList = List.replicate 4301 '0' :=
      String.toList_ofList
    have proper : Numeral.Proper ⟨[], [], List.replicate 4301 '0', []⟩ := by
      refine ⟨fun _ => (absurd · List.not_mem_nil), .inl rfl, ?_, ?_⟩
      · intro c member
        rw [List.eq_of_mem_replicate member]
        decide
      · rw [ne_eq, List.replicate_eq_nil_iff]
        decide
    have long : ¬ Numeral.Readable ⟨[], [], List.replicate 4301 '0', []⟩ := by
      rintro ⟨-, short⟩
      rw [List.length_replicate] at short
      exact absurd short (by decide)
    have value : Numeral.value ⟨[], [], List.replicate 4301 '0', []⟩ = 0 := by
      rw [Numeral.value, if_neg (by decide), ofDigits_zeros]
      rfl
    have given : zeros.getOr "mtu" none = some (String.ofList (List.replicate 4301 '0')) := by
      rw [Items.getOr, Items.get?, zeros, List.lookup_cons_self]
    rw [← text]
    exact refuses_inRange proper text.symm given long (by rw [value]; decide) (by decide) {}

end Clat.Reader
