import Clat.Format.Conf
import Clat.Proofs.Format.Items
import Clat.Proofs.Text.Lines
import Mathlib.Data.List.Induction

/-! The grammar of the native notation. A layout puts items on lines, one on each, with blanks and
comments around them and lines without an item between them; every text is the text of a layout.
Parsing gives back the items, unless a key is repeated, and then it reports the first line that
repeats one. -/
namespace Clat.Format.Conf

open Clat.Text

/-- Whether a text stands in a line as it is: it has no blank and no number sign. -/
def IsWord (text : List Char) : Prop := ∀ c ∈ text, isBlank c = false ∧ c ≠ '#'

instance (text : List Char) : Decidable (IsWord text) := List.decidableBAll _ text

/-- Whether a text can be a value: it has no line end and no number sign, and neither starts nor
ends with a blank. It may be empty, and may have blanks inside. -/
structure IsValue (text : List Char) : Prop where
  plain : ∀ c ∈ text, endsLine c = false ∧ c ≠ '#'
  start : ∀ c ∈ text.head?, isBlank c = false
  stop : ∀ c ∈ text.getLast?, isBlank c = false

instance (text : List Char) : Decidable (IsValue text) :=
  decidable_of_iff (text.all (fun c => !endsLine c && c != '#') = true ∧
      text.head?.all (fun c => !isBlank c) = true ∧ text.getLast?.all (fun c => !isBlank c) = true) <| by
    simp only [List.all_eq_true, Option.all_eq_true, Bool.and_eq_true, Bool.not_eq_true', bne_iff_ne]
    exact ⟨fun ⟨plain, start, stop⟩ => ⟨plain, start, stop⟩,
      fun value => ⟨value.plain, value.start, value.stop⟩⟩

/-- Whether an item can stand on a line. -/
structure Fits (item : String × String) : Prop where
  key : IsWord item.1.toList
  key_ne : item.1.toList ≠ []
  value : IsValue item.2.toList

instance (item : String × String) : Decidable (Fits item) :=
  decidable_of_iff (IsWord item.1.toList ∧ item.1.toList ≠ [] ∧ IsValue item.2.toList)
    ⟨fun ⟨key, filled, value⟩ => ⟨key, filled, value⟩,
      fun fits => ⟨fits.key, fits.key_ne, fits.value⟩⟩

/-- Blanks inside a line. -/
structure Gap where
  chars : List Char := []
  blank : ∀ c ∈ chars, isBlank c = true ∧ endsLine c = false := by simp

/-- A comment, without the number sign that starts it. -/
structure Remark where
  chars : List Char
  plain : ∀ c ∈ chars, endsLine c = false

/-- The end of a line: a carriage return with a line feed, or one of the characters that end
lines. -/
structure LineEnd where
  chars : List Char
  ends : chars = ['\r', '\n'] ∨ ∃ c, chars = [c] ∧ endsLine c = true

/-- An item with the blanks around its key and its value. Something stands between the two, if the
value is not empty. -/
structure Placed where
  item : String × String
  fits : Fits item
  indent : Gap
  between : Gap
  after : Gap
  apart : item.2.toList ≠ [] → between.chars ≠ []

/-- An item that fits, with a space after its key. -/
def Fits.placed {item : String × String} (fits : Fits item) : Placed where
  item
  fits
  indent := {}
  between := ⟨[' '], List.forall_mem_singleton.2 ⟨rfl, rfl⟩⟩
  after := {}
  apart := fun _ => List.cons_ne_nil ' ' []

/-- A line, without its end. -/
inductive Line where
  | bare (gap : Gap) (remark : Option Remark)
  | item (placed : Placed) (remark : Option Remark)

/-- Lines that are ended, and a last one that is not. -/
structure Layout where
  ended : List (Line × LineEnd)
  last : Line

def Placed.text (placed : Placed) : List Char :=
  placed.indent.chars ++ (placed.item.1.toList ++ (placed.between.chars ++ placed.item.2.toList))
    ++ placed.after.chars

def Remark.text : Option Remark → List Char
  | none => []
  | some remark => '#' :: remark.chars

namespace Line

/-- What stands on a line before its comment. -/
def body : Line → List Char
  | .bare gap _ => gap.chars
  | .item placed _ => placed.text

def remark : Line → Option Remark
  | .bare _ remark => remark
  | .item _ remark => remark

def text (line : Line) : List Char := line.body ++ Remark.text line.remark

def item? : Line → Option (String × String)
  | .bare .. => none
  | .item placed _ => some placed.item

end Line

/-- The text of lines that are ended. -/
def textOf (ended : List (Line × LineEnd)) : List Char :=
  ended.flatMap fun line => line.1.text ++ line.2.chars

/-- The items on lines that are ended. -/
def itemsIn (ended : List (Line × LineEnd)) : List (String × String) :=
  ended.filterMap fun line => line.1.item?

namespace Layout

def text (layout : Layout) : List Char := textOf layout.ended ++ layout.last.text

def items (layout : Layout) : List (String × String) :=
  itemsIn layout.ended ++ layout.last.item?.toList

/-- Whether a line stands in a layout, after some others. -/
def HasLine (layout : Layout) (before : List (Line × LineEnd)) (line : Line) : Prop :=
  (∃ ending after, layout.ended = before ++ (line, ending) :: after) ∨
    layout.ended = before ∧ layout.last = line

end Layout

section Lines

theorem textOf_cons (line : Line) (ending : LineEnd) (ended : List (Line × LineEnd)) :
    textOf ((line, ending) :: ended) = line.text ++ ending.chars ++ textOf ended :=
  List.flatMap_cons

theorem itemsIn_cons (line : Line) (ending : LineEnd) (ended : List (Line × LineEnd)) :
    itemsIn ((line, ending) :: ended) = line.item?.toList ++ itemsIn ended := by
  rw [itemsIn, List.filterMap_cons, ← itemsIn]
  cases line.item? with
  | none => rfl
  | some item => rfl

theorem Gap.isBlank (gap : Gap) : ∀ c ∈ gap.chars, isBlank c = true :=
  fun c member => (gap.blank c member).1

theorem Gap.plain (gap : Gap) : ∀ c ∈ gap.chars, endsLine c = false ∧ c ≠ '#' := by
  intro c member
  obtain ⟨blank, plain⟩ := gap.blank c member
  refine ⟨plain, ?_⟩
  rintro rfl
  exact absurd blank (by decide)

theorem IsWord.plain {text : List Char} (word : IsWord text) :
    ∀ c ∈ text, endsLine c = false ∧ c ≠ '#' := by
  intro c member
  obtain ⟨solid, other⟩ := word c member
  refine ⟨?_, other⟩
  cases ends : endsLine c with
  | false => rfl
  | true =>
    rw [isBlank_of_endsLine ends] at solid
    cases solid

/-- No line ends inside an item, and no comment starts. -/
theorem Placed.plain (placed : Placed) : ∀ c ∈ placed.text, endsLine c = false ∧ c ≠ '#' := by
  intro c member
  simp only [Placed.text, List.mem_append] at member
  rcases member with ((inIndent | inKey | inBetween | inValue) | inAfter)
  · exact placed.indent.plain c inIndent
  · exact placed.fits.key.plain c inKey
  · exact placed.between.plain c inBetween
  · exact placed.fits.value.plain c inValue
  · exact placed.after.plain c inAfter

theorem Line.plain_body (line : Line) : ∀ c ∈ line.body, endsLine c = false ∧ c ≠ '#' := by
  cases line with
  | bare gap remark => exact gap.plain
  | item placed remark => exact placed.plain

theorem Line.plain (line : Line) : ∀ c ∈ line.text, endsLine c = false := by
  intro c member
  rcases List.mem_append.1 member with inBody | inRemark
  · exact (line.plain_body c inBody).1
  · cases comment : line.remark with
    | none =>
      rw [comment] at inRemark
      cases inRemark
    | some remark =>
      rw [comment] at inRemark
      rcases List.mem_cons.1 inRemark with rfl | inside
      · decide
      · exact remark.plain c inside

/-- The comment of a line is taken off. -/
theorem Line.takeWhile_text (line : Line) : line.text.takeWhile (· ≠ '#') = line.body := by
  have free : ∀ c ∈ line.body, decide (c ≠ '#') = true := fun c member =>
    decide_eq_true (line.plain_body c member).2
  rw [Line.text, List.takeWhile_append_of_pos free]
  cases line.remark with
  | none => simp [Remark.text]
  | some remark => simp [Remark.text]

/-- The key is up to the first blank. -/
theorem entry_of_isWord {key rest : List Char} (word : IsWord key)
    (ends : rest.head?.all isBlank = true) :
    entry (key ++ rest) = (String.ofList key, String.ofList (trim rest)) := by
  have kept : ∀ c ∈ key, (!isBlank c) = true := fun c member => by rw [(word c member).1]; rfl
  have taken : rest.takeWhile (!isBlank ·) = [] ∧ rest.dropWhile (!isBlank ·) = rest := by
    cases rest with
    | nil => exact ⟨rfl, rfl⟩
    | cons c rest =>
      have blank : isBlank c = true := ends
      simp [blank]
  rw [entry, List.takeWhile_append_of_pos kept, List.dropWhile_append_of_pos kept, taken.1,
    taken.2, List.append_nil]

/-- A key starts with a character that is no blank. -/
theorem Fits.start {item : String × String} (fits : Fits item) (rest : List Char) (c : Char)
    (first : (item.1.toList ++ rest).head? = some c) : isBlank c = false := by
  obtain ⟨start, others, chars⟩ := List.exists_cons_of_ne_nil fits.key_ne
  rw [chars, List.cons_append, List.head?_cons] at first
  cases first
  exact (fits.key c (chars ▸ List.mem_cons_self)).1

theorem Fits.stop {item : String × String} (fits : Fits item) (c : Char)
    (last : item.1.toList.getLast? = some c) : isBlank c = false :=
  (fits.key c (List.mem_of_getLast? last)).1

/-- What is left of an item in its line without the blanks around. -/
theorem Placed.trim_text (placed : Placed) :
    trim placed.text = placed.item.1.toList ++
      if placed.item.2.toList = [] then [] else placed.between.chars ++ placed.item.2.toList := by
  obtain ⟨item, fits, indent, between, after, apart⟩ := placed
  by_cases empty : item.2.toList = []
  · -- The blanks after the key all stand at the end.
    have regroup : Placed.text ⟨item, fits, indent, between, after, apart⟩ =
        indent.chars ++ item.1.toList ++ (between.chars ++ after.chars) := by
      simp [Placed.text, empty]
    rw [regroup, if_pos empty, List.append_nil]
    have start := fits.start []
    rw [List.append_nil] at start
    apply trim_append_blank indent.isBlank _ start fits.stop
    intro c member
    exact (List.mem_append.1 member).elim (between.isBlank c) (after.isBlank c)
  · rw [if_neg empty]
    apply trim_append_blank indent.isBlank after.isBlank (fits.start _)
    intro c last
    rw [← List.append_assoc, List.getLast?_append_of_ne_nil _ empty] at last
    exact fits.value.stop c last

theorem Placed.entry_trim_text (placed : Placed) : entry (trim placed.text) = placed.item := by
  obtain ⟨item, fits, indent, between, after, apart⟩ := placed
  rw [Placed.trim_text]
  by_cases empty : item.2.toList = []
  · rw [if_pos empty, entry_of_isWord fits.key rfl, String.ofList_toList, trim_of_blank (by simp),
      ← empty, String.ofList_toList]
  · have ends : (between.chars ++ item.2.toList).head?.all isBlank = true := by
      obtain ⟨c, rest, chars⟩ := List.exists_cons_of_ne_nil (apart empty)
      have blank := between.isBlank c (chars ▸ List.mem_cons_self)
      rw [chars, List.cons_append, List.head?_cons, Option.all_some, blank]
    have value : trim (between.chars ++ item.2.toList) = item.2.toList := by
      rw [← List.append_nil (between.chars ++ _)]
      exact trim_append_blank between.isBlank (by simp) fits.value.start fits.value.stop
    rw [if_neg empty, entry_of_isWord fits.key ends, value, String.ofList_toList,
      String.ofList_toList]

/-- The content of a line is empty just if it has no item, and otherwise its entry is the item. -/
theorem Line.entry_content (line : Line) :
    match line.item? with
    | none => content line.text = []
    | some found => content line.text ≠ [] ∧ entry (content line.text) = found := by
  cases line with
  | bare gap remark =>
    simp only [Line.item?, content, Line.takeWhile_text]
    exact trim_of_blank gap.isBlank
  | item placed remark =>
    simp only [Line.item?, content, Line.takeWhile_text]
    refine ⟨?_, placed.entry_trim_text⟩
    rw [Line.body, Placed.trim_text]
    exact List.append_ne_nil_of_left_ne_nil placed.fits.key_ne _

end Lines

section Parsing

variable {number : Nat} {items : List (String × String)} {line : List Char}
  {rest : List (List Char)}

theorem entries_bare (empty : content line = []) :
    entries number items (line :: rest) = entries (number + 1) items rest := by
  rw [entries, empty]

theorem entries_fresh (some : content line ≠ [])
    (fresh : items.lookup (entry (content line)).1 = none) :
    entries number items (line :: rest) =
      entries (number + 1) (items ++ [entry (content line)]) rest := by
  rw [entries]
  split
  · contradiction
  · simp only [fresh]
    rfl

theorem entries_repeated (some : content line ≠ [])
    (repeated : (items.lookup (entry (content line)).1).isSome = true) :
    entries number items (line :: rest) =
      .error (.repeatedLine (entry (content line)).1 number) := by
  rw [entries]
  split
  · contradiction
  · exact if_pos repeated

/-- Lines are gone through one after another. -/
theorem entries_append (front back : List (List Char)) (number : Nat)
    (items : List (String × String)) :
    entries number items (front ++ back) =
      entries number items front >>= fun items => entries (number + front.length) items back := by
  induction front generalizing number items with
  | nil => rfl
  | cons line front ih =>
    have next : number + (line :: front).length = number + 1 + front.length := by
      rw [List.length_cons]
      omega
    rw [List.cons_append, next]
    by_cases empty : content line = []
    · rw [entries_bare empty, entries_bare empty, ih]
    · cases read : items.lookup (entry (content line)).1 with
      | none => rw [entries_fresh empty read, entries_fresh empty read, ih]
      | some value =>
        have repeated := Option.isSome_of_eq_some read
        rw [entries_repeated empty repeated, entries_repeated empty repeated]
        rfl

/-- A line end opens a further line, unless it is a carriage return and takes along the line feed
of an empty line after it. -/
theorem lines_ended (line : Line) (ending : LineEnd) (rest : List Char) :
    lines (line.text ++ ending.chars ++ rest) = line.text :: lines rest ∨
      ∃ more, lines rest = [] :: more ∧
        lines (line.text ++ ending.chars ++ rest) = line.text :: more := by
  have front (more : List (List Char)) (read : lines (ending.chars ++ rest) = [] :: more) :
      lines (line.text ++ ending.chars ++ rest) = line.text :: more := by
    rw [List.append_assoc, lines_append_of_plain line.plain read, List.append_nil]
  rcases ending.ends with pair | ⟨c, one, ends⟩
  · apply Or.inl
    apply front
    rw [pair]
    rfl
  · by_cases paired : c = '\r' ∧ rest.head? = some '\n'
    · obtain ⟨rfl, feed⟩ := paired
      obtain ⟨rest', rfl⟩ := List.head?_eq_some_iff.1 feed
      refine .inr ⟨lines rest', lines_cons_of_ends rfl nofun, ?_⟩
      apply front
      rw [one]
      rfl
    · apply Or.inl
      apply front
      rw [one]
      exact lines_cons_of_ends ends fun return_ feed => paired ⟨return_, feed⟩

/-- The item of a line is added, if its key is not yet there. -/
theorem entries_line {before : List (String × String)} (line : Line)
    (fresh : ∀ item, line.item? = some item → before.lookup item.1 = none) :
    entries number before (line.text :: rest) =
      entries (number + 1) (before ++ line.item?.toList) rest := by
  have read := line.entry_content
  cases found : line.item? with
  | none =>
    rw [found] at read
    rw [entries_bare read, Option.toList_none, List.append_nil]
  | some item =>
    rw [found] at read
    obtain ⟨some, rfl⟩ := read
    rw [entries_fresh some (fresh _ found)]
    rfl

theorem fresh_of_nodup {before after : List (String × String)} {item? : Option (String × String)}
    (distinct : ((before ++ (item?.toList ++ after)).map Prod.fst).Nodup) (item : String × String)
    (found : item? = some item) : before.lookup item.1 = none := by
  subst found
  exact List.lookup_eq_none_iff.2 (key_ne_of_nodup distinct)

theorem Line.text_ne_nil {line : Line} {item : String × String} (found : line.item? = some item) :
    line.text ≠ [] := by
  have read := line.entry_content
  rw [found] at read
  intro empty
  rw [empty] at read
  exact read.1 rfl

/-- Lines with items that are not yet there are gone through to the end. -/
theorem entries_layout (ended : List (Line × LineEnd)) (last : Line) (number : Nat)
    (before : List (String × String))
    (distinct : ((before ++ (itemsIn ended ++ last.item?.toList)).map Prod.fst).Nodup) :
    entries number before (lines (textOf ended ++ last.text)) =
      .ok (before ++ (itemsIn ended ++ last.item?.toList)) := by
  induction ended generalizing number before with
  | nil =>
    by_cases empty : last.text = []
    · cases found : last.item? with
      | none =>
        rw [empty]
        exact congrArg Except.ok (List.append_nil before).symm
      | some item => exact absurd empty (Line.text_ne_nil found)
    · have one : lines (textOf [] ++ last.text) = [last.text] := lines_of_plain last.plain empty
      rw [← List.append_nil last.item?.toList] at distinct
      rw [one, entries_line last (fresh_of_nodup distinct)]
      rfl
  | cons first ended ih =>
    obtain ⟨line, ending⟩ := first
    rw [itemsIn_cons, List.append_assoc] at distinct ⊢
    have goOn (number : Nat) :
        entries number (before ++ line.item?.toList) (lines (textOf ended ++ last.text)) =
          .ok (before ++ (line.item?.toList ++ (itemsIn ended ++ last.item?.toList))) := by
      rw [← List.append_assoc before] at distinct ⊢
      exact ih number _ distinct
    rw [textOf_cons, List.append_assoc]
    rcases lines_ended line ending (textOf ended ++ last.text) with own | ⟨more, empty, taken⟩
    · rw [own, entries_line line (fresh_of_nodup distinct)]
      exact goOn (number + 1)
    · -- The line feed taken along has ended an empty line, which only counts.
      rw [taken, entries_line line (fresh_of_nodup distinct), ← goOn number, empty,
        entries_bare rfl]

/-- A layout with distinct keys is parsed to its items. -/
theorem parse_items {layout : Layout} (distinct : (layout.items.map Prod.fst).Nodup) :
    parse layout.text = .ok layout.items :=
  entries_layout layout.ended layout.last 1 [] distinct

/-- The lines before a line with an item are told apart from it. -/
theorem lines_textOf_append (ended : List (Line × LineEnd)) {line : Line}
    {item : String × String} (found : line.item? = some item) (rest : List Char) :
    lines (textOf ended ++ (line.text ++ rest)) = lines (textOf ended) ++ lines (line.text ++ rest) := by
  apply lines_append_of_ended
  · intro c last
    induction ended with
    | nil => cases last
    | cons first ended ih =>
      obtain ⟨line, ending⟩ := first
      rw [textOf_cons, List.getLast?_append] at last
      cases later : (textOf ended).getLast? with
      | some c' =>
        rw [later] at last ih
        exact ih last
      | none =>
        rw [later, Option.none_or, List.getLast?_append] at last
        rcases ending.ends with pair | ⟨c', one, ends⟩
        · rw [pair] at last
          cases last
          rfl
        · rw [one] at last
          cases last
          exact ends
  · rintro - feed
    obtain ⟨first, others, chars⟩ := List.exists_cons_of_ne_nil (Line.text_ne_nil found)
    rw [chars] at feed
    cases feed
    exact absurd (line.plain '\n' (chars ▸ List.mem_cons_self)) (by decide)

theorem exists_lines_line {line : Line} {item : String × String} (found : line.item? = some item)
    {rest : List Char}
    (ends : rest = [] ∨ ∃ (ending : LineEnd) (more : List Char), rest = ending.chars ++ more) :
    ∃ others, lines (line.text ++ rest) = line.text :: others := by
  rcases ends with rfl | ⟨ending, more, rfl⟩
  · refine ⟨[], ?_⟩
    rw [List.append_nil]
    exact lines_of_plain line.plain (Line.text_ne_nil found)
  · rw [← List.append_assoc]
    rcases lines_ended line ending more with own | ⟨others, -, taken⟩
    · exact ⟨_, own⟩
    · exact ⟨_, taken⟩

theorem Layout.HasLine.text_eq {layout : Layout} {before : List (Line × LineEnd)} {line : Line}
    (has : layout.HasLine before line) :
    ∃ rest, layout.text = textOf before ++ (line.text ++ rest) ∧
      (rest = [] ∨ ∃ (ending : LineEnd) (more : List Char), rest = ending.chars ++ more) := by
  rcases has with ⟨ending, after, split⟩ | ⟨rfl, rfl⟩
  · refine ⟨_, ?_, .inr ⟨ending, textOf after ++ layout.last.text, rfl⟩⟩
    rw [Layout.text, split, textOf, List.flatMap_append, ← textOf, ← textOf, textOf_cons]
    simp only [List.append_assoc]
  · exact ⟨[], by rw [List.append_nil, Layout.text], .inl rfl⟩

/-- Parsing stops at the first line whose key stands on a line before, and counts the lines up to
there. -/
theorem parse_repeated {layout : Layout} {before : List (Line × LineEnd)} {line : Line}
    {item : String × String} (has : layout.HasLine before line) (found : line.item? = some item)
    (distinct : ((itemsIn before).map Prod.fst).Nodup)
    (repeated : item.1 ∈ (itemsIn before).map Prod.fst) :
    parse layout.text = .error (.repeatedLine item.1 ((lines (textOf before)).length + 1)) := by
  obtain ⟨rest, text, ends⟩ := has.text_eq
  obtain ⟨others, first⟩ := exists_lines_line found ends
  have read := line.entry_content
  rw [found] at read
  obtain ⟨some, rfl⟩ := read
  have passed : entries 1 [] (lines (textOf before)) = .ok (itemsIn before) := by
    have all := entries_layout before (.bare {} none) 1 []
    simp only [Line.item?, Option.toList_none, List.append_nil, List.nil_append] at all
    have text : textOf before ++ (Line.bare {} none).text = textOf before :=
      List.append_nil (textOf before)
    rw [text] at all
    exact all distinct
  rw [parse, text, lines_textOf_append before found, first, entries_append, passed, Nat.add_comm]
  exact entries_repeated some (lookup_isSome_iff.2 repeated)

theorem mem_keys_of_repeats {front : List (String × String)} {item : String × String}
    (distinct : (front.map Prod.fst).Nodup)
    (repeats : ¬ ((front ++ [item]).map Prod.fst).Nodup) : item.1 ∈ front.map Prod.fst := by
  by_contra fresh
  apply repeats
  rw [List.map_append, List.map_singleton]
  exact distinct.append (List.nodup_singleton item.1) (by simpa using fresh)

/-- Among items of which two have one key there is a first one whose key stands before it. -/
theorem exists_first_repeated {α : Type} {item? : α → Option (String × String)} {all : List α}
    (repeats : ¬ ((all.filterMap item?).map Prod.fst).Nodup) :
    ∃ before x after item, all = before ++ x :: after ∧ item? x = some item ∧
      ((before.filterMap item?).map Prod.fst).Nodup ∧
      item.1 ∈ (before.filterMap item?).map Prod.fst := by
  induction all using List.reverseRecOn with
  | nil => exact absurd List.nodup_nil repeats
  | append_singleton front x ih =>
    by_cases distinct : ((front.filterMap item?).map Prod.fst).Nodup
    · refine ⟨front, x, [], ?_⟩
      cases found : item? x with
      | none =>
        rw [List.filterMap_append, List.filterMap_cons_none found, List.filterMap_nil,
          List.append_nil] at repeats
        exact absurd distinct repeats
      | some item =>
        rw [List.filterMap_append, List.filterMap_cons_some found, List.filterMap_nil] at repeats
        exact ⟨item, rfl, rfl, distinct, mem_keys_of_repeats distinct repeats⟩
    · obtain ⟨before, y, after, item, split, rest⟩ := ih distinct
      refine ⟨before, y, after ++ [x], item, ?_, rest⟩
      rw [split, List.append_assoc, List.cons_append]

theorem Layout.exists_repeated {layout : Layout}
    (repeats : ¬ (layout.items.map Prod.fst).Nodup) :
    ∃ before line item, layout.HasLine before line ∧ line.item? = some item ∧
      ((itemsIn before).map Prod.fst).Nodup ∧ item.1 ∈ (itemsIn before).map Prod.fst := by
  by_cases distinct : ((itemsIn layout.ended).map Prod.fst).Nodup
  · refine ⟨layout.ended, layout.last, ?_⟩
    cases found : layout.last.item? with
    | none =>
      rw [Layout.items, found, Option.toList_none, List.append_nil] at repeats
      exact absurd distinct repeats
    | some item =>
      rw [Layout.items, found, Option.toList_some] at repeats
      exact ⟨item, .inr ⟨rfl, rfl⟩, rfl, distinct, mem_keys_of_repeats distinct repeats⟩
  · obtain ⟨before, ⟨line, ending⟩, after, item, split, found, rest⟩ :=
      exists_first_repeated distinct
    exact ⟨before, line, item, .inl ⟨ending, after, split⟩, found, rest⟩

end Parsing

section Texts

theorem exists_remark {text : List Char} (plain : ∀ c ∈ text, endsLine c = false) :
    ∃ remark, Remark.text remark = text.dropWhile (· ≠ '#') := by
  cases rest : text.dropWhile (· ≠ '#') with
  | nil => exact ⟨none, rfl⟩
  | cons c comment =>
    have mark : c = '#' := by
      have stopped := List.head?_dropWhile_not (· ≠ '#') text
      rw [rest] at stopped
      simpa using stopped
    have inside : ∀ c ∈ comment, c ∈ text := fun c member =>
      (List.dropWhile_sublist _).subset (rest ▸ List.mem_cons_of_mem _ member)
    subst mark
    exact ⟨some ⟨comment, fun c member => plain c (inside c member)⟩, rfl⟩

/-- The blanks that a text starts with. -/
theorem exists_gap {text : List Char} (plain : ∀ c ∈ text, endsLine c = false ∧ c ≠ '#') :
    ∃ (gap : Gap) (rest : List Char), text = gap.chars ++ rest ∧
      ∀ c, rest.head? = some c → isBlank c = false := by
  refine ⟨⟨text.takeWhile isBlank, ?_⟩, text.dropWhile isBlank,
    List.takeWhile_append_dropWhile.symm, ?_⟩
  · intro c member
    exact ⟨List.mem_takeWhile_imp member, (plain c ((List.takeWhile_sublist _).subset member)).1⟩
  · intro c first
    have stopped := List.head?_dropWhile_not isBlank text
    rw [first] at stopped
    simpa using stopped

/-- The word that a text starts with. -/
theorem exists_word {text : List Char} (plain : ∀ c ∈ text, endsLine c = false ∧ c ≠ '#')
    (filled : text ≠ []) (solid : ∀ c, text.head? = some c → isBlank c = false) :
    ∃ word rest, text = word ++ rest ∧ IsWord word ∧ word ≠ [] ∧
      rest.head?.all isBlank = true := by
  refine ⟨text.takeWhile (!isBlank ·), text.dropWhile (!isBlank ·),
    List.takeWhile_append_dropWhile.symm, ?_, ?_, ?_⟩
  · intro c member
    refine ⟨?_, (plain c ((List.takeWhile_sublist _).subset member)).2⟩
    simpa using List.mem_takeWhile_imp member
  · obtain ⟨c, rest, rfl⟩ := List.exists_cons_of_ne_nil filled
    simp [solid c rfl]
  · have stopped := List.head?_dropWhile_not (!isBlank ·) text
    cases first : (text.dropWhile (!isBlank ·)).head? with
    | none => rfl
    | some c =>
      rw [first] at stopped
      simpa using stopped

/-- The value that a text without blanks in front is, and the blanks after it. -/
theorem exists_value {text : List Char} (plain : ∀ c ∈ text, endsLine c = false ∧ c ≠ '#')
    (solid : ∀ c, text.head? = some c → isBlank c = false) :
    ∃ (value : List Char) (gap : Gap), text = value ++ gap.chars ∧ IsValue value := by
  obtain ⟨blanks, form, all, stop⟩ := exists_trimEnd text
  have inText {c : Char} (member : c ∈ trimEnd text ∨ c ∈ blanks) : c ∈ text := by
    rw [form]
    exact List.mem_append.2 member
  refine ⟨trimEnd text, ⟨blanks, ?_⟩, form, ⟨?_, ?_, stop⟩⟩
  · exact fun c member => ⟨all c member, (plain c (inText (.inr member))).1⟩
  · exact fun c member => plain c (inText (.inl member))
  · intro c first
    apply solid
    rw [form, List.head?_append, first, Option.some_or]

/-- What stands on a line before its comment is blank, or an item with blanks around. -/
theorem exists_body {body : List Char} (plain : ∀ c ∈ body, endsLine c = false ∧ c ≠ '#')
    (remark : Option Remark) : ∃ line : Line, line.body = body ∧ line.remark = remark := by
  obtain ⟨indent, rest, rfl, startsKey⟩ := exists_gap plain
  by_cases empty : rest = []
  · subst empty
    exact ⟨.bare indent remark, (List.append_nil _).symm, rfl⟩
  · have plainRest := fun c member => plain c (List.mem_append_right _ member)
    obtain ⟨key, rest, rfl, word, filled, ends⟩ := exists_word plainRest empty startsKey
    have plainRest := fun c member => plainRest c (List.mem_append_right _ member)
    obtain ⟨between, rest, rfl, startsValue⟩ := exists_gap plainRest
    have plainRest := fun c member => plainRest c (List.mem_append_right _ member)
    obtain ⟨value, after, rfl, fits⟩ := exists_value plainRest startsValue
    let item := (String.ofList key, String.ofList value)
    have apart : value ≠ [] → between.chars ≠ [] := by
      intro filled none
      obtain ⟨c, rest, chars⟩ := List.exists_cons_of_ne_nil filled
      rw [none, chars] at ends
      have blank : isBlank c = true := ends
      have solid := fits.start c (by rw [chars]; rfl)
      rw [blank] at solid
      cases solid
    let placed : Placed := {
      item, indent, between, after
      fits := by
        refine ⟨?_, ?_, ?_⟩
        · rwa [String.toList_ofList]
        · rwa [String.toList_ofList]
        · rwa [String.toList_ofList]
      apart := by rwa [String.toList_ofList] }
    refine ⟨.item placed remark, ?_, rfl⟩
    simp [Line.body, Placed.text, placed, item]

theorem exists_line {text : List Char} (plain : ∀ c ∈ text, endsLine c = false) :
    ∃ line : Line, line.text = text := by
  have free : ∀ c ∈ text.takeWhile (· ≠ '#'), endsLine c = false ∧ c ≠ '#' := fun c member =>
    ⟨plain c ((List.takeWhile_sublist _).subset member), by
      simpa using List.mem_takeWhile_imp member⟩
  obtain ⟨remark, comment⟩ := exists_remark plain
  obtain ⟨line, body, own⟩ := exists_body free remark
  refine ⟨line, ?_⟩
  rw [Line.text, body, own, comment, List.takeWhile_append_dropWhile]

theorem exists_layout (text : List Char) : ∃ layout : Layout, layout.text = text := by
  induction text with
  | nil => exact ⟨⟨[], .bare {} none⟩, rfl⟩
  | cons c text ih =>
    obtain ⟨⟨ended, last⟩, rfl⟩ := ih
    cases ends : endsLine c with
    | true =>
      let ending : LineEnd := ⟨[c], .inr ⟨c, rfl, ends⟩⟩
      refine ⟨⟨(.bare {} none, ending) :: ended, last⟩, ?_⟩
      rw [Layout.text, textOf_cons]
      rfl
    | false =>
      cases ended with
      | nil =>
        obtain ⟨line, text⟩ := exists_line (List.forall_mem_cons.2 ⟨ends, last.plain⟩)
        exact ⟨⟨[], line⟩, text⟩
      | cons first ended =>
        obtain ⟨line, ending⟩ := first
        obtain ⟨line', text⟩ := exists_line (List.forall_mem_cons.2 ⟨ends, line.plain⟩)
        refine ⟨⟨(line', ending) :: ended, last⟩, ?_⟩
        rw [Layout.text, textOf_cons, text, Layout.text, textOf_cons]
        rfl

end Texts

/-- The native notation. A layout whose keys are distinct is parsed to its items. One that repeats
a key is refused, with the key of the first line that repeats one and the number of that line
among the lines of the text. There is no other text. -/
theorem parse_layout :
    (∀ layout : Layout,
      ((layout.items.map Prod.fst).Nodup → parse layout.text = .ok layout.items) ∧
      (¬ (layout.items.map Prod.fst).Nodup →
        ∃ before line item, layout.HasLine before line ∧ line.item? = some item ∧
          ((itemsIn before).map Prod.fst).Nodup ∧ item.1 ∈ (itemsIn before).map Prod.fst ∧
          parse layout.text
            = .error (.repeatedLine item.1 ((lines (textOf before)).length + 1)))) ∧
      ∀ text : List Char, ∃ layout : Layout, layout.text = text := by
  refine ⟨fun layout => ⟨parse_items, ?_⟩, exists_layout⟩
  · intro repeats
    obtain ⟨before, line, item, has, found, distinct, repeated⟩ := layout.exists_repeated repeats
    exact ⟨before, line, item, has, found, distinct, repeated,
      parse_repeated has found distinct repeated⟩

/-- A line with an item and a comment. -/
def sized : Line :=
  .item {
    item := ("mtu", "1280")
    fits := by decide
    indent := {}
    between := ⟨['\t'], List.forall_mem_singleton.2 ⟨rfl, rfl⟩⟩
    after := ⟨[' '], List.forall_mem_singleton.2 ⟨rfl, rfl⟩⟩
    apart := fun _ => List.cons_ne_nil _ _ }
  (some ⟨['#'], List.forall_mem_singleton.2 rfl⟩)

/-- An item, a line without one, and a given last line. -/
def ending (last : Line) : Layout where
  ended := [(sized, ⟨['\r', '\n'], .inl rfl⟩), (.bare {} none, ⟨['\u2028'], .inr ⟨_, rfl, rfl⟩⟩)]
  last := last

theorem parse_layout_ending :
    parse (ending (.bare {} none)).text = .ok [("mtu", "1280")] ∧
      ∃ key number, parse (ending sized).text = .error (.repeatedLine key number) := by
  obtain ⟨layouts, -⟩ := parse_layout
  constructor
  · exact (layouts (ending (.bare {} none))).1 (by decide)
  · obtain ⟨before, line, item, -, -, -, -, stops⟩ := (layouts (ending sized)).2 (by decide)
    exact ⟨item.1, _, stops⟩

end Clat.Format.Conf
