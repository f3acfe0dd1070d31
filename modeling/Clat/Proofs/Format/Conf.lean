import Clat.Proofs.Format.Conf.Layout

/-! The native notation read back. Items that are written one a line, with a space after the key,
are laid out, so they are the items of that text. -/
namespace Clat.Format.Conf

open Clat.Text

/-- The line of an item. -/
def lineOf (item : String × String) : List Char := item.1.toList ++ ' ' :: item.2.toList

/-- Items, one a line. -/
def written (items : List (String × String)) : List Char :=
  items.flatMap fun item => lineOf item ++ ['\n']

/-- Whether an item can be written on a line. -/
structure Writable (item : String × String) : Prop where
  key : IsWord item.1.toList
  key_ne : item.1.toList ≠ []
  value : IsWord item.2.toList

/-- Visible ASCII characters after the number sign make words. -/
theorem isWord_of_range {text : List Char}
    (range : ∀ c ∈ text, 0x24 ≤ c.toNat ∧ c.toNat ≤ 0x7e) : IsWord text := by
  intro c member
  obtain ⟨least, greatest⟩ := range c member
  refine ⟨?_, ?_⟩
  · simp [isBlank]
    omega
  · rintro rfl
    exact absurd least (by decide)

theorem IsWord.isValue {text : List Char} (word : IsWord text) : IsValue text where
  plain := word.plain
  start c first := (word c (List.mem_of_head? first)).1
  stop c last := (word c (List.mem_of_getLast? last)).1

theorem Writable.fits {item : String × String} (writable : Writable item) : Fits item :=
  ⟨writable.key, writable.key_ne, writable.value.isValue⟩

/-- The only blanks are a space and a line feed in each line. -/
theorem blank_of_mem_written {items : List (String × String)}
    (writable : ∀ item ∈ items, Writable item) {c : Char} (member : c ∈ written items)
    (blank : isBlank c = true) : c = ' ' ∨ c = '\n' := by
  obtain ⟨item, among, inside⟩ := List.mem_flatMap.1 member
  obtain ⟨key, -, value⟩ := writable item among
  have word {text : List Char} (solid : IsWord text) : c ∉ text := by
    intro inText
    rw [(solid c inText).1] at blank
    cases blank
  rw [lineOf, List.mem_append, List.mem_append, List.mem_cons] at inside
  rcases inside with (inKey | space | inValue) | feed
  · exact absurd inKey (word key)
  · exact .inl space
  · exact absurd inValue (word value)
  · exact .inr (List.mem_singleton.1 feed)

theorem Fits.text_placed {item : String × String} (fits : Fits item) :
    fits.placed.text = lineOf item := by
  simp [Placed.text, Fits.placed, lineOf]

/-- A line feed as the end of a line. -/
def feed : LineEnd := ⟨['\n'], .inr ⟨'\n', rfl, rfl⟩⟩

/-- An item on a line of its own, ended or not, is read back. -/
theorem parse_line {item : String × String} (fits : Fits item) {ending : List Char}
    (isEnding : ending = [] ∨ ending = ['\n']) : parse (lineOf item ++ ending) = .ok [item] := by
  have body : (Line.item fits.placed none).text = lineOf item := by
    rw [Line.text, Line.body, fits.text_placed]
    exact List.append_nil _
  rcases isEnding with rfl | rfl
  · have laid : (⟨[], .item fits.placed none⟩ : Layout).text = lineOf item ++ [] := by
      rw [Layout.text, body, List.append_nil]
      rfl
    rw [← laid]
    exact parse_items (List.nodup_singleton item.1)
  · have laid : (⟨[(.item fits.placed none, feed)], .bare {} none⟩ : Layout).text
        = lineOf item ++ ['\n'] := by
      rw [Layout.text, textOf_cons, body]
      simp [textOf, feed, Line.text, Line.body, Line.remark, Remark.text]
    rw [← laid]
    exact parse_items (List.nodup_singleton item.1)

/-- Items written one a line are laid out. -/
theorem exists_layout_written {items : List (String × String)}
    (fits : ∀ item ∈ items, Fits item) :
    ∃ layout : Layout, layout.text = written items ∧ layout.items = items := by
  induction items with
  | nil => exact ⟨⟨[], .bare {} none⟩, rfl, rfl⟩
  | cons item items ih =>
    obtain ⟨first, others⟩ := List.forall_mem_cons.1 fits
    obtain ⟨⟨ended, last⟩, text, same⟩ := ih others
    refine ⟨⟨(.item first.placed none, feed) :: ended, last⟩, ?_, ?_⟩
    · rw [written, List.flatMap_cons, ← written, ← text, Layout.text, textOf_cons]
      simp [Line.text, Line.body, Line.remark, Remark.text, first.text_placed, feed, Layout.text]
    · rw [Layout.items, itemsIn_cons]
      exact congrArg (item :: ·) same

/-- Items with distinct keys that are written one a line are read back. -/
theorem parse_written_of_fits {items : List (String × String)} (fits : ∀ item ∈ items, Fits item)
    (distinct : (items.map Prod.fst).Nodup) : parse (written items) = .ok items := by
  obtain ⟨layout, text, rfl⟩ := exists_layout_written fits
  rw [← text]
  exact parse_items distinct

theorem parse_written {items : List (String × String)} (writable : ∀ item ∈ items, Writable item)
    (distinct : (items.map Prod.fst).Nodup) : parse (written items) = .ok items :=
  parse_written_of_fits (fun item member => (writable item member).fits) distinct

end Clat.Format.Conf
