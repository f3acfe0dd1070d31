import Clat.Text.Split
import Mathlib.Data.List.TakeWhile

/-! Splitting undoes joining, where the mark is in none of the pieces. What is split off at the first
mark is the front of the text that ends there. -/
namespace Clat.Text

variable {mark : Char}

theorem splitOn_cons_mark (mark : Char) (text : List Char) :
    splitOn mark (mark :: text) = [] :: splitOn mark text := by
  rw [splitOn]
  cases pieces : splitOn mark text with
  | nil => exact absurd pieces (splitOn_ne_nil mark text)
  | cons piece rest => simp

/-- The pieces on both sides of a mark. -/
theorem splitOn_append_mark (front back : List Char) :
    splitOn mark (front ++ mark :: back) = splitOn mark front ++ splitOn mark back := by
  induction front with
  | nil => exact splitOn_cons_mark mark back
  | cons c front ih =>
    rw [List.cons_append, splitOn, splitOn, ih]
    cases pieces : splitOn mark front with
    | nil => exact absurd pieces (splitOn_ne_nil mark front)
    | cons piece rest =>
      by_cases same : c = mark
      · simp [same]
      · simp [same]

theorem splitOn_of_not_mem {piece : List Char} (free : mark ∉ piece) :
    splitOn mark piece = [piece] := by
  induction piece with
  | nil => rfl
  | cons c piece ih =>
    rw [List.mem_cons, not_or] at free
    rw [splitOn, ih free.2]
    simp [Ne.symm free.1]

theorem splitOn_joinWith {pieces : List (List Char)} (some : pieces ≠ [])
    (free : ∀ piece ∈ pieces, mark ∉ piece) : splitOn mark (joinWith mark pieces) = pieces := by
  induction pieces with
  | nil => exact absurd rfl some
  | cons piece pieces ih =>
    obtain ⟨first, others⟩ := List.forall_mem_cons.1 free
    cases pieces with
    | nil => exact splitOn_of_not_mem first
    | cons second rest =>
      rw [joinWith, splitOn_append_mark, splitOn_of_not_mem first,
        ih (List.cons_ne_nil second rest) others]
      · rfl
      · exact List.cons_ne_nil second rest

theorem mem_joinWith {pieces : List (List Char)} {c : Char} (member : c ∈ joinWith mark pieces) :
    c = mark ∨ ∃ piece ∈ pieces, c ∈ piece := by
  induction pieces with
  | nil => cases member
  | cons piece pieces ih =>
    cases pieces with
    | nil => exact .inr ⟨piece, List.mem_singleton_self piece, member⟩
    | cons second rest =>
      rw [joinWith, List.mem_append, List.mem_cons] at member
      · rcases member with inside | rfl | later
        · exact .inr ⟨piece, List.mem_cons_self, inside⟩
        · exact .inl rfl
        · rcases ih later with same | ⟨other, among, inside⟩
          · exact .inl same
          · exact .inr ⟨other, List.mem_cons_of_mem piece among, inside⟩
      · exact List.cons_ne_nil second rest

theorem mem_of_mem_splitOn {text piece : List Char}
    (member : piece ∈ splitOn mark text) {c : Char} (inside : c ∈ piece) : c ∈ text := by
  fun_induction splitOn mark text generalizing piece with
  | case1 => simp_all
  | case2 c' rest none ih => simp_all
  | case3 rest first pieces next ih =>
    rcases List.mem_cons.1 member with rfl | member
    · cases inside
    · exact List.mem_cons_of_mem _ (ih (next ▸ member) inside)
  | case4 c' rest first pieces next _ ih =>
    rcases List.mem_cons.1 member with rfl | member
    · rcases List.mem_cons.1 inside with rfl | inside
      · exact List.mem_cons_self
      · exact List.mem_cons_of_mem _ (ih (next ▸ List.mem_cons_self) inside)
    · exact List.mem_cons_of_mem _ (ih (next ▸ List.mem_cons_of_mem _ member) inside)

theorem splitFirst_of_not_mem {text : List Char} (free : mark ∉ text) :
    splitFirst mark text = (text, none) := by
  have all : text.dropWhile (· ≠ mark) = [] := by
    rw [List.dropWhile_eq_nil_iff]
    intro c member
    simp only [ne_eq, decide_eq_true_eq]
    rintro rfl
    exact free member
  rw [splitFirst, all]

/-- What stands before the first mark in a text, which is all of it where there is none. -/
def IsFront (mark : Char) (text front : List Char) : Prop :=
  mark ∉ front ∧ (text = front ∨ ∃ back, text = front ++ mark :: back)

theorem splitFirst_fst (mark : Char) (text : List Char) :
    (splitFirst mark text).1 = text.takeWhile (· ≠ mark) := by
  have whole := List.takeWhile_append_dropWhile (p := fun c => decide (c ≠ mark)) (l := text)
  unfold splitFirst
  split
  · rename_i none
    rw [none, List.append_nil] at whole
    exact whole.symm
  · rfl

theorem splitFirst_fst_iff {text front : List Char} :
    (splitFirst mark text).1 = front ↔ IsFront mark text front := by
  rw [splitFirst_fst]
  constructor
  · rintro rfl
    refine ⟨fun member => ?_, ?_⟩
    · have other := List.mem_takeWhile_imp member
      simp at other
    · have whole := List.takeWhile_append_dropWhile (p := fun c => decide (c ≠ mark)) (l := text)
      cases rest : text.dropWhile (· ≠ mark) with
      | nil =>
        rw [rest, List.append_nil] at whole
        exact .inl whole.symm
      | cons c back =>
        have first := List.head?_dropWhile_not (fun c => decide (c ≠ mark)) text
        rw [rest] at first whole
        obtain rfl : c = mark := by simpa using first
        exact .inr ⟨back, whole.symm⟩
  · rintro ⟨free, rfl | ⟨back, rfl⟩⟩
    · rw [List.takeWhile_eq_self_iff]
      intro c member
      exact decide_eq_true (ne_of_mem_of_not_mem member free)
    · rw [List.takeWhile_append_of_pos]
      · simp
      · intro c member
        exact decide_eq_true (ne_of_mem_of_not_mem member free)

end Clat.Text
