import Clat.Text.Loose

/-! Loose texts that are texts. Encoding gives back a text that was made into a loose one, and stops
just where there is half of a surrogate pair. -/
namespace Clat.Text.LooseText

/-- There is no half of a surrogate pair in a text. -/
def Whole (loose : LooseText) : Prop := ∀ offset, Point.half offset ∉ loose.points

theorem charsFrom_map (position : Nat) (chars : List Char) :
    charsFrom position (chars.map .char) = .ok chars := by
  induction chars generalizing position with
  | nil => rfl
  | cons c chars ih =>
    rw [List.map_cons, charsFrom, ih]
    rfl

/-- Points are all characters, or a half stops their encoding. -/
theorem charsFrom_cases (position : Nat) (points : List Point) :
    (∃ chars, charsFrom position points = .ok chars ∧ points = chars.map .char) ∨
      ∃ error, charsFrom position points = .error error ∧ .half error.first ∈ points := by
  induction points generalizing position with
  | nil => exact .inl ⟨[], rfl, rfl⟩
  | cons point rest ih =>
    cases point with
    | half first => exact .inr ⟨_, rfl, List.mem_cons_self⟩
    | char c =>
      rw [charsFrom]
      rcases ih (position + 1) with ⟨chars, given, rfl⟩ | ⟨error, stop, member⟩
      · rw [given]
        exact .inl ⟨c :: chars, rfl, rfl⟩
      · rw [stop]
        exact .inr ⟨error, rfl, List.mem_cons_of_mem _ member⟩

@[simp]
theorem text_ofString (text : String) : (ofString text).text = .ok text := by
  rw [LooseText.text, ofString, charsFrom_map]
  exact congrArg Except.ok String.ofList_toList

theorem text_cases (loose : LooseText) :
    (∃ text : String, loose.text = .ok text ∧ loose = text) ∨
      ∃ error, loose.text = .error error ∧ .half error.first ∈ loose.points := by
  rcases charsFrom_cases 0 loose.points with ⟨chars, given, same⟩ | ⟨error, stop, member⟩
  · refine .inl ⟨String.ofList chars, ?_, ?_⟩
    · rw [LooseText.text, given]
      rfl
    · rw [ofString, String.toList_ofList, ← same]
  · refine .inr ⟨error, ?_, member⟩
    rw [LooseText.text, stop]
    rfl

theorem whole_iff {loose : LooseText} : loose.Whole ↔ ∃ text : String, loose = text := by
  constructor
  · intro whole
    rcases loose.text_cases with ⟨text, -, same⟩ | ⟨error, -, member⟩
    · exact ⟨text, same⟩
    · exact absurd member (whole error.first)
  · rintro ⟨text, rfl⟩ offset member
    obtain ⟨c, -, same⟩ := List.mem_map.1 member
    cases same

end Clat.Text.LooseText
