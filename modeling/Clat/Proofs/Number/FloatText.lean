import Clat.Number.FloatText
import Clat.Proofs.Number.Digits

/-! The characters of binary64 numbers as text. One of them is always a point, an exponent mark or a
letter of a name, so that no integer has the same text. -/
namespace Clat.Number.Binary64

/-- The characters beside digits that texts of numbers have. -/
def signs : List Char := ['+', '-', '.', 'e', 'a', 'f', 'i', 'n']

/-- The characters that texts of integers do not have. -/
def marks : List Char := ['.', 'e', 'n']

theorem mem_exponentText {exponent : Int} {c : Char} (member : c ∈ exponentText exponent) :
    isAsciiDigit c = true ∨ c ∈ signs := by
  unfold exponentText at member
  simp only [List.mem_cons] at member
  rcases member with rfl | sign | place
  · exact .inr (by decide)
  · right
    split at sign
    · rw [sign]
      decide
    · rw [sign]
      decide
  · left
    split at place
    · rcases List.mem_cons.1 place with rfl | place
      · decide
      · exact isAsciiDigit_of_mem_decimal place
    · exact isAsciiDigit_of_mem_decimal place

section LayOut

variable {places : List Char} {exponent : Int}

theorem mem_layOut (digits : ∀ c ∈ places, isAsciiDigit c = true) {c : Char}
    (member : c ∈ layOut places exponent) : isAsciiDigit c = true ∨ c ∈ signs := by
  have zero : isAsciiDigit '0' = true := by decide
  have point : '.' ∈ signs := by decide
  unfold layOut at member
  split at member
  · cases places with
    | nil => cases member
    | cons first rest =>
      obtain ⟨leading, others⟩ := List.forall_mem_cons.1 digits
      cases rest with
      | nil =>
        rcases List.mem_cons.1 member with rfl | tail
        · exact .inl leading
        · exact mem_exponentText tail
      | cons second rest =>
        simp only [List.cons_append, List.mem_cons, List.mem_append] at member
        rcases member with rfl | rfl | rfl | place | tail
        · exact .inl leading
        · exact .inr point
        · exact .inl (others _ List.mem_cons_self)
        · exact .inl (others _ (List.mem_cons_of_mem _ place))
        · exact mem_exponentText tail
  · split at member
    · simp only [List.cons_append, List.mem_cons, List.mem_append, List.mem_replicate] at member
      rcases member with rfl | rfl | ⟨-, rfl⟩ | place
      · exact .inl zero
      · exact .inr point
      · exact .inl zero
      · exact .inl (digits _ place)
    · dsimp only at member
      split at member
      · simp only [List.mem_append, List.mem_replicate, List.mem_cons, List.not_mem_nil,
          or_false] at member
        rcases member with (place | ⟨-, rfl⟩) | rfl | rfl
        · exact .inl (digits _ place)
        · exact .inl zero
        · exact .inr point
        · exact .inl zero
      · simp only [List.mem_append, List.mem_cons] at member
        rcases member with place | rfl | place
        · exact .inl (digits _ (List.mem_of_mem_take place))
        · exact .inr point
        · exact .inl (digits _ (List.mem_of_mem_drop place))

theorem layOut_marked (filled : places ≠ []) : ∃ c ∈ layOut places exponent, c ∈ marks := by
  have point : '.' ∈ marks := by decide
  unfold layOut
  split
  · cases places with
    | nil => exact absurd rfl filled
    | cons first rest =>
      cases rest with
      | nil => exact ⟨'e', by simp [exponentText], by decide⟩
      | cons second rest => exact ⟨'.', by simp, point⟩
  · split
    · exact ⟨'.', by simp, point⟩
    · dsimp only
      split
      · exact ⟨'.', by simp, point⟩
      · exact ⟨'.', by simp, point⟩

end LayOut

/-- The digits of a number that is not negative, with its point. -/
def body (significand : Nat) (exponent : Int) : List Char :=
  if significand = 0 then ['0', '.', '0']
  else
    let d := shortest significand exponent
    let places := decimal d.digits
    layOut places (d.exponent + places.length - 1)

theorem text_finite (negative : Bool) (significand : Nat) (exponent : Int) :
    text (.finite negative significand exponent)
      = if negative then '-' :: body significand exponent else body significand exponent := rfl

theorem mem_body {significand : Nat} {exponent : Int} {c : Char}
    (member : c ∈ body significand exponent) : isAsciiDigit c = true ∨ c ∈ signs := by
  unfold body at member
  split at member
  · simp only [List.mem_cons, List.not_mem_nil, or_false] at member
    rcases member with rfl | rfl | rfl
    · exact .inl rfl
    · exact .inr (by decide)
    · exact .inl rfl
  · exact mem_layOut (fun _ => isAsciiDigit_of_mem_decimal) member

theorem body_marked (significand : Nat) (exponent : Int) :
    ∃ c ∈ body significand exponent, c ∈ marks := by
  unfold body
  split
  · exact ⟨'.', by decide, by decide⟩
  · exact layOut_marked (digits_ne_nil _ _)

theorem mem_text {value : Binary64} {c : Char} (member : c ∈ value.text) :
    isAsciiDigit c = true ∨ c ∈ signs := by
  cases value with
  | nan =>
    have all : text .nan ⊆ signs := by decide
    exact .inr (all member)
  | infinite negative =>
    have all : text (.infinite negative) ⊆ signs := by
      cases negative <;> decide
    exact .inr (all member)
  | finite negative significand exponent =>
    rw [text_finite] at member
    cases negative with
    | true =>
      rcases List.mem_cons.1 member with rfl | member
      · exact .inr (by decide)
      · exact mem_body member
    | false => exact mem_body member

theorem text_marked (value : Binary64) : ∃ c ∈ value.text, c ∈ marks := by
  cases value with
  | nan => exact ⟨'n', by decide, by decide⟩
  | infinite negative => cases negative <;> exact ⟨'n', by decide, by decide⟩
  | finite negative significand exponent =>
    obtain ⟨c, member, mark⟩ := body_marked significand exponent
    refine ⟨c, ?_, mark⟩
    rw [text_finite]
    cases negative with
    | true => exact List.mem_cons_of_mem _ member
    | false => exact member

end Clat.Number.Binary64
