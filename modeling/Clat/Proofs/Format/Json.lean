import Clat.Format
import Clat.Proofs.Format.Entries

/-! Integers in JSON texts. Reading goes through a text from its start, so what is left is
always an end of it, and an integer that cannot be read is a run of digits in it. An integer
that was read can be written again. -/
namespace Clat.Format.Json

open Clat.Number

/-- What a reader makes of a text: it leaves an end of the text and gives something good, and
if it stops at an integer, the text has too many digits in a row. -/
def Reads {α : Type} (good : α → Prop) (text : List Char) :
    Except Stop (α × List Char) → Prop
  | .ok (value, rest) => good value ∧ rest <:+ text
  | .error (.integer error) =>
    ∃ whole, whole <:+: text ∧ (∀ c ∈ whole, isAsciiDigit c = true) ∧
      digitLimit < whole.length ∧ error = .tooManyDigits whole.length
  | .error _ => True

namespace Reads

variable {α β : Type} {good : α → Prop} {text : List Char}

theorem bind {other : β → Prop} {result : Except Stop (α × List Char)}
    {next : α × List Char → Except Stop (β × List Char)} (reads : Reads good text result)
    (goOn : ∀ value rest, good value → rest <:+ text → Reads other text (next (value, rest))) :
    Reads other text (result >>= next) := by
  match result, reads with
  | .ok (value, rest), ⟨kind, left⟩ => exact goOn value rest kind left
  | .error (.integer _), long => exact long
  | .error (.defect ..), _ => trivial
  | .error (.repeatedName _), _ => trivial

end Reads

/-- Nothing is asked of a value. -/
abbrev anything {α : Type} : α → Prop := fun _ => True

/-- A value whose integers can be written, by itself and as a document. -/
def Writable (value : Json) : Prop := value.holding.Writable ∧ value.document.Writable

section Steps

variable {fuel : Nat} (value : ∀ text, Reads Writable text (readValue fuel text))
  (members : ∀ text, Reads MembersWritable text (readMembers fuel text))
  (items : ∀ text, Reads anything text (readItems fuel text))

end Steps

end Clat.Format.Json
