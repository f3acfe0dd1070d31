import Clat.Format.Entry
import Clat.Proofs.Number.Limit

/-! Items of a document. The only scalars without a text are integers that are too large to
be written. -/
namespace Clat.Format

open Clat.Number

/-- Whether a holding is no integer that is too large to be written. -/
def Holding.Writable : Holding → Prop
  | .integer value => (decimal value.natAbs).length ≤ digitLimit
  | _ => True

/-- Whether the entries of a document can be written. -/
def Document.Writable : Document → Prop
  | .mapping entries => ∀ entry ∈ entries, entry.1.Writable ∧ entry.2.Writable
  | _ => True

/-- Whether an entry makes an item: its key and its value can be written, and the value is a
scalar. -/
structure Settles (entry : Holding × Holding) : Prop where
  key : entry.1.Writable
  value : entry.2.Writable
  scalar : ∀ typeName, entry.2 ≠ .other typeName

/-- Entries of which one cannot be written, after others that make items. -/
def Overlong (entries : List (Holding × Holding)) : Prop :=
  ∃ before entry after, entries = before ++ entry :: after ∧ (∀ entry ∈ before, Settles entry) ∧
    ¬ (entry.1.Writable ∧ entry.2.Writable)

theorem integerText_of_le {value : Int} (small : (decimal value.natAbs).length ≤ digitLimit) :
    integerText value = .ok (String.ofList (signedDecimal value)) := by
  rw [integerText, writeInteger, if_neg (by omega)]

theorem integerText_of_lt {value : Int} (large : digitLimit < (decimal value.natAbs).length) :
    integerText value = .error (.fault (.integer .tooLarge)) := by
  rw [integerText, writeInteger, if_pos large]

namespace Holding

variable {holding : Holding}

end Holding

theorem Overlong.cons {first : Holding × Holding} {entries : List (Holding × Holding)}
    (settles : Settles first) (overlong : Overlong entries) : Overlong (first :: entries) := by
  obtain ⟨before, entry, after, rfl, settled, large⟩ := overlong
  refine ⟨first :: before, entry, after, rfl, ?_, large⟩
  exact List.forall_mem_cons.2 ⟨settles, settled⟩

end Clat.Format
