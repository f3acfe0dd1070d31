import Clat.Declared
import Clat.Proofs.Text.Loose

/-! Declared values that are accepted: a 16-bit integer is in range, and the name of an
interface fits its buffer. -/
namespace Clat

open Clat.Number Clat.Text

theorem Text.utf8Size_eq (c : Char) : utf8Size c = c.utf8Size := by
  have below {bound : Nat} (small : bound < UInt32.size) :
      c.val ≤ UInt32.ofNatLT bound small ↔ c.toNat < bound + 1 :=
    UInt32.le_iff_toNat_le.trans Nat.lt_succ_iff.symm
  simp only [utf8Size, Char.utf8Size, below]

theorem Text.utf8Length_eq (text : List Char) :
    utf8Length text = (String.ofList text).utf8ByteSize := by
  induction text with
  | nil => rfl
  | cons c rest ih =>
    rw [String.ofList_cons, String.utf8ByteSize_append, String.utf8ByteSize_singleton, ← ih,
      ← utf8Size_eq, utf8Length]

namespace Declared

/-- The range of an integer that can be written. -/
theorem checkRange_eq (d : Declared) {value : Int} (least greatest : Int)
    (short : (decimal value.natAbs).length ≤ digitLimit) :
    d.checkRange value (some least) (some greatest) =
      if value < least then d.refuse (.tooSmall value least)
      else if greatest < value then d.refuse (.tooBig value greatest)
      else .ok () := by
  have written : writeInteger value = .ok (signedDecimal value) := if_neg (Nat.not_lt.2 short)
  unfold checkRange
  simp only [Option.any_some, decide_eq_true_eq, Option.getD_some, written]
  rfl

theorem checkSize_eq (path text : String) (least greatest : Int) :
    checkSize path text (some least) (some greatest) =
      if (text.utf8ByteSize : Int) < least then .error (.issue ⟨.tooShort text least, path⟩)
      else if greatest < text.utf8ByteSize then .error (.issue ⟨.tooLong text greatest, path⟩)
      else .ok text := by
  have size : utf8Length text.toList = text.utf8ByteSize := by
    rw [utf8Length_eq, String.ofList_toList]
  have meant : (LooseText.ofString text).text.mapError Refusal.unencodable = .ok text := by
    rw [LooseText.text_ofString]
    rfl
  unfold checkSize
  rw [meant]
  simp only [bind, Except.bind, size, Option.any_some, decide_eq_true_eq, Option.getD_some]
  rfl

/-- A name without a UTF-8 form is not checked. -/
theorem validateName_unencodable {name : LooseText} {error : EncodingError}
    (stop : name.text = .error error) (path : String) :
    validateName path name = .error (.unencodable error) := by
  unfold validateName checkSize
  rw [stop]
  rfl

end Declared
end Clat
