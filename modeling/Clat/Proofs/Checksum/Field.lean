import Clat.Proofs.Checksum.Adjust
import Clat.Proofs.Checksum.Sum

/-! Fields of two octets. At an even offset a field is a word of the sum. At an odd one its first
octet is the low one of a word and its second the high one of the next, so that it counts with its
octets exchanged. -/
namespace Clat.Checksum

/-- The 16-bit value of the two octets at an offset. -/
def field (octets : List UInt8) (offset : Nat) : Int :=
  word (octets.getD offset 0) (octets.getD (offset + 1) 0)

/-- The octets with a 16-bit value put at an offset. -/
def putField (octets : List UInt8) (offset : Nat) (value : Int) : List UInt8 :=
  (octets.set offset (UInt8.ofNat (value.toNat / 256))).set (offset + 1)
    (UInt8.ofNat (value.toNat % 256))

/-- What a 16-bit value at an offset counts in a sum. -/
def counted (offset : Nat) (value : Int) : Int := if offset % 2 = 0 then value else swap16 value

variable {octets : List UInt8} {offset : Nat} {value : Int}

theorem field_isField16 (octets : List UInt8) (offset : Nat) : IsField16 (field octets offset) := by
  have high := (octets.getD offset 0).toNat_lt
  have low := (octets.getD (offset + 1) 0).toNat_lt
  simp only [IsField16, field, word, modulus]
  omega

theorem field_div (octets : List UInt8) (offset : Nat) :
    field octets offset / 256 = (octets.getD offset 0).toNat := by
  have low := (octets.getD (offset + 1) 0).toNat_lt
  rw [field, word]
  omega

theorem field_mod (octets : List UInt8) (offset : Nat) :
    field octets offset % 256 = (octets.getD (offset + 1) 0).toNat := by
  have low := (octets.getD (offset + 1) 0).toNat_lt
  rw [field, word]
  omega

theorem counted_isField16 (offset : Nat) (fits : IsField16 value) :
    IsField16 (counted offset value) := by
  unfold counted
  split
  · exact fits
  · exact swap16_isField16 fits

theorem counted_counted (offset : Nat) (fits : IsField16 value) :
    counted offset (counted offset value) = value := by
  unfold counted
  split
  · rfl
  · exact swap16_swap16 fits

/-- Each octet of a field counts by its place. -/
theorem counted_eq (offset : Nat) (fits : IsField16 value) :
    counted offset value = weight offset * (value / 256) + weight (offset + 1) * (value % 256) := by
  unfold counted weight
  split
  · rw [if_neg (by omega)]
    omega
  · rw [if_pos (by omega), swap16_of_field fits]
    omega

/-- Nothing changes when a field is given the value that it has. -/
theorem putField_field (inside : offset + 2 ≤ octets.length) :
    putField octets offset (field octets offset) = octets := by
  have high := field_div octets offset
  have low := field_mod octets offset
  have first : (field octets offset).toNat / 256 = (octets.getD offset 0).toNat := by omega
  have second : (field octets offset).toNat % 256 = (octets.getD (offset + 1) 0).toNat := by omega
  have kept {place : Nat} (here : place < octets.length) :
      octets.set place (octets.getD place 0) = octets := by
    rw [List.getD_eq_getElem?_getD, List.getElem?_eq_getElem here, Option.getD_some,
      List.set_getElem_self]
  rw [putField, first, second, UInt8.ofNat_toNat, UInt8.ofNat_toNat, kept (by omega),
    kept (by omega)]

section Octets

variable (fits : IsField16 value)
include fits

theorem toNat_high : ((UInt8.ofNat (value.toNat / 256)).toNat : Int) = value / 256 := by
  obtain ⟨least, greatest⟩ := fits
  simp only [modulus] at greatest
  rw [UInt8.toNat_ofNat']
  omega

theorem toNat_low : ((UInt8.ofNat (value.toNat % 256)).toNat : Int) = value % 256 := by
  obtain ⟨least, greatest⟩ := fits
  rw [UInt8.toNat_ofNat']
  omega

/-- A field holds the value that was put there. -/
theorem field_putField (inside : offset + 2 ≤ octets.length) :
    field (putField octets offset value) offset = value := by
  have high := toNat_high fits
  have low := toNat_low fits
  rw [field, putField, List.getD_eq_getElem?_getD, List.getD_eq_getElem?_getD,
    List.getElem?_set_ne (by omega), List.getElem?_set_self (by omega),
    List.getElem?_set_self (by simp; omega), Option.getD_some, Option.getD_some, word, high, low]
  omega

/-- A value put into a field changes the sum by what it and the value before count. -/
theorem add_putField (inside : offset + 2 ≤ octets.length) :
    add 0 (putField octets offset value)
      = add 0 octets - counted offset (field octets offset) + counted offset value := by
  have second : (octets.set offset (UInt8.ofNat (value.toNat / 256))).getD (offset + 1) 0
      = octets.getD (offset + 1) 0 := by
    simp [List.getD_eq_getElem?_getD]
  rw [putField, add_set 0 (by simp; omega), add_set 0 (by omega), second, toNat_high fits,
    toNat_low fits, counted_eq offset fits, counted_eq offset (field_isField16 octets offset),
    field_div, field_mod, Int.mul_sub, Int.mul_sub]
  omega

end Octets

end Clat.Checksum
