import Clat.Proofs.Checksum.Field

/-! Incremental update of a structure. Words of it give way to others, and a field beside them is
adjusted so that the checksum stays. The field may lie before or after the words, in one word or in
two, and the structure may grow or shrink and have an odd last octet. -/
namespace Clat.Checksum

/-- A structure with a field, and a region of whole words beside the field that gives way to
others. -/
structure Update where
  octets : List UInt8
  /-- Where the field is. -/
  offset : Nat
  /-- Where the region starts. -/
  start : Nat
  /-- The size of the region. -/
  size : Nat
  /-- The octets that take the region's place. -/
  fresh : List UInt8
  field_inside : offset + 2 ≤ octets.length
  region_inside : start + size ≤ octets.length
  even_start : start % 2 = 0
  even_size : size % 2 = 0
  even_fresh : fresh.length % 2 = 0
  apart : offset + 2 ≤ start ∨ start + size ≤ offset

namespace Update

/-- The octets of the region. -/
def stale (u : Update) : List UInt8 := (u.octets.drop u.start).take u.size

/-- The structure with the region replaced. -/
def replaced (u : Update) : List UInt8 :=
  u.octets.take u.start ++ u.fresh ++ u.octets.drop (u.start + u.size)

/-- Where the field is once the region is replaced. -/
def movedOffset (u : Update) : Nat :=
  if u.start + u.size ≤ u.offset then u.offset - u.size + u.fresh.length else u.offset

/-- The adjusted value of the field. At an odd offset the field is adjusted with its octets
exchanged. -/
def adjusted (u : Update) : Int :=
  adjust (counted u.offset (field u.octets u.offset)) (add 0 u.stale) (add 0 u.fresh)

/-- The structure with the region replaced and the field adjusted. -/
def result (u : Update) : List UInt8 :=
  putField u.replaced u.movedOffset (counted u.offset u.adjusted)

variable (u : Update)

theorem adjusted_isField16 : IsField16 u.adjusted :=
  adjust_isField16 (counted_isField16 u.offset (field_isField16 u.octets u.offset))
    (add_nonneg u.stale) (add_nonneg u.fresh)

section Region

theorem octets_eq :
    u.octets = u.octets.take u.start ++ u.stale ++ u.octets.drop (u.start + u.size) := by
  rw [stale, List.append_assoc, ← List.drop_drop, List.take_append_drop, List.take_append_drop]

theorem length_front : (u.octets.take u.start).length = u.start := by
  have inside := u.region_inside
  rw [List.length_take]
  omega

theorem length_stale : u.stale.length = u.size := by
  have inside := u.region_inside
  rw [stale, List.length_take, List.length_drop]
  omega

theorem length_replaced : u.replaced.length + u.size = u.octets.length + u.fresh.length := by
  have inside := u.region_inside
  rw [replaced, List.length_append, List.length_append, List.length_drop, u.length_front]
  omega

/-- Whole words in the middle of a structure count on their own. -/
theorem add_around {region : List UInt8} (even : region.length % 2 = 0) :
    add 0 (u.octets.take u.start ++ region ++ u.octets.drop (u.start + u.size))
      = add 0 (u.octets.take u.start) + add 0 region
        + add 0 (u.octets.drop (u.start + u.size)) := by
  have front : (u.octets.take u.start).length % 2 = 0 := by rw [u.length_front, u.even_start]
  have both : (u.octets.take u.start ++ region).length % 2 = 0 := by
    rw [List.length_append]
    omega
  rw [add_zero_append both, add_zero_append front]

theorem add_replaced : add 0 u.replaced = add 0 u.octets - add 0 u.stale + add 0 u.fresh := by
  have even : u.stale.length % 2 = 0 := by rw [u.length_stale, u.even_size]
  have before := u.add_around even
  have after := u.add_around u.even_fresh
  rw [← octets_eq] at before
  rw [replaced]
  omega

end Region

section Field

theorem getElem?_replaced_before {place : Nat} (before : place < u.start) :
    u.replaced[place]? = u.octets[place]? := by
  have front := u.length_front
  rw [replaced, List.append_assoc, List.getElem?_append_left (by omega),
    List.getElem?_take_of_lt before]

theorem getElem?_replaced_after {place : Nat} (after : u.start + u.size ≤ place) :
    u.replaced[place - u.size + u.fresh.length]? = u.octets[place]? := by
  have both : (u.octets.take u.start ++ u.fresh).length = u.start + u.fresh.length := by
    rw [List.length_append, u.length_front]
  have back : u.start + u.size + (place - u.size + u.fresh.length - (u.start + u.fresh.length))
      = place := by
    omega
  rw [replaced, List.getElem?_append_right (by omega), both, List.getElem?_drop, back]

/-- The field is not touched when the region is replaced. -/
theorem field_replaced : field u.replaced u.movedOffset = field u.octets u.offset := by
  simp only [field, List.getD_eq_getElem?_getD]
  obtain before | after := u.apart
  · rw [movedOffset, if_neg (by omega), u.getElem?_replaced_before (by omega),
      u.getElem?_replaced_before (by omega)]
  · have second : u.offset - u.size + u.fresh.length + 1
        = u.offset + 1 - u.size + u.fresh.length := by
      omega
    rw [movedOffset, if_pos after, second, u.getElem?_replaced_after after,
      u.getElem?_replaced_after (by omega)]

theorem movedOffset_inside : u.movedOffset + 2 ≤ u.replaced.length := by
  have inside := u.field_inside
  have region := u.region_inside
  have grown := u.length_replaced
  obtain before | after := u.apart
  · rw [movedOffset, if_neg (by omega), replaced, List.length_append, List.length_append,
      u.length_front]
    omega
  · rw [movedOffset, if_pos after]
    omega

/-- Whole words come and go, so the field stays at an even or an odd offset. -/
theorem counted_movedOffset (value : Int) : counted u.movedOffset value = counted u.offset value := by
  have size := u.even_size
  have fresh := u.even_fresh
  have same : u.movedOffset % 2 = u.offset % 2 := by
    unfold movedOffset
    split <;> omega
  rw [counted, counted, same]

end Field

/-- The adjusted field makes up in the sum for what the region lost or gained. -/
theorem add_result : add 0 u.result
    = add 0 u.octets - add 0 u.stale + add 0 u.fresh
      - counted u.offset (field u.octets u.offset) + u.adjusted := by
  have fits := u.adjusted_isField16
  rw [result, add_putField (counted_isField16 u.offset fits) u.movedOffset_inside,
    u.field_replaced, u.counted_movedOffset, u.counted_movedOffset, counted_counted u.offset fits,
    u.add_replaced]

theorem add_result_modEq : add 0 u.octets ≡ add 0 u.result [ZMOD modulus] := by
  have made : u.adjusted ≡ counted u.offset (field u.octets u.offset) + add 0 u.stale
      - add 0 u.fresh [ZMOD modulus] :=
    adjust_modEq (counted_isField16 u.offset (field_isField16 u.octets u.offset))
      (add_nonneg u.stale) (add_nonneg u.fresh)
  rw [u.add_result]
  simp only [Int.ModEq, modulus] at made ⊢
  omega

/-- An update keeps the sum of its structure modulo 65535, and its checksum too unless one of the
structures before and after, and not the other, consists of zero octets. The adjusted value is a
16-bit value, and the field holds it. -/
theorem conserves (u : Update) :
    (0 ≤ u.adjusted ∧ u.adjusted ≤ 65535) ∧
      field u.result u.movedOffset = counted u.offset u.adjusted ∧
      add 0 u.octets ≡ add 0 u.result [ZMOD 65535] ∧
      (fold (add 0 u.octets) = fold (add 0 u.result) ↔
        ((∀ octet ∈ u.octets, octet = 0) ↔ ∀ octet ∈ u.result, octet = 0)) := by
  have fits := u.adjusted_isField16
  refine ⟨fits, field_putField (counted_isField16 u.offset fits) u.movedOffset_inside,
    u.add_result_modEq, ?_⟩
  rw [fold_eq_iff (add_nonneg _) (add_nonneg _) u.add_result_modEq, add_eq_zero_iff,
    add_eq_zero_iff]

/-- A word of seven octets gives way to two words, in front of a field that ends in the odd last
octet. -/
def growing : Update where
  octets := [0x45, 0, 0x12, 0x34, 7, 9, 1]
  offset := 5
  start := 2
  size := 2
  fresh := [1, 2, 0xff, 0xff]
  field_inside := by decide
  region_inside := by decide
  even_start := by decide
  even_size := by decide
  even_fresh := by decide
  apart := by decide

theorem conserves_growing :
    growing.result = [0x45, 0, 1, 2, 0xff, 0xff, 7, 0x3b, 0x12] ∧
      fold (add 0 growing.octets) = fold (add 0 growing.result) := by
  have result : growing.result = [0x45, 0, 1, 2, 0xff, 0xff, 7, 0x3b, 0x12] := by decide +kernel
  obtain ⟨-, -, -, same⟩ := conserves growing
  refine ⟨result, same.2 (iff_of_false (by decide) ?_)⟩
  rw [result]
  decide

end Update

end Clat.Checksum
