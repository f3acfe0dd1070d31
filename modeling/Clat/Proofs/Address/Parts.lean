import Clat.Address.IPv6
import Clat.Proofs.Checksum.Field

/-! Parts of IPv6 addresses and their share in the sum. The middle 16 bits are a field at an odd
offset, so in the sum of the address they count with their octets exchanged. -/
namespace Clat.IPv6

open Clat.Checksum

theorem withInterfaceId_ok (address : IPv6) {identifier : List UInt8}
    (size : identifier.length = 8) :
    ∃ result, address.withInterfaceId identifier = .ok result ∧
      result.octets = address.network ++ identifier := by
  rw [withInterfaceId, dif_pos size]
  exact ⟨_, rfl, rfl⟩

theorem length_network (address : IPv6) : address.network.length = 8 := by
  simp [network, address.size_eq]

section Octets

variable {address uplink : IPv6} {identifier : List UInt8}
  (octets : address.octets = uplink.network ++ identifier)
include octets

theorem network_of_octets : address.network = uplink.network := by
  rw [network, octets, List.take_left' uplink.length_network]

theorem interfaceId_of_octets : address.interfaceId = identifier := by
  rw [interfaceId, octets, List.drop_left' uplink.length_network]

end Octets

/-- Octets of the identifier are those of the address from offset 8 on. -/
theorem set_network_append (address : IPv6) (identifier : List UInt8) (offset : Nat)
    (octet : UInt8) :
    (address.network ++ identifier).set (8 + offset) octet =
      address.network ++ identifier.set offset octet := by
  rw [List.set_append_right _ _ (by simp [length_network]), length_network,
    Nat.add_sub_cancel_left]

theorem middle_eq (address : IPv6) : address.middle = field address.octets middleOffset := by
  simp [middle, field, word]

theorem middle_isField16 (address : IPv6) : IsField16 address.middle := by
  rw [middle_eq]
  exact field_isField16 address.octets middleOffset

/-- A 16-bit value is put into octets 11 and 12. -/
theorem withMiddle_ok (address : IPv6) {value : Int} (fits : IsField16 value) :
    ∃ result, address.withMiddle value = .ok result ∧
      result.octets = (address.octets.set middleOffset (UInt8.ofNat (value.toNat / 256))).set
        (middleOffset + 1) (UInt8.ofNat (value.toNat % 256)) := by
  rw [withMiddle, if_pos ⟨fits.1, fits.2⟩]
  exact ⟨_, rfl, rfl⟩

/-- New middle bits change the sum by what they and the old ones count with their octets
exchanged. -/
theorem add_withMiddle {address result : IPv6} {value : Int} (fits : IsField16 value)
    (replaced : address.withMiddle value = .ok result) :
    add 0 result.octets = add 0 address.octets - swap16 address.middle + swap16 value := by
  obtain ⟨_, made, octets⟩ := address.withMiddle_ok fits
  obtain rfl : result = _ := by simpa [replaced] using made
  have inside : middleOffset + 2 ≤ address.octets.length := by rw [address.size_eq]; decide
  rw [octets, middle_eq]
  exact add_putField fits inside

end Clat.IPv6
