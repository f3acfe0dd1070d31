import Clat.Proofs.Address.Parts
import Clat.Proofs.Address.Text

/-! IPv6 addresses as sixteen octets. An address without a zone is no more than its octets: they
decide which addresses it is equal to, and it is made again from its text and from its parts. Every
source of addresses gives such a one, but for an address that is given as such and has a zone. -/
namespace Clat.IPv6

open Clat.Checksum

section Identity

/-- What an address is hashed by: its number and its zone. -/
def identity (address : IPv6) : Nat × Option String := (address.toNat, address.zone)

theorem eq_iff {address other : IPv6} :
    address = other ↔ address.octets = other.octets ∧ address.zone = other.zone := by
  cases address
  cases other
  simp

/-- Octets behind a number are told by the number that they make with it. -/
theorem foldl_octets_inj {octets others : List UInt8} {n m : Nat}
    (size : octets.length = others.length)
    (same : octets.foldl (fun n octet => n * 256 + octet.toNat) n
      = others.foldl (fun n octet => n * 256 + octet.toNat) m) : n = m ∧ octets = others := by
  induction octets generalizing others n m with
  | nil =>
    obtain rfl := List.length_eq_zero_iff.1 size.symm
    exact ⟨same, rfl⟩
  | cons octet octets ih =>
    cases others with
    | nil => cases size
    | cons other others =>
      obtain ⟨front, rest⟩ := ih (Nat.succ.inj size) same
      have octetLt := octet.toNat_lt
      have otherLt := other.toNat_lt
      simp only at front
      have last : octet.toNat = other.toNat := by omega
      exact ⟨by omega, by rw [UInt8.toNat_inj.1 last, rest]⟩

theorem toNat_inj {address other : IPv6} :
    address.toNat = other.toNat ↔ address.octets = other.octets := by
  constructor
  · intro same
    exact (foldl_octets_inj (address.size_eq.trans other.size_eq.symm) same).2
  · intro same
    rw [toNat, toNat, same]

theorem eq_iff_identity {address other : IPv6} :
    address = other ↔ address.identity = other.identity := by
  rw [eq_iff, identity, identity, Prod.mk.injEq, toNat_inj]

/-- Addresses are equal just if no hash of the number and the zone tells them apart. -/
theorem eq_iff_hash {address other : IPv6} :
    address = other ↔
      ∀ hash : Nat × Option String → Int, hash address.identity = hash other.identity := by
  constructor
  · rintro rfl hash
    rfl
  · intro same
    have told := same fun found => if found = address.identity then 0 else 1
    rw [if_pos rfl] at told
    refine eq_iff_identity.2 ?_
    by_contra differs
    rw [if_neg (Ne.symm differs)] at told
    exact absurd told (by decide)

end Identity

section Again

variable (address : IPv6)

theorem without_zone_iff : { address with zone := none } = address ↔ address.zone = none := by
  rw [eq_iff]
  simp [eq_comm]

theorem withInterfaceId_interfaceId :
    address.withInterfaceId address.interfaceId = .ok { address with zone := none } := by
  have size : address.interfaceId.length = 8 := by simp [interfaceId, address.size_eq]
  rw [withInterfaceId, dif_pos size]
  refine congrArg Except.ok (eq_iff.2 ⟨?_, rfl⟩)
  exact List.take_append_drop 8 address.octets

theorem withMiddle_middle :
    address.withMiddle address.middle = .ok { address with zone := none } := by
  have fits := address.middle_isField16
  have inside : middleOffset + 2 ≤ address.octets.length := by rw [address.size_eq]; decide
  rw [withMiddle, if_pos ⟨fits.1, fits.2⟩]
  refine congrArg Except.ok (eq_iff.2 ⟨?_, rfl⟩)
  rw [middle_eq]
  exact putField_field inside

theorem ofValue_octets (path : String) :
    ofValue path (.octets address.octets) = .ok { address with zone := none } := by
  rw [ofValue, ofOctets?, dif_pos address.size_eq]

variable {address} in
/-- What makes an address without its zone makes the address again just if it has none. -/
theorem again_iff {ε : Type} {made : Except ε IPv6}
    (bare : made = .ok { address with zone := none }) :
    (∃ result, made = .ok result ∧ (result == address) = true) ↔ address.zone = none := by
  rw [← address.without_zone_iff, bare]
  simp

/-- A text with a zone is refused. -/
theorem ofValue_text_iff (path : String) :
    (∃ result, ofValue path (.text address.text) = .ok result ∧ (result == address) = true) ↔
      address.zone = none := by
  constructor
  · rintro ⟨result, made, same⟩
    obtain rfl := eq_of_beq same
    unfold ofValue at made
    simp only at made
    split at made
    · rename_i denoted
      cases made
      exact zone_of_ofText? denoted
    · cases made
  · intro bare
    refine ⟨address, ?_, beq_self_eq_true address⟩
    rw [ofValue, ofText?_text bare]

end Again

section Sources

/-- Only an address that is given as such can have a zone. -/
theorem zone_of_ofValue {path : String} {value : Value} {address : IPv6}
    (made : ofValue path value = .ok address) :
    address.zone = none ↔ ∀ given, value = .ipv6 given → given.zone = none := by
  unfold ofValue at made
  split at made
  · cases made
    simp
  · split at made
    · rename_i found
      unfold ofOctets? at found
      split at found
      · cases found
        cases made
        simp
      · cases found
    · cases made
  · split at made
    · rename_i denoted
      cases made
      simp [zone_of_ofText? denoted]
    · cases made
  · simp only [bind, Except.bind] at made
    split at made <;> cases made

/-- Addresses are equal just if they have the same octets and the same zone, and just if all their
hashes are equal. An address is made again from its text, its octets, its identifier and its middle
just if it has no zone, as every address but one that is given as such. -/
theorem ofValue_plain {path path' : String} {value value' : Value} {address other : IPv6}
    (made : ofValue path value = .ok address) (made' : ofValue path' value' = .ok other)
    (path'' : String) :
    (address.zone = none ↔ ∀ given, value = .ipv6 given → given.zone = none) ∧
      (other.zone = none ↔ ∀ given, value' = .ipv6 given → given.zone = none) ∧
      ((address == other) = true ↔
        address.octets = other.octets ∧ address.zone = other.zone) ∧
      ((address == other) = true ↔ ∀ hash : Nat × Option String → Int,
        hash address.identity = hash other.identity) ∧
      ((∃ again, ofValue path'' (.text address.text) = .ok again ∧ (again == address) = true) ↔
        address.zone = none) ∧
      ((∃ again, ofValue path'' (.octets address.octets) = .ok again ∧ (again == address) = true) ↔
        address.zone = none) ∧
      ((∃ again, address.withInterfaceId address.interfaceId = .ok again ∧
        (again == address) = true) ↔ address.zone = none) ∧
      ((∃ again, address.withMiddle address.middle = .ok again ∧ (again == address) = true) ↔
        address.zone = none) := by
  rw [beq_iff_eq]
  exact ⟨zone_of_ofValue made, zone_of_ofValue made', eq_iff, eq_iff_hash,
    address.ofValue_text_iff path'', again_iff (address.ofValue_octets path''),
    again_iff address.withInterfaceId_interfaceId, again_iff address.withMiddle_middle⟩

/-- The octets of fe80::1. -/
def linkLocalOctets : List UInt8 := [0xfe, 0x80, 0, 0, 0, 0, 0, 0, 0, 0, 0, 0, 0, 0, 0, 1]

theorem ofValue_plain_linkLocal :
    let plain : IPv6 := ⟨linkLocalOctets, none, rfl⟩
    ofValue "/" (.text "fe80::1") = .ok plain ∧ ofValue "/" (.octets linkLocalOctets) = .ok plain ∧
      (∃ again, ofValue "/" (.text plain.text) = .ok again ∧ (again == plain) = true) ∧
      (∃ again, plain.withMiddle plain.middle = .ok again ∧ (again == plain) = true) := by
  intro plain
  have written : ofValue "/" (.text "fe80::1") = .ok plain := by decide
  have packed : ofValue "/" (.octets linkLocalOctets) = .ok plain := by decide
  obtain ⟨zone, -, -, -, text, -, -, middle⟩ := ofValue_plain written packed "/"
  have bare : plain.zone = none := zone.2 fun _ given => nomatch given
  exact ⟨written, packed, text.2 bare, middle.2 bare⟩

/-- The address fe80::1 on one interface. -/
def zoned : IPv6 := ⟨linkLocalOctets, some "eth0", rfl⟩

/-- With a zone, an address is not the one that its octets make, its text is refused and what its
parts make is another. -/
theorem zoned_notPlain :
    ofValue "/" (.ipv6 zoned) = .ok zoned ∧
      ∃ plain, ofValue "/" (.text "fe80::1") = .ok plain ∧ plain.octets = zoned.octets ∧
        (zoned == plain) = false ∧
        zoned.text = "fe80::1%eth0" ∧
        ofValue "/" (.text zoned.text) = .error (.issue ⟨.badAddress .ipv6 "fe80::1%eth0", "/"⟩) ∧
        zoned.withInterfaceId zoned.interfaceId = .ok plain ∧
        zoned.withMiddle zoned.middle = .ok plain := by
  have shown : zoned.text = "fe80::1%eth0" := by decide +kernel
  refine ⟨rfl, ⟨linkLocalOctets, none, rfl⟩, by decide, rfl, by decide, shown, ?_, by decide,
    by decide⟩
  rw [shown]
  decide

end Sources

end Clat.IPv6
