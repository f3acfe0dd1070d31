import Clat.Proofs.Synthesis.Neutrality

/-! What a random address depends on. The two octets that give way to the neutral middle count in
the sum of the address and again as the field that is adjusted, so that they cancel. What is left
are the network of the uplink and the other six octets, and the address keeps each of them: two
addresses are the same just if these are. -/
namespace Clat.Synthesis

open Clat.Checksum

/-- The places of the random octets that an address keeps. -/
def keptPlaces : List Nat := [0, 1, 2, 5, 6, 7]

/-- The random octets with a 16-bit value in the two places that are not kept. -/
def place (random : List UInt8) (value : Int) : List UInt8 :=
  (random.set 3 (UInt8.ofNat (value.toNat / 256))).set 4 (UInt8.ofNat (value.toNat % 256))

section Places

variable {random random' : List UInt8}

theorem length_place (random : List UInt8) (value : Int) :
    (place random value).length = random.length := by
  simp [place]

theorem getElem?_place (random : List UInt8) (value : Int) {offset : Nat}
    (kept : offset ∈ keptPlaces) : (place random value)[offset]? = random[offset]? := by
  rw [place, List.getElem?_set_ne, List.getElem?_set_ne]
  · rintro rfl
    simp [keptPlaces] at kept
  · rintro rfl
    simp [keptPlaces] at kept

/-- With one value in the places that are not kept, octets are the same just if those kept are. -/
theorem place_eq_iff (size : random.length = 8) (size' : random'.length = 8) (value : Int) :
    place random value = place random' value ↔
      ∀ offset ∈ keptPlaces, random[offset]? = random'[offset]? := by
  constructor
  · intro same offset kept
    rw [← getElem?_place random value kept, same, getElem?_place random' value kept]
  · intro agree
    match random, random', size, size' with
    | [_, _, _, _, _, _, _, _], [_, _, _, _, _, _, _, _], _, _ =>
      simpa [place, keptPlaces] using agree

/-- Octets of ones are those of the value 65535 alone. -/
theorem eq_of_place_ones {value : Int} (fits : IsField16 value)
    (high : (place random value)[3]? = some 0xff) (low : (place random value)[4]? = some 0xff) :
    value = modulus := by
  have long : 4 < random.length := by
    have inside := (List.getElem?_eq_some_iff.1 low).1
    rwa [length_place] at inside
  rw [place, List.getElem?_set_ne (by decide), List.getElem?_set_self (by omega),
    Option.some.injEq] at high
  rw [place, List.getElem?_set_self (by simpa using long), Option.some.injEq] at low
  have highPart := congrArg UInt8.toNat high
  have lowPart := congrArg UInt8.toNat low
  rw [UInt8.toNat_ofNat'] at highPart lowPart
  obtain ⟨least, greatest⟩ := fits
  simp only [modulus, UInt8.toNat_ofNat] at *
  omega

end Places

section Field

variable (uplink : IPv6) (ipv4 : IPv4) (plat : IPv6) (random : List UInt8)

/-- The neutral middle as it counts in the sum, from the octets that are kept. -/
def neutralField : Int :=
  adjust 0 (add 0 ipv4.octets) (add 0 plat.octets + add 0 (uplink.network ++ place random 0))

theorem neutralField_lt :
    0 ≤ neutralField uplink ipv4 plat random ∧ neutralField uplink ipv4 plat random < modulus := by
  have platNonneg := add_nonneg plat.octets
  have restNonneg := add_nonneg (uplink.network ++ place random 0)
  have zero : IsField16 0 := ⟨by decide, by decide⟩
  refine ⟨(adjust_isField16 zero (add_nonneg _) (by omega)).1, ?_⟩
  exact adjust_lt (Int.le_refl 0) (by decide) (add_nonneg _) (by omega)

variable {uplink random}

/-- The middle of the random octets takes no part in the neutral middle. -/
theorem neutralMiddle_eq {fresh : IPv6} (octets : fresh.octets = uplink.network ++ random) :
    neutralMiddle fresh ipv4 plat = swap16 (neutralField uplink ipv4 plat random) := by
  have zero : IsField16 0 := ⟨by decide, by decide⟩
  obtain ⟨cleared, replaced, clearedOctets⟩ := fresh.withMiddle_ok zero
  have placed : cleared.octets = uplink.network ++ place random 0 := by
    rw [clearedOctets, octets, IPv6.middleOffset, uplink.set_network_append _ 3,
      uplink.set_network_append _ 4, place]
  have counted : add 0 fresh.octets
      = add 0 (uplink.network ++ place random 0) + swap16 fresh.middle := by
    have sum := IPv6.add_withMiddle zero replaced
    rw [placed, show swap16 0 = 0 from rfl] at sum
    omega
  have platNonneg := add_nonneg plat.octets
  have restNonneg := add_nonneg (uplink.network ++ place random 0)
  rw [neutralMiddle, counted, ← Int.add_assoc,
    adjust_add_field (swap16_isField16 fresh.middle_isField16) (add_nonneg _) (by omega),
    neutralField]

variable (uplink) in
/-- The octets of a neutral address, told by those that are kept. -/
theorem neutralize_octets (size : random.length = 8) :
    ∃ address, neutralize uplink ipv4 plat random = .ok address ∧
      address.octets
        = uplink.network ++ place random (swap16 (neutralField uplink ipv4 plat random)) := by
  obtain ⟨fresh, replaced, freshOctets⟩ := uplink.withInterfaceId_ok size
  have middle := neutralMiddle_eq ipv4 plat freshOctets
  obtain ⟨address, adjusted, octets⟩ :=
    fresh.withMiddle_ok (neutralMiddle_isField16 fresh ipv4 plat)
  refine ⟨address, ?_, ?_⟩
  · simp only [neutralize, replaced, bind, Except.bind]
    exact adjusted
  · rw [octets, middle, freshOctets, IPv6.middleOffset, uplink.set_network_append _ 3,
      uplink.set_network_append _ 4, place]

/-- The octets of ones in the middle are those of no neutral address: they would make the field
65535, the zero that is never chosen. -/
theorem middle_ne_ones {address : IPv6} (octets : address.octets
      = uplink.network ++ place random (swap16 (neutralField uplink ipv4 plat random))) :
    ¬ (address.octets[11]? = some 0xff ∧ address.octets[12]? = some 0xff) := by
  rintro ⟨high, low⟩
  obtain ⟨least, below⟩ := neutralField_lt uplink ipv4 plat random
  have fits : IsField16 (neutralField uplink ipv4 plat random) := ⟨least, Int.le_of_lt below⟩
  have behind (offset : Nat) : address.octets[8 + offset]?
      = (place random (swap16 (neutralField uplink ipv4 plat random)))[offset]? := by
    rw [octets, List.getElem?_append_right (by simp [uplink.length_network]),
      uplink.length_network, Nat.add_sub_cancel_left]
  have ones := eq_of_place_ones (swap16_isField16 fits) ((behind 3).symm.trans high)
    ((behind 4).symm.trans low)
  have field : neutralField uplink ipv4 plat random = modulus := by
    rw [← swap16_swap16 fits, ones]
    rfl
  omega

end Field

section Draws

variable {uplink uplink' : IPv6} (ipv4 : IPv4) (plat : IPv6) {random random' : List UInt8}

/-- Octets that agree where they are kept make one address, in one network. -/
theorem place_neutralField_congr (network : uplink.network = uplink'.network)
    (size : random.length = 8) (size' : random'.length = 8)
    (agree : ∀ offset ∈ keptPlaces, random[offset]? = random'[offset]?) :
    place random (swap16 (neutralField uplink ipv4 plat random))
      = place random' (swap16 (neutralField uplink' ipv4 plat random')) := by
  have cleared := (place_eq_iff size size' 0).2 agree
  have field : neutralField uplink ipv4 plat random = neutralField uplink' ipv4 plat random' := by
    rw [neutralField, neutralField, network, cleared]
  rw [field]
  exact (place_eq_iff size size' _).2 agree

/-- Two draws in one network give the same address just if the octets that are kept agree: those
that give way and the identifier of the uplink itself do not count. The identifier of an address
that is drawn again gives that address, and its middle is never all ones. -/
theorem randomAddress_eq_iff (network : uplink.network = uplink'.network)
    (size : random.length = 8) (size' : random'.length = 8) {rest rest' : List (List UInt8)}
    {s s' : Session} (entropy : s.entropy = random :: rest)
    (entropy' : s'.entropy = random' :: rest') :
    ∃ address address' t t',
      (randomAddress uplink ipv4 plat).on s = (.ok address, t) ∧
      (randomAddress uplink' ipv4 plat).on s' = (.ok address', t') ∧
      (address.octets = address'.octets ↔
        ∀ offset ∈ [0, 1, 2, 5, 6, 7], random[offset]? = random'[offset]?) ∧
      (∀ u rest'', u.entropy = address.interfaceId :: rest'' →
        ∃ again v, (randomAddress uplink' ipv4 plat).on u = (.ok again, v) ∧
          again.octets = address.octets) ∧
      ¬ (address.octets[11]? = some 0xff ∧ address.octets[12]? = some 0xff) := by
  obtain ⟨address, neutralized, octets⟩ :=
    neutralize_octets uplink ipv4 plat size
  obtain ⟨address', neutralized', octets'⟩ :=
    neutralize_octets uplink' ipv4 plat size'
  refine ⟨address, address', _, _, randomAddress_on uplink ipv4 plat entropy neutralized,
    randomAddress_on uplink' ipv4 plat entropy' neutralized', ?_, ?_,
    middle_ne_ones ipv4 plat octets⟩
  · rw [octets, octets', network, List.append_cancel_left_eq]
    constructor
    · intro same offset kept
      calc random[offset]?
          = (place random (swap16 (neutralField uplink ipv4 plat random)))[offset]? :=
            (getElem?_place random _ kept).symm
        _ = (place random' (swap16 (neutralField uplink' ipv4 plat random')))[offset]? := by
            rw [same]
        _ = random'[offset]? := getElem?_place random' _ kept
    · intro agree
      exact place_neutralField_congr ipv4 plat network size size' agree
  · intro u rest'' drawn
    have identifier := IPv6.interfaceId_of_octets octets
    have size'' : address.interfaceId.length = 8 := by rw [identifier, length_place, size]
    have agree : ∀ offset ∈ keptPlaces, random[offset]? = address.interfaceId[offset]? := by
      intro offset kept
      rw [identifier, getElem?_place random _ kept]
    obtain ⟨again, neutralized'', octets''⟩ :=
      neutralize_octets uplink' ipv4 plat size''
    refine ⟨again, _, randomAddress_on uplink' ipv4 plat drawn neutralized'', ?_⟩
    rw [octets, octets'', network, ← place_neutralField_congr ipv4 plat network size size'' agree]

theorem randomAddress_eq_iff_overwritten :
    let uplink : IPv6 := ⟨[0x20, 1, 0xd, 0xb8, 0, 0, 0, 1, 0, 0, 0, 0, 0, 0, 0, 1], none, rfl⟩
    let other : IPv6 := ⟨[0x20, 1, 0xd, 0xb8, 0, 0, 0, 1, 9, 9, 9, 9, 9, 9, 9, 9], none, rfl⟩
    let plat : IPv6 := ⟨[0, 0x64, 0xff, 0x9b, 0, 0, 0, 0, 0, 0, 0, 0, 0, 0, 0, 0], none, rfl⟩
    let ipv4 : IPv4 := ⟨192, 0, 0, 4⟩
    let s : Session := { entropy := [[1, 2, 3, 0, 0, 6, 7, 8]] }
    let s' : Session := { entropy := [[1, 2, 3, 0xff, 0xff, 6, 7, 8]] }
    uplink.network = other.network ∧
      ([1, 2, 3, 0, 0, 6, 7, 8] : List UInt8).length = 8 ∧
      ([1, 2, 3, 0xff, 0xff, 6, 7, 8] : List UInt8).length = 8 ∧
      s.entropy = [1, 2, 3, 0, 0, 6, 7, 8] :: [] ∧
      s'.entropy = [1, 2, 3, 0xff, 0xff, 6, 7, 8] :: [] ∧
      ∃ address address' t t', (randomAddress uplink ipv4 plat).on s = (.ok address, t) ∧
        (randomAddress other ipv4 plat).on s' = (.ok address', t') ∧
        address.octets = address'.octets := by
  intro uplink other plat ipv4 s s'
  have network : uplink.network = other.network := rfl
  have entropy : s.entropy = [1, 2, 3, 0, 0, 6, 7, 8] :: [] := rfl
  have entropy' : s'.entropy = [1, 2, 3, 0xff, 0xff, 6, 7, 8] :: [] := rfl
  obtain ⟨address, address', t, t', drawn, drawn', same, -, -⟩ :=
    randomAddress_eq_iff ipv4 plat network rfl rfl entropy entropy'
  exact ⟨network, rfl, rfl, entropy, entropy', address, address', t, t', drawn, drawn',
    same.2 (by decide)⟩

end Draws

end Clat.Synthesis
