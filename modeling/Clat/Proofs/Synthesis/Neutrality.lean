import Clat.Proofs.Address.Parts
import Clat.Proofs.Session.Run
import Clat.Synthesis

/-! Random identifiers are checksum-neutral: the local IPv4 address has the sum, modulo 65535,
of the network of the provider and the local IPv6 address together. The two checksums are one
but where exactly one side consists of zero octets. -/
namespace Clat.Synthesis

open Clat.Checksum

theorem isUnspecified_iff (address : IPv6) :
    address.isUnspecified = true ↔ add 0 address.octets = 0 := by
  rw [add_eq_zero_iff]
  simp [IPv6.isUnspecified]

theorem unspecified_iff (ipv4 : IPv4) : ipv4 = ⟨0, 0, 0, 0⟩ ↔ add 0 ipv4.octets = 0 := by
  rw [add_eq_zero_iff]
  cases ipv4
  simp [IPv4.octets]

theorem neutralMiddle_isField16 (address : IPv6) (ipv4 : IPv4) (plat : IPv6) :
    IsField16 (neutralMiddle address ipv4 plat) := by
  have platNonneg := add_nonneg plat.octets
  have addressNonneg := add_nonneg address.octets
  exact swap16_isField16 (adjust_isField16 (swap16_isField16 address.middle_isField16)
    (add_nonneg ipv4.octets) (by omega))

/-- A neutral middle counts in the sum what is missing to the sum of the IPv4 address. -/
theorem swap16_neutralMiddle_modEq (address : IPv6) (ipv4 : IPv4) (plat : IPv6) :
    swap16 (neutralMiddle address ipv4 plat) ≡
      swap16 address.middle + add 0 ipv4.octets - (add 0 plat.octets + add 0 address.octets)
      [ZMOD modulus] := by
  have platNonneg := add_nonneg plat.octets
  have addressNonneg := add_nonneg address.octets
  have field := swap16_isField16 address.middle_isField16
  have ipv4Nonneg := add_nonneg ipv4.octets
  have sumNonneg : 0 ≤ add 0 plat.octets + add 0 address.octets := by omega
  rw [neutralMiddle, swap16_swap16 (adjust_isField16 field ipv4Nonneg sumNonneg)]
  exact adjust_modEq field ipv4Nonneg sumNonneg

/-- Eight octets always make an identifier. Of them octets 3 and 4 give way to a middle that
makes the address neutral. -/
theorem neutralize_ok (uplink : IPv6) (ipv4 : IPv4) (plat : IPv6) {random : List UInt8}
    (size : random.length = 8) :
    ∃ address, neutralize uplink ipv4 plat random = .ok address ∧
      (∃ high low, address.octets = uplink.network ++ (random.set 3 high).set 4 low) ∧
      add 0 ipv4.octets ≡ add 0 plat.octets + add 0 address.octets [ZMOD modulus] := by
  obtain ⟨fresh, replaced, freshOctets⟩ := uplink.withInterfaceId_ok size
  have fits := neutralMiddle_isField16 fresh ipv4 plat
  obtain ⟨address, adjusted, octets⟩ := fresh.withMiddle_ok fits
  refine ⟨address, ?_, ⟨UInt8.ofNat ((neutralMiddle fresh ipv4 plat).toNat / 256),
    UInt8.ofNat ((neutralMiddle fresh ipv4 plat).toNat % 256), ?_⟩, ?_⟩
  · simp only [neutralize, replaced, bind, Except.bind]
    exact adjusted
  · rw [octets, freshOctets, IPv6.middleOffset, uplink.set_network_append _ 3,
      uplink.set_network_append _ 4]
  · have sum := IPv6.add_withMiddle fits adjusted
    have neutral := swap16_neutralMiddle_modEq fresh ipv4 plat
    rw [sum]
    simp only [Int.ModEq, modulus] at neutral ⊢
    omega

/-- The draw of an identifier: with eight octets at hand it gives an address, and nothing else
is done. -/
theorem randomAddress_on (uplink : IPv6) (ipv4 : IPv4) (plat : IPv6) {random : List UInt8}
    {rest : List (List UInt8)} {before : Session} (entropy : before.entropy = random :: rest)
    {address : IPv6} (neutralized : neutralize uplink ipv4 plat random = .ok address) :
    (randomAddress uplink ipv4 plat).on before =
      (.ok address, { before.did (.draw identifierSize) with entropy := rest }) := by
  rw [randomAddress, Run.on_bind, Session.draw_on, entropy]
  simp only [neutralized, orStop, Run.on_pure]

/-- Random octets of the right size give a checksum-neutral address of the uplink's network
that keeps all of them but two. The checksums agree exactly unless one side, and not the
other, consists of zero octets. -/
theorem randomAddress_neutral (uplink : IPv6) (ipv4 : IPv4) (plat : IPv6) {random : List UInt8}
    (size : random.length = 8) {rest : List (List UInt8)} {before : Session}
    (entropy : before.entropy = random :: rest) :
    ∃ address after, (randomAddress uplink ipv4 plat).on before = (.ok address, after) ∧
      after = { before.did (.draw 8) with entropy := rest } ∧
      address.network = uplink.network ∧
      (∀ offset ∈ [0, 1, 2, 5, 6, 7], address.octets[8 + offset]? = random[offset]?) ∧
      add 0 ipv4.octets ≡ add 0 plat.octets + add 0 address.octets [ZMOD 65535] ∧
      (ipv4 ≠ ⟨0, 0, 0, 0⟩ → ¬(plat.isUnspecified = true ∧ address.isUnspecified = true) →
        fold (add 0 ipv4.octets) = fold (add 0 plat.octets + add 0 address.octets)) ∧
      (fold (add 0 ipv4.octets) = fold (add 0 plat.octets + add 0 address.octets) ↔
        (ipv4 = ⟨0, 0, 0, 0⟩ ↔ plat.isUnspecified = true ∧ address.isUnspecified = true)) := by
  obtain ⟨address, neutralized, ⟨high, low, octets⟩, neutral⟩ := neutralize_ok uplink ipv4 plat size
  have platNonneg := add_nonneg plat.octets
  have addressNonneg := add_nonneg address.octets
  have exact_iff : fold (add 0 ipv4.octets) = fold (add 0 plat.octets + add 0 address.octets) ↔
      (ipv4 = ⟨0, 0, 0, 0⟩ ↔ plat.isUnspecified = true ∧ address.isUnspecified = true) := by
    rw [fold_eq_iff (add_nonneg _) (by omega) neutral, unspecified_iff, isUnspecified_iff,
      isUnspecified_iff]
    omega
  refine ⟨address, _, randomAddress_on uplink ipv4 plat entropy neutralized, rfl,
    IPv6.network_of_octets octets, ?_, neutral, ?_, exact_iff⟩
  · intro offset kept
    rw [octets, List.getElem?_append_right (by simp [uplink.length_network]),
      uplink.length_network, Nat.add_sub_cancel_left, List.getElem?_set_ne, List.getElem?_set_ne]
    · rintro rfl
      simp at kept
    · rintro rfl
      simp at kept
  · intro ipv4Set sixSet
    exact exact_iff.mpr ⟨fun h => absurd h ipv4Set, fun h => absurd h sixSet⟩

theorem randomAddress_neutral_documentation :
    let uplink : IPv6 := ⟨[0x20, 1, 0xd, 0xb8, 0, 0, 0, 1, 0, 0, 0, 0, 0, 0, 0, 1], none, rfl⟩
    let plat : IPv6 := ⟨[0, 0x64, 0xff, 0x9b, 0, 0, 0, 0, 0, 0, 0, 0, 0, 0, 0, 0], none, rfl⟩
    let ipv4 : IPv4 := ⟨192, 0, 0, 4⟩
    let before : Session := { entropy := [[1, 2, 3, 4, 5, 6, 7, 8]] }
    [1, 2, 3, 4, 5, 6, 7, 8].length = 8 ∧ before.entropy = [1, 2, 3, 4, 5, 6, 7, 8] :: [] ∧
      ∃ address after, (randomAddress uplink ipv4 plat).on before = (.ok address, after) ∧
        address.network = uplink.network ∧
        fold (add 0 ipv4.octets) = fold (add 0 plat.octets + add 0 address.octets) := by
  intro uplink plat ipv4 before
  have size : ([1, 2, 3, 4, 5, 6, 7, 8] : List UInt8).length = 8 := rfl
  have entropy : before.entropy = [1, 2, 3, 4, 5, 6, 7, 8] :: [] := rfl
  obtain ⟨address, after, drawn, -, network, -, -, agree, -⟩ :=
    randomAddress_neutral uplink ipv4 plat size entropy
  have specified : plat.isUnspecified ≠ true := by decide
  exact ⟨size, entropy, address, after, drawn, network,
    agree (by decide) fun both => specified both.1⟩

end Clat.Synthesis
