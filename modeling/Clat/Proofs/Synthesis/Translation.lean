import Clat.Nat64
import Clat.Proofs.Synthesis.Neutrality

/-! Packets that are translated. The peer of a packet has its IPv4 address put behind the network
of the provider, so that the checksum of a packet covers the local address and the peer's in
either version, and then the same octets. A checksum-neutral address makes the two sums agree
modulo 65535 for every peer and payload, and the checksums too unless one sum is that of zero
octets alone. -/
namespace Clat.Synthesis

open Checksum Nat64

theorem length_octets (ipv4 : IPv4) : ipv4.octets.length = 4 := rfl

section Packet

variable (ipv4 remote : IPv4) (address plat : IPv6) (payload : List UInt8)

/-- The octets of a packet that its checksum covers. -/
def sent : List UInt8 := ipv4.octets ++ remote.octets ++ payload

/-- The octets that the checksum covers after translation. -/
def translated : List UInt8 :=
  address.octets ++ plat.octets.take networkSize ++ remote.octets ++ payload

theorem add_sent :
    add 0 (sent ipv4 remote payload)
      = add 0 ipv4.octets + add 0 remote.octets + add 0 payload := by
  rw [sent, add_zero_append (by simp [length_octets]), add_zero_append (by simp [length_octets])]

theorem add_translated :
    add 0 (translated remote address plat payload)
      = add 0 address.octets + add 0 (plat.octets.take networkSize) + add 0 remote.octets
        + add 0 payload := by
  have network : (plat.octets.take networkSize).length = networkSize := by
    simp [networkSize, plat.size_eq]
  have half : (address.octets ++ plat.octets.take networkSize).length % 2 = 0 := by
    rw [List.length_append, network, address.size_eq, networkSize]
  have addresses : (address.octets ++ plat.octets.take networkSize ++ remote.octets).length % 2
      = 0 := by
    rw [List.length_append, length_octets]
    omega
  rw [translated, add_zero_append addresses, add_zero_append half,
    add_zero_append (by simp [address.size_eq])]

/-- A network with zero octets behind it has the sum of its own octets. -/
theorem add_network {plat : IPv6} (bare : plat.octets.drop networkSize = List.replicate 4 0) :
    add 0 plat.octets = add 0 (plat.octets.take networkSize) := by
  have behind : add 0 (plat.octets.drop networkSize) = 0 := by
    rw [add_eq_zero_iff, bare]
    exact fun octet member => List.eq_of_mem_replicate member
  have even : (plat.octets.take networkSize).length % 2 = 0 := by
    simp [networkSize, plat.size_eq]
  have whole := add_zero_append even (plat.octets.drop networkSize)
  rwa [List.take_append_drop, behind, Int.add_zero] at whole

variable {ipv4 remote address plat payload}

/-- The peer and the payload add the same to both sums. -/
theorem add_translated_modEq (bare : plat.octets.drop networkSize = List.replicate 4 0)
    (neutral : add 0 ipv4.octets ≡ add 0 plat.octets + add 0 address.octets [ZMOD modulus]) :
    add 0 (sent ipv4 remote payload) ≡ add 0 (translated remote address plat payload)
      [ZMOD modulus] := by
  rw [add_network bare] at neutral
  rw [add_sent, add_translated]
  calc add 0 ipv4.octets + add 0 remote.octets + add 0 payload
      ≡ add 0 (plat.octets.take networkSize) + add 0 address.octets + add 0 remote.octets
        + add 0 payload [ZMOD modulus] := (neutral.add_right _).add_right _
    _ = add 0 address.octets + add 0 (plat.octets.take networkSize) + add 0 remote.octets
        + add 0 payload := by omega

theorem finish_translated_iff (congruent : add 0 (sent ipv4 remote payload) ≡
      add 0 (translated remote address plat payload) [ZMOD modulus]) :
    finish (add 0 (sent ipv4 remote payload)) = finish (add 0 (translated remote address plat payload))
      ↔ ((∀ octet ∈ sent ipv4 remote payload, octet = 0)
        ↔ ∀ octet ∈ translated remote address plat payload, octet = 0) := by
  rw [finish_eq_iff (add_nonneg _) (add_nonneg _),
    fold_eq_iff (add_nonneg _) (add_nonneg _) congruent, add_eq_zero_iff, add_eq_zero_iff]

end Packet

/-- An address of random octets lets every packet keep its checksum. Both sums agree modulo
65535 whatever the peer and the payload are. The checksums agree too if the payload has more than
zero octets, and in general just where both packets have or neither. -/
theorem randomAddress_translates (uplink : IPv6) (ipv4 : IPv4) {plat : IPv6}
    (bare : plat.octets.drop networkSize = List.replicate 4 0) {random : List UInt8}
    (size : random.length = 8) {rest : List (List UInt8)} {before : Session}
    (entropy : before.entropy = random :: rest) :
    ∃ address after, (randomAddress uplink ipv4 plat).on before = (.ok address, after) ∧
      ∀ (remote : IPv4) (payload : List UInt8),
        let sum := add 0 (sent ipv4 remote payload)
        let sum' := add 0 (translated remote address plat payload)
        sum ≡ sum' [ZMOD 65535] ∧
        (¬ (∀ octet ∈ payload, octet = 0) → finish sum = finish sum') ∧
        (0 ≤ finish sum ∧ finish sum ≤ 65535) ∧
        (finish sum = finish sum' ↔
          ((∀ octet ∈ sent ipv4 remote payload, octet = 0)
            ↔ ∀ octet ∈ translated remote address plat payload, octet = 0)) := by
  obtain ⟨address, neutralized, -, neutral⟩ := neutralize_ok uplink ipv4 plat size
  refine ⟨address, _, randomAddress_on uplink ipv4 plat entropy neutralized,
    fun remote payload => ?_⟩
  have congruent : add 0 (sent ipv4 remote payload) ≡
      add 0 (translated remote address plat payload) [ZMOD modulus] :=
    add_translated_modEq bare neutral
  have agree := finish_translated_iff congruent
  refine ⟨congruent, fun filled => ?_, finish_isField16 (add_nonneg _), agree⟩
  have some (front : List UInt8) : ¬ ∀ octet ∈ front ++ payload, octet = 0 := fun zero =>
    filled fun octet member => zero octet (List.mem_append_right front member)
  exact agree.mpr ⟨fun zero => absurd zero (some _), fun zero => absurd zero (some _)⟩

theorem randomAddress_translates_documentation :
    let uplink : IPv6 := ⟨[0x20, 1, 0xd, 0xb8, 0, 0, 0, 1, 0, 0, 0, 0, 0, 0, 0, 1], none, rfl⟩
    let plat : IPv6 := ⟨[0, 0x64, 0xff, 0x9b, 0, 0, 0, 0, 0, 0, 0, 0, 0, 0, 0, 0], none, rfl⟩
    let ipv4 : IPv4 := ⟨192, 0, 0, 4⟩
    let before : Session := { entropy := [[1, 2, 3, 4, 5, 6, 7, 8]] }
    plat.octets.drop networkSize = List.replicate 4 0 ∧
      ([1, 2, 3, 4, 5, 6, 7, 8] : List UInt8).length = 8 ∧
      before.entropy = [1, 2, 3, 4, 5, 6, 7, 8] :: [] ∧
      ∃ address after, (randomAddress uplink ipv4 plat).on before = (.ok address, after) ∧
        finish (add 0 (sent ipv4 ⟨198, 51, 100, 7⟩ [0, 17, 9]))
          = finish (add 0 (translated ⟨198, 51, 100, 7⟩ address plat [0, 17, 9])) := by
  intro uplink plat ipv4 before
  have bare : plat.octets.drop networkSize = List.replicate 4 0 := rfl
  have size : ([1, 2, 3, 4, 5, 6, 7, 8] : List UInt8).length = 8 := rfl
  have entropy : before.entropy = [1, 2, 3, 4, 5, 6, 7, 8] :: [] := rfl
  obtain ⟨address, after, drawn, packets⟩ :=
    randomAddress_translates uplink ipv4 bare size entropy
  obtain ⟨-, agree, -, -⟩ := packets ⟨198, 51, 100, 7⟩ [0, 17, 9]
  exact ⟨bare, size, entropy, address, after, drawn, agree (by decide)⟩

end Clat.Synthesis
