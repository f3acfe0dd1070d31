import Clat.Proofs.Synthesis.Neutrality

/-! The local address in its two modes. A configured identifier is taken as it is, and nothing
is drawn; the unspecified one has eight octets drawn and made checksum-neutral. -/
namespace Clat.Synthesis

open Clat.Checksum

variable {uplink plat hostId address : IPv6} {ipv4 : IPv4} {s t u : Session}

theorem length_interfaceId (address : IPv6) : address.interfaceId.length = 8 := by
  simp [IPv6.interfaceId, address.size_eq]

theorem withInterfaceId_size {identifier : List UInt8}
    (replaced : uplink.withInterfaceId identifier = .ok address) : identifier.length = 8 := by
  unfold IPv6.withInterfaceId at replaced
  split at replaced
  · assumption
  · cases replaced

theorem neutralize_size {random : List UInt8}
    (neutralized : neutralize uplink ipv4 plat random = .ok address) : random.length = 8 := by
  unfold neutralize at neutralized
  cases replaced : uplink.withInterfaceId random with
  | ok fresh => exact withInterfaceId_size replaced
  | error error =>
    rw [replaced] at neutralized
    cases neutralized

/-- What the local address has of the uplink, and of the identifier or the other addresses. -/
structure Local (uplink : IPv6) (ipv4 : IPv4) (plat hostId address : IPv6) : Prop where
  network : address.network = uplink.network
  configured : hostId.isUnspecified = false → address.interfaceId = hostId.interfaceId
  neutral : hostId.isUnspecified = true →
    add 0 ipv4.octets ≡ add 0 plat.octets + add 0 address.octets [ZMOD 65535]

/-- A configured identifier always makes an address. -/
theorem localAddress_configured (specified : hostId.isUnspecified = false)
    (uplink : IPv6) (ipv4 : IPv4) (plat : IPv6) (s : Session) :
    ∃ address, Local uplink ipv4 plat hostId address ∧
      (liftM (localAddress uplink ipv4 plat hostId) : Stage IPv6).ComesTo s (.ok address) s := by
  obtain ⟨address, replaced, octets⟩ := uplink.withInterfaceId_ok (length_interfaceId hostId)
  refine ⟨address, ⟨IPv6.network_of_octets octets, fun _ => IPv6.interfaceId_of_octets octets, ?_⟩,
    Stage.comesTo_run fun log => ?_⟩
  · intro unspecified
    rw [specified] at unspecified
    cases unspecified
  · unfold localAddress
    rw [specified, if_neg Bool.false_ne_true, Run.on_bind, replaced]
    exact ⟨_, rfl⟩

theorem localAddress_unspecified (unspecified : hostId.isUnspecified = true)
    (uplink : IPv6) (ipv4 : IPv4) (plat : IPv6) (s : Session) :
    (localAddress uplink ipv4 plat hostId).on s = (randomAddress uplink ipv4 plat).on
      (s.logged .debug .synthesis
        "Generating a random checksum-neutral interface identifier") := by
  unfold localAddress
  rw [if_pos unspecified, Run.on_bind, Session.record_on]

/-- With eight octets at hand the unspecified identifier makes an address. -/
theorem localAddress_random (unspecified : hostId.isUnspecified = true)
    (uplink : IPv6) (ipv4 : IPv4) (plat : IPv6) {random : List UInt8} {rest : List (List UInt8)}
    (entropy : s.entropy = random :: rest) (size : random.length = 8) :
    ∃ address, Local uplink ipv4 plat hostId address ∧
      (liftM (localAddress uplink ipv4 plat hostId) : Stage IPv6).ComesTo s (.ok address)
        { s.did (.draw 8) with entropy := rest } := by
  obtain ⟨address, neutralized, ⟨high, low, octets⟩, neutral⟩ :=
    neutralize_ok uplink ipv4 plat size
  refine ⟨address, ⟨IPv6.network_of_octets octets, ?_, fun _ => neutral⟩,
    Stage.comesTo_run fun log => ?_⟩
  · intro specified
    rw [unspecified] at specified
    cases specified
  · rw [localAddress_unspecified unspecified]
    let before := { s with log := log }.logged .debug .synthesis
      "Generating a random checksum-neutral interface identifier"
    have drawn : before.entropy = random :: rest := entropy
    exact ⟨before.log, randomAddress_on uplink ipv4 plat drawn neutralized⟩

theorem randomAddress_drawn (given : (randomAddress uplink ipv4 plat).on s = (.ok address, t)) :
    ∃ random rest, s.entropy = random :: rest ∧ random.length = 8 := by
  rw [randomAddress, Run.on_bind, Session.draw_on] at given
  cases entropy : s.entropy with
  | nil =>
    rw [entropy] at given
    cases given
  | cons random rest =>
    refine ⟨random, rest, rfl, ?_⟩
    cases neutralized : neutralize uplink ipv4 plat random with
    | ok address => exact neutralize_size neutralized
    | error error =>
      simp only [entropy, neutralized] at given
      cases given

/-- An address that is given comes from the uplink and its identifier, after nothing but a draw
at most. -/
theorem localAddress_ok (given : (localAddress uplink ipv4 plat hostId).on s = (.ok address, t)) :
    Local uplink ipv4 plat hostId address ∧ t.answers = s.answers ∧ t.queries = s.queries := by
  have ok : (liftM (localAddress uplink ipv4 plat hostId) : Stage IPv6).on s
      = (.ok (.ok address), t) := by
    rw [Stage.on_run, given]
  cases mode : hostId.isUnspecified with
  | false =>
    obtain ⟨made, is, comes⟩ := localAddress_configured mode uplink ipv4 plat s
    obtain ⟨same, log, rfl⟩ := comes.of_ok ok
    cases same
    exact ⟨is, rfl, rfl⟩
  | true =>
    rw [localAddress_unspecified mode] at given
    obtain ⟨random, rest, drawn, size⟩ := randomAddress_drawn given
    have entropy : s.entropy = random :: rest := drawn
    obtain ⟨made, is, comes⟩ := localAddress_random mode uplink ipv4 plat entropy size
    obtain ⟨same, log, rfl⟩ := comes.of_ok ok
    cases same
    refine ⟨is, rfl, ?_⟩
    simp [Session.queries, Session.did]

theorem orStop_on {α : Type} (result : Except IPv6.ReplaceError α) (s : Session) :
    (orStop result).on s = (result.mapError .replace, s) := by
  cases result <;> rfl

/-- All that an address depends on around the run is the random octets at hand. -/
theorem localAddress_congr (entropy : t.entropy = s.entropy) (uplink : IPv6) (ipv4 : IPv4)
    (plat hostId : IPv6) :
    ((localAddress uplink ipv4 plat hostId).on t).1
      = ((localAddress uplink ipv4 plat hostId).on s).1 := by
  cases mode : hostId.isUnspecified with
  | false =>
    unfold localAddress
    rw [mode, if_neg Bool.false_ne_true, Run.on_bind, Run.on_bind, Session.record_on,
      Session.record_on]
    simp only [orStop_on]
  | true =>
    rw [localAddress_unspecified mode, localAddress_unspecified mode, randomAddress, Run.on_bind,
      Run.on_bind, Session.draw_on, Session.draw_on]
    simp only [Session.logged, entropy]
    cases s.entropy with
    | nil => rfl
    | cons random rest => simp only [orStop_on]

/-- An address that a run has made is made again where the random octets are the same. -/
theorem localAddress_comesTo
    (given : (localAddress uplink ipv4 plat hostId).on s = (.ok address, t))
    (entropy : u.entropy = s.entropy) :
    ∃ v, (liftM (localAddress uplink ipv4 plat hostId) : Stage IPv6).ComesTo u (.ok address) v ∧
      v.queries = u.queries ∧ v.pauses = u.pauses := by
  have again : ∃ made v,
      (liftM (localAddress uplink ipv4 plat hostId) : Stage IPv6).ComesTo u (.ok made) v ∧
        v.queries = u.queries ∧ v.pauses = u.pauses := by
    cases mode : hostId.isUnspecified with
    | false =>
      obtain ⟨made, -, comes⟩ := localAddress_configured mode uplink ipv4 plat u
      exact ⟨made, u, comes, rfl, rfl⟩
    | true =>
      rw [localAddress_unspecified mode] at given
      obtain ⟨random, rest, drawn, size⟩ := randomAddress_drawn given
      have hand : u.entropy = random :: rest := entropy.trans drawn
      obtain ⟨made, -, comes⟩ := localAddress_random mode uplink ipv4 plat hand size
      refine ⟨made, _, comes, ?_, ?_⟩
      · simp [Session.queries, Session.did]
      · simp [Session.pauses, Session.did]
  obtain ⟨made, v, comes, kept⟩ := again
  obtain ⟨log, on⟩ := comes.on
  have same := localAddress_congr entropy uplink ipv4 plat hostId
  rw [given, Stage.on_run_ok on] at same
  cases same
  exact ⟨v, comes, kept⟩
end Clat.Synthesis
