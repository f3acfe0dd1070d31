import Clat.Proofs.Assembly.Uplink
import Clat.Proofs.Load
import Clat.Proofs.Plat
import Clat.Proofs.Synthesis.Local

/-! The invariant of snapshots. Each field of a snapshot that is assembled comes from its own
stage, and the local address from the uplink and the fields beside it. -/
namespace Clat.Assembly

open Clat.Discovery Clat.Text

/-- What holds of a snapshot that a run has assembled: its interface is the one asked for, with a
name that fits; its sizes are 16-bit integers; its local address belongs to the uplink; and it
has the host name that its network was discovered under, if it was. -/
structure Assembled (find : Finder) (request : Request) (s : Session) (snapshot : Snapshot)
    (t : Session) : Prop where
  interface : (snapshot.interface : LooseText) = request.interface
  name : 1 ≤ snapshot.interface.utf8ByteSize ∧ snapshot.interface.utf8ByteSize ≤ 15
  mtu : -32768 ≤ snapshot.mtu ∧ snapshot.mtu ≤ 32767
  ipv4Mtu : -32768 ≤ snapshot.ipv4Mtu ∧ snapshot.ipv4Mtu ≤ 32767
  uplink : ∃ uplink, (find snapshot.interface).result = .ok (some uplink) ∧
    Synthesis.Local uplink snapshot.ipv4 snapshot.plat snapshot.hostId snapshot.ipv6
  hostname : ∀ hostname, snapshot.hostname = some hostname ↔
    Queried ⟨hostname, request.network⟩ s snapshot.plat t

theorem resolve_hostname {items : Items} {override : Option String} {network : Int}
    {lookup : Lookup} {s t : Session} {plat : Plat}
    (ok : (Plat.resolve items override network lookup).on s = (.ok (.ok plat), t))
    (hostname : String) :
    plat.hostname = some hostname ↔ Queried ⟨hostname, network⟩ s plat.network t := by
  rcases Plat.resolve_ok ok with ⟨told, log, rfl⟩ | ⟨other, asked, discovered⟩
  · rw [told]
    exact ⟨nofun, fun queried => absurd rfl queried.queries_ne⟩
  · rw [asked]
    constructor
    · rintro ⟨⟩
      exact discovered.queried
    · intro queried
      cases queried.unique discovered.queried
      rfl

/-- A snapshot that is assembled has the invariant, whatever the file, the uplink and the answers
are. -/
theorem assembleWith_assembled {files : Files} {find : Finder} {request : Request}
    {s t : Session} {snapshot : Snapshot}
    (ok : (assembleWith files find request).on s = (.ok (.ok snapshot), t)) :
    Assembled find request s snapshot t := by
  unfold assembleWith at ok
  obtain ⟨items, s₁, loaded, run₁⟩ := Stage.on_bind_ok ok
  obtain ⟨-, rfl⟩ := Load.configuration_ok loaded
  obtain ⟨interface, s₂, checked, run₂⟩ := Stage.on_bind_ok run₁
  obtain ⟨⟨given, fits⟩, rfl⟩ := checkInterface_ok checked
  obtain ⟨mtu, s₃, readMtu, run₃⟩ := Stage.on_bind_ok run₂
  obtain ⟨mtuRange, _, rfl⟩ := Reader.int16_ok readMtu
  obtain ⟨ipv4Mtu, s₄, readIpv4Mtu, run₄⟩ := Stage.on_bind_ok run₃
  obtain ⟨ipv4MtuRange, _, rfl⟩ := Reader.int16_ok readIpv4Mtu
  obtain ⟨ipv4, s₅, readIpv4, run₅⟩ := Stage.on_bind_ok run₄
  obtain ⟨-, _, rfl⟩ := (Reader.ipv4_comesTo _ _ _ _).of_ok readIpv4
  obtain ⟨plat, s₆, resolved, run₆⟩ := Stage.on_bind_ok run₅
  obtain ⟨hostId, s₇, readHostId, run₇⟩ := Stage.on_bind_ok run₆
  obtain ⟨-, _, rfl⟩ := (Reader.ipv6_comesTo _ _ _ _).of_ok readHostId
  obtain ⟨uplink, s₈, found, run₈⟩ := Stage.on_bind_ok run₇
  obtain ⟨finds, _, rfl⟩ := uplinkAddress_ok found
  obtain ⟨ipv6, s₉, made, run₉⟩ := Stage.on_bind_ok run₈
  obtain ⟨local_, answers, queries⟩ := Synthesis.localAddress_ok (Stage.on_run_ok made)
  cases run₉
  refine ⟨given.symm, (nameOutcome_ok fits).2, mtuRange, ipv4MtuRange,
    ⟨uplink, finds, local_⟩, fun hostname => ?_⟩
  -- The lookup, the draw and the last record after the network take no answer and send no query.
  have kept : s₉.queries = s₆.queries := by
    rw [queries]
    simp [Session.queries, Session.did]
  have asked : plat.hostname = some hostname ↔
      Queried ⟨hostname, request.network⟩ s₂ plat.network s₆ := resolve_hostname resolved hostname
  exact asked.trans (queried_congr (t := s₆) (u := s₉) answers kept).symm

/-- A file that leaves the network of the provider to discovery. -/
def discovering : Files where
  working := { files := [(["clatd.conf"], "mtu 1400\n".toUTF8.toList)] }

/-- A way that finds one address on every interface. -/
def steadyFinder : Finder := fun _ =>
  { result := .ok (some ⟨[0x20, 1, 0xd, 0xb8, 0, 0, 0, 1, 0, 0, 0, 0, 0, 0, 0, 1], none, rfl⟩) }

/-- A session in which the first query fails, and the second one has an answer with a network. -/
def secondAnswer : Session where
  answers := [.failure "timeout", .records ["64:ff9b::c000:aa"]]
  entropy := [[1, 2, 3, 4, 5, 6, 7, 8]]

theorem assembleWith_assembled_secondAnswer :
    let request : Request := { file := "clatd.conf", interface := "wwan0" }
    ∃ snapshot t,
      (assembleWith discovering steadyFinder request).on secondAnswer = (.ok (.ok snapshot), t) ∧
      Assembled steadyFinder request secondAnswer snapshot t ∧
      snapshot.hostname = some "ipv4only.arpa" := by
  intro request
  let snapshot : Snapshot := {
    interface := "wwan0"
    mtu := 1400
    ipv4Mtu := -1
    ipv4 := ⟨192, 0, 0, 4⟩
    ipv6 := ⟨[0x20, 1, 0xd, 0xb8, 0, 0, 0, 1, 1, 2, 3, 0x3a, 0x87, 6, 7, 8], none, rfl⟩
    plat := ⟨[0, 0x64, 0xff, 0x9b, 0, 0, 0, 0, 0, 0, 0, 0, 0, 0, 0, 0], none, rfl⟩
    hostId := .unspecified
    hostname := some "ipv4only.arpa" }
  have given : ((assembleWith discovering steadyFinder request).on secondAnswer).1
      = .ok (.ok snapshot) := by
    decide +kernel
  have ok : (assembleWith discovering steadyFinder request).on secondAnswer
      = (.ok (.ok snapshot),
        ((assembleWith discovering steadyFinder request).on secondAnswer).2) := by
    rw [← given]
  exact ⟨snapshot, _, ok, assembleWith_assembled ok, rfl⟩

end Clat.Assembly
