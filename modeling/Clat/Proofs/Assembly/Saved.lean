import Clat.Proofs.Assembly.Order
import Clat.Proofs.Plat.Source
import Clat.Proofs.Snapshot

/-! Snapshots assembled again from what they are saved as. The items that are read are those of the
snapshot, the network among them, so nothing is asked. The local address is made again from the
same uplink, and comes out the same where the random octets are the same. -/
namespace Clat

open Clat.Format Clat.Text

/-- A network that an answer means has no zone, if a network that is the answer itself has none. -/
theorem Answer.zone_of_meaning {answer : Answer} {network : IPv6}
    (unscoped : ∀ given, answer = .found given → given.zone = none)
    (meant : answer.meaning = .ok (some network)) : network.zone = none := by
  cases answer with
  | found given =>
    cases meant
    exact unscoped network rfl
  | network text =>
    change ((IPv6.read "/" text).map some).mapError Fault.unhandled = _ at meant
    cases read : IPv6.read "/" text with
    | ok given =>
      rw [read] at meant
      cases meant
      exact IPv6.zone_of_read read
    | error issue =>
      rw [read] at meant
      cases meant
  | records texts =>
    have found : Nat64.network? texts = some network := Except.ok.inj meant
    obtain ⟨text, -, usable⟩ := List.exists_of_findSome?_eq_some found
    obtain ⟨address, -, embeds⟩ := Option.bind_eq_some_iff.1 usable
    split at embeds
    · cases embeds
      rfl
    · cases embeds
  | empty => cases meant
  | failure text => cases meant
  | breakdown text => cases meant

namespace Plat

theorem zone_of_told {items : Items} {override : Option String} {plat : Plat}
    (told : told? items override = some (.ok plat)) : plat.network.zone = none := by
  unfold told? at told
  split at told
  · rename_i text
    cases read : IPv6.read "/plat_prefix" text with
    | ok network =>
      rw [read] at told
      cases told
      exact IPv6.zone_of_read read
    | error issue =>
      rw [read] at told
      cases told
  · split at told
    · rw [named_eq] at told
      split at told
      · rename_i network found
        cases told
        obtain ⟨text, -, denoted⟩ := Option.bind_eq_some_iff.1 found
        exact IPv6.zone_of_ofText? denoted
      · cases told
    · cases told

/-- A network that is given has no zone, and no random octets are drawn for it. -/
theorem resolve_zone {items : Items} {override : Option String} {network : Int} {lookup : Lookup}
    {s t : Session} {plat : Plat}
    (ok : (resolve items override network lookup).on s = (.ok (.ok plat), t))
    (unscoped : ∀ given, Answer.found given ∈ s.answers → given.zone = none) :
    plat.network.zone = none ∧ t.entropy = s.entropy := by
  cases is : told? items override with
  | some told =>
    obtain ⟨rfl, log, rfl⟩ := resolve_told_on is ok
    exact ⟨zone_of_told is, rfl⟩
  | none =>
    obtain ⟨found, given, tried, answer, answers, -, meant, entropy, -⟩ :=
      resolve_discovered is ok
    cases given
    refine ⟨Answer.zone_of_meaning ?_ meant, entropy⟩
    rintro given rfl
    exact unscoped given (by rw [answers]; simp)

end Plat

namespace Assembly

/-- What a run that assembles a snapshot has read, found and made. -/
structure Made (find : Finder) (s : Session) (snapshot : Snapshot) : Prop where
  name : nameOutcome snapshot.interface = .ok snapshot.interface
  readable : snapshot.Readable
  ipv6 : ∃ uplink before after, (find snapshot.interface).result = .ok (some uplink) ∧
    (Synthesis.localAddress uplink snapshot.ipv4 snapshot.plat snapshot.hostId).on before
      = (.ok snapshot.ipv6, after) ∧
    before.entropy = s.entropy

theorem assembleWith_made {files : Files} {find : Finder} {request : Request} {s t : Session}
    {snapshot : Snapshot} (unscoped : ∀ given, Answer.found given ∈ s.answers → given.zone = none)
    (ok : (assembleWith files find request).on s = (.ok (.ok snapshot), t)) :
    (snapshot.interface : LooseText) = request.interface ∧ Made find s snapshot := by
  unfold assembleWith at ok
  obtain ⟨items, s₁, loaded, run₁⟩ := Stage.on_bind_ok ok
  obtain ⟨-, rfl⟩ := Load.configuration_ok loaded
  obtain ⟨interface, s₂, checked, run₂⟩ := Stage.on_bind_ok run₁
  obtain ⟨⟨given, name⟩, rfl⟩ := checkInterface_ok checked
  obtain ⟨mtu, s₃, readMtu, run₃⟩ := Stage.on_bind_ok run₂
  obtain ⟨mtuRange, _, rfl⟩ := Reader.int16_ok readMtu
  obtain ⟨ipv4Mtu, s₄, readIpv4Mtu, run₄⟩ := Stage.on_bind_ok run₃
  obtain ⟨ipv4MtuRange, _, rfl⟩ := Reader.int16_ok readIpv4Mtu
  obtain ⟨ipv4, s₅, readIpv4, run₅⟩ := Stage.on_bind_ok run₄
  obtain ⟨-, _, rfl⟩ := (Reader.ipv4_comesTo _ _ _ _).of_ok readIpv4
  obtain ⟨plat, s₆, resolved, run₆⟩ := Stage.on_bind_ok run₅
  obtain ⟨platZone, kept⟩ := Plat.resolve_zone resolved unscoped
  obtain ⟨hostId, s₇, readHostId, run₇⟩ := Stage.on_bind_ok run₆
  obtain ⟨hostIdRead, _, rfl⟩ := (Reader.ipv6_comesTo _ _ _ _).of_ok readHostId
  obtain ⟨uplink, s₈, found, run₈⟩ := Stage.on_bind_ok run₇
  obtain ⟨finds, _, rfl⟩ := uplinkAddress_ok found
  obtain ⟨ipv6, s₉, made, run₉⟩ := Stage.on_bind_ok run₈
  have hostIdZone := Reader.zone_of_ipv6 hostIdRead
  cases run₉
  exact ⟨given.symm, name, ⟨mtuRange, ipv4MtuRange, platZone, hostIdZone⟩,
    uplink, _, _, finds, Stage.on_run_ok made, kept⟩

/-- Items that name what a snapshot has been made with let it be assembled without a query. -/
theorem Made.assembles {find find' : Finder} {s s' : Session} {snapshot : Snapshot}
    (made : Made find s snapshot) {files : Files} {file : String} {items : Items}
    (loads : (Load.configuration files file).ComesTo s' (.ok items) s')
    (get? : ∀ {key value : String}, (key, value) ∈ snapshot.saved → items.get? key = some value)
    (finds : (find' snapshot.interface).result = (find snapshot.interface).result)
    (entropy : s'.entropy = s.entropy) (network : Int) (lookup : Lookup) :
    ∃ t, (assembleWith files find' { file, interface := snapshot.interface, network, lookup }).ComesTo
        s' (.ok { snapshot with hostname := none }) t ∧
      t.queries = s'.queries ∧ t.pauses = s'.pauses := by
  obtain ⟨name, readable, uplink, before, after, found, ran, kept⟩ := made
  -- Every stage up to the lookup leaves the session as it was, apart from the log.
  have names : (checkInterface snapshot.interface).ComesTo s' (.ok snapshot.interface) s' := by
    have checks := checkInterface_comesTo snapshot.interface s'
    rwa [name] at checks
  have readsMtu : (Reader.int16 items "mtu" (some Defaults.mtu)).ComesTo s' (.ok snapshot.mtu) s' :=
    Reader.int16_given (get? (by simp [Snapshot.saved_eq])) readable.mtu _ s'
  have readsIpv4Mtu : (Reader.int16 items "ipv4mtu" (some Defaults.mtu)).ComesTo s'
      (.ok snapshot.ipv4Mtu) s' :=
    Reader.int16_given (get? (by simp [Snapshot.saved_eq])) readable.ipv4Mtu _ s'
  have readsIpv4 : (Reader.ipv4 items "ipv4_local_subnet" (some Defaults.ipv4LocalSubnet)).ComesTo
      s' (.ok snapshot.ipv4) s' :=
    Reader.parsed_given (get? (by simp [Snapshot.saved_eq])) (IPv4.read_text _ snapshot.ipv4) _ s'
  have subnet : items.get? "plat_subnet" = some snapshot.plat.text :=
    get? (by simp [Snapshot.saved_eq])
  have told : Plat.told? items none = some (.ok { network := snapshot.plat }) := by
    rw [Plat.told?_of_no (get? (by simp [Snapshot.saved_eq])), Plat.named_eq, subnet,
      Option.bind_some, IPv6.ofText?_text readable.plat]
  have resolves := Plat.resolve_told items network lookup s' told
  have readsHostId : (Reader.ipv6 items "ipv6_host_id" (some Defaults.ipv6HostId)).ComesTo s'
      (.ok snapshot.hostId) s' :=
    Reader.parsed_given (get? (by simp [Snapshot.saved_eq])) (IPv6.read_text _ readable.hostId) _ s'
  have looksUp := uplinkAddress_comesTo (finds.trans found) s'
  obtain ⟨t, makes, queries, pauses⟩ := Synthesis.localAddress_comesTo
    (u := s'.did (.lookup snapshot.interface)) ran (entropy.trans kept.symm)
  refine ⟨t, ?_, ?_, ?_⟩
  · unfold assembleWith
    exact loads.bind (names.bind (readsMtu.bind (readsIpv4Mtu.bind (readsIpv4.bind
      (resolves.bind (readsHostId.bind (looksUp.bind (finish_comesTo makes _ _))))))))
  · rw [queries]
    simp [Session.queries, Session.did]
  · rw [pauses]
    simp [Session.pauses, Session.did]

/-- A snapshot that has been assembled is assembled again from the file that it is saved as, lines
in any order, with the same uplink and random octets. Nothing is asked or waited for, so it is
without the host name that its network may have been discovered under. -/
theorem assembleWith_saved {files files' : Files} {find find' : Finder} {request : Request}
    {s s' t : Session} {snapshot : Snapshot} {file : String} {lines : List (String × String)}
    (unscoped : ∀ given, Answer.found given ∈ s.answers → given.zone = none)
    (assembled : (assembleWith files find request).on s = (.ok (.ok snapshot), t))
    (order : lines.Perm snapshot.saved) (native : (Path.ofText file).format = .conf)
    (saved : files'.read (Path.ofText file) = .ok (encodeUtf8 (Conf.written lines)))
    (finds : (find' snapshot.interface).result = (find snapshot.interface).result)
    (entropy : s'.entropy = s.entropy) (network : Int) (lookup : Lookup) :
    ∃ t', (assembleWith files' find' { file, interface := request.interface, network, lookup }).on s'
        = (.ok (.ok { snapshot with hostname := none }), t') ∧
      t'.queries = s'.queries ∧ t'.pauses = s'.pauses := by
  obtain ⟨interface, made⟩ := assembleWith_made unscoped assembled
  have writable : ∀ item ∈ lines, Conf.Writable item := fun item member =>
    Snapshot.writable_of_mem_saved made.readable (order.mem_iff.1 member)
  have loaded := Load.items_written writable (Snapshot.nodup_keys order) native saved
  have filled : lines.isEmpty = false := by
    rw [List.isEmpty_eq_false_iff, ← List.length_pos_iff, order.length_eq, Snapshot.saved_eq]
    simp
  have loads := Load.configuration_items loaded filled s'
  rw [← interface]
  obtain ⟨t', comes, queries, pauses⟩ := made.assembles loads
    (Snapshot.get?_of_mem_saved order _) finds entropy network lookup
  obtain ⟨log, on⟩ := comes.on
  exact ⟨_, on, queries, pauses⟩

/-- The files of a host on which a snapshot is saved. -/
def holding (snapshot : Snapshot) : Files where
  working := { files := [(["clatd.conf"], encodeUtf8 (Conf.written snapshot.saved))] }

theorem assembleWith_saved_discovered :
    let request : Request := { file := "clatd.conf", interface := "wwan0" }
    let later : Session := { entropy := secondAnswer.entropy }
    ∃ snapshot t t',
      (assembleWith discovering steadyFinder request).on secondAnswer = (.ok (.ok snapshot), t) ∧
      t.queries.length = 2 ∧ snapshot.hostname = some "ipv4only.arpa" ∧
      (assembleWith (holding snapshot) steadyFinder request).on later
        = (.ok (.ok { snapshot with hostname := none }), t') ∧
      t'.queries = [] := by
  intro request later
  let snapshot : Snapshot := {
    interface := "wwan0"
    mtu := 1400
    ipv4Mtu := -1
    ipv4 := ⟨192, 0, 0, 4⟩
    ipv6 := ⟨[0x20, 1, 0xd, 0xb8, 0, 0, 0, 1, 1, 2, 3, 0x3a, 0x87, 6, 7, 8], none, rfl⟩
    plat := ⟨[0, 0x64, 0xff, 0x9b, 0, 0, 0, 0, 0, 0, 0, 0, 0, 0, 0, 0], none, rfl⟩
    hostId := .unspecified
    hostname := some "ipv4only.arpa" }
  have given : ((assembleWith discovering steadyFinder request).on secondAnswer).1
      = .ok (.ok snapshot) := by
    decide +kernel
  have twice : ((assembleWith discovering steadyFinder request).on secondAnswer).2.queries.length
      = 2 := by
    decide +kernel
  have ok : (assembleWith discovering steadyFinder request).on secondAnswer
      = (.ok (.ok snapshot),
        ((assembleWith discovering steadyFinder request).on secondAnswer).2) := by
    rw [← given]
  have unscoped : ∀ network, Answer.found network ∈ secondAnswer.answers → network.zone = none := by
    simp [secondAnswer]
  have native : (Path.ofText "clatd.conf").format = .conf := by decide
  have saved : (holding snapshot).read (Path.ofText "clatd.conf")
      = .ok (encodeUtf8 (Conf.written snapshot.saved)) := rfl
  have finds : (steadyFinder snapshot.interface).result
      = (steadyFinder snapshot.interface).result := rfl
  have entropy : later.entropy = secondAnswer.entropy := rfl
  obtain ⟨t', again, queries, -⟩ := assembleWith_saved unscoped ok (.refl snapshot.saved) native
    saved finds entropy Defaults.defaultNetwork .resolver
  exact ⟨snapshot, _, t', ok, twice, rfl, again, queries⟩

end Assembly

end Clat
