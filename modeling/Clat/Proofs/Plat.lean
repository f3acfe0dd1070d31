import Clat.Plat
import Clat.Proofs.Discovery
import Clat.Proofs.Reader

/-! The network of the provider by its source. It is told by the command line or the items, and
then nothing is asked; or it is discovered under a host name. -/
namespace Clat

namespace Plat

open Clat.Discovery

/-- The network that the items name. -/
def named (items : Items) : Except Issue Plat :=
  ((Reader.textOf items "plat_subnet" none >>= IPv6.read (items.pathOf "plat_subnet")).mapError
    fun _ => ⟨.noPlat, items.pathOf "plat_subnet"⟩).map fun network => { network }

/-- What comes of a network that is told, unless it has to be discovered. -/
def told? (items : Items) : Option String → Option (Except Issue Plat)
  | some text => some ((IPv6.read "/plat_prefix" text).map fun network => { network })
  | none =>
    if items.get? "plat_from_dns64" = some "no" then some (named items) else none

/-- The host name that the network is discovered under. -/
def detection (items : Items) : String :=
  (items.get? "plat_from_dns64_hostname").getD Defaults.detectionHostname

section Told

variable (items : Items) (network : Int) (lookup : Lookup) (s : Session)

theorem insteadOf_comesTo {α : Type} {stage : Stage α} {outcome : Except Issue α} {t : Session}
    (comes : stage.ComesTo s outcome t) (issue : Issue) :
    (insteadOf stage issue).ComesTo s (outcome.mapError fun _ => issue) t := by
  intro log
  obtain ⟨log', on⟩ := comes log
  unfold insteadOf
  change ∃ log'', Run.on (ExceptT.run stage >>= _) _ = _
  rw [Run.on_bind]
  unfold Stage.on at on
  rw [on]
  cases outcome with
  | ok value => exact ⟨log', rfl⟩
  | error former => exact ⟨_, rfl⟩

theorem fromItems_comesTo : (fromItems items).ComesTo s (named items) s :=
  (insteadOf_comesTo s (Reader.ipv6_comesTo items "plat_subnet" none s)
    ⟨.noPlat, items.pathOf "plat_subnet"⟩).map _

theorem string_default (key text : String) :
    Reader.string items key (some text) = pure ((items.get? key).getD text) := by
  unfold Reader.string Items.getOr
  cases items.get? key <;> rfl

/-- Where the command line tells no network, the items decide between theirs and discovery. -/
theorem resolve_none :
    resolve items none network lookup =
      if items.get? "plat_from_dns64" = some "no" then fromItems items
      else fromDiscovery items network lookup := by
  have no : (items.get? "plat_from_dns64").getD "yes" = "no" ↔
      items.get? "plat_from_dns64" = some "no" := by
    cases items.get? "plat_from_dns64" with
    | none => simp
    | some text => simp
  unfold resolve
  simp only [string_default, pure_bind, no]

/-- A network that is told is taken without a query. -/
theorem resolve_told {override : Option String} {outcome : Except Issue Plat}
    (told : told? items override = some outcome) :
    (resolve items override network lookup).ComesTo s outcome s := by
  cases override with
  | some text =>
    cases told
    exact (Stage.comesTo_orFail (IPv6.read "/plat_prefix" text) s).map _
  | none =>
    unfold told? at told
    rw [resolve_none]
    by_cases no : items.get? "plat_from_dns64" = some "no"
    · rw [if_pos no] at told ⊢
      cases told
      exact fromItems_comesTo items s
    · rw [if_neg no] at told
      cases told

end Told

section Discovered

variable {items : Items} {override : Option String} {network : Int} {lookup : Lookup} {s : Session}

/-- A network that is not told is discovered. -/
theorem resolve_discovers (untold : told? items override = none) :
    resolve items override network lookup = (do
      let found ← (discover lookup ⟨detection items, network⟩ : Run IPv6)
      return { network := found, hostname := some (detection items) }) := by
  cases override with
  | some text => cases untold
  | none =>
    unfold told? at untold
    by_cases no : items.get? "plat_from_dns64" = some "no"
    · rw [if_pos no] at untold
      cases untold
    · rw [resolve_none, if_neg no]
      unfold fromDiscovery
      rw [string_default, pure_bind]
      rfl

theorem map_hostname {result : Except Issue IPv6} {plat : Plat}
    (mapped : result.map (fun network => { network }) = .ok plat) : plat.hostname = none := by
  cases result with
  | ok network =>
    cases mapped
    rfl
  | error issue => cases mapped

theorem told_hostname {plat : Plat} (told : told? items override = some (.ok plat)) :
    plat.hostname = none := by
  unfold told? at told
  split at told
  · exact map_hostname (Option.some.inj told)
  · split at told
    · exact map_hostname (Option.some.inj told)
    · cases told

/-- A network that is given has been told, or discovered under the host name it comes with. -/
theorem resolve_ok {plat : Plat} {t : Session}
    (ok : (resolve items override network lookup).on s = (.ok (.ok plat), t)) :
    (plat.hostname = none ∧ ∃ log, t = { s with log := log }) ∨
      ∃ hostname, plat.hostname = some hostname ∧
        Discovered ⟨hostname, network⟩ s plat.network t := by
  cases told : told? items override with
  | some outcome =>
    obtain ⟨rfl, unchanged⟩ := (resolve_told items network lookup s told).of_ok ok
    exact .inl ⟨told_hostname told, unchanged⟩
  | none =>
    rw [resolve_discovers told] at ok
    obtain ⟨found, u, ran, given⟩ := Stage.on_bind_ok ok
    cases given
    exact .inr ⟨detection items, rfl, discover_ok (Stage.on_run_ok ran)⟩

/-- Answers of which one has a network let it come to an outcome, after queries and pauses at
most. -/
theorem resolve_comesTo (items : Items) (override : Option String) (network : Int)
    (lookup : Lookup) (answered : Answered s.answers) :
    ∃ outcome t discovery, (resolve items override network lookup).ComesTo s outcome t ∧
      t.entropy = s.entropy ∧ t.events = s.events ++ discovery ∧
      ∀ event ∈ discovery, event.isDiscovery = true := by
  cases told : told? items override with
  | some outcome =>
    exact ⟨outcome, s, [], resolve_told items network lookup s told, rfl, by simp, by simp⟩
  | none =>
    obtain ⟨tried, answer, rest, found, answers, vain, meant⟩ := answered.first
    let target : Query := ⟨detection items, network⟩
    let discovery := rounds target (waits tried.length) ++ [.query target]
    have discovers : (liftM (discover lookup target) : Stage IPv6).ComesTo s (.ok found)
        { s with answers := rest, events := s.events ++ discovery } :=
      Stage.comesTo_run fun log => discover_found lookup target (s := { s with log := log }) answers
        vain meant
    have resolves := discovers.map fun found => Plat.mk found (some (detection items))
    rw [← resolve_discovers told] at resolves
    exact ⟨_, _, discovery, resolves, rfl, rfl, fun _ => isDiscovery_of_mem_rounds⟩

end Discovered

end Plat
end Clat
