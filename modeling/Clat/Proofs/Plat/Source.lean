import Clat.Proofs.Plat

/-! The one active source of the network of the provider. The command line goes before the items,
and an item chooses between the network in the items and discovery. Two resolutions with the same
active source are the same run if they agree on what that source looks at; all that belongs to the
other sources may differ, and may be absent or malformed. -/
namespace Clat.Plat

open Discovery

section Sources

variable {items other : Items} {network : Int} {lookup : Lookup}

theorem told?_of_no (no : items.get? "plat_from_dns64" = some "no") :
    told? items none = some (named items) := if_pos no

theorem told?_of_ne_no (asks : items.get? "plat_from_dns64" ≠ some "no") :
    told? items none = none := if_neg asks

/-- The network in the items is their text, if it is an address. -/
theorem named_eq (items : Items) :
    named items =
      match (items.get? "plat_subnet").bind IPv6.ofText? with
      | some network => .ok { network }
      | none => .error ⟨.noPlat, items.pathOf "plat_subnet"⟩ := by
  unfold named Reader.textOf Items.getOr
  cases items.get? "plat_subnet" with
  | none => rfl
  | some text =>
    simp only [Option.bind_some, bind, Except.bind, IPv6.read]
    cases IPv6.ofText? text with
    | none => rfl
    | some network => rfl

theorem named_congr (subnet : other.get? "plat_subnet" = items.get? "plat_subnet")
    (path : other.path = items.path) : named other = named items := by
  rw [named_eq, named_eq, subnet, Items.pathOf, Items.pathOf, path]

/-- Trees that leave the network to discovery under one host name are resolved by one stage. -/
theorem resolve_congr (asks : items.get? "plat_from_dns64" ≠ some "no")
    (asks' : other.get? "plat_from_dns64" ≠ some "no")
    (host : detection other = detection items) :
    resolve other none network lookup = resolve items none network lookup := by
  rw [resolve_discovers (told?_of_ne_no asks'), resolve_discovers (told?_of_ne_no asks), host]

end Sources

section Resolved

variable {items : Items} {override : Option String} {network : Int} {lookup : Lookup}
  {s t : Session} {outcome : Except Issue Plat}

/-- A network that is told leaves everything but the log as it was. -/
theorem resolve_told_on {told : Except Issue Plat} (is : told? items override = some told)
    (returned : (resolve items override network lookup).on s = (.ok outcome, t)) :
    outcome = told ∧ ∃ log, t = { s with log := log } := by
  obtain ⟨log, on⟩ := (resolve_told items network lookup s is).on
  rw [on] at returned
  cases returned
  exact ⟨rfl, log, rfl⟩

/-- Discovery ends in no issue: where it returns, it has found a network. -/
theorem resolve_discovered (untold : told? items override = none)
    (returned : (resolve items override network lookup).on s = (.ok outcome, t)) :
    ∃ found, outcome = .ok ⟨found, some (detection items)⟩ ∧
      Discovered ⟨detection items, network⟩ s found t := by
  rw [resolve_discovers untold, Stage.on_bind, Stage.on_run] at returned
  cases ran : (discover lookup ⟨detection items, network⟩).on s with
  | mk result u =>
    rw [ran] at returned
    cases result with
    | error fault => cases returned
    | ok found =>
      cases returned
      exact ⟨found, rfl, discover_ok ran⟩

/-- The host name tells whether anything was asked. -/
theorem hostname_iff_queries
    (returned : (resolve items override network lookup).on s = (.ok outcome, t)) :
    (∃ plat, outcome = .ok plat ∧ plat.hostname ≠ none) ↔ t.queries ≠ s.queries := by
  cases is : told? items override with
  | some told =>
    obtain ⟨rfl, log, rfl⟩ := resolve_told_on is returned
    constructor
    · rintro ⟨plat, rfl, named⟩
      exact absurd (told_hostname is) named
    · intro asked
      exact absurd rfl asked
  | none =>
    obtain ⟨found, rfl, discovered⟩ := resolve_discovered is returned
    exact ⟨fun _ => discovered.queried.queries_ne, fun _ => ⟨_, rfl, by simp⟩⟩

/-- One source is active and the others are not looked at, wherever resolving returns.
A network on the command line is taken for any items. One in the items is their text, and neither
the host name, the number of the network nor the answers count. Discovery asks for the host name
until the first answer with a network, whatever network the items name. The outcome has a host
name just if something was asked. -/
theorem resolve_source
    (returned : (resolve items override network lookup).on s = (.ok outcome, t)) :
    (∀ text, override = some text →
      t.events = s.events ∧
      ∀ other, (resolve other override network lookup).on s = (.ok outcome, t)) ∧
    (override = none → items.get? "plat_from_dns64" = some "no" →
      t.events = s.events ∧
      (outcome = match (items.get? "plat_subnet").bind IPv6.ofText? with
        | some found => .ok { network := found }
        | none => .error ⟨.noPlat, items.pathOf "plat_subnet"⟩) ∧
      (∀ issue, outcome = .error issue → issue.kind = .resolution) ∧
      ∀ other network' lookup' s', other.get? "plat_from_dns64" = some "no" →
        other.get? "plat_subnet" = items.get? "plat_subnet" → other.path = items.path →
        ∃ log, (resolve other none network' lookup').on s'
          = (.ok outcome, { s' with log := log })) ∧
    (override = none → items.get? "plat_from_dns64" ≠ some "no" →
      (∃ found, outcome = .ok ⟨found, some (detection items)⟩ ∧
        Discovered ⟨detection items, network⟩ s found t) ∧
      ∀ other, other.get? "plat_from_dns64" ≠ some "no" → detection other = detection items →
        (resolve other none network lookup).on s = (.ok outcome, t)) ∧
    ((∃ plat, outcome = .ok plat ∧ plat.hostname ≠ none) ↔ t.queries ≠ s.queries) := by
  refine ⟨?_, ?_, ?_, hostname_iff_queries returned⟩
  · rintro text rfl
    obtain ⟨-, log, rfl⟩ := resolve_told_on rfl returned
    exact ⟨rfl, fun other => returned⟩
  · rintro rfl no
    obtain ⟨rfl, log, rfl⟩ := resolve_told_on (told?_of_no no) returned
    refine ⟨rfl, named_eq items, ?_, ?_⟩
    · intro issue refused
      rw [named_eq] at refused
      split at refused <;> cases refused
      rfl
    · intro other network' lookup' s' no' subnet path
      have tells := resolve_told other network' lookup' s' (told?_of_no no')
      rw [named_congr subnet path] at tells
      exact tells.on
  · rintro rfl asks
    refine ⟨resolve_discovered (told?_of_ne_no asks) returned, fun other asks' host => ?_⟩
    rw [resolve_congr asks asks' host]
    exact returned

end Resolved

/-- Items with a network that is none, next to an order to discover it. -/
def contradictory : Items where
  entries := [("plat_from_dns64", "yes"), ("plat_subnet", "none of yours")]

theorem resolve_source_contradictory :
    let s : Session := { answers := [.failure "timeout", .records ["64:ff9b::c000:aa"]] }
    let plat : IPv6 := ⟨[0, 0x64, 0xff, 0x9b, 0, 0, 0, 0, 0, 0, 0, 0, 0, 0, 0, 0], none, rfl⟩
    ∃ t, (resolve contradictory none 0 .resolver).on s
        = (.ok (.ok ⟨plat, some "ipv4only.arpa"⟩), t) ∧
      (resolve {} none 0 .resolver).on s = (.ok (.ok ⟨plat, some "ipv4only.arpa"⟩), t) ∧
      t.queries ≠ s.queries := by
  intro s plat
  have given : ((resolve contradictory none 0 .resolver).on s).1
      = .ok (.ok ⟨plat, some "ipv4only.arpa"⟩) := by
    decide +kernel
  have returned : (resolve contradictory none 0 .resolver).on s
      = (.ok (.ok ⟨plat, some "ipv4only.arpa"⟩),
        ((resolve contradictory none 0 .resolver).on s).2) := by
    rw [← given]
  obtain ⟨-, -, discovery, asked⟩ := resolve_source returned
  obtain ⟨-, same⟩ := discovery rfl (by decide)
  exact ⟨_, returned, same {} (by decide) (by decide), asked.1 ⟨_, rfl, by simp⟩⟩

end Clat.Plat
