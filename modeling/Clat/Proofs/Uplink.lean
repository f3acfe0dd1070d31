import Clat.Proofs.Address.Text
import Clat.Proofs.Session.Run
import Clat.Uplink
import Mathlib.Logic.Relation

/-! The choice of the uplink's address. Of the entries that a table lists for an interface, those
that denote an address count, and of these the first that is more than link-local, or else the
first. Nothing else in the table has a part in the choice. -/
namespace Clat

namespace IPv6

/-- The address begins with the same bits as a network of some size. -/
def InNetwork (address network : IPv6) (size : Nat) : Prop :=
  address.toNat / Nat.pow 2 (128 - size) = network.toNat / Nat.pow 2 (128 - size)

/-- The network fe80::/10. -/
def linkLocalNetwork : IPv6 where
  octets := [0xfe, 0x80, 0, 0, 0, 0, 0, 0, 0, 0, 0, 0, 0, 0, 0, 0]
  size_eq := rfl

def LinkLocal (address : IPv6) : Prop := address.InNetwork linkLocalNetwork 10

/-- What octets are put behind is told by the number that they make with it. -/
theorem foldl_octets_div (octets : List UInt8) (n : Nat) :
    octets.foldl (fun n octet => n * 256 + octet.toNat) n / Nat.pow 256 octets.length = n := by
  induction octets generalizing n with
  | nil => exact Nat.div_one n
  | cons octet octets ih =>
    have octetLt := octet.toNat_lt
    change List.foldl _ (n * 256 + octet.toNat) octets / (Nat.pow 256 octets.length * 256) = n
    rw [← Nat.div_div_eq_div_mul, ih]
    omega

/-- The first ten bits of an address are in its first two octets. -/
theorem toNat_div (address : IPv6) :
    address.toNat / Nat.pow 2 118
      = (address.octets.getD 0 0).toNat * 4 + (address.octets.getD 1 0).toNat / 64 := by
  obtain ⟨octets, zone, size⟩ := address
  obtain ⟨first, second, rest, rfl⟩ : ∃ first second rest, octets = first :: second :: rest := by
    match octets, size with
    | first :: second :: rest, _ => exact ⟨first, second, rest, rfl⟩
  have fourteen : rest.length = 14 := by simpa using size
  have above := foldl_octets_div rest (first.toNat * 256 + second.toNat)
  rw [fourteen] at above
  have parts : Nat.pow 2 118 = Nat.pow 256 14 * 64 := by decide +kernel
  have number : toNat ⟨first :: second :: rest, zone, size⟩
      = rest.foldl (fun n octet => n * 256 + octet.toNat) (first.toNat * 256 + second.toNat) := by
    simp [toNat]
  rw [number, parts, ← Nat.div_div_eq_div_mul, above]
  simp only [List.getD_cons_zero, List.getD_cons_succ]
  omega

theorem isLinkLocal_iff (address : IPv6) : address.isLinkLocal = true ↔ address.LinkLocal := by
  have firstLt := (address.octets.getD 0 0).toNat_lt
  have secondLt := (address.octets.getD 1 0).toNat_lt
  have network : linkLocalNetwork.toNat / Nat.pow 2 118 = 0xfe * 4 + 2 := toNat_div _
  rw [LinkLocal, InNetwork, toNat_div, network, isLinkLocal, Bool.and_eq_true, beq_iff_eq,
    beq_iff_eq, ← UInt8.toNat_inj]
  have fe : (0xfe : UInt8).toNat = 0xfe := rfl
  omega

end IPv6

namespace Uplink

open Clat.Text

/-- An entry of a table: the family of an address, and its text. -/
abbrev Entry := Family × String

/-- An entry denotes an address: it is of its family, and what stands before the first percent sign
of its text is the text of the address. -/
def Denotes (entry : Entry) (address : IPv6) : Prop :=
  entry.1 = .ipv6 ∧
    ∃ front, IsFront '%' entry.2.toList front ∧ IPv6.ofText? (String.ofList front) = some address

/-- The address that an entry denotes. -/
def denoted? (entry : Entry) : Option IPv6 :=
  if entry.1 = .ipv6 then IPv6.ofText? (dropZone entry.2) else none

theorem denoted?_eq_some_iff {entry : Entry} {address : IPv6} :
    denoted? entry = some address ↔ Denotes entry address := by
  unfold denoted? Denotes
  by_cases family : entry.1 = .ipv6
  · rw [if_pos family]
    constructor
    · intro denoted
      exact ⟨family, _, splitFirst_fst_iff.1 rfl, denoted⟩
    · rintro ⟨-, front, isFront, denoted⟩
      rw [dropZone, splitFirst_fst_iff.2 isFront, denoted]
  · rw [if_neg family]
    simp [family]

theorem denoted?_eq_none_iff {entry : Entry} :
    denoted? entry = none ↔ ∀ address, ¬ Denotes entry address := by
  rw [Option.eq_none_iff_forall_ne_some]
  simp only [ne_eq, denoted?_eq_some_iff]

/-- No address that an entry denotes has a zone. -/
theorem Denotes.zone_eq {entry : Entry} {address : IPv6} (denotes : Denotes entry address) :
    address.zone = none := by
  obtain ⟨-, front, -, denoted⟩ := denotes
  exact IPv6.zone_of_ofText? denoted

/-- The first of the addresses with a property that entries denote. -/
def First (property : IPv6 → Prop) (listed : List Entry) (address : IPv6) : Prop :=
  ∃ front entry back, listed = front ++ entry :: back ∧ Denotes entry address ∧
    property address ∧ ∀ earlier ∈ front, ∀ other, Denotes earlier other → ¬ property other

theorem First.zone_eq {property : IPv6 → Prop} {listed : List Entry} {address : IPv6}
    (first : First property listed address) : address.zone = none := by
  obtain ⟨front, entry, back, -, denotes, -⟩ := first
  exact denotes.zone_eq

section Choice

variable {listed : List Entry} {address : IPv6}

/-- What is chosen of the addresses that entries denote. -/
def choice (listed : List Entry) : Option IPv6 := choose (listed.filterMap denoted?)

theorem usable_on (name : String) (listed : List Entry) (s : Session) :
    ∃ log, (usable name listed).on s
      = (.ok (listed.filterMap denoted?), { s with log := log }) := by
  induction listed generalizing s with
  | nil => exact ⟨s.log, rfl⟩
  | cons entry rest ih =>
    obtain ⟨family, text⟩ := entry
    rw [usable, List.filterMap_cons, denoted?]
    by_cases ipv6 : family = .ipv6
    · simp only [if_pos ipv6]
      cases IPv6.ofText? (dropZone text) with
      | some address =>
        obtain ⟨log, found⟩ := ih s
        refine ⟨log, ?_⟩
        rw [Run.on_bind, found]
        rfl
      | none =>
        obtain ⟨log, found⟩ := ih (s.logged .debug .uplink
          ("Ignoring unparsable address '" ++ text ++ "' on interface " ++ name))
        exact ⟨log, found⟩
    · simp only [if_neg ipv6]
      exact ih s

theorem address_on (table : Table) (name : String) (s : Session) :
    ∃ log, (Uplink.address table name).on s
      = (.ok (choice (entries table name)), { s with log := log }) := by
  obtain ⟨log, found⟩ := usable_on name (entries table name) s
  refine ⟨log, ?_⟩
  rw [Uplink.address, Run.on_bind, found]
  rfl

theorem choose_eq (addresses : List IPv6) :
    choose addresses = (addresses.find? (!·.isLinkLocal)).or addresses.head? := by
  unfold choose
  cases addresses.find? (!·.isLinkLocal) with
  | some address => rfl
  | none => rfl

theorem find?_denoted (property : IPv6 → Bool) (listed : List Entry) :
    (listed.filterMap denoted?).find? property
      = listed.findSome? fun entry => (denoted? entry).filter property := by
  induction listed with
  | nil => rfl
  | cons entry rest ih =>
    rw [List.filterMap_cons, List.findSome?_cons]
    cases denoted? entry with
    | none => exact ih
    | some address =>
      by_cases holds : property address = true
      · rw [List.find?_cons_of_pos holds, Option.filter_some, if_pos holds]
      · rw [List.find?_cons_of_neg holds, Option.filter_some, if_neg holds]
        exact ih

theorem find?_denoted_eq_some_iff {property : IPv6 → Bool} :
    (listed.filterMap denoted?).find? property = some address ↔
      First (property · = true) listed address := by
  rw [find?_denoted, List.findSome?_eq_some_iff]
  simp only [Option.filter_eq_some_iff, Option.filter_eq_none_iff, denoted?_eq_some_iff, First,
    and_assoc]

theorem head?_denoted_eq_some_iff :
    (listed.filterMap denoted?).head? = some address ↔ First (fun _ => True) listed address := by
  rw [List.head?_filterMap, List.findSome?_eq_some_iff]
  simp only [denoted?_eq_some_iff, denoted?_eq_none_iff, First, true_and, not_true_eq_false]

theorem choice_eq_none_iff :
    choice listed = none ↔ ∀ entry ∈ listed, ∀ address, ¬ Denotes entry address := by
  simp only [← denoted?_eq_none_iff, ← List.filterMap_eq_nil_iff]
  rw [choice, choose_eq, Option.or_eq_none_iff, List.head?_eq_none_iff]
  constructor
  · exact And.right
  · intro none
    rw [none]
    exact ⟨rfl, rfl⟩

/-- The test of the choice asks whether an address is outside fe80::/10. -/
theorem not_isLinkLocal_iff (address : IPv6) :
    (!address.isLinkLocal) = true ↔ ¬ address.LinkLocal := by
  rw [← IPv6.isLinkLocal_iff, Bool.not_eq_true', Bool.not_eq_true]

theorem find?_reaching_eq_none_iff :
    (listed.filterMap denoted?).find? (!·.isLinkLocal) = none ↔
      ∀ entry ∈ listed, ∀ other, Denotes entry other → other.LinkLocal := by
  simp only [List.find?_eq_none, not_isLinkLocal_iff, not_not, List.mem_filterMap,
    denoted?_eq_some_iff]
  constructor
  · intro near entry member other denotes
    exact near other ⟨entry, member, denotes⟩
  · rintro near other ⟨entry, member, denotes⟩
    exact near entry member other denotes

theorem choice_eq_some_iff :
    choice listed = some address ↔
      First (¬ ·.LinkLocal) listed address ∨
        (∀ entry ∈ listed, ∀ other, Denotes entry other → other.LinkLocal) ∧
          First (fun _ => True) listed address := by
  rw [choice, choose_eq, Option.or_eq_some_iff, find?_denoted_eq_some_iff,
    find?_reaching_eq_none_iff, head?_denoted_eq_some_iff]
  simp only [not_isLinkLocal_iff]

end Choice

section Noise

/-- An entry denotes an address that is link-local. -/
def IsNear (entry : Entry) : Prop := ∃ address, Denotes entry address ∧ address.LinkLocal

/-- An entry denotes an address that is more than link-local. -/
def Reaches (entry : Entry) : Prop := ∃ address, Denotes entry address ∧ ¬ address.LinkLocal

/-- A change in what is listed for an interface that has no part in the choice. -/
inductive EntryNoise : List Entry → List Entry → Prop where
  /-- An entry appears that denotes no address: it is of another family, or its text is none of an
  address. -/
  | silent (front back : List Entry) {entry : Entry} (none : ∀ address, ¬ Denotes entry address) :
    EntryNoise (front ++ back) (front ++ entry :: back)
  /-- A text gets a zone, another one, or loses the one that it has. -/
  | zone (front back : List Entry) (family : Family) {text other : String} {plain : List Char}
    (before : IsFront '%' text.toList plain) (after : IsFront '%' other.toList plain) :
    EntryNoise (front ++ (family, text) :: back) (front ++ (family, other) :: back)
  /-- A link-local address appears beside one that is more. -/
  | appears (front back : List Entry) {entry : Entry} (near : IsNear entry)
    (reached : ∃ entry ∈ front ++ back, Reaches entry) :
    EntryNoise (front ++ back) (front ++ entry :: back)
  /-- Two link-local addresses change places beside one that is more. -/
  | exchange (front middle back : List Entry) {entry other : Entry} (near : IsNear entry)
    (near' : IsNear other) (reached : ∃ entry ∈ front ++ middle ++ back, Reaches entry) :
    EntryNoise (front ++ entry :: (middle ++ other :: back))
      (front ++ other :: (middle ++ entry :: back))

/-- A change in a table that has no part in the choice of an interface's address. -/
inductive Noise (name : String) : Table → Table → Prop where
  /-- Another interface appears. -/
  | other (front back : Table) {other : String} (listed : List Entry) (different : other ≠ name) :
    Noise name (front ++ back) (front ++ (other, listed) :: back)
  /-- The interface itself appears, with nothing listed for it. -/
  | empty (front back : Table) (absent : (front ++ back).lookup name = none) :
    Noise name (front ++ back) (front ++ (name, []) :: back)
  | change (front back : Table) {listed listed' : List Entry}
    (noise : EntryNoise listed listed') :
    Noise name (front ++ (name, listed) :: back) (front ++ (name, listed') :: back)

variable {front back listed listed' : List Entry} {entry : Entry}

theorem choice_silent (front back : List Entry) (none : ∀ address, ¬ Denotes entry address) :
    choice (front ++ entry :: back) = choice (front ++ back) := by
  rw [choice, choice, List.filterMap_append, List.filterMap_append,
    List.filterMap_cons_none (denoted?_eq_none_iff.2 none)]

/-- Beside an address that is more than link-local, no link-local one is chosen. -/
theorem choice_near (near : IsNear entry) (reached : ∃ entry ∈ front ++ back, Reaches entry) :
    choice (front ++ entry :: back) = choice (front ++ back) := by
  obtain ⟨address, denotes, near⟩ := near
  obtain ⟨reaching, member, far, denotesFar, reaches⟩ := reached
  have skipped : ((front ++ entry :: back).filterMap denoted?).find? (!·.isLinkLocal)
      = ((front ++ back).filterMap denoted?).find? (!·.isLinkLocal) := by
    have passed (rest : List IPv6) :
        (address :: rest).find? (!·.isLinkLocal) = rest.find? (!·.isLinkLocal) := by
      apply List.find?_cons_of_neg
      rw [not_isLinkLocal_iff]
      exact not_not_intro near
    rw [List.filterMap_append, List.filterMap_cons_some (denoted?_eq_some_iff.2 denotes),
      List.find?_append, passed, ← List.find?_append, ← List.filterMap_append]
  rw [choice, choice, choose_eq, choose_eq, skipped]
  cases found : ((front ++ back).filterMap denoted?).find? (!·.isLinkLocal) with
  | some chosen => rfl
  | none =>
    exact absurd (find?_reaching_eq_none_iff.1 found reaching member far denotesFar) reaches

theorem choice_near_near {middle : List Entry} {other : Entry} (near : IsNear entry)
    (near' : IsNear other) (reached : ∃ entry ∈ front ++ middle ++ back, Reaches entry) :
    choice (front ++ entry :: (middle ++ other :: back)) = choice (front ++ middle ++ back) := by
  have beside : ∃ entry ∈ front ++ (middle ++ other :: back), Reaches entry := by
    obtain ⟨reaching, member, reaches⟩ := reached
    refine ⟨reaching, ?_, reaches⟩
    simp only [List.mem_append, List.mem_cons] at member ⊢
    tauto
  rw [choice_near near beside, ← List.append_assoc, choice_near near' reached]

/-- A zone has no part in what an entry denotes. -/
theorem denoted?_zone (family : Family) {text other : String} {plain : List Char}
    (before : IsFront '%' text.toList plain) (after : IsFront '%' other.toList plain) :
    denoted? (family, text) = denoted? (family, other) := by
  have same : dropZone text = dropZone other := by
    rw [dropZone, dropZone, splitFirst_fst_iff.2 before, splitFirst_fst_iff.2 after]
  rw [denoted?, denoted?, same]

theorem choice_of_entryNoise (noise : EntryNoise listed listed') :
    choice listed = choice listed' := by
  cases noise with
  | silent front back none => exact (choice_silent front back none).symm
  | zone front back family before after =>
    rw [choice, choice, List.filterMap_append, List.filterMap_append, List.filterMap_cons,
      List.filterMap_cons, denoted?_zone family before after]
  | appears front back near reached => exact (choice_near near reached).symm
  | exchange front middle back near near' reached =>
    rw [choice_near_near near near' reached, choice_near_near near' near reached]

variable {name : String} {table table' : Table}

theorem entries_eq_nil (absent : table.lookup name = none) :
    entries table name = [] := by
  rw [entries, absent, Option.getD_none]

theorem entries_append (front back : Table) (other : String) (listed : List Entry) (name : String) :
    entries (front ++ (other, listed) :: back) name
      = ((front.lookup name).or (if other = name then some listed else back.lookup name)).getD
        [] := by
  rw [entries, List.lookup_append, List.lookup_cons]
  by_cases same : other = name
  · rw [if_pos same, same, beq_self_eq_true]
  · rw [if_neg same, beq_false_of_ne (Ne.symm same)]

theorem choice_of_noise (noise : Noise name table table') :
    choice (entries table name) = choice (entries table' name) := by
  cases noise with
  | other front back listed different =>
    rw [entries_append, if_neg different, entries, List.lookup_append]
  | empty front back absent =>
    have nothing := entries_eq_nil absent
    rw [List.lookup_append, Option.or_eq_none_iff] at absent
    rw [nothing, entries_append, if_pos rfl, absent.1, Option.none_or, Option.getD_some]
  | change front back noise =>
    rw [entries_append, entries_append, if_pos rfl, if_pos rfl]
    cases front.lookup name with
    | none => exact choice_of_entryNoise noise
    | some earlier => rfl

/-- What one change leaves as it is, any number of them do, and so does taking them back. -/
theorem choice_of_noises (noises : Relation.EqvGen (Noise name) table table') :
    choice (entries table name) = choice (entries table' name) := by
  induction noises with
  | rel table table' noise => exact choice_of_noise noise
  | refl table => rfl
  | symm table table' _ ih => exact ih.symm
  | trans table table' table'' _ _ first second => exact first.trans second

end Noise

/-- No address is found just if the interface is absent or none of its entries denotes one. Otherwise
the address has no zone and is the first outside fe80::/10 that its entries denote, if there is one,
and else the first. Entries that denote no address, other interfaces, zones, and link-local addresses
beside one that is more may come, go and change in any number and order: the same is found. -/
theorem address_stable (table : Table) (name : String) (s : Session) :
    ∃ found log, (address table name).on s = (.ok found, { s with log := log }) ∧
      (found = none ↔ table.lookup name = none ∨
        ∃ listed, table.lookup name = some listed ∧
          ∀ entry ∈ listed, ∀ address, ¬ Denotes entry address) ∧
      (∀ address, found = some address ↔
        ∃ listed, table.lookup name = some listed ∧
          (First (¬ ·.LinkLocal) listed address ∨
            (∀ entry ∈ listed, ∀ other, Denotes entry other → other.LinkLocal) ∧
              First (fun _ => True) listed address)) ∧
      (∀ address, found = some address → address.zone = none) ∧
      ∀ table', Relation.EqvGen (Noise name) table table' → ∀ s',
        ∃ log', (address table' name).on s' = (.ok found, { s' with log := log' }) := by
  obtain ⟨log, found⟩ := address_on table name s
  refine ⟨choice (entries table name), log, found, ?_, ?_, ?_, ?_⟩
  · rw [choice_eq_none_iff, entries]
    cases table.lookup name with
    | none => simp
    | some listed => simp
  · intro address
    rw [choice_eq_some_iff, entries]
    cases table.lookup name with
    | none => simp [First]
    | some listed => simp
  · intro address chosen
    obtain first | ⟨-, first⟩ := choice_eq_some_iff.1 chosen
    · exact first.zone_eq
    · exact first.zone_eq
  · intro table' noises s'
    obtain ⟨log', found'⟩ := address_on table' name s'
    rw [choice_of_noises noises]
    exact ⟨log', found'⟩

/-- An interface listed after another one, with a link-local address in a new zone, an address of
another family and a text that is none of an address. -/
theorem address_stable_noisy :
    let table : Table := [("rmnet0", [(.ipv6, "fe80::1%rmnet0"), (.ipv6, "2001:db8:1:2::1")])]
    let noisy : Table := [("wlan0", [(.ipv6, "2001:db8::9")]),
      ("rmnet0", [(.ipv4, "10.0.0.2"), (.ipv6, "fe80::1%7"), (.ipv6, "2001:db8::1/64"),
        (.ipv6, "2001:db8:1:2::1")])]
    Relation.EqvGen (Noise "rmnet0") table noisy ∧
      ∃ found log log', found.text = "2001:db8:1:2::1" ∧
        (address table "rmnet0").on {} = (.ok (some found), { log := log }) ∧
        (address noisy "rmnet0").on {} = (.ok (some found), { log := log' }) := by
  intro table noisy
  have zone : EntryNoise [(.ipv6, "fe80::1%rmnet0"), (.ipv6, "2001:db8:1:2::1")]
      [(.ipv6, "fe80::1%7"), (.ipv6, "2001:db8:1:2::1")] := by
    apply EntryNoise.zone [] [(.ipv6, "2001:db8:1:2::1")] .ipv6
    · exact splitFirst_fst_iff.1 rfl
    · exact splitFirst_fst_iff.1 (by decide +kernel)
  have family : EntryNoise [(.ipv6, "fe80::1%7"), (.ipv6, "2001:db8:1:2::1")]
      [(.ipv4, "10.0.0.2"), (.ipv6, "fe80::1%7"), (.ipv6, "2001:db8:1:2::1")] :=
    .silent [] _ (denoted?_eq_none_iff.1 (by decide +kernel))
  have unread : EntryNoise [(.ipv4, "10.0.0.2"), (.ipv6, "fe80::1%7"), (.ipv6, "2001:db8:1:2::1")]
      [(.ipv4, "10.0.0.2"), (.ipv6, "fe80::1%7"), (.ipv6, "2001:db8::1/64"),
        (.ipv6, "2001:db8:1:2::1")] :=
    .silent [(.ipv4, "10.0.0.2"), (.ipv6, "fe80::1%7")] _
      (denoted?_eq_none_iff.1 (by decide +kernel))
  have noises : Relation.EqvGen (Noise "rmnet0") table noisy := by
    refine .trans _ _ _ (.rel _ _ (.change [] [] zone)) ?_
    refine .trans _ _ _ (.rel _ _ (.change [] [] family)) ?_
    refine .trans _ _ _ (.rel _ _ (.change [] [] unread)) ?_
    exact .rel _ _ (.other [] _ _ (by decide))
  let wide : IPv6 := ⟨[0x20, 1, 0xd, 0xb8, 0, 1, 0, 2, 0, 0, 0, 0, 0, 0, 0, 1], none, rfl⟩
  have text : wide.text = "2001:db8:1:2::1" := by decide +kernel
  have result : ((address table "rmnet0").on {}).1 = .ok (some wide) := by decide +kernel
  obtain ⟨found, log, given, -, -, -, stable⟩ := address_stable table "rmnet0" {}
  obtain ⟨log', given'⟩ := stable noisy noises {}
  obtain rfl : found = some wide := by
    rw [given] at result
    exact Except.ok.inj result
  exact ⟨noises, wide, log, log', text, given, given'⟩

end Uplink

end Clat
