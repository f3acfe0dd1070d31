import Clat.Proofs.Address.Plain
import Clat.Proofs.Discovery

/-! Discovery as the inverse of synthesis. A resolver puts an IPv4 address behind the twelve octets
of a network; from the text of an address made so of a well-known IPv4 address, the network is found
again. Texts and responses without such an address are passed over, however many there are. -/
namespace Clat.Nat64

/-- A network of 96 bits. -/
structure Network where
  octets : List UInt8
  size_eq : octets.length = networkSize
  deriving DecidableEq, Repr

namespace Network

/-- The network as an address, with zeros behind it. -/
def address (network : Network) : IPv6 where
  octets := network.octets ++ [0, 0, 0, 0]
  size_eq := by simp [network.size_eq, networkSize]

/-- The address that stands for an IPv4 address on the network. -/
def embed (network : Network) (ipv4 : IPv4) : IPv6 where
  octets := network.octets ++ ipv4.octets
  size_eq := by simp [network.size_eq, networkSize, IPv4.octets]

end Network

/-- The well-known addresses that a detection host name has. -/
def wellKnownIPv4 : List IPv4 := [⟨192, 0, 0, 170⟩, ⟨192, 0, 0, 171⟩]

/-- A text denotes an address that stands for a well-known one on a network, in any zone. -/
def Reveals (text : String) (network : Network) : Prop :=
  ∃ address, IPv6.ofScopedText? text = some address ∧
    ∃ ipv4 ∈ wellKnownIPv4, address.octets = network.octets ++ ipv4.octets

/-- A text denotes an address whose last four octets are those of a well-known one. -/
def Usable (text : String) : Prop :=
  ∃ address, IPv6.ofScopedText? text = some address ∧
    ∃ ipv4 ∈ wellKnownIPv4, address.octets.drop networkSize = ipv4.octets

section Texts

variable {text : String} {network : Network}

theorem embedsWellKnown_iff (address : IPv6) :
    embedsWellKnown address = true ↔
      ∃ ipv4 ∈ wellKnownIPv4, address.octets.drop networkSize = ipv4.octets := by
  have octets : wellKnown = wellKnownIPv4.map IPv4.octets := by decide
  rw [embedsWellKnown, octets, List.contains_iff_mem, List.mem_map]
  simp only [eq_comm]

/-- The network of an address on it is found whatever the last four octets are. -/
theorem networkOf_eq {address : IPv6} {ipv4 : IPv4}
    (octets : address.octets = network.octets ++ ipv4.octets) :
    networkOf address = network.address := by
  refine IPv6.eq_iff.2 ⟨?_, rfl⟩
  change address.octets.take networkSize ++ [0, 0, 0, 0] = network.octets ++ [0, 0, 0, 0]
  rw [octets, List.take_left' network.size_eq]

theorem Reveals.usable (reveals : Reveals text network) : Usable text := by
  obtain ⟨address, denoted, ipv4, known, octets⟩ := reveals
  refine ⟨address, denoted, ipv4, known, ?_⟩
  rw [octets, List.drop_left' network.size_eq]

theorem Usable.reveals (usable : Usable text) : ∃ network, Reveals text network := by
  obtain ⟨address, denoted, ipv4, known, octets⟩ := usable
  have size : (address.octets.take networkSize).length = networkSize := by
    rw [List.length_take, address.size_eq]
    rfl
  refine ⟨⟨address.octets.take networkSize, size⟩, address, denoted, ipv4, known, ?_⟩
  rw [← octets]
  exact (List.take_append_drop networkSize address.octets).symm

/-- What a discovery finds in a text. -/
def found? (text : String) : Option IPv6 :=
  (IPv6.ofScopedText? text).bind fun address =>
    if embedsWellKnown address then some (networkOf address) else none

theorem found?_of_reveals (reveals : Reveals text network) :
    found? text = some network.address := by
  obtain ⟨address, denoted, ipv4, known, octets⟩ := reveals
  have behind : address.octets.drop networkSize = ipv4.octets := by
    rw [octets, List.drop_left' network.size_eq]
  have embeds : embedsWellKnown address = true :=
    (embedsWellKnown_iff address).2 ⟨ipv4, known, behind⟩
  rw [found?, denoted, Option.bind_some, if_pos embeds, networkOf_eq octets]

theorem found?_eq_none_iff : found? text = none ↔ ¬ Usable text := by
  constructor
  · intro nothing usable
    obtain ⟨network, reveals⟩ := usable.reveals
    rw [found?_of_reveals reveals] at nothing
    cases nothing
  · intro useless
    refine Option.bind_eq_none_iff.2 fun address denoted => if_neg fun embeds => useless ?_
    exact ⟨address, denoted, (embedsWellKnown_iff address).1 embeds⟩

theorem found?_eq_some_iff {found : IPv6} :
    found? text = some found ↔ ∃ network, Reveals text network ∧ found = network.address := by
  constructor
  · intro some
    have usable : Usable text := by
      by_contra useless
      rw [found?_eq_none_iff.2 useless] at some
      cases some
    obtain ⟨network, reveals⟩ := usable.reveals
    rw [found?_of_reveals reveals] at some
    exact ⟨network, reveals, (Option.some.inj some).symm⟩
  · rintro ⟨network, reveals, rfl⟩
    exact found?_of_reveals reveals

/-- The text of an address that stands for a well-known one is read back, so it reveals the network,
also where zeros of both parts are left out together. -/
theorem reveals_text (network : Network) {ipv4 : IPv4} (known : ipv4 ∈ wellKnownIPv4) :
    Reveals (network.embed ipv4).text network :=
  ⟨network.embed ipv4, IPv6.ofScopedText?_text rfl, ipv4, known, rfl⟩

end Texts

section Answers

variable {texts : List String}

theorem network?_eq_none_iff : network? texts = none ↔ ∀ text ∈ texts, ¬ Usable text := by
  rw [show network? texts = texts.findSome? found? from rfl, List.findSome?_eq_none_iff]
  simp only [found?_eq_none_iff]

/-- The network is the one that the first usable text reveals. -/
theorem network?_eq_some_iff {found : IPv6} :
    network? texts = some found ↔
      ∃ front text back network, texts = front ++ text :: back ∧
        (∀ earlier ∈ front, ¬ Usable earlier) ∧ Reveals text network ∧
        found = network.address := by
  rw [show network? texts = texts.findSome? found? from rfl, List.findSome?_eq_some_iff]
  simp only [found?_eq_none_iff, found?_eq_some_iff]
  constructor
  · rintro ⟨front, text, back, parts, ⟨network, reveals, same⟩, useless⟩
    exact ⟨front, text, back, network, parts, useless, reveals, same⟩
  · rintro ⟨front, text, back, network, parts, useless, reveals, same⟩
    exact ⟨front, text, back, parts, ⟨network, reveals, same⟩, useless⟩

end Answers

section Responses

open Clat.Discovery

/-- A response in which a discovery finds nothing: a failed query, no records, or records of which
none is usable. -/
inductive Useless : Answer → Prop where
  | failure (text : String) : Useless (.failure text)
  | empty : Useless .empty
  | records {texts : List String} (none : ∀ text ∈ texts, ¬ Usable text) : Useless (.records texts)

/-- The three kinds of responses without a network mean the same. -/
theorem Useless.meaning_eq {answer : Answer} (useless : Useless answer) :
    answer.meaning = .ok none := by
  cases useless with
  | failure text => rfl
  | empty => rfl
  | records none => exact congrArg Except.ok (network?_eq_none_iff.2 none)

/-- Useless responses are passed over, and a run ends with the first that has a usable text. -/
theorem run_reveals (target : Query) {s : Session}
    {before rest : List Answer} {front back : List String} {text : String} {network : Network}
    (answers : s.answers = before ++ .records (front ++ text :: back) :: rest)
    (useless : ∀ answer ∈ before, Useless answer) (unusable : ∀ earlier ∈ front, ¬ Usable earlier)
    (reveals : Reveals text network) (wait : Nat) :
    ∃ t, on (run .resolver target) ⟨s, wait⟩ = (.ok network.address, t) ∧
      t.session.answers = rest := by
  have meant : Answer.meaning (.records (front ++ text :: back)) = .ok (some network.address) :=
    congrArg Except.ok
      (network?_eq_some_iff.2 ⟨front, text, back, network, rfl, unusable, reveals, rfl⟩)
  obtain ⟨log, wait', ran⟩ := run_found .resolver target answers
    (fun answer member => (useless answer member).meaning_eq) meant wait
  exact ⟨_, ran, rfl⟩

/-- Answers give no network just if none of their texts denotes an address that ends in a well-known
one, and otherwise the network of the first that does. In particular, the text of an address that
stands for a well-known one on a network gives that network, behind any texts that are no use and
before any texts at all. A discovery over the resolver finds the network that the first response
with a usable text gives, whatever useless responses come before it and however long it has waited.
-/
theorem fromAnswers_inverts (texts : List String) (s : Session) :
    (∃ found? log, (fromAnswers texts).on s = (.ok found?, { s with log := log }) ∧
      (found? = none ↔ ∀ text ∈ texts, ¬ Usable text) ∧
      ∀ found, found? = some found ↔
        ∃ front text back network, texts = front ++ text :: back ∧
          (∀ earlier ∈ front, ¬ Usable earlier) ∧ Reveals text network ∧
          found = network.address) ∧
    (∀ network : Network, ∀ ipv4 ∈ wellKnownIPv4, ∀ front back : List String,
      (∀ earlier ∈ front, ¬ Usable earlier) →
        ∃ log, (fromAnswers (front ++ (network.embed ipv4).text :: back)).on s
          = (.ok (some network.address), { s with log := log })) ∧
    ∀ target : Query, ∀ before rest front back text network,
      s.answers = before ++ .records (front ++ text :: back) :: rest →
      (∀ answer ∈ before, Useless answer) → (∀ earlier ∈ front, ¬ Usable earlier) →
      Reveals text network → ∀ wait, ∃ t,
        on (run .resolver target) ⟨s, wait⟩ = (.ok network.address, t) ∧
          t.session.answers = rest := by
  refine ⟨?_, ?_, ?_⟩
  · obtain ⟨log, given⟩ := fromAnswers_on texts s
    exact ⟨network? texts, log, given, network?_eq_none_iff, fun _ => network?_eq_some_iff⟩
  · intro network ipv4 known front back unusable
    obtain ⟨log, given⟩ := fromAnswers_on (front ++ (network.embed ipv4).text :: back) s
    have first := network?_eq_some_iff.2 ⟨front, _, back, network, rfl, unusable,
      reveals_text network known, rfl⟩
    rw [first] at given
    exact ⟨log, given⟩
  · intro target before rest front back text network answers useless unusable reveals wait
    exact run_reveals target answers useless unusable reveals wait

theorem fromAnswers_inverts_waited :
    let target : Query := ⟨"ipv4only.arpa", 7⟩
    let before : List Answer := [.failure "timeout", .empty, .records ["2001:db8::1"]]
    let response : List String := ["no address"] ++ "::c000:ab" :: ["64:ff9b::c000:aa"]
    let s : Session := { answers := before ++ .records response :: [.breakdown "no route"] }
    let zeros : Network := ⟨[0, 0, 0, 0, 0, 0, 0, 0, 0, 0, 0, 0], rfl⟩
    (zeros.embed ⟨192, 0, 0, 171⟩).text = "::c000:ab" ∧
      ⟨192, 0, 0, 171⟩ ∈ wellKnownIPv4 ∧
      (∀ answer ∈ before, Useless answer) ∧ (∀ earlier ∈ ["no address"], ¬ Usable earlier) ∧
      Reveals "::c000:ab" zeros ∧
      (∃ log, (fromAnswers response).on s = (.ok (some IPv6.unspecified), { s with log := log })) ∧
      ∃ t, on (run .resolver target) ⟨s, 120⟩ = (.ok IPv6.unspecified, t) ∧
        t.session.answers = [.breakdown "no route"] := by
  intro target before response s zeros
  have written : (zeros.embed ⟨192, 0, 0, 171⟩).text = "::c000:ab" := by decide +kernel
  have known : ⟨192, 0, 0, 171⟩ ∈ wellKnownIPv4 := by decide
  have unusable : ∀ earlier ∈ ["no address"], ¬ Usable earlier := by
    intro earlier member
    rw [List.mem_singleton.1 member]
    exact found?_eq_none_iff.1 (by decide +kernel)
  have useless : ∀ answer ∈ before, Useless answer := by
    refine List.forall_mem_cons.2 ⟨.failure _, List.forall_mem_cons.2 ⟨.empty, ?_⟩⟩
    refine List.forall_mem_cons.2 ⟨.records ?_, nofun⟩
    intro text member
    rw [List.mem_singleton.1 member]
    exact found?_eq_none_iff.1 (by decide +kernel)
  have reveals : Reveals "::c000:ab" zeros := by
    rw [← written]
    exact reveals_text zeros known
  obtain ⟨-, scans, discovers⟩ := fromAnswers_inverts response s
  have scanned := scans zeros ⟨192, 0, 0, 171⟩ known ["no address"] ["64:ff9b::c000:aa"] unusable
  rw [written] at scanned
  exact ⟨written, known, useless, unusable, reveals, scanned,
    discovers target before _ _ _ _ zeros rfl useless unusable reveals 120⟩

end Responses

end Clat.Nat64
