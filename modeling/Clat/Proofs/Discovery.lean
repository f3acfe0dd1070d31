import Clat.Discovery
import Clat.Proofs.Session.Run

/-! Discovery by its answers. Each answer means a network, means nothing of use, or stops the run; a
discovery waits after every answer of no use and ends at the first one with a network. -/
namespace Clat

open Clat.Number

/-- The network that the first usable text gives away. -/
def Nat64.network? (texts : List String) : Option IPv6 :=
  texts.findSome? fun text =>
    (IPv6.ofScopedText? text).bind fun address =>
      if embedsWellKnown address then some (networkOf address) else none

theorem Nat64.fromAnswers_on (texts : List String) (s : Session) :
    ∃ log, (fromAnswers texts).on s = (.ok (network? texts), { s with log := log }) := by
  induction texts generalizing s with
  | nil => exact ⟨s.log, rfl⟩
  | cons text rest ih =>
    rw [fromAnswers, network?, List.findSome?_cons]
    cases IPv6.ofScopedText? text with
    | none =>
      obtain ⟨log, found⟩ := ih (s.logged .debug .discovery
        ("Ignoring malformed AAAA answer '" ++ text ++ "'"))
      exact ⟨log, found⟩
    | some address =>
      rw [Option.bind_some]
      by_cases usable : embedsWellKnown address = true
      · simp only [if_pos usable]
        exact ⟨s.log, rfl⟩
      · simp only [if_neg usable]
        obtain ⟨log, found⟩ := ih (s.logged .debug .discovery
          ("AAAA answer '" ++ text ++ "' does not embed a well-known IPv4 address"))
        exact ⟨log, found⟩

/-- What an answer means. A query that fails means nothing of use. -/
def Answer.meaning : Answer → Except Fault (Option IPv6)
  | .found address => .ok (some address)
  | .network text => ((IPv6.read "/" text).map some).mapError .unhandled
  | .records texts => .ok (Nat64.network? texts)
  | .empty => .ok none
  | .failure _ => .ok none
  | .breakdown text => .error (.breakdown text)

theorem Answer.meaning_ne_query (answer : Answer) {text : String} :
    answer.meaning ≠ .error (.query text) := by
  cases answer with
  | network text =>
    intro same
    change ((IPv6.read "/" text).map some).mapError Fault.unhandled = _ at same
    cases parsed : IPv6.read "/" text with
    | ok address =>
      rw [parsed] at same
      cases same
    | error issue =>
      rw [parsed] at same
      cases same
  | _ => simp [meaning]

/-- Whether an event is part of a discovery. -/
def Event.isDiscovery : Event → Bool
  | .query _ => true
  | .pause _ => true
  | _ => false

namespace Discovery

/-- What a discovery comes to on a state, and what it leaves of it. -/
def on {α : Type} (discovery : Discovery α) (state : State) : Except Fault α × State :=
  (ExceptT.run discovery).run state

theorem on_bind {α β : Type} (discovery : Discovery α) (next : α → Discovery β) (state : State) :
    on (discovery >>= next) state =
      match on discovery state with
      | (.ok value, state) => on (next value) state
      | (.error fault, state) => (.error fault, state) := by
  unfold on ExceptT.run StateT.run
  simp only [bind, ExceptT.bind, ExceptT.mk, StateT.bind, ExceptT.bindCont]
  cases discovery state with
  | mk result after => cases result <;> rfl

theorem interpret_on (lookup : Lookup) (hostname : String) (answer : Answer) (s : Session) :
    (∃ log, (interpret lookup hostname answer).on s = (answer.meaning, { s with log := log })) ∨
      answer.meaning = .ok none ∧
        ∃ text, (interpret lookup hostname answer).on s = (.error (.query text), s) := by
  cases answer with
  | found network => exact .inl ⟨s.log, rfl⟩
  | network text =>
    refine .inl ⟨s.log, ?_⟩
    simp only [interpret, Answer.meaning]
    cases IPv6.read "/" text <;> rfl
  | records texts => exact .inl (Nat64.fromAnswers_on texts s)
  | empty => exact .inl ⟨s.log, rfl⟩
  | failure text =>
    refine .inr ⟨rfl, ?_⟩
    cases lookup with
    | direct => exact ⟨_, rfl⟩
    | resolver => exact ⟨_, rfl⟩
  | breakdown text => exact .inl ⟨s.log, rfl⟩

section Attempts

variable {lookup : Lookup} {target : Query} {s : Session} {answer : Answer} {rest : List Answer}

/-- The session after a query that took an answer. -/
def asked (target : Query) (s : Session) (rest : List Answer) (log : List Log.Record) : Session :=
  { s.did (.query target) with answers := rest, log := log }

/-- Before a query only its network may be logged. -/
theorem query_logged (lookup : Lookup) (target : Query) (s : Session) :
    ∃ log, (query lookup target).on s =
      (do interpret lookup target.hostname (← Session.ask target)).on { s with log := log } := by
  unfold query
  by_cases numbered : lookup = .resolver ∧ target.network ≠ Defaults.defaultNetwork
  · simp only [if_pos numbered]
    exact ⟨(s.logged .debug .discovery ("Network "
      ++ String.ofList (signedDecimal target.network)
      ++ " requested, querying through the system resolver")).log, rfl⟩
  · simp only [if_neg numbered]
    exact ⟨s.log, rfl⟩

theorem query_on (lookup : Lookup) (target : Query) (answers : s.answers = answer :: rest) :
    (∃ log, (query lookup target).on s = (answer.meaning, asked target s rest log)) ∨
      answer.meaning = .ok none ∧
        ∃ text log,
          (query lookup target).on s = (.error (.query text), asked target s rest log) := by
  obtain ⟨log, logged⟩ := query_logged lookup target s
  rw [logged, Run.on_bind, Session.ask_on]
  simp only [answers]
  rcases interpret_on lookup target.hostname answer (asked target s rest log) with
    ⟨log', said⟩ | ⟨vain, text, failed⟩
  · exact .inl ⟨log', said⟩
  · exact .inr ⟨vain, text, log, failed⟩

theorem query_unanswered (lookup : Lookup) (target : Query) (answers : s.answers = []) :
    ∃ log, (query lookup target).on s = (.error .noAnswer, asked target s [] log) := by
  obtain ⟨log, logged⟩ := query_logged lookup target s
  rw [logged, Run.on_bind, Session.ask_on]
  simp only [answers]
  refine ⟨log, ?_⟩
  simp [asked, Session.did, answers]

/-- A query that fails is one in vain, and its failure is logged. -/
theorem tryQuery_failed {text : String} {t : Session} (wait : Nat)
    (failed : (query lookup target).on s = (.error (.query text), t)) :
    ∃ log, on (tryQuery lookup target) ⟨s, wait⟩ = (.ok none, ⟨{ t with log := log }, wait⟩) := by
  have came : query lookup target s = (.error (.query text), t) := failed
  unfold on tryQuery ExceptT.run StateT.run
  simp only [came]
  exact ⟨_, rfl⟩

theorem tryQuery_other {result : Except Fault (Option IPv6)} {t : Session} (wait : Nat)
    (ran : (query lookup target).on s = (result, t))
    (other : ∀ text, result ≠ .error (.query text)) :
    on (tryQuery lookup target) ⟨s, wait⟩ = (result, ⟨t, wait⟩) := by
  have came : query lookup target s = (result, t) := ran
  unfold on tryQuery ExceptT.run StateT.run
  -- The first alternative, a failure, is excluded by the last hypothesis.
  simp only [came]

/-- A query takes an answer; what is wrong with a query that fails is only logged. -/
theorem tryQuery_on (lookup : Lookup) (target : Query) (answers : s.answers = answer :: rest)
    (wait : Nat) :
    ∃ log, on (tryQuery lookup target) ⟨s, wait⟩
      = (answer.meaning, ⟨asked target s rest log, wait⟩) := by
  rcases query_on lookup target answers with ⟨log, meant⟩ | ⟨vain, text, log, failed⟩
  · exact ⟨log, tryQuery_other wait meant fun _ => answer.meaning_ne_query⟩
  · rw [vain]
    obtain ⟨log', tried⟩ := tryQuery_failed wait failed
    exact ⟨log', tried⟩

theorem attempt_found (lookup : Lookup) (target : Query) (answers : s.answers = answer :: rest)
    (wait : Nat) {network : IPv6} (meant : answer.meaning = .ok (some network)) :
    ∃ log, on (attempt lookup target) ⟨s, wait⟩
      = (.ok (some network), ⟨asked target s rest log, wait⟩) := by
  obtain ⟨log, tried⟩ := tryQuery_on lookup target answers wait
  rw [attempt, on_bind, tried, meant]
  exact ⟨_, rfl⟩

theorem attempt_vain (lookup : Lookup) (target : Query) (answers : s.answers = answer :: rest)
    (wait : Nat) (meant : answer.meaning = .ok none) :
    ∃ log, on (attempt lookup target) ⟨s, wait⟩
      = (.ok none, ⟨(asked target s rest log).did (.pause wait), nextWait wait⟩) := by
  obtain ⟨log, tried⟩ := tryQuery_on lookup target answers wait
  rw [attempt, on_bind, tried, meant]
  exact ⟨_, rfl⟩

theorem attempt_stop (lookup : Lookup) (target : Query) (answers : s.answers = answer :: rest)
    (wait : Nat) {fault : Fault} (meant : answer.meaning = .error fault) :
    ∃ log, on (attempt lookup target) ⟨s, wait⟩
      = (.error fault, ⟨asked target s rest log, wait⟩) := by
  obtain ⟨log, tried⟩ := tryQuery_on lookup target answers wait
  rw [attempt, on_bind, tried, meant]
  exact ⟨_, rfl⟩

/-- What attempts in vain do: each sends a query and waits. -/
def rounds (target : Query) (waits : List Nat) : List Event :=
  waits.flatMap fun wait => [.query target, .pause wait]

theorem isDiscovery_of_mem_rounds {waits : List Nat} {event : Event}
    (member : event ∈ rounds target waits ++ [.query target]) : event.isDiscovery = true := by
  rcases List.mem_append.1 member with round | last
  · obtain ⟨wait, -, either⟩ := List.mem_flatMap.1 round
    rcases List.mem_cons.1 either with rfl | pause
    · rfl
    · rw [List.mem_singleton.1 pause]
      rfl
  · rw [List.mem_singleton.1 last]
    rfl

/-- Attempts in vain take their answers, one each, and wait longer and longer. -/
theorem attempts_vain (lookup : Lookup) (target : Query) {tried : List Answer}
    (vain : ∀ answer ∈ tried, answer.meaning = .ok none) (answers : s.answers = tried ++ rest)
    (wait fuel : Nat) :
    ∃ log wait', on (attempts lookup target (fuel + tried.length)) ⟨s, wait⟩
      = on (attempts lookup target fuel)
        ⟨{ s with
            answers := rest
            events := s.events ++ rounds target (waitsFrom wait tried.length)
            log := log }, wait'⟩ := by
  induction tried generalizing s wait with
  | nil =>
    refine ⟨s.log, wait, ?_⟩
    cases s
    cases answers
    simp [rounds, waitsFrom]
  | cons first tried ih =>
    obtain ⟨log, attempted⟩ := attempt_vain lookup target answers wait (vain first (by simp))
    rw [List.length_cons, ← Nat.add_assoc, attempts, on_bind, attempted]
    obtain ⟨log', wait', goOn⟩ := ih (s := (asked target s (tried ++ rest) log).did (.pause wait))
      (fun answer member => vain answer (List.mem_cons_of_mem first member)) rfl (nextWait wait)
    refine ⟨log', wait', goOn.trans ?_⟩
    simp [asked, Session.did, rounds, waitsFrom]

/-- A query that stops for another reason than its failure stops the attempt. -/
theorem attempt_of_query {fault : Fault} {t : Session} (wait : Nat)
    (stopped : (query lookup target).on s = (.error fault, t))
    (other : ∀ text, fault ≠ .query text) :
    on (attempt lookup target) ⟨s, wait⟩ = (.error fault, ⟨t, wait⟩) := by
  have tried := tryQuery_other wait stopped fun text same => other text (Except.error.inj same)
  rw [attempt, on_bind, tried]

theorem attempts_found (lookup : Lookup) (target : Query) (answers : s.answers = answer :: rest)
    (wait fuel : Nat) {network : IPv6} (meant : answer.meaning = .ok (some network)) :
    ∃ log, on (attempts lookup target (fuel + 1)) ⟨s, wait⟩
      = (.ok network, ⟨asked target s rest log, wait⟩) := by
  obtain ⟨log, found⟩ := attempt_found lookup target answers wait meant
  rw [attempts, on_bind, found]
  exact ⟨log, rfl⟩

theorem attempts_stop {fault : Fault} {wait : Nat} {state : State}
    (stopped : on (attempt lookup target) ⟨s, wait⟩ = (.error fault, state)) (fuel : Nat) :
    on (attempts lookup target (fuel + 1)) ⟨s, wait⟩ = (.error fault, state) := by
  rw [attempts, on_bind, stopped]

/-- Attempts that give a network have answers, of which the first not in vain has it. -/
theorem attempts_ok {fuel wait : Nat} {network : IPv6} {state : State}
    (ok : on (attempts lookup target fuel) ⟨s, wait⟩ = (.ok network, state)) :
    ∃ tried answer rest, s.answers = tried ++ answer :: rest ∧
      (∀ answer ∈ tried, answer.meaning = .ok none) ∧ answer.meaning = .ok (some network) := by
  induction fuel generalizing s wait with
  | zero => cases ok
  | succ fuel ih =>
    cases answers : s.answers with
    | nil =>
      obtain ⟨t, stopped⟩ := query_unanswered lookup target answers
      rw [attempts_stop (attempt_of_query wait stopped (by simp)) fuel] at ok
      cases ok
    | cons answer rest =>
      cases meant : answer.meaning with
      | error fault =>
        obtain ⟨log, stopped⟩ := attempt_stop lookup target answers wait meant
        rw [attempts_stop stopped fuel] at ok
        cases ok
      | ok found =>
        cases found with
        | some found =>
          obtain ⟨log, attempted⟩ := attempts_found lookup target answers wait fuel meant
          rw [attempted] at ok
          cases ok
          exact ⟨[], answer, rest, rfl, by simp, meant⟩
        | none =>
          obtain ⟨log, attempted⟩ := attempt_vain lookup target answers wait meant
          rw [attempts, on_bind, attempted] at ok
          obtain ⟨tried, last, rest', answers', vain, meant'⟩ := ih ok
          refine ⟨answer :: tried, last, rest', ?_, ?_, meant'⟩
          · exact congrArg (answer :: ·) answers'
          · exact List.forall_mem_cons.2 ⟨meant, vain⟩

end Attempts

/-- What a discovery that finds a network has done: it has sent a query for each answer in vain
and waited after it, and a last query whose answer has the network. -/
def Discovered (target : Query) (s : Session) (network : IPv6) (t : Session) : Prop :=
  ∃ tried answer, s.answers = tried ++ answer :: t.answers ∧
    (∀ answer ∈ tried, answer.meaning = .ok none) ∧ answer.meaning = .ok (some network) ∧
    t.entropy = s.entropy ∧
    t.events = s.events ++ (rounds target (waits tried.length) ++ [.query target])

section Discover

variable {lookup : Lookup} {target : Query} {s : Session}

theorem discover_on :
    (discover lookup target).on s =
      ((on (attempts lookup target (s.answers.length + 1)) ⟨s, Defaults.firstWait⟩).1,
        (on (attempts lookup target (s.answers.length + 1)) ⟨s, Defaults.firstWait⟩).2.session) :=
  rfl

/-- A run finds the network of the first answer that is not in vain, whatever the wait before. -/
theorem run_found (lookup : Lookup) (target : Query) {tried rest : List Answer}
    {answer : Answer} (answers : s.answers = tried ++ answer :: rest)
    (vain : ∀ answer ∈ tried, answer.meaning = .ok none) {network : IPv6}
    (meant : answer.meaning = .ok (some network)) (wait : Nat) :
    ∃ log wait', on (run lookup target) ⟨s, wait⟩ = (.ok network,
      ⟨{ s with
          answers := rest
          events := s.events ++ (rounds target (waitsFrom wait tried.length) ++ [.query target])
          log := log }, wait'⟩) := by
  have fuel : s.answers.length + 1 = (rest.length + 1 + 1) + tried.length := by
    rw [answers, List.length_append, List.length_cons]
    omega
  obtain ⟨log, wait', goOn⟩ := attempts_vain lookup target vain answers wait (rest.length + 1 + 1)
  obtain ⟨log', found⟩ := attempts_found lookup target (s := { s with
      answers := answer :: rest
      events := s.events ++ rounds target (waitsFrom wait tried.length)
      log := log }) rfl wait' (rest.length + 1) meant
  refine ⟨log', wait', ?_⟩
  change on (attempts lookup target (s.answers.length + 1)) ⟨s, wait⟩ = _
  rw [fuel, goOn, found]
  simp [asked, Session.did]

/-- A discovery finds the network of the first answer that is not in vain. -/
theorem discover_found (lookup : Lookup) (target : Query) {tried rest : List Answer}
    {answer : Answer} (answers : s.answers = tried ++ answer :: rest)
    (vain : ∀ answer ∈ tried, answer.meaning = .ok none) {network : IPv6}
    (meant : answer.meaning = .ok (some network)) :
    ∃ log, (discover lookup target).on s = (.ok network,
      { s with
        answers := rest
        events := s.events ++ (rounds target (waits tried.length) ++ [.query target])
        log := log }) := by
  obtain ⟨log, wait, found⟩ := run_found lookup target answers vain meant Defaults.firstWait
  change on (attempts lookup target (s.answers.length + 1)) ⟨s, Defaults.firstWait⟩ = _ at found
  rw [discover_on, found]
  exact ⟨log, rfl⟩

/-- A discovery that gives a network has found it. -/
theorem discover_ok {network : IPv6} {t : Session}
    (ok : (discover lookup target).on s = (.ok network, t)) : Discovered target s network t := by
  have given : (on (attempts lookup target (s.answers.length + 1)) ⟨s, Defaults.firstWait⟩).1
      = .ok network := congrArg Prod.fst ok
  obtain ⟨tried, answer, rest, answers, vain, meant⟩ := attempts_ok (Prod.ext given rfl)
  obtain ⟨log, found⟩ := discover_found lookup target answers vain meant
  rw [found] at ok
  cases ok
  exact ⟨tried, answer, answers, vain, meant, rfl, rfl⟩

theorem length_waitsFrom (wait count : Nat) : (waitsFrom wait count).length = count := by
  induction count generalizing wait with
  | zero => rfl
  | succ count ih => rw [waitsFrom, List.length_cons, ih]

theorem queries_rounds (target : Query) (waits : List Nat) :
    Session.queries { events := rounds target waits } = List.replicate waits.length target := by
  induction waits with
  | nil => rfl
  | cons wait waits ih =>
    rw [List.length_cons, List.replicate_succ, ← ih]
    simp [rounds, Session.queries]

/-- A network is the result of the queries between two sessions: the answers to all but the last
mean nothing of use, and the last one means the network. -/
def Queried (target : Query) (s : Session) (network : IPv6) (t : Session) : Prop :=
  ∃ tried answer, s.answers = tried ++ answer :: t.answers ∧
    (∀ answer ∈ tried, answer.meaning = .ok none) ∧ answer.meaning = .ok (some network) ∧
    t.queries = s.queries ++ List.replicate (tried.length + 1) target

theorem Discovered.queried {target : Query} {s t : Session} {network : IPv6}
    (discovered : Discovered target s network t) : Queried target s network t := by
  obtain ⟨tried, answer, answers, vain, meant, -, events⟩ := discovered
  refine ⟨tried, answer, answers, vain, meant, ?_⟩
  let before : Session := { events := rounds target (waits tried.length) }
  let after : Session := { before with events := before.events ++ [.query target] }
  have vainQueries : before.queries = List.replicate tried.length target := by
    rw [queries_rounds, waits, length_waitsFrom]
  have asks : after.events = before.events ++ [.query target] := rfl
  have allQueries : after.queries = before.queries ++ [target] := Session.queries_of_events asks
  rw [Session.queries_of_events events, List.replicate_succ', ← vainQueries, ← allQueries]

theorem queried_congr {target : Query} {s t u : Session} {network : IPv6}
    (answers : u.answers = t.answers) (queries : u.queries = t.queries) :
    Queried target s network u ↔ Queried target s network t := by
  unfold Queried
  rw [answers, queries]

theorem Queried.queries_ne {target : Query} {s t : Session} {network : IPv6}
    (queried : Queried target s network t) : t.queries ≠ s.queries := by
  obtain ⟨tried, answer, -, -, -, queries⟩ := queried
  intro same
  have length := congrArg List.length (queries.symm.trans same)
  rw [List.length_append, List.length_replicate] at length
  omega

/-- Queries are for one target. -/
theorem Queried.unique {target other : Query} {s t : Session} {network network' : IPv6}
    (queried : Queried target s network t) (queried' : Queried other s network' t) :
    target = other := by
  obtain ⟨tried, answer, -, -, -, queries⟩ := queried
  obtain ⟨tried', answer', -, -, -, queries'⟩ := queried'
  rw [queries, List.append_cancel_left_eq] at queries'
  have member : target ∈ List.replicate (tried'.length + 1) other := by
    rw [← queries', List.replicate_succ]
    exact List.mem_cons_self
  exact List.eq_of_mem_replicate member

/-- Answers of which none stops a discovery, and one has a network. -/
def Answered (answers : List Answer) : Prop :=
  (∀ answer ∈ answers, ∃ network?, answer.meaning = .ok network?) ∧
    ∃ answer ∈ answers, ∃ network, answer.meaning = .ok (some network)

theorem Answered.first {answers : List Answer} (answered : Answered answers) :
    ∃ tried answer rest network, answers = tried ++ answer :: rest ∧
      (∀ answer ∈ tried, answer.meaning = .ok none) ∧ answer.meaning = .ok (some network) := by
  induction answers with
  | nil =>
    obtain ⟨-, answer, member, -⟩ := answered
    cases member
  | cons first others ih =>
    obtain ⟨means, answer, member, network, meant⟩ := answered
    obtain ⟨network?, meantFirst⟩ := means first (by simp)
    cases network? with
    | some network => exact ⟨[], first, others, network, rfl, by simp, meantFirst⟩
    | none =>
      have later : answer ∈ others := by
        rcases List.mem_cons.1 member with rfl | later
        · rw [meantFirst] at meant
          cases meant
        · exact later
      obtain ⟨tried, last, rest, network, rfl, vain, meantLast⟩ :=
        ih ⟨fun answer other => means answer (List.mem_cons_of_mem first other),
          answer, later, network, meant⟩
      exact ⟨first :: tried, last, rest, network, rfl, List.forall_mem_cons.2 ⟨meantFirst, vain⟩,
        meantLast⟩

end Discover

end Discovery
end Clat
