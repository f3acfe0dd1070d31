import Clat.Proofs.Discovery
import Mathlib.Tactic.Ring

/-! Whole runs of calls on one discovery. An attempt takes one reply and a run takes replies up to
the first that is not in vain. Whatever calls are mixed, the replies in vain alone decide the waits:
the wait after the first is a second, and each one after is twice as long, up to two minutes. -/
namespace Clat.Discovery

/-- What comes of one query. -/
abbrev Reply := Except Fault (Option IPv6)

/-- Whether a query was in vain: it gave nothing of use, or failed. -/
def isVain : Reply → Bool
  | .ok none => true
  | _ => false

/-- The reply to the query that comes after `place` others. Where the answers are used up, it is
that there is no further answer. -/
def reply (answers : List Answer) (place : Nat) : Reply :=
  match answers[place]? with
  | some answer => answer.meaning
  | none => .error .noAnswer

/-- The replies to the first queries. -/
def replies (answers : List Answer) (count : Nat) : List Reply :=
  (List.range count).map (reply answers)

inductive Call where
  | attempt
  | run
  deriving DecidableEq, Repr

/-- The replies that a call takes, and what it gives back. -/
inductive Call.Takes : Call → List Reply → Reply → Prop where
  | attempt (reply : Reply) : Takes .attempt [reply] reply
  | run {vain : List Reply} {last : Reply} (fails : ∀ reply ∈ vain, reply = .ok none)
      (ends : last ≠ .ok none) : Takes .run (vain ++ [last]) last

/-- The replies that calls take one after another, and what each gives back. -/
inductive Plays : List Call → List Reply → List Reply → Prop where
  | nil : Plays [] [] []
  | cons {call : Call} {calls : List Call} {taken replies results : List Reply} {result : Reply}
      (takes : call.Takes taken result) (rest : Plays calls replies results) :
      Plays (call :: calls) (taken ++ replies) (result :: results)

def Call.perform (lookup : Lookup) (target : Query) : Call → Discovery (Option IPv6)
  | .attempt => Discovery.attempt lookup target
  | .run => do return some (← Discovery.run lookup target)

/-- Makes calls on one discovery; a call that stops does not keep the next from being made. -/
def performAll (lookup : Lookup) (target : Query) : List Call → State → List Reply × State
  | [], state => ([], state)
  | call :: calls, state =>
    let called := on (call.perform lookup target) state
    let others := performAll lookup target calls called.2
    (called.1 :: others.1, others.2)

/-- What is done for one reply: the query, and the wait if it is in vain. -/
def eventsFor (target : Query) (wait : Nat) (reply : Reply) : List Event :=
  if isVain reply then [.query target, .pause wait] else [.query target]

def waitAfter (wait : Nat) (reply : Reply) : Nat := if isVain reply then nextWait wait else wait

def history (target : Query) (wait : Nat) : List Reply → List Event
  | [] => []
  | reply :: rest => eventsFor target wait reply ++ history target (waitAfter wait reply) rest

/-- A discovery after queries with some replies, from a state before. -/
def State.after (state : State) (target : Query) (taken : List Reply) (log : List Log.Record) :
    State where
  session := { state.session with
    answers := state.session.answers.drop taken.length
    events := state.session.events ++ history target state.wait taken
    log := log }
  wait := taken.foldl waitAfter state.wait

section Replies

variable {answers : List Answer} {target : Query}

/-- A run that goes on after a reply in vain takes that one too. -/
theorem Call.Takes.after_vain {taken : List Reply} {result : Reply}
    (takes : Call.run.Takes taken result) : Call.run.Takes (.ok none :: taken) result := by
  cases takes with
  | run fails ends => exact .run (List.forall_mem_cons.2 ⟨rfl, fails⟩) ends

theorem Call.Takes.of_ends {last : Reply} (ends : last ≠ .ok none) :
    Call.run.Takes [last] last := by
  have fails : ∀ reply ∈ ([] : List Reply), reply = .ok none := by simp
  exact .run fails ends

theorem length_replies (answers : List Answer) (count : Nat) :
    (replies answers count).length = count := by
  rw [replies, List.length_map, List.length_range]

theorem reply_drop (answers : List Answer) (count place : Nat) :
    reply (answers.drop count) place = reply answers (count + place) := by
  rw [reply, reply, List.getElem?_drop]

theorem replies_add (answers : List Answer) (count more : Nat) :
    replies answers (count + more)
      = replies answers count ++ replies (answers.drop count) more := by
  rw [replies, List.range_add, List.map_append, List.map_map]
  refine congrArg (replies answers count ++ ·) (List.map_congr_left fun place _ => ?_)
  exact (reply_drop answers count place).symm

theorem history_append (target : Query) (wait : Nat) (first second : List Reply) :
    history target wait (first ++ second)
      = history target wait first ++ history target (first.foldl waitAfter wait) second := by
  induction first generalizing wait with
  | nil => rfl
  | cons reply first ih =>
    rw [List.cons_append, history, ih, history, List.append_assoc, List.foldl_cons]

theorem State.after_after (state : State) (target : Query) (first second : List Reply)
    (log log' : List Log.Record) :
    (state.after target first log).after target second log'
      = state.after target (first ++ second) log' := by
  simp only [State.after, List.drop_drop, List.length_append, history_append, List.append_assoc,
    List.foldl_append]

end Replies

section Calls

variable {lookup : Lookup} {target : Query}

/-- A reply in vain is followed by a wait. -/
theorem State.after_vain {reply : Reply} (vain : isVain reply = true) (s : Session) (wait : Nat)
    (target : Query) (log : List Log.Record) :
    (State.mk s wait).after target [reply] log =
      ⟨(asked target s (s.answers.drop 1) log).did (.pause wait), nextWait wait⟩ := by
  simp [State.after, history, eventsFor, waitAfter, vain, asked, Session.did]

theorem State.after_other {reply : Reply} (other : isVain reply = false) (s : Session) (wait : Nat)
    (target : Query) (log : List Log.Record) :
    (State.mk s wait).after target [reply] log =
      ⟨asked target s (s.answers.drop 1) log, wait⟩ := by
  simp [State.after, history, eventsFor, waitAfter, other, asked, Session.did]

/-- An attempt takes one reply, and waits if it is in vain. -/
theorem attempt_on (lookup : Lookup) (target : Query) (state : State) :
    ∃ log, on (attempt lookup target) state
      = (reply state.session.answers 0,
        state.after target [reply state.session.answers 0] log) := by
  obtain ⟨s, wait⟩ := state
  cases answers : s.answers with
  | nil =>
    obtain ⟨log, stopped⟩ := query_unanswered lookup target answers
    have stops : reply s.answers 0 = .error .noAnswer := by rw [answers]; rfl
    refine ⟨log, (attempt_of_query wait stopped (by simp)).trans ?_⟩
    rw [← answers, stops, State.after_other rfl, answers]
    rfl
  | cons answer rest =>
    have means : reply s.answers 0 = answer.meaning := by rw [answers]; rfl
    have left : rest = s.answers.drop 1 := by rw [answers]; rfl
    rw [← answers, means]
    cases meant : answer.meaning with
    | error fault =>
      obtain ⟨log, stopped⟩ := attempt_stop lookup target answers wait meant
      rw [stopped, left]
      exact ⟨log, by rw [State.after_other rfl]⟩
    | ok network? =>
      cases network? with
      | none =>
        obtain ⟨log, vain⟩ := attempt_vain lookup target answers wait meant
        rw [vain, left]
        exact ⟨log, by rw [State.after_vain rfl]⟩
      | some network =>
        obtain ⟨log, found⟩ := attempt_found lookup target answers wait meant
        rw [found, left]
        exact ⟨log, by rw [State.after_other rfl]⟩

/-- An attempt in vain takes an answer. -/
theorem length_answers_of_vain {state next : State}
    (vain : on (attempt lookup target) state = (.ok none, next)) :
    next.session.answers.length + 1 = state.session.answers.length := by
  obtain ⟨log, attempted⟩ := attempt_on lookup target state
  rw [attempted] at vain
  obtain ⟨took, rfl⟩ := Prod.mk.inj vain
  cases answers : state.session.answers with
  | nil =>
    rw [answers] at took
    cases took
  | cons answer rest => simp [State.after, answers]

/-- A run is an attempt, and a run again if that is in vain. -/
theorem run_on_eq (state : State) :
    on (Call.run.perform lookup target) state =
      match on (Call.attempt.perform lookup target) state with
      | (.ok none, next) => on (Call.run.perform lookup target) next
      | other => other := by
  have unfolded (state : State) : on (run lookup target) state
      = on (attempts lookup target (state.session.answers.length + 1)) state := rfl
  change on (run lookup target >>= _) state = _
  rw [on_bind, unfolded, attempts, on_bind]
  change _ = match on (attempt lookup target) state with
    | (.ok none, next) => on (run lookup target >>= _) next
    | other => other
  cases attempted : on (attempt lookup target) state with
  | mk result next =>
    cases result with
    | error fault => rfl
    | ok network? =>
      cases network? with
      | some network => rfl
      | none =>
        -- The answer that the attempt has taken is the fuel that it has used up.
        simp only
        rw [on_bind, unfolded, length_answers_of_vain attempted]

/-- A first reply that is not in vain ends a run. -/
theorem run_on_of_ne (lookup : Lookup) (target : Query) (state : State)
    (ends : reply state.session.answers 0 ≠ .ok none) :
    ∃ log, on (Call.run.perform lookup target) state
      = (reply state.session.answers 0,
        state.after target [reply state.session.answers 0] log) := by
  obtain ⟨log, attempted⟩ := attempt_on lookup target state
  refine ⟨log, (run_on_eq state).trans ?_⟩
  rw [Call.perform, attempted]
  split
  · rename_i vain
    exact absurd (Prod.mk.inj vain).1 ends
  · rfl

/-- A run takes replies up to the first one that is not in vain. -/
theorem run_on (lookup : Lookup) (target : Query) (state : State) :
    ∃ count result log, Call.run.Takes (replies state.session.answers count) result ∧
      on (Call.run.perform lookup target) state
        = (result, state.after target (replies state.session.answers count) log) := by
  induction left : state.session.answers.length generalizing state with
  | zero =>
    have ends : reply state.session.answers 0 ≠ .ok none := by
      rw [List.length_eq_zero_iff.1 left]
      exact nofun
    obtain ⟨log, ran⟩ := run_on_of_ne lookup target state ends
    exact ⟨1, _, log, .of_ends ends, ran⟩
  | succ fewer ih =>
    by_cases vain : reply state.session.answers 0 = .ok none
    · obtain ⟨log, attempted⟩ := attempt_on lookup target state
      rw [vain] at attempted
      have took := length_answers_of_vain attempted
      obtain ⟨count, result, log', takes, ran⟩ := ih (state.after target [.ok none] log) (by omega)
      have split : replies state.session.answers (1 + count)
          = .ok none :: replies (state.session.answers.drop 1) count := by
        rw [replies_add, replies, List.range_one, List.map_singleton, vain]
        rfl
      refine ⟨1 + count, result, log', ?_, ?_⟩
      · rw [split]
        exact takes.after_vain
      · rw [run_on_eq, Call.perform, attempted, split]
        exact ran.trans (by rw [State.after_after]; rfl)
    · obtain ⟨log, ran⟩ := run_on_of_ne lookup target state vain
      exact ⟨1, _, log, .of_ends vain, ran⟩

theorem perform_on (lookup : Lookup) (target : Query) (call : Call) (state : State) :
    ∃ count result log, call.Takes (replies state.session.answers count) result ∧
      on (call.perform lookup target) state
        = (result, state.after target (replies state.session.answers count) log) := by
  cases call with
  | attempt =>
    obtain ⟨log, attempted⟩ := attempt_on lookup target state
    exact ⟨1, _, log, .attempt _, attempted⟩
  | run => exact run_on lookup target state

/-- Calls take the replies from the first one on, none left out and none taken twice. -/
theorem performAll_on (lookup : Lookup) (target : Query) (calls : List Call) (state : State) :
    ∃ count results log, Plays calls (replies state.session.answers count) results ∧
      performAll lookup target calls state
        = (results, state.after target (replies state.session.answers count) log) := by
  induction calls generalizing state with
  | nil =>
    refine ⟨0, [], state.session.log, .nil, ?_⟩
    simp [performAll, State.after, replies, history]
  | cons call calls ih =>
    obtain ⟨count, result, log, takes, performed⟩ := perform_on lookup target call state
    obtain ⟨more, results, log', plays, others⟩ :=
      ih (state.after target (replies state.session.answers count) log)
    have left : (state.after target (replies state.session.answers count) log).session.answers
        = state.session.answers.drop count := by
      simp only [State.after, length_replies]
    rw [left] at plays others
    refine ⟨count + more, result :: results, log', ?_, ?_⟩
    · rw [replies_add]
      exact .cons takes plays
    · simp only [performAll, performed, others]
      rw [State.after_after, replies_add]

end Calls

section Waits

theorem nextWait_eq (doublings : Nat) :
    nextWait (min (2 ^ doublings) 120) = min (2 ^ (doublings + 1)) 120 := by
  rw [nextWait, Defaults.longestWait, pow_succ]
  omega

theorem foldl_waitAfter_eq (doublings : Nat) (taken : List Reply) :
    taken.foldl waitAfter (min (2 ^ doublings) 120)
      = min (2 ^ (doublings + taken.countP isVain)) 120 := by
  induction taken generalizing doublings with
  | nil => rfl
  | cons reply taken ih =>
    rw [List.foldl_cons, List.countP_cons, waitAfter]
    cases isVain reply with
    | true =>
      rw [if_pos rfl, if_pos rfl, nextWait_eq, ih, Nat.add_assoc, Nat.add_comm 1]
    | false => rw [if_neg Bool.false_ne_true, if_neg Bool.false_ne_true, ih, Nat.add_zero]

theorem waitsFrom_eq (doublings count : Nat) :
    waitsFrom (min (2 ^ doublings) 120) count
      = (List.range count).map fun i => min (2 ^ (doublings + i)) 120 := by
  induction count generalizing doublings with
  | zero => rfl
  | succ count ih =>
    rw [waitsFrom, nextWait_eq, ih, List.range_succ_eq_map, List.map_cons, List.map_map]
    refine congrArg _ (List.map_congr_left fun i _ => ?_)
    rw [Function.comp, Nat.succ_eq_add_one, Nat.add_assoc, Nat.add_comm 1 i]

/-- The waits double from one second up to two minutes. -/
theorem waits_eq (count : Nat) : waits count = (List.range count).map fun i => min (2 ^ i) 120 := by
  have doubled := waitsFrom_eq 0 count
  simp only [Nat.zero_add] at doubled
  exact doubled

theorem pauses_history (target : Query) (wait : Nat) (taken : List Reply) :
    Session.pauses { events := history target wait taken }
      = waitsFrom wait (taken.countP isVain) := by
  induction taken generalizing wait with
  | nil => rfl
  | cons reply taken ih =>
    have split : Session.pauses { events := history target wait (reply :: taken) }
        = Session.pauses { events := eventsFor target wait reply }
          ++ waitsFrom (waitAfter wait reply) (taken.countP isVain) := by
      rw [← ih]
      exact List.filterMap_append
    rw [split, List.countP_cons, eventsFor, waitAfter]
    cases isVain reply with
    | true => rfl
    | false => rfl

theorem queries_history (target : Query) (wait : Nat) (taken : List Reply) :
    Session.queries { events := history target wait taken }
      = List.replicate taken.length target := by
  induction taken generalizing wait with
  | nil => rfl
  | cons reply taken ih =>
    have split : Session.queries { events := history target wait (reply :: taken) }
        = Session.queries { events := eventsFor target wait reply }
          ++ List.replicate taken.length target := by
      rw [← ih]
      exact List.filterMap_append
    rw [split, eventsFor]
    cases isVain reply with
    | true => rfl
    | false => rfl

end Waits

/-- Calls on a new discovery, in any number and order. They take the replies one after another, an
attempt one and a run those up to the first that is not in vain, as attempts one after another
would. After every call the waits so far are the first powers of two, none over 120, one for each
reply in vain, and the next wait is the power after them; a network or a fault changes neither.
Every query is for the target. -/
theorem performAll_outcomes (lookup : Lookup) (target : Query) (calls : List Call) (s : Session) :
    (∃ count results t, performAll lookup target calls { session := s } = (results, t) ∧
        Plays calls (replies s.answers count) results ∧
        t.session.answers = s.answers.drop count ∧
        t.session.queries = s.queries ++ List.replicate count target ∧
        t.session.events
          = s.events ++ history target Defaults.firstWait (replies s.answers count) ∧
        let failures := (replies s.answers count).countP isVain
        t.session.pauses = s.pauses ++ (List.range failures).map (fun i => min (2 ^ i) 120) ∧
        waits failures = (List.range failures).map (fun i => min (2 ^ i) 120) ∧
        t.wait = min (2 ^ failures) 120) ∧
    ∀ state, on (Call.run.perform lookup target) state =
      match on (Call.attempt.perform lookup target) state with
      | (.ok none, next) => on (Call.run.perform lookup target) next
      | other => other := by
  refine ⟨?_, run_on_eq⟩
  obtain ⟨count, results, log, plays, performed⟩ :=
    performAll_on lookup target calls { session := s }
  have events : (State.after { session := s } target (replies s.answers count) log).session.events
      = s.events ++ history target Defaults.firstWait (replies s.answers count) := rfl
  refine ⟨count, results, _, performed, plays, ?_, ?_, events, ?_, waits_eq _, ?_⟩
  · simp only [State.after, length_replies]
  · rw [Session.queries_of_events events, queries_history, length_replies]
  · rw [← waits_eq, waits, ← pauses_history target, Session.pauses, events, List.filterMap_append]
    rfl
  · have doubled := foldl_waitAfter_eq 0 (replies s.answers count)
    rw [Nat.zero_add] at doubled
    exact doubled

/-- Replies of every kind: a failure, a network, a fault, and nothing of use before a network. -/
def mixed : Session where
  answers := [.failure "timeout", .records ["64:ff9b::c000:aa"], .breakdown "no route", .empty,
    .records ["2001:db8::1"], .records ["64:ff9b::c000:ab"]]

theorem performAll_outcomes_mixed :
    let target : Query := ⟨"ipv4only.arpa", 7⟩
    let calls : List Call := [.run, .attempt, .attempt, .run]
    let plat : IPv6 := ⟨[0, 0x64, 0xff, 0x9b, 0, 0, 0, 0, 0, 0, 0, 0, 0, 0, 0, 0], none, rfl⟩
    ∃ count t, performAll .resolver target calls { session := mixed }
        = ([.ok (some plat), .error (.breakdown "no route"), .ok none, .ok (some plat)], t) ∧
      t.session.queries = List.replicate count target ∧
      t.wait = min (2 ^ (replies mixed.answers count).countP isVain) 120 ∧
      t.wait = 8 := by
  intro target calls plat
  have given : (performAll .resolver target calls { session := mixed }).1
      = [.ok (some plat), .error (.breakdown "no route"), .ok none, .ok (some plat)] := by
    decide +kernel
  have waited : (performAll .resolver target calls { session := mixed }).2.wait = 8 := by
    decide +kernel
  obtain ⟨count, results, t, performed, -, -, queries, -, -, -, wait⟩ :=
    (performAll_outcomes .resolver target calls mixed).1
  rw [performed] at given waited
  cases given
  exact ⟨count, t, performed, queries, wait, waited⟩

end Clat.Discovery
