import Clat.Session

/-! Runs and stages by what they come to on a session. A run gives a value or a fault, and a
stage gives an issue too; nothing is run after a fault or an issue. -/
namespace Clat

/-- What a run comes to on a session, and what it leaves of it. -/
def Run.on {α : Type} (run : Run α) (s : Session) : Except Fault α × Session :=
  (ExceptT.run run).run s

/-- What a stage comes to on a session, and what it leaves of it. -/
def Stage.on {α : Type} (stage : Stage α) (s : Session) :
    Except Fault (Except Issue α) × Session :=
  Run.on (ExceptT.run stage) s

namespace Session

/-- The session with a record more. -/
def logged (s : Session) (level : Log.Level) (part : Log.Part) (message : String) : Session :=
  { s with log := s.log ++ [⟨level, part.channel, message⟩] }

/-- The session with an issue reported. -/
def reported (s : Session) (issue : Issue) : Session := s.logged .fatal .reader issue.message

/-- The session with an event more. -/
def did (s : Session) (event : Event) : Session := { s with events := s.events ++ [event] }

theorem queries_of_events {s t : Session} {events : List Event}
    (did : t.events = s.events ++ events) :
    t.queries = s.queries ++ queries { events := events } := by
  unfold queries
  rw [did, List.filterMap_append]

end Session

variable {α β : Type}

namespace Run

@[simp]
theorem on_pure (value : α) (s : Session) : (pure value : Run α).on s = (.ok value, s) := rfl

@[simp]
theorem on_throw (fault : Fault) (s : Session) :
    (throw fault : Run α).on s = (.error fault, s) := rfl

theorem on_bind (run : Run α) (next : α → Run β) (s : Session) :
    (run >>= next).on s =
      match run.on s with
      | (.ok value, s) => (next value).on s
      | (.error fault, s) => (.error fault, s) := by
  unfold Run.on ExceptT.run StateT.run
  simp only [bind, ExceptT.bind, ExceptT.mk, StateT.bind, ExceptT.bindCont]
  cases run s with
  | mk result after => cases result <;> rfl

theorem on_map (f : α → β) (run : Run α) (s : Session) :
    (f <$> run).on s =
      match run.on s with
      | (.ok value, s) => (.ok (f value), s)
      | (.error fault, s) => (.error fault, s) := by
  unfold Run.on ExceptT.run StateT.run
  simp only [Functor.map, ExceptT.map, ExceptT.mk, bind, StateT.bind]
  cases run s with
  | mk result after => cases result <;> rfl

end Run

namespace Session

@[simp]
theorem record_on (level : Log.Level) (part : Log.Part) (message : String) (s : Session) :
    (record level part message).on s = (.ok (), s.logged level part message) := rfl

theorem ask_on (query : Query) (s : Session) :
    (ask query).on s =
      match s.answers with
      | [] => (.error .noAnswer, s.did (.query query))
      | answer :: rest => (.ok answer, { s.did (.query query) with answers := rest }) := by
  cases s with
  | mk answers entropy log events => cases answers <;> rfl

theorem draw_on (size : Nat) (s : Session) :
    (draw size).on s =
      match s.entropy with
      | [] => (.error .noEntropy, s.did (.draw size))
      | octets :: rest => (.ok octets, { s.did (.draw size) with entropy := rest }) := by
  cases s with
  | mk answers entropy log events => cases entropy <;> rfl

theorem lookUp_on (find : Finder) (interface : String) (s : Session) :
    (lookUp find interface).on s =
      ((find interface).result,
        { s.did (.lookup interface) with log := s.log ++ (find interface).log }) := by
  unfold lookUp
  generalize find interface = finding
  cases finding with
  | mk result log => cases result <;> rfl

end Session

namespace Stage

@[simp]
theorem on_pure (value : α) (s : Session) :
    (pure value : Stage α).on s = (.ok (.ok value), s) := rfl

theorem on_bind (stage : Stage α) (next : α → Stage β) (s : Session) :
    (stage >>= next).on s =
      match stage.on s with
      | (.ok (.ok value), s) => (next value).on s
      | (.ok (.error issue), s) => (.ok (.error issue), s)
      | (.error fault, s) => (.error fault, s) := by
  change Run.on (ExceptT.run stage >>= ExceptT.bindCont next) s = _
  rw [Run.on_bind]
  unfold Stage.on
  cases Run.on (ExceptT.run stage) s with
  | mk result after =>
    cases result with
    | ok outcome => cases outcome <;> rfl
    | error fault => rfl

/-- A run inside a stage ends in no issue. -/
theorem on_run (run : Run α) (s : Session) :
    (liftM run : Stage α).on s =
      match run.on s with
      | (.ok value, s) => (.ok (.ok value), s)
      | (.error fault, s) => (.error fault, s) :=
  Run.on_map Except.ok run s

@[simp]
theorem fail_on (issue : Issue) (s : Session) :
    (fail issue : Stage α).on s = (.ok (.error issue), s.reported issue) := rfl

theorem orFail_on (result : Except Issue α) (s : Session) :
    (orFail result).on s =
      match result with
      | .ok value => (.ok (.ok value), s)
      | .error issue => (.ok (.error issue), s.reported issue) := by
  cases result <;> rfl

/-- A value that is there at once leaves the session as it is. -/
theorem orFail_ok {result : Except Issue α} {value : α} {s t : Session}
    (ok : (orFail result).on s = (.ok (.ok value), t)) : result = .ok value ∧ t = s := by
  rw [orFail_on] at ok
  cases result with
  | ok other =>
    cases ok
    exact ⟨rfl, rfl⟩
  | error issue => cases ok

/-- Nothing is run after an issue. -/
theorem orFail_bind (result : Except Issue α) (parse : α → Except Issue β) :
    (orFail result >>= fun value => orFail (parse value)) = orFail (result >>= parse) := by
  cases result with
  | ok value => rfl
  | error issue => rfl

/-- A stage comes to an outcome on a session and leaves another, apart from what is logged. -/
def ComesTo (stage : Stage α) (s : Session) (outcome : Except Issue α) (t : Session) : Prop :=
  ∀ log, ∃ log', stage.on { s with log := log } = (.ok outcome, { t with log := log' })

/-- The issue in an outcome. -/
def issueIn : Except Issue α → Option Issue
  | .ok _ => none
  | .error issue => some issue

/-- The issue that a stage ends in on a session. -/
def issue? (stage : Stage α) (s : Session) : Option Issue := (stage.on s).1.toOption.bind issueIn

theorem issue?_of_on {stage : Stage α} {s t : Session} {outcome : Except Issue α}
    (on : stage.on s = (.ok outcome, t)) : stage.issue? s = issueIn outcome := by
  rw [issue?, on]
  rfl

/-- The value that a stage gives on a session. -/
def value? (stage : Stage α) (s : Session) : Option α :=
  (stage.on s).1.toOption.bind Except.toOption

section ComesTo

variable {s t u : Session} {stage : Stage α} {next : α → Stage β} {value : α} {issue : Issue}

theorem comesTo_pure (value : α) (s : Session) : (pure value : Stage α).ComesTo s (.ok value) s :=
  fun log => ⟨log, rfl⟩

theorem comesTo_fail (issue : Issue) (s : Session) :
    (fail issue : Stage α).ComesTo s (.error issue) s :=
  fun _ => ⟨_, rfl⟩

theorem comesTo_orFail (result : Except Issue α) (s : Session) :
    (orFail result).ComesTo s result s := by
  cases result with
  | ok value => exact comesTo_pure value s
  | error issue => exact comesTo_fail issue s

theorem comesTo_run {run : Run α} {value : α}
    (gives : ∀ log, ∃ log', run.on { s with log := log } = (.ok value, { t with log := log' })) :
    (liftM run : Stage α).ComesTo s (.ok value) t := by
  intro log
  obtain ⟨log', given⟩ := gives log
  rw [on_run, given]
  exact ⟨log', rfl⟩

theorem ComesTo.bind {outcome : Except Issue β} (first : stage.ComesTo s (.ok value) t)
    (second : (next value).ComesTo t outcome u) : (stage >>= next).ComesTo s outcome u := by
  intro log
  obtain ⟨middle, given⟩ := first log
  rw [on_bind, given]
  exact second middle

theorem ComesTo.bind_issue (first : stage.ComesTo s (.error issue) t) :
    (stage >>= next).ComesTo s (.error issue) t := by
  intro log
  obtain ⟨log', failed⟩ := first log
  rw [on_bind, failed]
  exact ⟨log', rfl⟩

theorem ComesTo.map {outcome : Except Issue α} (comes : stage.ComesTo s outcome t) (f : α → β) :
    (stage >>= fun value => pure (f value)).ComesTo s (outcome.map f) t := by
  cases outcome with
  | ok value => exact comes.bind (comesTo_pure (f value) t)
  | error issue => exact comes.bind_issue

theorem ComesTo.on {outcome : Except Issue α} (comes : stage.ComesTo s outcome t) :
    ∃ log, stage.on s = (.ok outcome, { t with log := log }) :=
  comes s.log

theorem ComesTo.issue?_eq {outcome : Except Issue α} (comes : stage.ComesTo s outcome t) :
    stage.issue? s = issueIn outcome := by
  obtain ⟨log, on⟩ := comes.on
  exact issue?_of_on on

theorem ComesTo.value?_eq {outcome : Except Issue α} (comes : stage.ComesTo s outcome t) :
    stage.value? s = outcome.toOption := by
  obtain ⟨log, on⟩ := comes.on
  rw [value?, on]
  rfl

theorem ComesTo.of_ok {outcome : Except Issue α} (comes : stage.ComesTo s outcome t)
    (ok : stage.on s = (.ok (.ok value), u)) :
    outcome = .ok value ∧ ∃ log, u = { t with log := log } := by
  obtain ⟨log, on⟩ := comes.on
  rw [on] at ok
  cases ok
  exact ⟨rfl, log, rfl⟩

/-- A stage that gives a value has had one from each stage in it. -/
theorem on_bind_ok {result : β} (ok : (stage >>= next).on s = (.ok (.ok result), t)) :
    ∃ value u, stage.on s = (.ok (.ok value), u) ∧ (next value).on u = (.ok (.ok result), t) := by
  rw [on_bind] at ok
  split at ok
  · rename_i value u given
    exact ⟨value, u, given, ok⟩
  · cases ok
  · cases ok

theorem on_run_ok {run : Run α} (ok : (liftM run : Stage α).on s = (.ok (.ok value), t)) :
    run.on s = (.ok value, t) := by
  rw [on_run] at ok
  split at ok
  · rename_i given
    cases ok
    exact given
  · cases ok

end ComesTo

end Stage
end Clat
