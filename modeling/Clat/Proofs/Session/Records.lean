import Clat.Proofs.Session.Run

/-! What is logged on the way. A log only grows; the records that a run or a stage adds to it are
told apart by whether they are fatal, which is how an issue is reported, and by whether they are
the assembler's, which only speaks of what it has made. -/
namespace Clat

namespace Log

/-- Parts have channels of their own. -/
theorem Part.channel_inj {part other : Part} : part.channel = other.channel ↔ part = other := by
  cases part <;> cases other <;> decide

/-- How many records are fatal. -/
def fatals (records : List Record) : Nat := records.countP (·.level = .fatal)

@[simp]
theorem fatals_append (front back : List Record) :
    fatals (front ++ back) = fatals front + fatals back :=
  List.countP_append

/-- A record that tells nothing of how a run ends. -/
def Record.Quiet (record : Record) : Prop :=
  record.level ≠ .fatal ∧ record.channel ≠ Part.assembler.channel

/-- Records that tell nothing of how a run ends. -/
def Quiet (records : List Record) : Prop := ∀ record ∈ records, record.Quiet

@[simp]
theorem quiet_nil : Quiet [] := by simp [Quiet]

theorem Quiet.append {front back : List Record} (quiet : Quiet front) (quiet' : Quiet back) :
    Quiet (front ++ back) :=
  List.forall_mem_append.2 ⟨quiet, quiet'⟩

theorem fatals_of_not_fatal {records : List Record}
    (harmless : ∀ record ∈ records, record.level ≠ .fatal) : fatals records = 0 := by
  unfold fatals
  rw [List.countP_eq_zero]
  intro record member
  simpa using harmless record member

theorem Quiet.fatals_eq {records : List Record} (quiet : Quiet records) : fatals records = 0 :=
  fatals_of_not_fatal fun record member => (quiet record member).1

/-- A record of the assembler is not among quiet ones. -/
theorem Quiet.count_eq {records : List Record} (quiet : Quiet records) {record : Record}
    (own : record.channel = Part.assembler.channel) : records.count record = 0 :=
  List.count_eq_zero.2 fun member => (quiet record member).2 own

end Log

open Log

variable {α β : Type}

section Runs

/-- A run that logs only quiet records, whatever it comes to. -/
def Run.Quiet (run : Run α) : Prop :=
  ∀ s, ∃ records, (run.on s).2.log = s.log ++ records ∧ Log.Quiet records

namespace Run

theorem Quiet.on {run : Run α} (quiet : run.Quiet) {s t : Session} {result : Except Fault α}
    (ran : run.on s = (result, t)) : ∃ records, t.log = s.log ++ records ∧ Log.Quiet records := by
  have records := quiet s
  rwa [ran] at records

/-- A run that leaves the log as it is. -/
theorem quiet_of_log {run : Run α} (same : ∀ s, (run.on s).2.log = s.log) : run.Quiet :=
  fun s => ⟨[], by rw [same, List.append_nil], quiet_nil⟩

theorem quiet_pure (value : α) : (pure value : Run α).Quiet := quiet_of_log fun _ => rfl

theorem quiet_throw (fault : Fault) : (throw fault : Run α).Quiet := quiet_of_log fun _ => rfl

theorem quiet_record {level : Level} {part : Part} (message : String) (mild : level ≠ .fatal)
    (other : part ≠ .assembler) : (Session.record level part message).Quiet := by
  intro s
  refine ⟨[⟨level, part.channel, message⟩], rfl, List.forall_mem_singleton.2 ⟨mild, ?_⟩⟩
  exact fun same => other (Part.channel_inj.1 same)

theorem quiet_ask (query : Query) : (Session.ask query).Quiet := by
  refine quiet_of_log fun s => ?_
  rw [Session.ask_on]
  cases s.answers <;> rfl

theorem quiet_draw (size : Nat) : (Session.draw size).Quiet := by
  refine quiet_of_log fun s => ?_
  rw [Session.draw_on]
  cases s.entropy <;> rfl

theorem Quiet.bind {run : Run α} {next : α → Run β} (first : run.Quiet)
    (rest : ∀ value, (next value).Quiet) : (run >>= next).Quiet := by
  intro s
  obtain ⟨records, logged, quiet⟩ := first s
  rw [on_bind]
  cases ran : run.on s with
  | mk result middle =>
    rw [ran] at logged
    cases result with
    | error fault => exact ⟨records, logged, quiet⟩
    | ok value =>
      obtain ⟨records', logged', quiet'⟩ := rest value middle
      refine ⟨records ++ records', ?_, quiet.append quiet'⟩
      rw [logged', logged, List.append_assoc]

end Run

end Runs

section Stages

/-- The record that an issue is reported with. -/
def Issue.record (issue : Issue) : Record := ⟨.fatal, Part.reader.channel, issue.message⟩

/-- What is logged up to an outcome: only quiet records, if it is a value; and if it is an issue,
that issue comes last, after as many fatal records as make up a number of them. -/
def Reported (times : Nat) : Except Issue α → List Record → Prop
  | .ok _, records => Log.Quiet records
  | .error issue, records => records.getLast? = some issue.record ∧ fatals records = times

theorem Reported.prepend {times : Nat} {outcome : Except Issue α} {front records : List Record}
    (quiet : Log.Quiet front) (reported : Reported times outcome records) :
    Reported times outcome (front ++ records) := by
  cases outcome with
  | ok value => exact quiet.append reported
  | error issue =>
    obtain ⟨last, count⟩ := reported
    refine ⟨?_, ?_⟩
    · rw [List.getLast?_append, last, Option.some_or]
    · rw [fatals_append, quiet.fatals_eq, count, Nat.zero_add]

/-- A stage that reports the issue it ends in with a number of fatal records, and no other. -/
def Stage.Reports (times : Nat) (stage : Stage α) : Prop :=
  ∀ s outcome t, stage.on s = (.ok outcome, t) →
    ∃ records, t.log = s.log ++ records ∧ Reported times outcome records

namespace Stage

variable {times : Nat} {stage : Stage α} {next : α → Stage β}

theorem reports_pure (times : Nat) (value : α) : (pure value : Stage α).Reports times := by
  rintro s outcome t ⟨⟩
  exact ⟨[], (List.append_nil _).symm, quiet_nil⟩

theorem reports_fail (issue : Issue) : (fail issue : Stage α).Reports 1 := by
  rintro s outcome t ⟨⟩
  exact ⟨[issue.record], rfl, rfl, rfl⟩

theorem reports_orFail (result : Except Issue α) : (orFail result).Reports 1 := by
  cases result with
  | ok value => exact reports_pure 1 value
  | error issue => exact reports_fail issue

/-- A stop is none of the outcomes that are reported. -/
theorem reports_stop (times : Nat) (fault : Fault) :
    (throwThe Fault fault : Stage α).Reports times := by
  rintro s outcome t ⟨⟩

theorem reports_run (times : Nat) {run : Run α} (quiet : run.Quiet) :
    (liftM run : Stage α).Reports times := by
  intro s outcome t returned
  rw [on_run] at returned
  split at returned
  · rename_i ran
    cases returned
    exact quiet.on ran
  · cases returned

theorem Reports.bind (first : stage.Reports times) (rest : ∀ value, (next value).Reports times) :
    (stage >>= next).Reports times := by
  intro s outcome t returned
  rw [on_bind] at returned
  split at returned
  · rename_i value middle given
    obtain ⟨records, logged, quiet⟩ := first s _ middle given
    obtain ⟨records', logged', reported⟩ := rest value middle outcome t returned
    refine ⟨records ++ records', ?_, reported.prepend quiet⟩
    rw [logged', logged, List.append_assoc]
  · rename_i issue middle failed
    cases returned
    obtain ⟨records, logged, reported⟩ := first s _ _ failed
    exact ⟨records, logged, reported⟩
  · cases returned

end Stage

end Stages

end Clat
