import Clat.Log.Logger
import Mathlib.Data.List.Forall2

/-! Delivery of log records. A sink drops what is below its level and holds the rest back until there
are many or one reaches the level at which it sends all on. As it starts, both levels are one, so that
every record it lets through sends itself on: however long a run is, nothing stays behind. -/
namespace Clat.Log

namespace Sink

variable {sink : Sink}

/-- A sink that holds nothing back, and will not: what it lets through is severe enough to be sent
on. -/
structure Prompt (sink : Sink) : Prop where
  empty : sink.pending = []
  sends : sink.flushLevel.severity ≤ sink.level.severity

theorem accepts_iff (sink : Sink) (record : Record) :
    sink.accepts record = true ↔ sink.level.severity ≤ record.level.severity :=
  decide_eq_true_iff

/-- A prompt sink passes a record on at once, or drops it. -/
theorem Prompt.take_eq (prompt : sink.Prompt) (record : Record) :
    sink.take record = { sink with passed := sink.passed ++ [record].filter sink.accepts } := by
  unfold take
  by_cases accepted : sink.accepts record = true
  · have severe : sink.flushLevel.severity ≤ record.level.severity :=
      Nat.le_trans prompt.sends ((sink.accepts_iff record).1 accepted)
    simp [accepted, severe, prompt.empty]
  · simp [accepted]

/-- Neither what is pending nor the levels change as records are passed on. -/
theorem Prompt.with_passed (prompt : sink.Prompt) (records : List Record) :
    Prompt { sink with passed := records } :=
  ⟨prompt.empty, prompt.sends⟩

theorem Prompt.takeAll_eq (prompt : sink.Prompt) (records : List Record) :
    sink.takeAll records
      = { sink with passed := sink.passed ++ records.filter sink.accepts } := by
  induction records generalizing sink with
  | nil => rw [List.filter_nil, List.append_nil, takeAll, List.foldl_nil]
  | cons record records ih =>
    calc sink.takeAll (record :: records)
        = (sink.take record).takeAll records := rfl
      _ = { sink with
            passed := sink.passed ++ [record].filter sink.accepts
              ++ records.filter sink.accepts } := by
          rw [prompt.take_eq]
          exact ih (prompt.with_passed _)
      _ = { sink with passed := sink.passed ++ (record :: records).filter sink.accepts } := by
          rw [List.append_assoc, ← List.filter_append, List.singleton_append]

/-- Where records have to be more severe to be sent on than to be let through, they are held back. -/
example (record : Record) (level : record.level = .info) :
    (take ⟨.stdout, .info, .error, .bare, [], []⟩ record).pending = [record] := by
  simp [take, accepts, level, Level.severity, capacity]

theorem start_eq {level target : String} {least : Level} {chosen : Target}
    (named : Level.ofName? level = some least) (named' : Target.ofName? target = some chosen)
    (short : Bool) :
    start level target short
      = .ok ⟨chosen, least, least, .of chosen short, [], []⟩ := by
  rw [start, named]
  simp only [named']

theorem output_target (sink : Sink) (stamp : Stamp) :
    sink.output stamp sink.target
      = String.join (sink.passed.map fun record => sink.layout.line stamp record ++ "\n") :=
  if_pos rfl

theorem output_other (sink : Sink) (stamp : Stamp) {target : Target} (other : target ≠ sink.target) :
    sink.output stamp target = "" :=
  if_neg (Ne.symm other)

end Sink

section Calls

variable {calls : List Call} {records : List Record}

/-- What a call puts on a stream: the line of its record. -/
def Call.Line (layout : Layout) (stamp : Stamp) (call : Call) (line : String) : Prop :=
  ∃ message, fill call.template call.arguments = .ok message ∧
    line = layout.line stamp
      ⟨call.method.level, channelOf call.logger, message ++ call.method.remark⟩ ++ "\n"

theorem Call.record_ok_iff {call : Call} {record : Record} :
    call.record = .ok record ↔
      ∃ message, fill call.template call.arguments = .ok message ∧
        record = ⟨call.method.level, channelOf call.logger, message ++ call.method.remark⟩ := by
  unfold Call.record
  cases fill call.template call.arguments with
  | ok message => simp [bind, Except.bind, pure, Except.pure, eq_comm]
  | error error => simp [bind, Except.bind]

/-- Calls and the records that are made of them, one for each. -/
def Made (calls : List Call) (records : List Record) : Prop :=
  List.Forall₂ (fun call record => call.record = .ok record) calls records

theorem exists_made
    (filled : ∀ call ∈ calls, ∃ message, fill call.template call.arguments = .ok message) :
    ∃ records, Made calls records := by
  induction calls with
  | nil => exact ⟨[], .nil⟩
  | cons call calls ih =>
    obtain ⟨⟨message, first⟩, others⟩ := List.forall_mem_cons.1 filled
    obtain ⟨records, made⟩ := ih others
    exact ⟨_ :: records, .cons (Call.record_ok_iff.2 ⟨message, first, rfl⟩) made⟩

theorem Made.logAll_eq (made : Made calls records) (sink : Sink) :
    sink.logAll calls = sink.takeAll records := by
  induction made generalizing sink with
  | nil => rfl
  | @cons call record calls records first _ ih =>
    have step : sink.log call = sink.take record := by rw [Sink.log, first]
    calc sink.logAll (call :: calls)
        = (sink.log call).logAll calls := rfl
      _ = (sink.take record).takeAll records := by rw [step, ih]

/-- The calls of a method that is severe enough are those of which the records are. -/
theorem Made.filter (made : Made calls records) (sink : Sink) :
    Made (calls.filter fun call => sink.level.severity ≤ call.method.level.severity)
      (records.filter sink.accepts) := by
  refine List.rel_filter ?_ made
  intro call record made
  obtain ⟨message, -, rfl⟩ := Call.record_ok_iff.1 made
  simp only [Sink.accepts_iff, decide_eq_true_iff]

theorem Made.lines (made : Made calls records) (layout : Layout) (stamp : Stamp) :
    List.Forall₂ (Call.Line layout stamp) calls
      (records.map fun record => layout.line stamp record ++ "\n") := by
  rw [List.forall₂_map_right_iff]
  refine List.Forall₂.imp ?_ made
  intro call record made
  obtain ⟨message, filled, rfl⟩ := Call.record_ok_iff.1 made
  exact ⟨message, filled, rfl⟩

end Calls

/-- Logging starts for any level and target that have a name. From then on, after any number of
calls, the records of those that are severe enough have been passed on, in the order of the calls,
and nothing is held back: the stream that is chosen has one line for each of them and nothing else,
the other streams have nothing. -/
theorem start_delivers {level target : String} {least : Level} {chosen : Target}
    (named : Level.ofName? level = some least) (named' : Target.ofName? target = some chosen)
    (setting : Option String) {calls : List Call}
    (filled : ∀ call ∈ calls, ∃ message, fill call.template call.arguments = .ok message) :
    ∃ sink, Sink.start level target (setting = some shortLines) = .ok sink ∧
      ∀ front back, calls = front ++ back →
        (sink.logAll front).pending = [] ∧
        Made (front.filter fun call => least.severity ≤ call.method.level.severity)
          (sink.logAll front).passed ∧
        ∀ stamp,
          (∃ lines,
            List.Forall₂ (Call.Line (.of chosen (setting = some shortLines)) stamp)
              (front.filter fun call => least.severity ≤ call.method.level.severity) lines ∧
            (sink.logAll front).output stamp chosen = String.join lines) ∧
          ∀ other, other ≠ chosen → (sink.logAll front).output stamp other = "" := by
  let sink : Sink := ⟨chosen, least, least, .of chosen (setting = some shortLines), [], []⟩
  have prompt : sink.Prompt := ⟨rfl, Nat.le_refl least.severity⟩
  refine ⟨sink, Sink.start_eq named named' _, ?_⟩
  intro front back split
  have filled' : ∀ call ∈ front, ∃ message, fill call.template call.arguments = .ok message := by
    intro call member
    apply filled
    rw [split]
    exact List.mem_append_left back member
  obtain ⟨records, made⟩ := exists_made filled'
  have after : sink.logAll front = { sink with passed := records.filter sink.accepts } := by
    rw [made.logAll_eq, prompt.takeAll_eq]
    rfl
  rw [after]
  have severe := made.filter sink
  refine ⟨rfl, severe, fun stamp => ⟨⟨_, severe.lines sink.layout stamp, ?_⟩, ?_⟩⟩
  · exact Sink.output_target _ stamp
  · intro other different
    exact Sink.output_other _ stamp different

/-- A record below the level, and one of a template with an argument. -/
theorem start_delivers_notice :
    let calls : List Call := [⟨.info, "clatd.dns64", "100%", []⟩,
      ⟨.notice, "clatd.main", "Starting clatd on %s...", [.text "wwan0"]⟩]
    Level.ofName? "notice" = some .notice ∧ Target.ofName? "stderr" = some .stderr ∧
      (∀ call ∈ calls, ∃ message, fill call.template call.arguments = .ok message) ∧
      ∃ sink, Sink.start "notice" "stderr" (some "true" = some shortLines) = .ok sink ∧
        (sink.logAll calls).pending = [] ∧
        ∀ stamp, (sink.logAll calls).output stamp .stderr
            = "[NOTI] clatd.main: Starting clatd on wwan0...\n" ∧
          (sink.logAll calls).output stamp .stdout = "" := by
  intro calls
  have named : Level.ofName? "notice" = some .notice := rfl
  have named' : Target.ofName? "stderr" = some .stderr := rfl
  have notice : fill "Starting clatd on %s..." [.text "wwan0"]
      = .ok "Starting clatd on wwan0..." := by
    decide +kernel
  have filled : ∀ call ∈ calls, ∃ message, fill call.template call.arguments = .ok message := by
    intro call member
    rcases List.mem_pair.1 member with rfl | rfl
    · exact ⟨"100%", rfl⟩
    · exact ⟨_, notice⟩
  obtain ⟨sink, started, delivers⟩ := start_delivers named named' (some "true") filled
  obtain ⟨empty, -, written⟩ := delivers calls [] (List.append_nil calls).symm
  refine ⟨named, named', filled, sink, started, empty, fun stamp => ⟨?_, ?_⟩⟩
  · obtain ⟨lines, each, output⟩ := (written stamp).1
    have severe : (calls.filter fun call => Level.notice.severity ≤ call.method.level.severity)
        = [⟨.notice, "clatd.main", "Starting clatd on %s...", [.text "wwan0"]⟩] := rfl
    rw [severe, List.forall₂_cons_left_iff] at each
    obtain ⟨line, rest, ⟨message, made, rfl⟩, none, rfl⟩ := each
    rw [notice, Except.ok.injEq] at made
    rw [output, List.forall₂_nil_left_iff.1 none, ← made]
    rfl
  · exact (written stamp).2 .stdout (by decide)

end Clat.Log
