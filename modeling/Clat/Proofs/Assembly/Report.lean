import Clat.Proofs.Assembly.Order
import Clat.Proofs.Discovery.Records
import Clat.Proofs.Plat.Source

/-! The report of an assembly. An issue is logged once, as a fatal record that comes last; a
snapshot is told by the last record, and nothing before it is fatal. Only where the items turn
discovery off and name no network are there two fatal records, since the reader of the network
reports its own issue before the one that goes in its place. -/
namespace Clat

open Clat.Log

namespace Synthesis

theorem quiet_orStop {α : Type} (result : Except IPv6.ReplaceError α) : (orStop result).Quiet := by
  cases result with
  | ok value => exact Run.quiet_pure value
  | error error => exact Run.quiet_throw _

theorem quiet_localAddress (uplink : IPv6) (ipv4 : IPv4) (plat hostId : IPv6) :
    (localAddress uplink ipv4 plat hostId).Quiet := by
  unfold localAddress
  cases hostId.isUnspecified with
  | true =>
    refine (Run.quiet_record _ (by decide) (by decide)).bind fun _ => ?_
    exact (Run.quiet_draw identifierSize).bind fun random => quiet_orStop _
  | false => exact (Run.quiet_record _ (by decide) (by decide)).bind fun _ => quiet_orStop _

end Synthesis

namespace Uplink

theorem quiet_usable (name : String) (entries : List (Family × String)) :
    (usable name entries).Quiet := by
  induction entries with
  | nil => exact Run.quiet_pure []
  | cons entry rest ih =>
    obtain ⟨family, text⟩ := entry
    unfold usable
    by_cases usable : family = .ipv6
    · simp only [if_pos usable]
      cases IPv6.ofText? (dropZone text) with
      | some address => exact ih.bind fun _ => Run.quiet_pure _
      | none => exact (Run.quiet_record _ (by decide) (by decide)).bind fun _ => ih
    · simp only [if_neg usable]
      exact ih

/-- A lookup in a table of interfaces logs only quiet records. -/
theorem quiet_finder (table : Table) (name : String) : Log.Quiet (finder table name).log := by
  have finds : (address table name).Quiet :=
    (quiet_usable name (entries table name)).bind fun _ => Run.quiet_pure _
  obtain ⟨records, logged, quiet⟩ := finds {}
  have found : (finder table name).log = records := logged
  rw [found]
  exact quiet

end Uplink

section Stages

theorem Stage.reports_orRefuse {α : Type} (result : Except Refusal α) :
    (orRefuse result).Reports 1 := by
  cases result with
  | ok value => exact reports_pure 1 value
  | error refusal =>
    cases refusal with
    | issue issue => exact reports_fail issue
    | unwritable error => exact reports_stop 1 _
    | unencodable error => exact reports_stop 1 _
    | unspecified => exact reports_stop 1 _

theorem Reader.reports_ipv6 (items : Items) (key : String) (default : Option String) :
    (ipv6 items key default).Reports 1 := by
  rw [ipv6_eq]
  exact Stage.reports_orFail _

namespace Plat

/-- The items turn discovery off and name no network: there is no text of one, or it is none. -/
def Unnamed (items : Items) (override : Option String) : Prop :=
  override = none ∧ items.get? "plat_from_dns64" = some "no" ∧
    (items.get? "plat_subnet").bind IPv6.ofText? = none

instance (items : Items) (override : Option String) : Decidable (Unnamed items override) :=
  inferInstanceAs (Decidable (_ ∧ _ ∧ _))

/-- An issue that goes in the place of another is reported after it. -/
theorem reports_insteadOf {α : Type} {stage : Stage α} (reports : stage.Reports 1) (issue : Issue) :
    (insteadOf stage issue).Reports 2 := by
  intro s outcome t returned
  unfold insteadOf at returned
  change Run.on (ExceptT.run stage >>= _) s = _ at returned
  rw [Run.on_bind] at returned
  cases ran : Run.on (ExceptT.run stage) s with
  | mk result middle =>
    rw [ran] at returned
    cases result with
    | error fault => cases returned
    | ok first =>
      obtain ⟨records, logged, reported⟩ := reports s first middle ran
      cases first with
      | ok value =>
        cases returned
        exact ⟨records, logged, reported⟩
      | error former =>
        cases returned
        obtain ⟨last, count⟩ := reported
        refine ⟨records ++ [issue.record], ?_, ?_, ?_⟩
        · rw [← List.append_assoc, ← logged]
          rfl
        · rw [List.getLast?_append]
          rfl
        · rw [fatals_append, count]
          rfl

/-- Only a network that the items have to name is reported twice if it is not there. -/
theorem reports_resolve (items : Items) (override : Option String) (network : Int)
    (lookup : Lookup) :
    (resolve items override network lookup).Reports
      (if override = none ∧ items.get? "plat_from_dns64" = some "no" then 2 else 1) := by
  cases override with
  | some text =>
    rw [if_neg (by simp)]
    exact (Stage.reports_orFail _).bind fun found => Stage.reports_pure 1 _
  | none =>
    rw [resolve_none]
    by_cases no : items.get? "plat_from_dns64" = some "no"
    · rw [if_pos no, if_pos ⟨rfl, no⟩]
      exact (reports_insteadOf (Reader.reports_ipv6 items "plat_subnet" none) _).bind
        fun network => Stage.reports_pure 2 _
    · rw [if_neg no, if_neg fun turnedOff => no turnedOff.2]
      unfold fromDiscovery
      rw [Reader.string_eq]
      refine (Stage.reports_orFail _).bind fun hostname => ?_
      exact (Stage.reports_run 1 (Discovery.quiet_discover lookup ⟨hostname, network⟩)).bind
        fun found => Stage.reports_pure 1 _

/-- Where the items turn discovery off, the network has an issue just if they name none. -/
theorem unnamed_of_issue {items : Items} {override : Option String} {network : Int}
    {lookup : Lookup} {s t : Session} {issue : Issue}
    (failed : (resolve items override network lookup).on s = (.ok (.error issue), t)) :
    (override = none ∧ items.get? "plat_from_dns64" = some "no") ↔ Unnamed items override := by
  constructor
  · rintro ⟨rfl, no⟩
    refine ⟨rfl, no, ?_⟩
    obtain ⟨stopped, -⟩ := resolve_told_on (told?_of_no no) failed
    rw [named_eq] at stopped
    split at stopped
    · cases stopped
    · assumption
  · rintro ⟨given, no, -⟩
    exact ⟨given, no⟩

/-- Where there is a network, the items have not left it out. -/
theorem not_unnamed_of_ok {items : Items} {override : Option String} {network : Int}
    {lookup : Lookup} {s t : Session} {plat : Plat}
    (ok : (resolve items override network lookup).on s = (.ok (.ok plat), t)) :
    ¬ Unnamed items override := by
  rintro ⟨rfl, no, nameless⟩
  obtain ⟨given, -⟩ := resolve_told_on (told?_of_no no) ok
  rw [named_eq, nameless] at given
  cases given

end Plat

theorem Load.reports_configuration (files : Files) (file : String) :
    (configuration files file).Reports 1 := by
  -- The equation lemma of the definition is slow to make, so its body is put in by hand.
  delta configuration
  cases items files file with
  | error failure =>
    cases failure with
    | issue issue => exact Stage.reports_fail issue
    | fault fault => exact Stage.reports_stop 1 fault
  | ok found =>
    cases empty : found.isEmpty with
    | true =>
      simp only [empty]
      exact Stage.reports_fail _
    | false =>
      simp only [empty]
      exact Stage.reports_pure 1 found

end Stages

namespace Assembly

/-- The record that concludes an assembly: its issue, or the address that is used. -/
def conclusion : Except Issue Snapshot → Record
  | .error issue => issue.record
  | .ok snapshot =>
    ⟨.info, Part.assembler.channel, "Using " ++ snapshot.ipv6.text ++ " on " ++ snapshot.interface⟩

/-- What is logged up to an outcome, with the records of the lookup of the uplink in the middle.
The conclusion comes last. For a snapshot it comes once, and nothing that the assembly itself logs
is fatal; for an issue a number of records is. -/
structure Concluded (times : Nat) (outcome : Except Issue Snapshot)
    (before found after : List Record) : Prop where
  last : (before ++ found ++ after).getLast? = some (conclusion outcome)
  issue : ∀ issue, outcome = .error issue → fatals (before ++ after) = times
  snapshot : ∀ snapshot, outcome = .ok snapshot →
    fatals (before ++ after) = 0 ∧ (before ++ after).count (conclusion outcome) = 1

theorem Concluded.prepend {times : Nat} {outcome : Except Issue Snapshot}
    {front before found after : List Record} (quiet : Log.Quiet front)
    (concluded : Concluded times outcome before found after) :
    Concluded times outcome (front ++ before) found after := by
  refine ⟨?_, ?_, ?_⟩
  · rw [List.append_assoc front, List.append_assoc front, List.getLast?_append, concluded.last,
      Option.some_or]
  · intro issue failed
    rw [List.append_assoc, fatals_append, quiet.fatals_eq, Nat.zero_add]
    exact concluded.issue issue failed
  · rintro snapshot rfl
    obtain ⟨harmless, once⟩ := concluded.snapshot snapshot rfl
    refine ⟨?_, ?_⟩
    · rw [List.append_assoc, fatals_append, quiet.fatals_eq, harmless]
    · rw [List.append_assoc, List.count_append, quiet.count_eq rfl, once]

/-- Quiet records in the middle change no number. -/
theorem counts_of_quiet {outcome : Except Issue Snapshot} {before found after : List Record}
    (quiet : Log.Quiet found) :
    fatals (before ++ found ++ after) = fatals (before ++ after) ∧
      (before ++ found ++ after).count (conclusion outcome) =
        (before ++ after).count (conclusion outcome) := by
  have absent : found.count (conclusion outcome) = 0 := by
    refine List.count_eq_zero.2 fun member => ?_
    cases outcome with
    | ok snapshot => exact (quiet _ member).2 rfl
    | error issue => exact (quiet _ member).1 rfl
  constructor
  · simp only [fatals_append, quiet.fatals_eq, Nat.add_zero]
  · simp only [List.count_append, absent, Nat.add_zero]

/-- An issue that is reported before the lookup of the uplink concludes an assembly. -/
theorem concluded_of_reported {times : Nat} {issue : Issue} {records : List Record}
    (reported : Reported times (.error issue : Except Issue Snapshot) records) :
    Concluded times (.error issue) records [] [] := by
  obtain ⟨last, count⟩ := reported
  refine ⟨?_, ?_, nofun⟩
  · rw [List.append_nil, List.append_nil]
    exact last
  · rintro _ -
    rw [List.append_nil]
    exact count

/-- A stage logs what leads up to its outcome. -/
def Concludes (heard : List Record) (times : Nat) (stage : Stage Snapshot) (s : Session) : Prop :=
  ∀ outcome t, stage.on s = (.ok outcome, t) →
    ∃ before found after, t.log = s.log ++ (before ++ found ++ after) ∧
      (found = [] ∨ found = heard) ∧ Concluded times outcome before found after

section Concludes

variable {heard : List Record} {times : Nat} {s : Session}

/-- A stage in front that reports its issues, as many times as those of the whole are. -/
theorem Concludes.step {α : Type} {stage : Stage α} {next : α → Stage Snapshot} {own : Nat}
    (reports : stage.Reports own)
    (stops : ∀ issue t, stage.on s = (.ok (.error issue), t) → own = times)
    (goesOn : ∀ value t, stage.on s = (.ok (.ok value), t) →
      Concludes heard times (next value) t) :
    Concludes heard times (stage >>= next) s := by
  intro outcome t returned
  rw [Stage.on_bind] at returned
  split at returned
  · rename_i value middle given
    obtain ⟨records, logged, quiet⟩ := reports s _ middle given
    obtain ⟨before, found, after, logged', lookup, concluded⟩ :=
      goesOn value middle given outcome t returned
    refine ⟨records ++ before, found, after, ?_, lookup, concluded.prepend quiet⟩
    rw [logged', logged]
    simp only [List.append_assoc]
  · rename_i issue middle failed
    cases returned
    obtain ⟨records, logged, reported⟩ := reports s _ _ failed
    rw [stops issue _ failed] at reported
    refine ⟨records, [], [], ?_, .inl rfl, concluded_of_reported reported⟩
    rw [List.append_nil, List.append_nil]
    exact logged
  · cases returned

/-- A stage in front that is settled at once leaves the session as it is, or ends with its issue. -/
theorem Concludes.settle {α : Type} {stage : Stage α} {next : α → Stage Snapshot}
    {result : Except Issue α} (settled : stage = orFail result)
    (stops : ∀ issue, stage.issue? s = some issue → times = 1)
    (goesOn : ∀ value, stage.issue? s = none → Concludes heard times (next value) s) :
    Concludes heard times (stage >>= next) s := by
  subst settled
  refine Concludes.step (Stage.reports_orFail result) ?_ ?_
  · intro issue t failed
    exact (stops issue (Stage.issue?_of_on failed)).symm
  · intro value t given
    obtain ⟨-, rfl⟩ := Stage.orFail_ok given
    exact goesOn value (Stage.issue?_of_on given)

/-- A snapshot is made and told in the last record. -/
theorem finish_concludes {make : Run IPv6} (quiet : make.Quiet) (interface : String)
    (snapshot : IPv6 → Snapshot) (named : ∀ ipv6, (snapshot ipv6).interface = interface)
    (told : ∀ ipv6, (snapshot ipv6).ipv6 = ipv6) :
    Concludes heard times (do
      let ipv6 ← make
      (Session.record .info .assembler ("Using " ++ ipv6.text ++ " on " ++ interface) : Run Unit)
      return snapshot ipv6) s := by
  refine Concludes.step (Stage.reports_run times quiet) ?_ ?_
  · intro issue t failed
    rfl
  · rintro ipv6 t -
    rintro outcome u ⟨⟩
    have tells : conclusion (.ok (snapshot ipv6)) = ⟨.info, Part.assembler.channel,
        "Using " ++ ipv6.text ++ " on " ++ interface⟩ := by
      rw [conclusion, named, told]
    refine ⟨[conclusion (.ok (snapshot ipv6))], [], [], ?_, .inl rfl, rfl, nofun, ?_⟩
    · rw [tells]
      rfl
    · rintro _ -
      exact ⟨rfl, List.count_singleton_self⟩

/-- The lookup of the uplink logs what it does, and what follows it comes after. -/
theorem Concludes.lookUp {find : Finder} {name : String} {next : Option IPv6 → Stage Snapshot}
    (goesOn : ∀ address? t, Concludes [] times (next address?) t) :
    Concludes (find name).log times
      ((liftM (Session.lookUp find name) : Stage (Option IPv6)) >>= next) s := by
  intro outcome t returned
  rw [Stage.on_bind, Stage.on_run, Session.lookUp_on] at returned
  cases result : (find name).result with
  | error fault =>
    rw [result] at returned
    cases returned
  | ok address? =>
    rw [result] at returned
    obtain ⟨before, found, after, logged, none, last, issue, snapshot⟩ :=
      goesOn address? _ outcome t returned
    obtain rfl : found = [] := none.elim id id
    rw [List.append_nil] at logged last
    refine ⟨[], (find name).log, before ++ after, ?_, .inr rfl, ?_, issue, snapshot⟩
    · rw [logged, List.nil_append, List.append_assoc]
    · rw [List.getLast?_append, last, Option.some_or]

theorem uplinkAddress_eq (find : Finder) (name : String) :
    uplinkAddress find name =
      (liftM (Session.lookUp find name) : Stage (Option IPv6)) >>= fun address? =>
        orFail (addressOutcome name address?) := by
  unfold uplinkAddress
  congr 1
  funext address?
  cases address? with
  | some address => rfl
  | none => rfl

/-- A last stage with an uplink that has to have an address. -/
theorem uplink_concludes {find : Finder} {name : String} {next : IPv6 → Stage Snapshot}
    (goesOn : ∀ uplink t, Concludes [] 1 (next uplink) t) :
    Concludes (find name).log 1 (uplinkAddress find name >>= next) s := by
  rw [uplinkAddress_eq, bind_assoc]
  refine Concludes.lookUp fun address? t => ?_
  exact Concludes.step (Stage.reports_orFail _) (fun _ _ _ => rfl) fun uplink u _ => goesOn uplink u

end Concludes

section Steps

variable {files : Files} {find : Finder} {request : Request} {s t : Session}

/-- Whether the provider's network is the first thing wrong and the items should have named it. -/
def NoNetwork (files : Files) (find : Finder) (request : Request) (s : Session) : Prop :=
  passes (Step.issue? files find request s) Step.plat.before = true ∧
    Plat.Unnamed (itemsOf files request) request.plat

instance : Decidable (NoNetwork files find request s) := inferInstanceAs (Decidable (_ ∧ _))

variable (files find request s)

/-- An issue is told by the last record, and so is a snapshot. -/
theorem assembleWith_concludes :
    Concludes (find request.name).log (if NoNetwork files find request s then 2 else 1)
      (assembleWith files find request) s := by
  let issues := Step.issue? files find request s
  have early (step : Step) (first : step ∈ Step.plat.before) (issue : Issue)
      (stopped : issues step = some issue) :
      (if NoNetwork files find request s then 2 else 1) = 1 := by
    refine if_neg fun unnamed => ?_
    have passed := List.all_eq_true.1 unnamed.1 step first
    change (issues step).isNone = true at passed
    rw [stopped] at passed
    cases passed
  unfold assembleWith
  refine Concludes.step (Load.reports_configuration files request.file) ?_ ?_
  · intro issue t failed
    exact (early .file (by decide) issue (Stage.issue?_of_on failed)).symm
  intro items t loaded
  have file : issues .file = none := Stage.issue?_of_on loaded
  obtain ⟨found, rfl⟩ := Load.configuration_ok loaded
  obtain rfl : itemsOf files request = items := by
    rw [itemsOf, found]
    rfl
  refine Concludes.step (Stage.reports_orRefuse _) ?_ ?_
  · intro issue u failed
    exact (early .interface (by decide) issue (Stage.issue?_of_on failed)).symm
  intro name middle checked
  have interface : issues .interface = none := Stage.issue?_of_on checked
  obtain ⟨⟨given, -⟩, rfl⟩ := checkInterface_ok checked
  obtain rfl := Request.name_eq given
  refine Concludes.settle (Reader.int16_eq _ _ _) (early .mtu (by decide)) fun mtu mtuPasses => ?_
  refine Concludes.settle (Reader.int16_eq _ _ _) (early .ipv4Mtu (by decide))
    fun ipv4Mtu ipv4MtuPasses => ?_
  refine Concludes.settle (Reader.ipv4_eq _ _ _) (early .ipv4 (by decide))
    fun ipv4 ipv4Passes => ?_
  have passed : passes issues Step.plat.before = true := by
    have before : Step.plat.before = [.file, .interface, .mtu, .ipv4Mtu, .ipv4] := rfl
    simp only [passes, before, List.all_cons, List.all_nil, Bool.and_true, Bool.and_eq_true,
      Option.isNone_iff_eq_none]
    exact ⟨file, interface, mtuPasses, ipv4MtuPasses, ipv4Passes⟩
  refine Concludes.step (Plat.reports_resolve _ _ _ _) ?_ ?_
  · intro issue u failed
    refine if_congr ?_ rfl rfl
    rw [Plat.unnamed_of_issue failed]
    exact ⟨fun unnamed => ⟨passed, unnamed⟩, And.right⟩
  intro plat u resolved
  -- From here on the network is there, so that an issue is reported once.
  have once : (if NoNetwork files find request middle then 2 else 1) = 1 :=
    if_neg fun unnamed => Plat.not_unnamed_of_ok resolved unnamed.2
  rw [once]
  refine Concludes.settle (Reader.ipv6_eq _ _ _) (fun _ _ => rfl) fun hostId _ => ?_
  refine uplink_concludes fun uplink v => ?_
  exact finish_concludes (Synthesis.quiet_localAddress _ _ _ _) request.name _ (fun _ => rfl)
    fun _ => rfl

variable {files find request s}

/-- The report of an assembly that returns, whatever the lookup of the uplink logs in between. The
last record tells the outcome. The assembly itself logs fatal records just where it ends in an
issue: one, or two if the first thing wrong is that the items turn discovery off and name no
network. The record that tells a snapshot is logged once. A lookup that logs only quiet records,
such as one in a table of interfaces, does not change any of these numbers. -/
theorem assembleWith_report {outcome : Except Issue Snapshot}
    (returned : (assembleWith files find request).on s = (.ok outcome, t)) :
    ∃ before found after, t.log = s.log ++ (before ++ found ++ after) ∧
      (found = [] ∨ found = (find request.name).log) ∧
      (before ++ found ++ after).getLast? = some (conclusion outcome) ∧
      ((∃ issue, outcome = .error issue) ↔ 1 ≤ fatals (before ++ after)) ∧
      ((∃ snapshot, outcome = .ok snapshot) ↔ fatals (before ++ after) = 0) ∧
      (∀ issue, outcome = .error issue →
        fatals (before ++ after) = if NoNetwork files find request s then 2 else 1) ∧
      (∀ snapshot, outcome = .ok snapshot → (before ++ after).count (conclusion outcome) = 1) ∧
      (Log.Quiet (find request.name).log →
        fatals (before ++ found ++ after) = fatals (before ++ after) ∧
        (before ++ found ++ after).count (conclusion outcome)
          = (before ++ after).count (conclusion outcome)) := by
  obtain ⟨before, found, after, logged, lookup, last, issues, snapshots⟩ :=
    assembleWith_concludes files find request s outcome t returned
  have many : 1 ≤ if NoNetwork files find request s then 2 else 1 := by
    split <;> decide
  refine ⟨before, found, after, logged, lookup, last, ?_, ?_, issues,
    fun snapshot ok => (snapshots snapshot ok).2, ?_⟩
  · cases outcome with
    | ok snapshot =>
      obtain ⟨harmless, -⟩ := snapshots snapshot rfl
      simp [harmless]
    | error issue =>
      rw [issues issue rfl]
      exact ⟨fun _ => many, fun _ => ⟨issue, rfl⟩⟩
  · cases outcome with
    | ok snapshot => exact ⟨fun _ => (snapshots snapshot rfl).1, fun _ => ⟨snapshot, rfl⟩⟩
    | error issue =>
      rw [issues issue rfl]
      refine ⟨nofun, fun zero => absurd many ?_⟩
      rw [zero]
      decide
  · intro silent
    rcases lookup with rfl | rfl
    · exact counts_of_quiet quiet_nil
    · exact counts_of_quiet silent

/-- With the program's own lookup of addresses, all records that are logged count. -/
theorem assemble_concludes {table : Uplink.Table} {outcome : Except Issue Snapshot}
    (returned : (assemble files table request).on s = (.ok outcome, t)) :
    ∃ records, t.log = s.log ++ records ∧ records.getLast? = some (conclusion outcome) ∧
      (∀ issue, outcome = .error issue →
        fatals records = if NoNetwork files (Uplink.finder table) request s then 2 else 1) ∧
      ∀ snapshot, outcome = .ok snapshot →
        fatals records = 0 ∧ records.count (conclusion outcome) = 1 := by
  obtain ⟨before, found, after, logged, lookup, last, issues, snapshots⟩ :=
    assembleWith_concludes files (Uplink.finder table) request s outcome t returned
  have quiet : Log.Quiet found := by
    rcases lookup with rfl | rfl
    · exact quiet_nil
    · exact Uplink.quiet_finder table request.name
  obtain ⟨fatal, count⟩ := @counts_of_quiet outcome before found after quiet
  refine ⟨before ++ found ++ after, logged, last, ?_, ?_⟩
  · intro issue failed
    rw [fatal]
    exact issues issue failed
  · intro snapshot made
    rw [fatal, count]
    exact snapshots snapshot made

end Steps

/-- A file that turns discovery off and names no network, but something else in its place. -/
def undiscovered : Files where
  working := { files := [(["clatd.conf"], "plat_from_dns64 no\nplat_subnet none\n".toUTF8.toList)] }

theorem assembleWith_report_undiscovered :
    let request : Request := { file := "clatd.conf", interface := "wwan0" }
    let issue : Issue := ⟨.noPlat, "/plat_subnet"⟩
    NoNetwork undiscovered steadyFinder request {} ∧
      ∃ t, (assembleWith undiscovered steadyFinder request).on {} = (.ok (.error issue), t) ∧
        t.log.getLast? = some issue.record ∧ fatals t.log = 2 := by
  intro request issue
  have nameless : NoNetwork undiscovered steadyFinder request {} := by
    decide +kernel
  have given : ((assembleWith undiscovered steadyFinder request).on {}).1 = .ok (.error issue) := by
    decide +kernel
  have returned : (assembleWith undiscovered steadyFinder request).on {}
      = (.ok (.error issue), ((assembleWith undiscovered steadyFinder request).on {}).2) := by
    rw [← given]
  obtain ⟨before, found, after, logged, -, last, -, -, times, -, silent⟩ :=
    assembleWith_report returned
  refine ⟨nameless, _, returned, ?_, ?_⟩
  · rw [logged]
    exact last
  · obtain ⟨fatal, -⟩ := silent quiet_nil
    rw [logged, List.nil_append, fatal, times issue rfl, if_pos nameless]

end Assembly

end Clat
