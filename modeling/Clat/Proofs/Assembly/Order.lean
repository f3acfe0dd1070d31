import Clat.Proofs.Assembly.Invariant

/-! The order of stages. Steps follow each other strictly: the issue of an assembly is that of the
first step that has one when it is run alone, and no step after it does anything. Only a name of the
uplink without a UTF-8 form has no issue: it stops the run where it is checked. -/
namespace Clat.Assembly

open Clat.Discovery Clat.Text

/-- The steps of an assembly that may end in an issue. -/
inductive Step where
  | file
  | interface
  | mtu
  | ipv4Mtu
  | ipv4
  | plat
  | hostId
  | uplink
  deriving DecidableEq, Repr

namespace Step

/-- The steps in their order. -/
def order : List Step := [.file, .interface, .mtu, .ipv4Mtu, .ipv4, .plat, .hostId, .uplink]

/-- The steps before a step. -/
def before (step : Step) : List Step := order.takeWhile (· ≠ step)

end Step

section Trace

variable {issues : Step → Option Issue} {own : Step → List Event} {last : List Event}

/-- The events of steps that follow each other: those of each step up to the first one with an
issue, and if there is none, those that come last. -/
def trace (issues : Step → Option Issue) (own : Step → List Event) (last : List Event) :
    List Step → List Event
  | [] => last
  | step :: rest => own step ++ if issues step = none then trace issues own last rest else []

/-- Whether no step has an issue. -/
def passes (issues : Step → Option Issue) (steps : List Step) : Bool :=
  steps.all fun step => (issues step).isNone

theorem passes_append (issues : Step → Option Issue) (front rest : List Step) :
    passes issues (front ++ rest) = (passes issues front && passes issues rest) :=
  List.all_append

theorem trace_quiet {front : List Step} (quiet : ∀ step ∈ front, own step = [])
    (rest : List Step) :
    trace issues own last (front ++ rest) =
      if passes issues front then trace issues own last rest else [] := by
  induction front with
  | nil => rfl
  | cons step front ih =>
    have goOn := ih fun other member => quiet other (List.mem_cons_of_mem step member)
    rw [List.cons_append, trace, quiet step (by simp), goOn]
    cases found : issues step with
    | none => simp [passes, found]
    | some issue => simp [passes, found]

/-- A stage goes through steps in order: it ends in the issue of the first one that has one, and
its events are theirs. -/
def Orderly (issues : Step → Option Issue) (own : Step → List Event) (last : List Event)
    (steps : List Step) (stage : Stage Snapshot) (s : Session) : Prop :=
  ∃ outcome t, stage.ComesTo s outcome t ∧
    Stage.issueIn outcome = steps.findSome? issues ∧
    t.events = s.events ++ trace issues own last steps

/-- A step and what follows it are in order, if what follows is wherever the step has no issue. -/
theorem Orderly.step {α : Type} {stage : Stage α} {next : α → Stage Snapshot} {s t : Session}
    {outcome : Except Issue α} {step : Step} {rest : List Step}
    (comes : stage.ComesTo s outcome t) (issue : issues step = Stage.issueIn outcome)
    (events : t.events = s.events ++ own step)
    (goOn : ∀ value, outcome = .ok value → Orderly issues own last rest (next value) t) :
    Orderly issues own last (step :: rest) (stage >>= next) s := by
  cases outcome with
  | ok value =>
    obtain ⟨outcome, u, comes', issue', events'⟩ := goOn value rfl
    refine ⟨outcome, u, comes.bind comes', ?_, ?_⟩
    · rw [List.findSome?_cons, issue]
      exact issue'
    · rw [events', events, trace, issue]
      simp [Stage.issueIn]
  | error failed =>
    refine ⟨.error failed, t, comes.bind_issue, ?_, ?_⟩
    · rw [List.findSome?_cons, issue]
      rfl
    · rw [events, trace, issue]
      simp [Stage.issueIn]

end Trace

section Steps

variable (files : Files) (find : Finder) (request : Request) (s : Session)

/-- The items of the file; none, if it cannot be read. -/
def itemsOf : Items := (Load.items files request.file).toOption.getD {}

/-- The issue of a step that is run alone on a session. -/
def Step.issue? (step : Step) : Option Issue :=
  let items := itemsOf files request
  match step with
  | .file => (Load.configuration files request.file).issue? s
  | .interface => (checkInterface request.interface).issue? s
  | .mtu => (Reader.int16 items "mtu" (some Defaults.mtu)).issue? s
  | .ipv4Mtu => (Reader.int16 items "ipv4mtu" (some Defaults.mtu)).issue? s
  | .ipv4 => (Reader.ipv4 items "ipv4_local_subnet" (some Defaults.ipv4LocalSubnet)).issue? s
  | .plat => (Plat.resolve items request.plat request.network request.lookup).issue? s
  | .hostId => (Reader.ipv6 items "ipv6_host_id" (some Defaults.ipv6HostId)).issue? s
  | .uplink => (uplinkAddress find request.name).issue? s

/-- The identifier that is read by itself. -/
def hostId? : Option IPv6 :=
  (Reader.ipv6 (itemsOf files request) "ipv6_host_id" (some Defaults.ipv6HostId)).value? s

/-- Surroundings that raise nothing: the file can be parsed or is refused, no answer breaks a
discovery off and one has a network, the lookup of the uplink returns, and eight random octets
are at hand. -/
structure Steady : Prop where
  loads : ∀ fault, Load.items files request.file ≠ .error (.fault fault)
  answered : Answered s.answers
  finds : ∀ name : String, request.interface = name → ∃ found, (find name).result = .ok found
  entropy : ∃ random rest, s.entropy = random :: rest ∧ random.length = 8

variable {files find request s}

/-- The events of a step that is run: discovery asks and waits, and the uplink is looked up. -/
def Step.events (discovery : List Event) (interface : String) : Step → List Event
  | .plat => discovery
  | .uplink => [.lookup interface]
  | _ => []

/-- The events after all steps: random octets are drawn for the unspecified identifier. -/
def draws (hostId? : Option IPv6) : List Event :=
  if hostId?.any (·.isUnspecified) then [.draw 8] else []

theorem finish_comesTo {make : Run IPv6} {address : IPv6} {t : Session}
    (makes : (liftM make : Stage IPv6).ComesTo s (.ok address) t) (message : IPv6 → String)
    (snapshot : IPv6 → Snapshot) :
    Stage.ComesTo (do
      let ipv6 ← make
      (Session.record .info .assembler (message ipv6) : Run Unit)
      return snapshot ipv6) s (.ok (snapshot address)) t := by
  have logs : (liftM (Session.record .info .assembler (message address)) : Stage Unit).ComesTo t
      (.ok ()) t :=
    Stage.comesTo_run fun _ => ⟨_, rfl⟩
  exact makes.bind (logs.bind (Stage.comesTo_pure (snapshot address) t))

/-- What follows the steps ends in no issue. -/
theorem finish_orderly {issues : Step → Option Issue} {own : Step → List Event}
    {random : List UInt8} {rest : List (List UInt8)} (drawn : s.entropy = random :: rest)
    (size : random.length = 8) (uplink plat hostId : IPv6) (ipv4 : IPv4)
    (message : IPv6 → String) (snapshot : IPv6 → Snapshot) :
    Orderly issues own (draws (some hostId)) [] (do
      let ipv6 ← (Synthesis.localAddress uplink ipv4 plat hostId : Run IPv6)
      (Session.record .info .assembler (message ipv6) : Run Unit)
      return snapshot ipv6) s := by
  cases mode : hostId.isUnspecified with
  | true =>
    obtain ⟨address, -, makes⟩ :=
      Synthesis.localAddress_random mode uplink ipv4 plat drawn size
    refine ⟨.ok (snapshot address), _, finish_comesTo makes message snapshot, rfl, ?_⟩
    simp [trace, draws, mode, Session.did]
  | false =>
    obtain ⟨address, -, makes⟩ := Synthesis.localAddress_configured mode uplink ipv4 plat s
    refine ⟨.ok (snapshot address), s, finish_comesTo makes message snapshot, rfl, ?_⟩
    simp [trace, draws, mode]

theorem assembleWith_orderly (steady : Steady files find request s)
    (named : Step.issue? files find request s .file ≠ none ∨ request.interface.Whole) :
    ∃ discovery : List Event, (∀ event ∈ discovery, event.isDiscovery = true) ∧
      Orderly (Step.issue? files find request s) (Step.events discovery request.name)
        (draws (hostId? files request s)) Step.order (assembleWith files find request) s := by
  obtain ⟨loaded, loads, found⟩ := Load.configuration_comesTo steady.loads s
  obtain ⟨resolved, u, discovery, resolves, entropy, asks, discovers⟩ :=
    Plat.resolve_comesTo (itemsOf files request) request.plat request.network request.lookup
      steady.answered
  obtain ⟨random, rest, drawn, size⟩ := steady.entropy
  refine ⟨discovery, discovers, ?_⟩
  unfold assembleWith
  refine Orderly.step loads loads.issue?_eq (List.append_nil _).symm ?_
  rintro items rfl
  have whole : request.interface.Whole := named.resolve_left (not_not.2 loads.issue?_eq)
  obtain rfl : itemsOf files request = items := by
    rw [itemsOf, found items rfl]
    rfl
  -- Up to discovery every step leaves the session that the run starts with, apart from the log,
  -- so that what it comes to here is what it comes to alone.
  have quiet : s.events = s.events ++ [] := (List.append_nil _).symm
  have names := checkInterface_whole whole s
  refine Orderly.step names names.issue?_eq quiet fun name fits => ?_
  obtain ⟨rfl, -⟩ := nameOutcome_ok fits
  have readsMtu := Reader.int16_comesTo (itemsOf files request) "mtu" (some Defaults.mtu) s
  refine Orderly.step readsMtu readsMtu.issue?_eq quiet fun mtu _ => ?_
  have readsIpv4Mtu := Reader.int16_comesTo (itemsOf files request) "ipv4mtu" (some Defaults.mtu) s
  refine Orderly.step readsIpv4Mtu readsIpv4Mtu.issue?_eq quiet fun ipv4Mtu _ => ?_
  have readsIpv4 := Reader.ipv4_comesTo (itemsOf files request) "ipv4_local_subnet"
    (some Defaults.ipv4LocalSubnet) s
  refine Orderly.step readsIpv4 readsIpv4.issue?_eq quiet fun ipv4 _ => ?_
  refine Orderly.step resolves resolves.issue?_eq asks fun plat _ => ?_
  -- The last two steps come after discovery, and come to the same on its session.
  have readsHostId := Reader.ipv6_comesTo (itemsOf files request) "ipv6_host_id"
    (some Defaults.ipv6HostId)
  refine Orderly.step (readsHostId u) (readsHostId s).issue?_eq (List.append_nil _).symm
    fun hostId read => ?_
  have is : hostId? files request s = some hostId := by
    rw [hostId?, (readsHostId s).value?_eq, read]
    rfl
  rw [is]
  obtain ⟨name, given⟩ := LooseText.whole_iff.1 whole
  obtain ⟨address?, finds⟩ := steady.finds name given
  rw [← Request.name_eq given] at finds
  have looks := uplinkAddress_comesTo finds
  refine Orderly.step (looks u) (looks s).issue?_eq rfl fun uplink _ => ?_
  exact finish_orderly (s := u.did (.lookup request.name)) (entropy.trans drawn) size uplink
    plat.network hostId ipv4 _ _

/-- The events of all steps, by the steps that have to pass before them. -/
theorem trace_order (issues : Step → Option Issue) (discovery last : List Event)
    (interface : String) :
    trace issues (Step.events discovery interface) last Step.order =
      (if passes issues Step.plat.before then discovery else [])
        ++ (if passes issues Step.uplink.before then [.lookup interface] else [])
        ++ (if passes issues Step.order then last else []) := by
  have quiet : ∀ step ∈ Step.plat.before, Step.events discovery interface step = [] := by
    simp [Step.before, Step.order, Step.events]
  have before : passes issues Step.uplink.before =
      (passes issues Step.plat.before && passes issues [.plat, .hostId]) :=
    passes_append issues Step.plat.before [.plat, .hostId]
  have all : passes issues Step.order =
      (passes issues Step.uplink.before && passes issues [.uplink]) :=
    passes_append issues Step.uplink.before [.uplink]
  have front : trace issues (Step.events discovery interface) last Step.order =
      if passes issues Step.plat.before then
        trace issues (Step.events discovery interface) last [.plat, .hostId, .uplink]
      else [] :=
    trace_quiet quiet [.plat, .hostId, .uplink]
  rw [front, all, before]
  cases passes issues Step.plat.before with
  | false => simp
  | true =>
    by_cases plat : issues .plat = none
    · by_cases hostId : issues .hostId = none
      · by_cases uplink : issues .uplink = none
        · simp [trace, passes, Step.events, plat, hostId, uplink]
        · simp [trace, passes, Step.events, plat, hostId, uplink]
      · simp [trace, passes, Step.events, plat, hostId]
    · simp [trace, passes, Step.events, plat]

/-- A stage that goes through all steps in order has the issue of the first one with an issue, and
does what the steps before let it do. -/
theorem Orderly.of_order {issues : Step → Option Issue} {discovery : List Event}
    {interface : String} {hostId? : Option IPv6} {stage : Stage Snapshot}
    (discovers : ∀ event ∈ discovery, event.isDiscovery = true)
    (orderly : Orderly issues (Step.events discovery interface) (draws hostId?) Step.order stage
      s) :
    ∃ outcome t asked, stage.on s = (.ok outcome, t) ∧
      Stage.issueIn outcome = Step.order.findSome? issues ∧
      t.events = s.events ++ asked
        ++ (if passes issues Step.uplink.before then [.lookup interface] else [])
        ++ (if passes issues Step.order && hostId?.any (·.isUnspecified) then [.draw 8] else []) ∧
      (∀ event ∈ asked, event.isDiscovery = true) ∧
      (asked ≠ [] → passes issues Step.plat.before = true) := by
  obtain ⟨outcome, t, comes, issue, events⟩ := orderly
  obtain ⟨log, on⟩ := comes.on
  refine ⟨outcome, _, if passes issues Step.plat.before then discovery else [], on, issue,
    ?_, ?_, ?_⟩
  · have drawn : (if passes issues Step.order then draws hostId? else []) =
        if passes issues Step.order && hostId?.any (·.isUnspecified) then [.draw 8] else [] := by
      unfold draws
      cases passes issues Step.order with
      | false => rfl
      | true => rfl
    rw [← drawn, List.append_assoc, List.append_assoc, ← List.append_assoc _ _ (ite _ _ _),
      ← trace_order]
    exact events
  · intro event member
    split at member
    · exact discovers event member
    · cases member
  · intro some
    by_contra stopped
    exact some (if_neg stopped)

/-- Where the file is loaded, a name without a UTF-8 form stops the run. -/
theorem assembleWith_unencodable {error : EncodingError}
    (loads : ∀ fault, Load.items files request.file ≠ .error (.fault fault))
    (passes : Step.issue? files find request s .file = none)
    (stop : request.interface.text = .error error) :
    (assembleWith files find request).on s = (.error (.unencodable error), s) := by
  obtain ⟨loaded, comes, -⟩ := Load.configuration_comesTo loads s
  obtain ⟨log, on⟩ := comes.on
  have none : Stage.issueIn loaded = none := comes.issue?_eq.symm.trans passes
  cases loaded with
  | error issue => cases none
  | ok items =>
    obtain ⟨-, unchanged⟩ := Load.configuration_ok on
    rw [unchanged] at on
    rw [assembleWith, Stage.on_bind, on]
    simp only [Stage.on_bind, checkInterface_unencodable stop]

/-- Surroundings that raise nothing let an assembly come to an outcome, unless the file is loaded
and the name of the uplink has no UTF-8 form: then the run stops there, and nothing is done or
logged. The issue in the outcome is that of the first step that has one when it is run alone.
Queries and pauses come first and need the five steps before discovery to pass; one lookup of the
uplink comes after the seven steps before it pass, and one draw of eight octets after all pass, if
the identifier is unspecified. -/
theorem assembleWith_order (steady : Steady files find request s) :
    let issues := Step.issue? files find request s
    (issues .file ≠ none ∨ request.interface.Whole →
      ∃ outcome t asked, (assembleWith files find request).on s = (.ok outcome, t) ∧
        Stage.issueIn outcome = Step.order.findSome? issues ∧
        t.events = s.events ++ asked
          ++ (if passes issues Step.uplink.before then [.lookup request.name] else [])
          ++ (if passes issues Step.order && (hostId? files request s).any (·.isUnspecified)
              then [.draw 8] else []) ∧
        (∀ event ∈ asked, event.isDiscovery = true) ∧
        (asked ≠ [] → passes issues Step.plat.before = true)) ∧
    (issues .file = none → ¬ request.interface.Whole →
      ∃ error, request.interface.text = .error error ∧
        (assembleWith files find request).on s = (.error (.unencodable error), s)) := by
  refine ⟨fun named => ?_, fun loaded broken => ?_⟩
  · obtain ⟨discovery, discovers, orderly⟩ := assembleWith_orderly steady named
    exact orderly.of_order discovers
  · rcases request.interface.text_cases with ⟨name, -, given⟩ | ⟨error, stop, -⟩
    · exact absurd (LooseText.whole_iff.2 ⟨name, given⟩) broken
    · exact ⟨error, stop, assembleWith_unencodable steady.loads loaded stop⟩

end Steps

/-- A file with two items that cannot be read. -/
def twiceWrong : Files where
  working := { files := [(["clatd.conf"], "ipv6_host_id no\nmtu many\n".toUTF8.toList)] }

/-- The octet 0xff as a name: the half of a surrogate pair that stands for it. -/
def octetName : LooseText := ⟨[.half 0x4ff]⟩

theorem steady_twiceWrong (interface : LooseText) :
    Steady twiceWrong steadyFinder { file := "clatd.conf", interface } secondAnswer := by
  have loads : Load.items twiceWrong "clatd.conf" = .ok
      { entries := [("ipv6_host_id", "no"), ("mtu", "many")], file := "clatd.conf" } := by
    decide +kernel
  have network : ∃ network, (Answer.records ["64:ff9b::c000:aa"]).meaning = .ok (some network) := by
    refine ⟨⟨[0, 0x64, 0xff, 0x9b, 0, 0, 0, 0, 0, 0, 0, 0, 0, 0, 0, 0], none, rfl⟩, ?_⟩
    decide +kernel
  refine ⟨?_, ⟨?_, _, by simp [secondAnswer], network⟩, fun _ _ => ⟨_, rfl⟩, ⟨_, _, rfl, rfl⟩⟩
  · intro fault stopped
    rw [loads] at stopped
    cases stopped
  · obtain ⟨found, meant⟩ := network
    exact List.forall_mem_cons.2 ⟨⟨none, rfl⟩, List.forall_mem_singleton.2 ⟨some found, meant⟩⟩

theorem assembleWith_order_twiceWrong :
    let request : Request := { file := "clatd.conf", interface := "wwan0" }
    Steady twiceWrong steadyFinder request secondAnswer ∧ request.interface.Whole ∧
      ∃ outcome t,
        (assembleWith twiceWrong steadyFinder request).on secondAnswer = (.ok outcome, t) ∧
        Stage.issueIn outcome = some ⟨.notNumeric "many", "/mtu"⟩ ∧ t.events = [] ∧
        let broken : Request := { file := "clatd.conf", interface := octetName }
        Step.issue? twiceWrong steadyFinder broken secondAnswer .file = none ∧
          ¬ broken.interface.Whole ∧
          ∃ error, (assembleWith twiceWrong steadyFinder broken).on secondAnswer
            = (.error (.unencodable error), secondAnswer) := by
  intro request
  have steady := steady_twiceWrong "wwan0"
  have whole : request.interface.Whole := LooseText.whole_iff.2 ⟨"wwan0", rfl⟩
  have first : Step.order.findSome? (Step.issue? twiceWrong steadyFinder request secondAnswer)
      = some ⟨.notNumeric "many", "/mtu"⟩ := by
    decide +kernel
  have stopped : passes (Step.issue? twiceWrong steadyFinder request secondAnswer)
      Step.plat.before = false := by
    decide +kernel
  have later : passes (Step.issue? twiceWrong steadyFinder request secondAnswer)
      Step.uplink.before = false := by
    decide +kernel
  have all : passes (Step.issue? twiceWrong steadyFinder request secondAnswer)
      Step.order = false := by
    decide +kernel
  obtain ⟨outcome, t, asked, on, issue, events, -, discovers⟩ :=
    (assembleWith_order steady).1 (.inr whole)
  have silent : asked = [] := by
    by_contra some
    rw [discovers some] at stopped
    cases stopped
  have nothing : t.events = [] := by
    rw [events, silent, later, all]
    rfl
  refine ⟨steady, whole, outcome, t, on, issue.trans first, nothing, ?_⟩
  intro broken
  have loaded : Step.issue? twiceWrong steadyFinder broken secondAnswer .file = none := by
    decide +kernel
  have half : ¬ broken.interface.Whole := fun whole => whole 0x4ff List.mem_cons_self
  obtain ⟨error, -, stops⟩ :=
    (assembleWith_order (steady_twiceWrong octetName)).2 loaded half
  exact ⟨loaded, half, error, stops⟩

/-- A name without a UTF-8 form lets no issue come out: the first step that has one is a size, but
the run stops before it without an outcome, and nothing is reported. -/
theorem octetName_unanswered :
    let request : Request := { file := "clatd.conf", interface := octetName }
    Steady twiceWrong steadyFinder request secondAnswer ∧
      Step.order.findSome? (Step.issue? twiceWrong steadyFinder request secondAnswer)
        = some ⟨.notNumeric "many", "/mtu"⟩ ∧
      (assembleWith twiceWrong steadyFinder request).on secondAnswer
        = (.error (.unencodable ⟨0x4ff, 0, 1⟩), secondAnswer) ∧
      ¬ ∃ outcome t,
        (assembleWith twiceWrong steadyFinder request).on secondAnswer = (.ok outcome, t) := by
  intro request
  have steady := steady_twiceWrong octetName
  have loaded : Step.issue? twiceWrong steadyFinder request secondAnswer .file = none := by
    decide +kernel
  have half : request.interface.text = .error ⟨0x4ff, 0, 1⟩ := by decide
  have stops : (assembleWith twiceWrong steadyFinder request).on secondAnswer
      = (.error (.unencodable ⟨0x4ff, 0, 1⟩), secondAnswer) :=
    assembleWith_unencodable steady.loads loaded half
  refine ⟨steady, by decide +kernel, stops, ?_⟩
  rintro ⟨outcome, t, returned⟩
  rw [stops] at returned
  cases returned

end Clat.Assembly
