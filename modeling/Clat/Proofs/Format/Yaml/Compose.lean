import Clat.Format.Yaml.Compose
import Clat.Proofs.Format.Yaml.Scan

/-! Composing breaks nothing down: by itself it only refuses, so a fault in it is the fault that
stopped the scanner. -/
namespace Clat.Format.Yaml
namespace Compose

/-- Whether the only reason for a step to stop, apart from tokens running out, is that it
refuses. -/
def Refuses {α : Type} (step : Compose α) : Prop :=
  ∀ composer stop, step.run composer = .error (some stop) → stop = .refused

namespace Refuses

variable {α β : Type}

theorem pure (value : α) : Refuses (Pure.pure value : Compose α) := by
  intro composer stop error
  cases error

theorem get : Refuses (MonadState.get : Compose Composer) := by
  intro composer stop error
  cases error

theorem modify (change : Composer → Composer) : Refuses (modify change : Compose PUnit) := by
  intro composer stop error
  cases error

theorem bind {step : Compose α} {next : α → Compose β} (first : Refuses step)
    (rest : ∀ value, Refuses (next value)) : Refuses (step >>= next) := by
  intro composer stop error
  rw [StateT.run_bind] at error
  cases ran : step.run composer with
  | error stop' =>
    rw [ran] at error
    cases error
    exact first composer stop ran
  | ok result =>
    rw [ran] at error
    exact rest result.1 result.2 stop error

theorem ite {c : Prop} [Decidable c] {yes no : Compose α} (left : Refuses yes)
    (right : Refuses no) : Refuses (if c then yes else no) := by
  split_ifs
  · exact left
  · exact right

end Refuses

theorem refuse_refuses {α : Type} : Refuses (refuse : Compose α) := by
  intro composer stop error
  cases error
  rfl

theorem peek_refuses : Refuses peek := by
  refine Refuses.get.bind fun composer => ?_
  split
  · intro _ stop error
    cases error
  · exact .pure _

theorem take_refuses : Refuses take :=
  peek_refuses.bind fun token => (Refuses.modify _).bind fun _ => .pure token

theorem ahead_refuses (test : Token.Kind → Bool) : Refuses (ahead test) :=
  peek_refuses.bind fun _ => .pure _

theorem fullTag_refuses (handle : Option String) (suffix : String) :
    Refuses (fullTag handle suffix) := by
  unfold fullTag
  split
  · exact .pure _
  · refine Refuses.get.bind fun composer => ?_
    split
    · exact .pure _
    · exact refuse_refuses

theorem properties_refuses : Refuses properties := by
  refine peek_refuses.bind fun first => ?_
  split
  · refine take_refuses.bind fun _ => peek_refuses.bind fun second => ?_
    split
    · exact take_refuses.bind fun _ => (fullTag_refuses _ _).bind fun _ => .pure _
    · exact .pure _
  · refine take_refuses.bind fun _ => peek_refuses.bind fun second => ?_
    split
    · exact take_refuses.bind fun _ => (fullTag_refuses _ _).bind fun _ => .pure _
    · exact (fullTag_refuses _ _).bind fun _ => .pure _
  · exact .pure _

theorem checkAnchor_refuses (anchor : Option String) : Refuses (checkAnchor anchor) := by
  unfold checkAnchor
  split
  · exact .pure _
  · exact Refuses.get.bind fun _ => .ite refuse_refuses (.pure _)

theorem addNode_refuses (anchor : Option String) (node : Node) : Refuses (addNode anchor node) :=
  Refuses.get.bind fun _ => (Refuses.modify _).bind fun _ => .pure _

theorem fill_refuses (number : Nat) (content : Content) : Refuses (fill number content) :=
  .modify _

theorem addScalar_refuses (props : Properties) (start : Mark) (text : String) (plain : Bool) :
    Refuses (addScalar props start text plain) := addNode_refuses _ _

theorem addEmpty_refuses (place : Mark) : Refuses (addEmpty place) := addScalar_refuses _ _ _ _

theorem leftOut_refuses (props : Properties) (start : Mark) : Refuses (leftOut props start) := by
  unfold leftOut
  refine .ite refuse_refuses ?_
  exact (checkAnchor_refuses _).bind fun _ => addScalar_refuses _ _ _ _

theorem collection_refuses {α : Type} (anchor : Option String) (empty : Node)
    (content : α → Content) {inside : Compose α} (refuses : Refuses inside) :
    Refuses do
      let number ← addNode anchor empty
      fill number (content (← inside))
      return number := by
  refine (addNode_refuses _ _).bind fun number => refuses.bind fun value => ?_
  exact (fill_refuses _ _).bind fun _ => .pure _

/-- The steps with some fuel only refuse. -/
structure Refusing (fuel : Nat) : Prop where
  node : ∀ block indentless, Refuses (node block indentless fuel)
  dashes : ∀ indentless, Refuses (dashes indentless fuel)
  blockEntries : Refuses (blockEntries fuel)
  flowValue : ∀ closes, Refuses (flowValue closes fuel)
  flowPair : ∀ closes, Refuses (flowPair closes fuel)
  flowItems : ∀ first, Refuses (flowItems first fuel)
  flowEntries : ∀ first, Refuses (flowEntries first fuel)

namespace Refusing

variable {fuel : Nat} (inner : Refusing fuel)
include inner

theorem node_succ (block indentless : Bool) :
    Refuses (Compose.node block indentless (fuel + 1)) := by
  unfold Compose.node
  refine peek_refuses.bind fun first => ?_
  split
  · refine take_refuses.bind fun _ => Refuses.get.bind fun composer => ?_
    split
    · exact .pure _
    · exact refuse_refuses
  · refine properties_refuses.bind fun props => peek_refuses.bind fun token => ?_
    simp only
    split
    · refine (checkAnchor_refuses _).bind fun _ => ?_
      exact collection_refuses _ _ .sequence (inner.dashes _)
    · split
      · refine take_refuses.bind fun _ => (checkAnchor_refuses _).bind fun _ => ?_
        exact addScalar_refuses _ _ _ _
      · refine (checkAnchor_refuses _).bind fun _ => take_refuses.bind fun _ => ?_
        exact collection_refuses _ _ .sequence (inner.flowItems _)
      · refine (checkAnchor_refuses _).bind fun _ => take_refuses.bind fun _ => ?_
        exact collection_refuses _ _ .mapping (inner.flowEntries _)
      · refine .ite ?_ (leftOut_refuses _ _)
        refine (checkAnchor_refuses _).bind fun _ => take_refuses.bind fun _ => ?_
        exact collection_refuses _ _ .sequence (inner.dashes _)
      · refine .ite ?_ (leftOut_refuses _ _)
        refine (checkAnchor_refuses _).bind fun _ => take_refuses.bind fun _ => ?_
        exact collection_refuses _ _ .mapping inner.blockEntries
      · exact leftOut_refuses _ _

theorem dashes_succ (indentless : Bool) : Refuses (Compose.dashes indentless (fuel + 1)) := by
  unfold Compose.dashes
  refine peek_refuses.bind fun token => ?_
  split_ifs
  · refine take_refuses.bind fun _ => (ahead_refuses _).bind fun none => ?_
    split_ifs
    · refine (addEmpty_refuses _).bind fun item => ?_
      exact (inner.dashes _).bind fun rest => .pure _
    · refine (inner.node _ _).bind fun item => ?_
      exact (inner.dashes _).bind fun rest => .pure _
  · exact .pure _
  · exact take_refuses.bind fun _ => .pure _
  · exact refuse_refuses

theorem blockEntries_succ : Refuses (Compose.blockEntries (fuel + 1)) := by
  unfold Compose.blockEntries
  refine peek_refuses.bind fun token => ?_
  have close (key : Nat) {value : Compose Nat} (refuses : Refuses value) :
      Refuses do
        let value ← value
        return (key, value) :: (← Compose.blockEntries fuel) :=
    refuses.bind fun value => inner.blockEntries.bind fun rest => .pure _
  have goOn (key : Nat) : Refuses do
      let mark ← peek
      let value ←
        if mark.kind.isValue then do
          let _ ← take
          if ← ahead Token.Kind.leavesOutInBlock then addEmpty mark.stop
          else Compose.node true true fuel
        else addEmpty mark.start
      return (key, value) :: (← Compose.blockEntries fuel) := by
    refine peek_refuses.bind fun mark => ?_
    split_ifs
    · refine take_refuses.bind fun _ => (ahead_refuses _).bind fun none => ?_
      split_ifs
      · exact close key (addEmpty_refuses _)
      · exact close key (inner.node _ _)
    · exact close key (addEmpty_refuses _)
  split_ifs
  · refine take_refuses.bind fun _ => (ahead_refuses _).bind fun none => ?_
    split_ifs
    · exact (addEmpty_refuses _).bind goOn
    · exact (inner.node _ _).bind goOn
  · exact take_refuses.bind fun _ => .pure _
  · exact refuse_refuses

theorem flowValue_succ (closes : Token.Kind → Bool) :
    Refuses (Compose.flowValue closes (fuel + 1)) := by
  unfold Compose.flowValue
  refine peek_refuses.bind fun mark => ?_
  split_ifs
  · refine take_refuses.bind fun _ => (ahead_refuses _).bind fun none => ?_
    exact .ite (addEmpty_refuses _) (inner.node _ _)
  · exact addEmpty_refuses _

theorem flowPair_succ (closes : Token.Kind → Bool) :
    Refuses (Compose.flowPair closes (fuel + 1)) := by
  unfold Compose.flowPair
  refine take_refuses.bind fun mark => (ahead_refuses _).bind fun none => ?_
  have goOn (key : Nat) : Refuses do
      return (key, ← Compose.flowValue closes fuel) :=
    (inner.flowValue closes).bind fun value => .pure _
  split_ifs
  · exact (addEmpty_refuses _).bind goOn
  · exact (inner.node _ _).bind goOn

theorem flowItems_succ (first : Bool) : Refuses (Compose.flowItems first (fuel + 1)) := by
  unfold Compose.flowItems
  refine (ahead_refuses _).bind fun closed => ?_
  have goOn : Refuses do
      let token ← peek
      if token.kind.isKey then
        let item ← addNode none ⟨coreTag "map", token.start, .mapping []⟩
        let entry ← Compose.flowPair Token.Kind.isFlowSequenceEnd fuel
        fill item (.mapping [entry])
        return item :: (← Compose.flowItems false fuel)
      else if token.kind.isFlowSequenceEnd then
        let _ ← take
        return []
      else
        let item ← Compose.node false false fuel
        return item :: (← Compose.flowItems false fuel) := by
    refine peek_refuses.bind fun token => ?_
    split_ifs
    · refine (addNode_refuses _ _).bind fun item => (inner.flowPair _).bind fun entry => ?_
      refine (fill_refuses _ _).bind fun _ => ?_
      exact (inner.flowItems false).bind fun rest => .pure _
    · exact take_refuses.bind fun _ => .pure _
    · exact (inner.node _ _).bind fun item => (inner.flowItems false).bind fun rest => .pure _
  split_ifs
  · exact take_refuses.bind fun _ => .pure _
  · exact goOn
  · refine peek_refuses.bind fun comma => .ite ?_ ?_
    · exact take_refuses.bind fun _ => goOn
    · exact refuse_refuses.bind fun _ => goOn

theorem flowEntries_succ (first : Bool) : Refuses (Compose.flowEntries first (fuel + 1)) := by
  unfold Compose.flowEntries
  refine (ahead_refuses _).bind fun closed => ?_
  have goOn : Refuses do
      let token ← peek
      if token.kind.isKey then
        let entry ← Compose.flowPair Token.Kind.isFlowMappingEnd fuel
        return entry :: (← Compose.flowEntries false fuel)
      else if token.kind.isFlowMappingEnd then
        let _ ← take
        return []
      else
        let key ← Compose.node false false fuel
        let value ← addEmpty (← peek).start
        return (key, value) :: (← Compose.flowEntries false fuel) := by
    refine peek_refuses.bind fun token => ?_
    split_ifs
    · exact (inner.flowPair _).bind fun entry => (inner.flowEntries false).bind fun rest => .pure _
    · exact take_refuses.bind fun _ => .pure _
    · refine (inner.node _ _).bind fun key => peek_refuses.bind fun next => ?_
      refine (addEmpty_refuses _).bind fun value => ?_
      exact (inner.flowEntries false).bind fun rest => .pure _
  split_ifs
  · exact take_refuses.bind fun _ => .pure _
  · exact goOn
  · refine peek_refuses.bind fun comma => .ite ?_ ?_
    · exact take_refuses.bind fun _ => goOn
    · exact refuse_refuses.bind fun _ => goOn

end Refusing

theorem refusing (fuel : Nat) : Refusing fuel := by
  induction fuel with
  | zero =>
    constructor <;> intros <;> exact refuse_refuses
  | succ fuel inner =>
    exact {
      node := inner.node_succ
      dashes := inner.dashes_succ
      blockEntries := inner.blockEntries_succ
      flowValue := inner.flowValue_succ
      flowPair := inner.flowPair_succ
      flowItems := inner.flowItems_succ
      flowEntries := inner.flowEntries_succ }

theorem directives_refuses (version : Bool) (fuel : Nat) : Refuses (directives version fuel) := by
  induction fuel generalizing version with
  | zero => exact refuse_refuses
  | succ fuel ih =>
    unfold directives
    refine peek_refuses.bind fun token => ?_
    split
    · exact take_refuses.bind fun _ => .ite refuse_refuses (ih true)
    · refine take_refuses.bind fun _ => Refuses.get.bind fun composer => ?_
      exact .ite refuse_refuses ((Refuses.modify _).bind fun _ => ih version)
    · exact take_refuses.bind fun _ => ih version
    · exact .modify _

theorem skipDocumentEnds_refuses (fuel : Nat) : Refuses (skipDocumentEnds fuel) := by
  induction fuel with
  | zero => exact refuse_refuses
  | succ fuel ih =>
    unfold skipDocumentEnds
    exact (ahead_refuses _).bind fun _ => .ite (take_refuses.bind fun _ => ih) (.pure _)

theorem documentContent_refuses (fuel : Nat) : Refuses (documentContent fuel) :=
  peek_refuses.bind fun _ => .ite (addEmpty_refuses _) ((refusing fuel).node _ _)

theorem endOfStream_refuses (fuel : Nat) : Refuses (endOfStream fuel) := by
  refine (skipDocumentEnds_refuses fuel).bind fun _ => (ahead_refuses _).bind fun ended => ?_
  refine .ite (.pure _) ((Refuses.modify _).bind fun _ => ?_)
  exact (directives_refuses false fuel).bind fun _ => refuse_refuses

theorem document_refuses (fuel : Nat) : Refuses (document fuel) := by
  unfold document
  refine peek_refuses.bind fun token => ?_
  split_ifs
  · exact .pure _
  · refine (directives_refuses false fuel).bind fun _ => take_refuses.bind fun marker => ?_
    refine .ite ?_ refuse_refuses
    refine (documentContent_refuses fuel).bind fun root => ?_
    exact (endOfStream_refuses fuel).bind fun _ => .pure _
  · refine (Refuses.modify _).bind fun _ => ((refusing fuel).node _ _).bind fun root => ?_
    exact (endOfStream_refuses fuel).bind fun _ => .pure _

end Compose

end Clat.Format.Yaml
