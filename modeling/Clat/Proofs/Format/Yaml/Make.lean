import Clat.Proofs.Format.Yaml.Compose
import Clat.Proofs.Format.Yaml.Scalar
import Mathlib.Data.List.Forall2

/-! Making values breaks down only at a scalar whose text does not fit its tag. -/
namespace Clat.Format.Yaml

variable {nodes : Array Node}

/-- What a node means by itself: the kind of collection that its tag asks for, or the scalar that
its text is under its tag. -/
def Means (nodes : Array Node) (number : Nat) (value : Value) : Prop :=
  ∃ node, nodes[number]? = some node ∧
    match collectionOf? node.tag with
    | some (kind, _) => value = .collection kind
    | none => makeScalar nodes node = .ok (some value)

/-- A node means one value. -/
theorem Means.unique {number : Nat} {value other : Value} (means : Means nodes number value)
    (means' : Means nodes number other) : value = other := by
  obtain ⟨node, found, made⟩ := means
  obtain ⟨node', found', made'⟩ := means'
  obtain rfl : node = node' := Option.some.inj (found.symm.trans found')
  split at made
  · rw [made]
    split at made' <;> simp_all
  · split at made' <;> simp_all

/-- A workshop over some nodes, with what they mean as the values made. -/
structure Sound (nodes : Array Node) (workshop : Workshop) : Prop where
  kept : workshop.nodes = nodes
  meant : ∀ entry ∈ workshop.values, Means nodes entry.1 entry.2

theorem sound_fresh (nodes : Array Node) : Sound nodes { nodes := nodes } where
  kept := rfl
  meant := by simp

namespace Make

/-- What making values over some nodes comes to: it keeps the workshop sound and gives something
good, and if it breaks down, it does so with a fault that is allowed. -/
def Comes {α : Type} (nodes : Array Node) (allowed : ScalarFault → Prop) (good : α → Prop) :
    Except Stop (α × Workshop) → Prop
  | .ok (value, workshop) => good value ∧ Sound nodes workshop
  | .error (.fault fault) => allowed fault
  | .error _ => True

/-- A step of making values that comes to something good. -/
def Makes {α : Type} (nodes : Array Node) (allowed : ScalarFault → Prop) (good : α → Prop)
    (step : Make α) : Prop :=
  ∀ workshop, Sound nodes workshop → Comes nodes allowed good (step.run workshop)

/-- Nothing is asked of a value. -/
abbrev anything {α : Type} : α → Prop := fun _ => True

/-- The fault of a node that does not fit its tag. -/
def Unfit (nodes : Array Node) (fault : ScalarFault) : Prop :=
  ∃ node ∈ nodes, Misfit nodes node fault

namespace Makes

variable {α β : Type} {allowed : ScalarFault → Prop} {good : α → Prop} {good' : β → Prop}

theorem pure {value : α} (kind : good value) : Makes nodes allowed good (Pure.pure value) := by
  intro workshop sound
  exact ⟨kind, sound⟩

theorem get : Makes nodes allowed (Sound nodes) MonadState.get := by
  intro workshop sound
  exact ⟨sound, sound⟩

theorem modify {change : Workshop → Workshop}
    (keeps : ∀ w, Sound nodes w → Sound nodes (change w)) :
    Makes nodes allowed anything (modify change : Make PUnit) := by
  intro workshop sound
  exact ⟨trivial, keeps workshop sound⟩

theorem fail (good : α → Prop) {context : Option (String × Mark)} {problem : String} {place : Mark} :
    Makes nodes allowed good (Make.fail context problem place) := by
  intro workshop sound
  trivial

theorem bind {step : Make α} {next : α → Make β} (first : Makes nodes allowed good step)
    (rest : ∀ value, good value → Makes nodes allowed good' (next value)) :
    Makes nodes allowed good' (step >>= next) := by
  intro workshop sound
  have comes := first workshop sound
  rw [StateT.run_bind]
  match step.run workshop, comes with
  | .ok (value, workshop'), ⟨kind, sound'⟩ => exact rest value kind workshop' sound'
  | .error (.fault _), unfit => exact unfit
  | .error .refused, _ => trivial
  | .error (.trouble _), _ => trivial
  | .error (.repeatedKey _), _ => trivial

theorem mono {good' : α → Prop} {step : Make α} (makes : Makes nodes allowed good step)
    (weaker : ∀ value, good value → good' value) : Makes nodes allowed good' step := by
  intro workshop sound
  have comes := makes workshop sound
  match step.run workshop, comes with
  | .ok (value, workshop'), ⟨kind, sound'⟩ => exact ⟨weaker value kind, sound'⟩
  | .error (.fault _), unfit => exact unfit
  | .error .refused, _ => trivial
  | .error (.trouble _), _ => trivial
  | .error (.repeatedKey _), _ => trivial

end Makes

section Steps

variable {allowed : ScalarFault → Prop}

theorem node_makes (number : Nat) :
    Makes nodes allowed (fun node => nodes[number]? = some node) (node number) := by
  refine Makes.get.bind fun workshop sound => ?_
  rw [sound.kept]
  split
  · rename_i node found
    exact .pure found
  · intro _ _
    trivial

/-- What a scalar node means is made of it, unless it does not fit its tag. -/
theorem makeScalar_makes {node : Node} (each : ∀ fault,
    makeScalar nodes node = .error (.fault fault) → allowed fault) :
    Makes nodes allowed (fun made => makeScalar nodes node = .ok made)
      (liftM (makeScalar nodes node) : Make (Option Value)) := by
  intro workshop sound
  cases made : makeScalar nodes node with
  | ok value => exact ⟨rfl, sound⟩
  | error stop =>
    cases stop with
    | fault fault => exact each fault made
    | refused | trouble | repeatedKey => trivial

theorem sound_made {number : Nat} {value : Value} (means : Means nodes number value)
    (filling : List (Nat × Filling)) (workshop : Workshop) (sound : Sound nodes workshop) :
    Sound nodes { workshop with
      values := (number, value) :: workshop.values
      waiting := workshop.waiting ++ filling } where
  kept := sound.kept
  meant := List.forall_mem_cons.2 ⟨means, sound.meant⟩

/-- The value of a node is what it means, unless the node does not fit its tag. -/
theorem value_makes_of (number : Nat) (each : ∀ node fault, nodes[number]? = some node →
    collectionOf? node.tag = none → makeScalar nodes node = .error (.fault fault) → allowed fault) :
    Makes nodes allowed (Means nodes number) (value number) := by
  unfold value
  refine Makes.get.bind fun workshop sound => ?_
  split
  · rename_i known found
    obtain ⟨front, back, split, -⟩ := List.lookup_eq_some_iff.1 found
    have member : (number, known) ∈ workshop.values := by
      rw [split]
      simp
    exact .pure (sound.meant _ member)
  · refine (node_makes number).bind fun node there => ?_
    have keep (made : Value) (filling : List (Nat × Filling)) (means : Means nodes number made) :
        Makes nodes allowed (Means nodes number) (do
          modify fun w => { w with
            values := (number, made) :: w.values
            waiting := w.waiting ++ filling }
          return made) :=
      (Makes.modify (sound_made means filling)).bind fun _ _ => .pure means
    simp only
    split
    · rename_i kind filling asked
      exact keep _ _ ⟨node, there, by rw [asked]⟩
    · rename_i scalar
      refine Makes.get.bind fun workshop' sound' => ?_
      rw [sound'.kept]
      refine (makeScalar_makes fun fault => each node fault there scalar).bind fun made is => ?_
      split
      · exact keep _ _ ⟨node, there, by rw [scalar]; exact is⟩
      · exact (Makes.fail (fun _ => False)).bind fun _ impossible => impossible.elim

theorem value_makes (number : Nat) :
    Makes nodes (Unfit nodes) (Means nodes number) (value number) :=
  value_makes_of number fun node _ there _ stop =>
    ⟨node, Array.mem_of_getElem? there, makeScalar_fault stop⟩

/-- Where a node means something, making its value does not break down. -/
theorem value_makes_of_means {number : Nat} {known : Value} (means : Means nodes number known) :
    Makes nodes allowed (Means nodes number) (value number) := by
  obtain ⟨node, there, made⟩ := means
  refine value_makes_of number fun other fault there' scalar stop => ?_
  obtain rfl : node = other := Option.some.inj (there.symm.trans there')
  rw [scalar] at made
  simp only [made] at stop
  cases stop

theorem values_makes (numbers : List Nat) :
    Makes nodes (Unfit nodes) anything (values numbers) := by
  induction numbers with
  | nil => exact .pure trivial
  | cons number rest ih => exact (value_makes number).bind fun _ _ => ih

/-- A key that passes is no collection. -/
theorem checkKey_makes (start place : Mark) (value : Value) :
    Makes nodes allowed (fun _ => ∀ kind, value ≠ .collection kind)
      (checkKey start place value) := by
  unfold checkKey
  split
  · exact .fail _
  · rename_i scalar
    exact .pure scalar

/-- Entries with what the nodes of their keys and values mean. -/
abbrev Made (nodes : Array Node) : List (Nat × Nat) → List (Value × Value) → Prop :=
  List.Forall₂ fun pair entry => Means nodes pair.1 entry.1 ∧ Means nodes pair.2 entry.2

/-- Keys that are scalars and none the same as another, nor as one seen before. -/
structure Apart (seen : List Value) (made : List (Value × Value)) : Prop where
  scalar : ∀ entry ∈ made, ∀ kind, entry.1 ≠ .collection kind
  fresh : ∀ entry ∈ made, ∀ other ∈ seen, other.same entry.1 = false
  apart : made.Pairwise fun entry later => entry.1.same later.1 = false

theorem Apart.cons {seen : List Value} {key item : Value} {made : List (Value × Value)}
    (others : Apart (key :: seen) made) (scalar : ∀ kind, key ≠ .collection kind)
    (fresh : ∀ other ∈ seen, other.same key = false) : Apart seen ((key, item) :: made) where
  scalar := List.forall_mem_cons.2 ⟨scalar, others.scalar⟩
  fresh := List.forall_mem_cons.2 ⟨fresh, fun entry member other old =>
    others.fresh entry member other (List.mem_cons_of_mem key old)⟩
  apart := List.pairwise_cons.2 ⟨fun entry member =>
    others.fresh entry member key List.mem_cons_self, others.apart⟩

theorem entries_makes (start : Mark) (seen : List (Nat × Value)) (pairs : List (Nat × Nat))
    (each : ∀ pair ∈ pairs, Makes nodes allowed (Means nodes pair.1) (value pair.1) ∧
      Makes nodes allowed (Means nodes pair.2) (value pair.2)) :
    Makes nodes allowed (fun made => Made nodes pairs made ∧ Apart (seen.map Prod.snd) made)
      (entries start seen pairs) := by
  induction pairs generalizing seen with
  | nil => exact .pure ⟨.nil, by simp, by simp, .nil⟩
  | cons pair rest ih =>
    obtain ⟨⟨makesKey, makesItem⟩, others⟩ := List.forall_mem_cons.1 each
    unfold entries
    refine (node_makes _).bind fun node _ => makesKey.bind fun key meansKey => ?_
    refine (checkKey_makes _ _ key).bind fun _ scalar => ?_
    split
    · intro _ _
      trivial
    · rename_i fresh
      refine makesItem.bind fun item meansItem => (ih _ others).bind fun made good => .pure ?_
      refine ⟨.cons ⟨meansKey, meansItem⟩ good.1, good.2.cons scalar fun other old => ?_⟩
      obtain ⟨entry, member, rfl⟩ := List.mem_map.1 old
      simp only [List.any_eq_true, not_exists, not_and, Bool.or_eq_true, not_or] at fresh
      simpa using (fresh entry member).2

theorem singles_makes (doing : String) (start : Mark) (numbers : List Nat) :
    Makes nodes (Unfit nodes) anything (singles doing start numbers) := by
  induction numbers with
  | nil => exact .pure trivial
  | cons number rest ih =>
    unfold singles
    refine (node_makes number).bind fun item _ => ?_
    split
    · exact (values_makes _).bind fun _ _ => ih
    · exact .fail _
    · exact .fail _

theorem fillSingles_makes (doing : String) (node : Node) :
    Makes nodes (Unfit nodes) anything (fillSingles doing node) := by
  unfold fillSingles
  split
  · exact singles_makes _ _ _
  · exact .fail _

/-- The entries of a mapping are what its pairs mean, and their keys are apart. -/
def Filled (nodes : Array Node) (number : Nat) (made : List (Value × Value)) : Prop :=
  ∃ node pairs, nodes[number]? = some node ∧ node.content = .mapping pairs ∧
    Made nodes pairs made ∧ Apart [] made

theorem fill_mapping {number : Nat} (each : ∀ node pairs, nodes[number]? = some node →
      node.content = .mapping pairs → ∀ pair ∈ pairs,
        Makes nodes allowed (Means nodes pair.1) (value pair.1) ∧
        Makes nodes allowed (Means nodes pair.2) (value pair.2)) :
    Makes nodes allowed (Filled nodes number) (fill number .mapping) := by
  refine (node_makes number).bind fun node there => ?_
  cases content : node.content with
  | mapping pairs =>
    exact (entries_makes _ [] pairs (each node pairs there content)).mono fun made good =>
      ⟨node, pairs, there, content, good⟩
  | scalar text => exact .fail _
  | sequence items => exact .fail _

theorem fill_makes (number : Nat) (filling : Filling) :
    Makes nodes (Unfit nodes) (fun made => filling = .mapping → Filled nodes number made)
      (fill number filling) := by
  cases filling with
  | mapping =>
    exact (fill_mapping fun _ _ _ _ pair _ => ⟨value_makes pair.1, value_makes pair.2⟩).mono
      fun _ filled _ => filled
  | sequence =>
    refine (node_makes number).bind fun node _ => ?_
    cases node.content with
    | sequence items => exact (values_makes _).bind fun _ _ => .pure nofun
    | scalar text => exact .fail _
    | mapping pairs => exact .fail _
  | orderedMap =>
    exact (node_makes number).bind fun node _ =>
      (fillSingles_makes _ _).bind fun _ _ => .pure nofun
  | pairs =>
    exact (node_makes number).bind fun node _ =>
      (fillSingles_makes _ _).bind fun _ _ => .pure nofun

theorem fillWaiting_makes (fuel : Nat) :
    Makes nodes (Unfit nodes) anything (fillWaiting fuel) := by
  induction fuel with
  | zero => exact .pure trivial
  | succ fuel ih =>
    unfold fillWaiting
    refine Makes.get.bind fun workshop _ => ?_
    split
    · exact .pure trivial
    · refine (Makes.modify (by exact fun _ sound => ⟨sound.kept, sound.meant⟩)).bind fun _ _ => ?_
      exact (fill_makes _ _).bind fun _ _ => ih

end Steps

section Document

variable {root : Nat} {node : Node}

/-- A collection that is met first has to be filled. -/
theorem value_collection (there : nodes[root]? = some node) {kind : Collection} {filling : Filling}
    (asked : collectionOf? node.tag = some (kind, filling)) :
    (value root).run { nodes := nodes } = .ok (.collection kind,
      { nodes := nodes, values := [(root, .collection kind)], waiting := [(root, filling)] }) := by
  unfold value Make.node
  simp [there, asked]
  rfl

/-- Where a step of making values succeeds, the next one takes over. -/
theorem run_bind_ok {α β : Type} {step : Make α} {next : α → Make β} {value : α}
    {workshop workshop' : Workshop} (ran : step.run workshop = .ok (value, workshop')) :
    (step >>= next).run workshop = (next value).run workshop' := by
  rw [StateT.run_bind, ran]
  rfl

theorem run_node {workshop : Workshop} {number : Nat}
    (there : workshop.nodes[number]? = some node) :
    (Make.node number).run workshop = .ok (node, workshop) := by
  unfold Make.node
  simp [there]
  rfl

/-- A scalar that is not made yet is made, and leaves nothing to be filled. -/
theorem value_scalar {workshop : Workshop} {number : Nat} {made : Value}
    (there : workshop.nodes[number]? = some node) (fresh : workshop.values.lookup number = none)
    (scalar : collectionOf? node.tag = none)
    (means : makeScalar workshop.nodes node = .ok (some made)) :
    (value number).run workshop
      = .ok (made, { workshop with values := (number, made) :: workshop.values }) := by
  unfold value Make.node
  simp [there, fresh, scalar, means]
  rfl

/-- Where nothing waits, nothing is filled. -/
theorem fillWaiting_nil {workshop : Workshop} (none : workshop.waiting = []) (fuel : Nat) :
    (fillWaiting fuel).run workshop = .ok ((), workshop) := by
  have asks : (get : Make Workshop).run workshop = .ok (workshop, workshop) := rfl
  cases fuel with
  | zero => rfl
  | succ fuel =>
    rw [fillWaiting, run_bind_ok asks, none]
    rfl

/-- The outermost collection is filled before the collections in it. -/
def outermost (root : Nat) (kind : Collection) (filling : Filling) :
    Make (Value × List (Value × Value)) := do
  let rootEntries ← fill root filling
  fillWaiting (← get).nodes.size
  return (.collection kind, rootEntries)

theorem document_collection (there : nodes[root]? = some node) {kind : Collection}
    {filling : Filling} (asked : collectionOf? node.tag = some (kind, filling)) :
    (document root).run { nodes := nodes } =
      (outermost root kind filling).run
        { nodes := nodes, values := [(root, .collection kind)] } := by
  unfold document
  rw [run_bind_ok (value_collection there asked)]
  rfl

theorem outermost_makes (root : Nat) (kind : Collection) (filling : Filling) :
    Makes nodes (Unfit nodes)
      (fun found => found.1 = .collection kind ∧ (filling = .mapping → Filled nodes root found.2))
      (outermost root kind filling) := by
  refine (fill_makes root filling).bind fun made filled => Makes.get.bind fun workshop _ => ?_
  exact (fillWaiting_makes _).bind fun _ _ => .pure ⟨rfl, filled⟩

/-- Only the tag of mappings asks for a mapping, and it is filled with entries. -/
theorem filling_of_mapping {tag : String} {filling : Filling}
    (asked : collectionOf? tag = some (.mapping, filling)) : filling = .mapping := by
  unfold collectionOf? at asked
  split_ifs at asked <;> cases asked
  rfl

/-- A document that is made and is a mapping has the entries of its root. -/
theorem document_mapping {entries : List (Value × Value)} {workshop : Workshop}
    (ok : (document root).run { nodes := nodes }
      = .ok ((.collection .mapping, entries), workshop)) :
    ∃ node, nodes[root]? = some node ∧ collectionOf? node.tag = some (.mapping, .mapping) ∧
      Filled nodes root entries := by
  have comes := value_makes root { nodes := nodes } (sound_fresh nodes)
  cases first : (value root).run { nodes := nodes } with
  | error stop =>
    unfold document at ok
    rw [StateT.run_bind, first] at ok
    cases ok
  | ok result =>
    obtain ⟨value, middle⟩ := result
    rw [first] at comes
    obtain ⟨⟨node, there, made⟩, -⟩ := comes
    cases asked : collectionOf? node.tag with
    | some collection =>
      obtain ⟨kind, filling⟩ := collection
      have sound : Sound nodes { nodes := nodes, values := [(root, .collection kind)] } :=
        ⟨rfl, List.forall_mem_singleton.2 ⟨node, there, by rw [asked]⟩⟩
      have makes := outermost_makes root kind filling _ sound
      rw [document_collection there asked] at ok
      rw [ok] at makes
      obtain ⟨same, filled⟩ := makes.1
      cases same
      obtain rfl := filling_of_mapping asked
      exact ⟨node, there, asked, filled rfl⟩
    | none =>
      simp only [asked] at made
      have makes : (Make.value root).run { nodes := nodes }
          = .ok (value, { nodes := nodes, values := [(root, value)] }) :=
        value_scalar there rfl asked made
      unfold document at ok
      rw [run_bind_ok makes] at ok
      cases ok
      exact absurd rfl ((makeScalar_ok made).ne_collection .mapping)

theorem Made.unique {pairs : List (Nat × Nat)} {made other : List (Value × Value)}
    (means : Made nodes pairs made) (means' : Made nodes pairs other) : made = other :=
  List.right_unique_forall₂' (fun _ _ _ entry entry' =>
    Prod.ext (entry.1.unique entry'.1) (entry.2.unique entry'.2)) means means'

theorem Made.exists_means {pairs : List (Nat × Nat)} {made : List (Value × Value)}
    (means : Made nodes pairs made) :
    ∀ pair ∈ pairs, ∃ key item, Means nodes pair.1 key ∧ Means nodes pair.2 item := by
  induction means with
  | nil => simp
  | cons first _ ih => exact List.forall_mem_cons.2 ⟨⟨_, _, first⟩, ih⟩

theorem Made.exists_number {pairs : List (Nat × Nat)} {made : List (Value × Value)}
    (means : Made nodes pairs made) : ∀ entry ∈ made, ∃ number, Means nodes number entry.1 := by
  induction means with
  | nil => simp
  | cons first _ ih => exact List.forall_mem_cons.2 ⟨⟨_, first.1⟩, ih⟩

/-- A mapping whose keys are not apart is refused, whatever else is wrong in what it holds. -/
theorem document_refuses (there : nodes[root]? = some node)
    (asked : collectionOf? node.tag = some (.mapping, .mapping)) {pairs : List (Nat × Nat)}
    (content : node.content = .mapping pairs) {made : List (Value × Value)}
    (means : Made nodes pairs made) (clash : ¬ Apart [] made) :
    ∃ stop, (document root).run { nodes := nodes } = .error stop ∧
      ∀ fault, stop ≠ .fault fault := by
  have sound : Sound nodes { nodes := nodes, values := [(root, .collection .mapping)] } :=
    ⟨rfl, List.forall_mem_singleton.2 ⟨node, there, by rw [asked]⟩⟩
  have fills : Makes nodes (fun _ => False) (fun _ => False) (fill root .mapping) := by
    refine (fill_mapping ?_).mono ?_
    · intro node' pairs' there' content' pair member
      obtain rfl := Option.some.inj (there.symm.trans there')
      obtain rfl := Content.mapping.inj (content.symm.trans content')
      obtain ⟨_, _, key, item⟩ := means.exists_means pair member
      exact ⟨value_makes_of_means key, value_makes_of_means item⟩
    · rintro other ⟨node', pairs', there', content', means', apart⟩
      obtain rfl := Option.some.inj (there.symm.trans there')
      obtain rfl := Content.mapping.inj (content.symm.trans content')
      exact clash (means.unique means' ▸ apart)
  have makes : Makes nodes (fun _ => False) (fun _ => False) (outermost root .mapping .mapping) :=
    fills.bind fun _ impossible => impossible.elim
  have comes := makes _ sound
  rw [document_collection there asked]
  match outermost root .mapping .mapping |>.run _, comes with
  | .error stop, comes =>
    refine ⟨stop, rfl, ?_⟩
    rintro fault rfl
    exact comes

end Document

end Make

/-- What stops the making of the values of a text stops its reading. -/
theorem read_of_stop {text : List Char} {document : Document} {stop : Stop}
    (composed : compose text = .ok (some document))
    (stops : (Make.document document.root).run { nodes := document.nodes } = .error stop) :
    read text = .error stop := by
  simp only [read, composed, stops, bind, Except.bind]

/-- A text that is read as a mapping has a document whose root is one, filled with entries. -/
theorem read_mapping {text : List Char} {entries : List (Value × Value)}
    (found : read text = .ok (.collection .mapping, entries)) :
    ∃ document node, compose text = .ok (some document) ∧
      document.nodes[document.root]? = some node ∧
      collectionOf? node.tag = some (.mapping, .mapping) ∧
      Make.Filled document.nodes document.root entries := by
  unfold read at found
  cases composed : compose text with
  | error stop =>
    rw [composed] at found
    cases found
  | ok document? =>
    cases document? with
    | none =>
      rw [composed] at found
      cases found
    | some document =>
      cases made : (Make.document document.root).run { nodes := document.nodes } with
      | error stop =>
        simp only [composed, made, bind, Except.bind] at found
        cases found
      | ok result =>
        obtain ⟨result, workshop⟩ := result
        simp only [composed, made, bind, Except.bind] at found
        cases found
        obtain ⟨node, there, asked, filled⟩ := Make.document_mapping made
        exact ⟨document, node, rfl, there, asked, filled⟩

end Clat.Format.Yaml
