import Clat.Format
import Clat.Proofs.Format.Conf.Layout
import Clat.Proofs.Format.Items
import Clat.Proofs.Format.Json.Members
import Clat.Proofs.Format.Yaml.Keys
import Clat.Proofs.Format.Yaml.Make

/-! Entries of a text and the items it is parsed to. Every entry is told by an item under the text
of its key, unless a later entry has a key with the same text. In the native notation and in JSON
such entries are refused. In YAML they are refused where the keys are one key; keys that are told
apart but have one text, such as a number and the same digits in quotes, leave the last entry
only. -/
namespace Clat.Format

open Clat.Number

/-- The entries of a text at the outermost level, with keys as YAML has them: the lines that have an
item, the members of an object, or the pairs of a mapping. A text that says nothing has none. -/
inductive Source (text : List Char) : Format → List (Yaml.Value × Holding) → Prop where
  | lines (layout : Conf.Layout) (laid : layout.text = text) :
      Source text .conf (layout.items.map fun item => (.text item.1, .text item.2))
  | members (members : List (String × Json)) (opens : Json.Opens text members) :
      Source text .json (members.map fun member => (.text member.1, member.2.holding))
  | noMember (null : Json.read text = .ok .null) : Source text .json []
  | pairs (document : Yaml.Document) (node : Yaml.Node) (pairs : List (Nat × Nat))
      (entries : List (Yaml.Value × Yaml.Value))
      (composed : Yaml.compose text = .ok (some document))
      (there : document.nodes[document.root]? = some node)
      (mapping : Yaml.collectionOf? node.tag = some (.mapping, .mapping))
      (content : node.content = .mapping pairs)
      (means : Yaml.Make.Made document.nodes pairs entries) :
      Source text .yaml (entries.map fun entry => (entry.1, entry.2.holding))
  | noPair (entries : List (Yaml.Value × Yaml.Value))
      (null : Yaml.read text = .ok (.null, entries)) : Source text .yaml []

/-- What an entry is, as far as its item is concerned. -/
def holdings (entry : Yaml.Value × Holding) : Holding × Holding := (entry.1.keyHolding, entry.2)

/-- Two keys with one text. -/
def SameText (key other : Yaml.Value) : Prop :=
  ∃ text, key.keyHolding.keyText = .ok text ∧ other.keyHolding.keyText = .ok text

/-- Entries of which two have keys with one text only in YAML, and only if the keys are
confusable. -/
def Unconfused (format : Format) (entries : List (Yaml.Value × Holding)) : Prop :=
  entries.Pairwise fun entry later =>
    SameText entry.1 later.1 → format = .yaml ∧ Yaml.Confusable entry.1 later.1

variable {format : Format} {text : String} {entries : List (Yaml.Value × Holding)}
  {items texts : List (String × String)}

theorem sameText_text {key other : String} : SameText (.text key) (.text other) ↔ key = other := by
  constructor
  · rintro ⟨text, written, written'⟩
    cases written
    cases written'
    rfl
  · rintro rfl
    exact ⟨key, rfl, rfl⟩

/-- Keys that are distinct texts are not confused. -/
theorem unconfused_of_nodup {α : Type} (format : Format) {items : List (String × α)}
    (hold : α → Holding) (distinct : (items.map Prod.fst).Nodup) :
    Unconfused format (items.map fun item => (.text item.1, hold item.2)) := by
  unfold Unconfused
  rw [List.pairwise_map]
  exact (List.pairwise_map.1 distinct).imp fun different same =>
    absurd (sameText_text.1 same) different

theorem hasTexts_of_texts (items : List (String × String)) :
    List.Forall₂ HasTexts
      ((items.map fun item => ((.text item.1, .text item.2) : Yaml.Value × Holding)).map holdings)
      items := by
  rw [List.map_map, List.forall₂_map_left_iff, List.forall₂_same]
  exact fun item _ => ⟨rfl, rfl⟩

/-- The keys of items are the texts of the keys of their entries. -/
theorem mem_keys_iff (each : List.Forall₂ (fun entry item => HasTexts (holdings entry) item) entries
      texts) {key : String} :
    key ∈ texts.map Prod.fst ↔ ∃ entry ∈ entries, entry.1.keyHolding.keyText = .ok key := by
  induction each with
  | nil => simp
  | @cons entry item entries texts first rest ih =>
    have own : entry.1.keyHolding.keyText = .ok item.1 := first.key
    have is : key = item.1 ↔ entry.1.keyHolding.keyText = .ok key := by
      rw [own, Except.ok.injEq, eq_comm]
    rw [List.map_cons, List.mem_cons, ih, is]
    simp

/-- The texts of the keys are distinct just where no two keys have one text. -/
theorem nodup_iff_pairwise (each : List.Forall₂ HasTexts (entries.map holdings) texts) :
    (texts.map Prod.fst).Nodup ↔
      entries.Pairwise fun entry later => ¬ SameText entry.1 later.1 := by
  rw [List.forall₂_map_left_iff] at each
  induction each with
  | nil => simp
  | cons first rest ih =>
    rw [List.map_cons, List.nodup_cons, List.pairwise_cons, ih, mem_keys_iff rest]
    refine and_congr_left fun _ => ?_
    have own := first.key
    constructor
    · rintro fresh later member ⟨key, written, written'⟩
      obtain rfl := Except.ok.inj (own.symm.trans written)
      exact fresh ⟨later, member, written'⟩
    · rintro apart ⟨later, member, written⟩
      exact apart later member ⟨_, own, written⟩

section Native

theorem conf_repeated {layout : Conf.Layout} (laid : layout.text = text.toList)
    (repeated : ¬ (layout.items.map Prod.fst).Nodup) :
    ∃ error, Format.conf.parse text = .error (.refused error) := by
  obtain ⟨before, line, item, has, found, distinct, again⟩ := layout.exists_repeated repeated
  have stops := Conf.parse_repeated has found distinct again
  rw [laid] at stops
  exact ⟨_, by rw [parse, stops]; rfl⟩

theorem conf_entries (parsed : Format.conf.parse text = .ok items) :
    ∃ layout : Conf.Layout, layout.text = text.toList ∧ layout.items = items ∧
      (items.map Prod.fst).Nodup := by
  obtain ⟨layout, laid⟩ := Conf.exists_layout text.toList
  by_cases distinct : (layout.items.map Prod.fst).Nodup
  · have read := Conf.parse_items distinct
    rw [laid] at read
    rw [parse, read] at parsed
    cases parsed
    exact ⟨layout, laid, rfl, distinct⟩
  · obtain ⟨error, stops⟩ := conf_repeated laid distinct
    rw [stops] at parsed
    cases parsed

end Native

section Json

theorem json_entries (parsed : Format.json.parse text = .ok items) :
    (∃ members, Json.Opens text.toList members ∧ (members.map Prod.fst).Nodup ∧
      itemsOf [] (members.map fun member => (.text member.1, member.2.holding)) = .ok items) ∨
      (Json.read text.toList = .ok .null ∧ items = []) := by
  have given : jsonItems text.toList = .ok items := parsed
  unfold jsonItems at given
  split at given
  · cases given
  · cases given
  · cases given
  · rename_i value found
    cases value with
    | null =>
      cases given
      exact .inr ⟨found, rfl⟩
    | object members =>
      obtain ⟨opens, distinct⟩ := Json.read_opens found
      exact .inl ⟨members, opens, distinct, given⟩
    | _ => cases given

theorem json_repeated {members : List (String × Json)} (opens : Json.Opens text.toList members)
    (repeated : ¬ (members.map Prod.fst).Nodup) :
    ∃ error, Format.json.parse text = .error (.refused error) := by
  obtain ⟨name, stops⟩ := Json.read_repeated opens repeated
  refine ⟨.repeatedName name, ?_⟩
  simp only [parse, jsonItems, stops]

end Json

section Yaml

/-- A key that is made and is no collection is a scalar. -/
theorem Yaml.Means.scalar {nodes : Array Yaml.Node} {number : Nat} {key : Yaml.Value}
    (means : Yaml.Means nodes number key) (other : ∀ kind, key ≠ .collection kind) :
    Yaml.Scalar key := by
  obtain ⟨node, there, made⟩ := means
  split at made
  · exact absurd made (other _)
  · exact Yaml.makeScalar_ok made

theorem yaml_entries (parsed : Format.yaml.parse text = .ok items) :
    ∃ entries, Source text.toList .yaml entries ∧ itemsOf [] (entries.map holdings) = .ok items := by
  have given : yamlItems text.toList = .ok items := parsed
  unfold yamlItems at given
  split at given
  · cases given
  · cases given
  · cases given
  · cases given
  · rename_i value entries found
    cases value with
    | null =>
      cases given
      exact ⟨[], .noPair entries found, rfl⟩
    | collection kind =>
      cases kind with
      | mapping =>
        obtain ⟨document, node, composed, there, asked, node', pairs, there', content, means, -⟩ :=
          Yaml.read_mapping found
        obtain rfl := Option.some.inj (there.symm.trans there')
        refine ⟨_, .pairs document node pairs entries composed there asked content means, ?_⟩
        rw [List.map_map]
        exact given
      | list => cases given
      | set => cases given
    | _ => cases given

/-- Keys of a mapping that are apart are not confused. -/
theorem unconfused_of_apart {nodes : Array Yaml.Node} {pairs : List (Nat × Nat)}
    {made : List (Yaml.Value × Yaml.Value)} (means : Yaml.Make.Made nodes pairs made)
    (keys : Yaml.Make.Apart [] made) :
    Unconfused .yaml (made.map fun entry => (entry.1, entry.2.holding)) := by
  have scalar : ∀ entry ∈ made, Yaml.Scalar entry.1 := by
    intro entry member
    obtain ⟨number, key⟩ := means.exists_number entry member
    exact key.scalar (keys.scalar entry member)
  unfold Unconfused
  rw [List.pairwise_map]
  refine keys.apart.imp_of_mem ?_
  rintro entry later member member' apart ⟨text, written, written'⟩
  refine ⟨rfl, ?_⟩
  by_contra clear
  have texts := (Yaml.Value.toList_keyText written).symm.trans (Yaml.Value.toList_keyText written')
  have same := (Yaml.same_iff_of_keyChars (scalar entry member) (scalar later member') texts).2 clear
  rw [apart] at same
  cases same

/-- A mapping of which two keys are one is refused. -/
theorem yaml_repeated (source : Source text.toList .yaml entries)
    (confused : ¬ Unconfused .yaml entries) :
    ∃ error, Format.yaml.parse text = .error (.refused error) := by
  cases source with
  | noPair => exact absurd List.Pairwise.nil confused
  | pairs document node pairs made composed there mapping content means =>
    have clash : ¬ Yaml.Make.Apart [] made := fun keys => confused (unconfused_of_apart means keys)
    obtain ⟨stop, stops, noFault⟩ :=
      Yaml.Make.document_refuses there mapping content means clash
    have read := Yaml.read_of_stop composed stops
    unfold parse yamlItems
    simp only [read]
    cases stop with
    | fault fault => exact absurd rfl (noFault fault)
    | refused => exact ⟨_, rfl⟩
    | trouble trouble => exact ⟨_, rfl⟩
    | repeatedKey place => exact ⟨_, rfl⟩

end Yaml

/-- A text whose entries are confused is refused. -/
theorem parse_confused (source : Source text.toList format entries)
    (confused : ¬ Unconfused format entries) :
    ∃ error, format.parse text = .error (.refused error) := by
  cases format with
  | yaml => exact yaml_repeated source confused
  | conf =>
    cases source with
    | lines layout laid =>
      exact conf_repeated laid fun distinct => confused (unconfused_of_nodup .conf .text distinct)
  | json =>
    cases source with
    | noMember => exact absurd List.Pairwise.nil confused
    | members members opens =>
      exact json_repeated opens fun distinct =>
        confused (unconfused_of_nodup .json Json.holding distinct)

/-- A text that is parsed has entries, and the items are theirs. -/
theorem exists_entries (parsed : format.parse text = .ok items) :
    ∃ entries, Source text.toList format entries ∧
      itemsOf [] (entries.map holdings) = .ok items := by
  cases format with
  | yaml => exact yaml_entries parsed
  | conf =>
    obtain ⟨layout, laid, rfl, distinct⟩ := conf_entries parsed
    refine ⟨_, .lines layout laid, itemsOf_ok_iff.2 ⟨_, hasTexts_of_texts _, ?_⟩⟩
    exact (settle_eq_self_iff.2 distinct).symm
  | json =>
    rcases json_entries parsed with ⟨members, opens, -, made⟩ | ⟨null, rfl⟩
    · refine ⟨_, .members members opens, ?_⟩
      rw [List.map_map]
      exact made
    · exact ⟨[], .noMember null, rfl⟩

/-- No entry is lost but to a later one whose key has the same text. A text that is parsed has
entries with texts, and its items are these texts, of which the last one under a key counts; so all
of them are kept just where no two keys have one text, as always in the native notation and in
JSON. Entries whose keys have one text are refused, unless they are keys of YAML that are
confusable. -/
theorem parse_entries (format : Format) (text : String) :
    (∀ items, format.parse text = .ok items → ∃ entries texts,
      Source text.toList format entries ∧ Unconfused format entries ∧
      List.Forall₂ HasTexts (entries.map holdings) texts ∧
      (items.map Prod.fst).Nodup ∧ (∀ key, items.lookup key = texts.reverse.lookup key) ∧
      (items = texts ↔ entries.Pairwise fun entry later => ¬ SameText entry.1 later.1) ∧
      (format ≠ .yaml → items = texts)) ∧
    ∀ entries, Source text.toList format entries → ¬ Unconfused format entries →
      ∃ error, format.parse text = .error (.refused error) := by
  refine ⟨fun items parsed => ?_, fun entries source => parse_confused source⟩
  obtain ⟨entries, source, made⟩ := exists_entries parsed
  obtain ⟨texts, each, rfl⟩ := itemsOf_ok_iff.1 made
  have kept : settle [] texts = texts ↔ entries.Pairwise fun entry later =>
      ¬ SameText entry.1 later.1 :=
    settle_eq_self_iff.trans (nodup_iff_pairwise each)
  have unconfused : Unconfused format entries := by
    by_contra confused
    obtain ⟨error, stops⟩ := parse_confused source confused
    rw [stops] at parsed
    cases parsed
  refine ⟨entries, texts, source, unconfused, each, nodup_settle texts List.nodup_nil, ?_, kept, ?_⟩
  · intro key
    rw [lookup_settle, List.lookup_nil, Option.or_none]
  · intro other
    refine kept.2 (List.Pairwise.imp ?_ unconfused)
    intro entry later only same
    exact other (only same).1

theorem parse_entries_repeated :
    (∃ entries, Source "\x7b\"mtu\": 1280\x7d".toList .json entries ∧
      List.Forall₂ HasTexts (entries.map holdings) [("mtu", "1280")]) ∧
    ∃ error, Format.conf.parse (String.ofList (Conf.ending Conf.sized).text) =
      .error (.refused error) := by
  constructor
  · have parsed : Format.json.parse "\x7b\"mtu\": 1280\x7d" = .ok [("mtu", "1280")] := by
      decide +kernel
    obtain ⟨entries, texts, source, -, each, -, -, -, all⟩ := (parse_entries .json _).1 _ parsed
    obtain rfl := all (by decide)
    exact ⟨entries, source, each⟩
  · have laid : (Conf.ending Conf.sized).text =
        (String.ofList (Conf.ending Conf.sized).text).toList := String.toList_ofList.symm
    refine (parse_entries .conf _).2 _ (.lines _ laid) fun clear => ?_
    obtain ⟨first, -⟩ := List.pairwise_cons.1 clear
    obtain ⟨other, -⟩ := first _ List.mem_cons_self (sameText_text.2 rfl)
    cases other

/-- Two pairs whose keys are told apart, and have one text. -/
def numberAndText : String := "1: a\n\"1\": b\n"

/-- An entry can be lost: of a number and the same digits in quotes only the last one is kept. -/
theorem numberAndText_merges :
    Format.yaml.parse "1: a\n" = .ok [("1", "a")] ∧
      Format.yaml.parse "\"1\": b\n" = .ok [("1", "b")] ∧
      Format.yaml.parse numberAndText = .ok [("1", "b")] := by
  decide +kernel

end Clat.Format
