import Clat.Format.Entry
import Mathlib.Data.List.Forall2
import Mathlib.Data.List.Nodup

/-! Items of entries. An entry becomes an item under the text of its key, with the text of its
value. Of entries whose keys have one text the last one counts, so all of them stay only where the
texts are distinct. -/
namespace Clat.Format

/-- Whether an item has the texts of the key and of the value of an entry. -/
structure HasTexts (entry : Holding × Holding) (item : String × String) : Prop where
  key : entry.1.keyText = .ok item.1
  value : entry.2.valueText item.1 = .ok item.2

/-- Items set one after another. -/
def settle (items texts : List (String × String)) : List (String × String) :=
  texts.foldl (fun items item => setItem items item.1 item.2) items

variable {items others texts : List (String × String)} {key value : String}

/-- Where keys are distinct, no item in front of one has its key. -/
theorem key_ne_of_nodup {item : String × String} {front back : List (String × String)}
    (distinct : ((front ++ item :: back).map Prod.fst).Nodup) :
    ∀ other ∈ front, (item.1 != other.1) = true := by
  intro other member
  rw [List.map_append, List.nodup_append] at distinct
  have different := distinct.2.2 other.1 (List.mem_map_of_mem member) item.1 (by simp)
  simpa using Ne.symm different

/-- Where keys are distinct, an item is found under its key, and nothing else. -/
theorem lookup_eq_some_iff_mem (distinct : (items.map Prod.fst).Nodup) :
    items.lookup key = some value ↔ (key, value) ∈ items := by
  rw [List.lookup_eq_some_iff]
  constructor
  · rintro ⟨front, back, rfl, -⟩
    exact List.mem_append_right front List.mem_cons_self
  · intro member
    obtain ⟨front, back, split⟩ := List.append_of_mem member
    rw [split] at distinct
    exact ⟨front, back, split, key_ne_of_nodup distinct⟩

/-- The order of items with distinct keys does not count. -/
theorem lookup_eq_of_perm (distinct : (items.map Prod.fst).Nodup) (order : others.Perm items)
    (key : String) : others.lookup key = items.lookup key := by
  have distinct' : (others.map Prod.fst).Nodup := (order.map Prod.fst).nodup_iff.2 distinct
  apply Option.ext
  intro value
  rw [lookup_eq_some_iff_mem distinct, lookup_eq_some_iff_mem distinct', order.mem_iff]

theorem lookup_isSome_iff :
    (items.lookup key).isSome = true ↔ key ∈ items.map Prod.fst := by
  induction items with
  | nil => simp
  | cons item items ih =>
    rw [List.lookup_cons, List.map_cons, List.mem_cons]
    cases same : key == item.1 with
    | true => simp [beq_iff_eq.1 same]
    | false =>
      simp only [ih]
      have other : key ≠ item.1 := by simpa using same
      exact ⟨.inr, fun member => member.resolve_left other⟩

theorem keys_setItem (items : List (String × String)) (key value : String) :
    (setItem items key value).map Prod.fst =
      if key ∈ items.map Prod.fst then items.map Prod.fst else items.map Prod.fst ++ [key] := by
  unfold setItem
  by_cases there : key ∈ items.map Prod.fst
  · rw [if_pos (lookup_isSome_iff.2 there), if_pos there, List.map_map]
    apply List.map_congr_left
    rintro ⟨k, v⟩ -
    simp only [Function.comp]
    split <;> rfl
  · rw [if_neg (fun some => there (lookup_isSome_iff.1 some)), if_neg there, List.map_append]
    rfl

theorem nodup_setItem (distinct : (items.map Prod.fst).Nodup) :
    ((setItem items key value).map Prod.fst).Nodup := by
  rw [keys_setItem]
  split
  · exact distinct
  · rename_i fresh
    exact distinct.append (List.nodup_singleton key) (by simpa using fresh)

theorem lookup_replace (items : List (String × String)) (key value other : String) :
    (items.map fun (k, v) => if k == key then (k, value) else (k, v)).lookup other =
      if other = key then (items.lookup other).map fun _ => value else items.lookup other := by
  induction items with
  | nil => simp
  | cons item items ih =>
    obtain ⟨k, v⟩ := item
    by_cases replaced : k = key
    · subst replaced
      by_cases same : other = k
      · simp [same]
      · have differ : (other == k) = false := by simpa using same
        simp only [List.map_cons, beq_self_eq_true, if_true, List.lookup_cons, differ]
        exact ih
    · have kept : (k == key) = false := by simpa using replaced
      by_cases same : other = k
      · subst same
        simp [replaced]
      · have differ : (other == k) = false := by simpa using same
        simp only [List.map_cons, kept, Bool.false_eq_true, if_false, List.lookup_cons, differ]
        exact ih

/-- An item that is set is found under its key, and other items as before. -/
theorem lookup_setItem (items : List (String × String)) (key value other : String) :
    (setItem items key value).lookup other =
      if other = key then some value else items.lookup other := by
  unfold setItem
  cases found : items.lookup key with
  | none =>
    rw [Option.isSome_none, if_neg Bool.false_ne_true, List.lookup_append]
    by_cases same : other = key
    · subst same
      simp [found]
    · have differ : (other == key) = false := by simpa using same
      simp [List.lookup_cons, differ, same]
  | some former =>
    rw [Option.isSome_some, if_pos rfl, lookup_replace]
    by_cases same : other = key
    · rw [if_pos same, if_pos same, same, found]
      rfl
    · rw [if_neg same, if_neg same]

/-- The last item under a key counts. -/
theorem lookup_settle (items texts : List (String × String)) (key : String) :
    (settle items texts).lookup key = (texts.reverse.lookup key).or (items.lookup key) := by
  unfold settle
  induction texts generalizing items with
  | nil => simp
  | cons text texts ih =>
    obtain ⟨k, v⟩ := text
    rw [List.foldl_cons, ih, lookup_setItem, List.reverse_cons, List.lookup_append, Option.or_assoc]
    congr 1
    by_cases same : key = k
    · simp [same]
    · have differ : (key == k) = false := by simpa using same
      simp [same, List.lookup_cons, differ]

theorem nodup_settle (texts : List (String × String)) (distinct : (items.map Prod.fst).Nodup) :
    ((settle items texts).map Prod.fst).Nodup := by
  unfold settle
  induction texts generalizing items with
  | nil => exact distinct
  | cons text texts ih => exact ih (nodup_setItem distinct)

theorem settle_of_nodup (distinct : ((items ++ texts).map Prod.fst).Nodup) :
    settle items texts = items ++ texts := by
  induction texts generalizing items with
  | nil => exact (List.append_nil items).symm
  | cons text texts ih =>
    have whole : items ++ text :: texts = items ++ [text] ++ texts := by simp
    have fresh : text.1 ∉ items.map Prod.fst := by
      intro there
      rw [List.map_append, List.map_cons, List.nodup_append] at distinct
      exact distinct.2.2 text.1 there text.1 List.mem_cons_self rfl
    have set : setItem items text.1 text.2 = items ++ [text] := by
      unfold setItem
      exact if_neg fun some => fresh (lookup_isSome_iff.1 some)
    rw [whole] at distinct ⊢
    unfold settle at ih ⊢
    rw [List.foldl_cons, set]
    exact ih distinct

/-- All items stay just where their keys are distinct. -/
theorem settle_eq_self_iff : settle [] texts = texts ↔ (texts.map Prod.fst).Nodup := by
  constructor
  · intro kept
    rw [← kept]
    exact nodup_settle texts List.nodup_nil
  · exact fun distinct => settle_of_nodup distinct

/-- Entries give items just where all of them have texts, and then one after another is set. -/
theorem itemsOf_ok_iff {entries : List (Holding × Holding)} {result : List (String × String)} :
    itemsOf items entries = .ok result ↔
      ∃ texts, List.Forall₂ HasTexts entries texts ∧ result = settle items texts := by
  induction entries generalizing items with
  | nil =>
    simp only [itemsOf, Except.ok.injEq, List.forall₂_nil_left_iff, exists_eq_left]
    exact eq_comm
  | cons entry entries ih =>
    obtain ⟨key, value⟩ := entry
    rw [itemsOf]
    constructor
    · intro made
      cases keyed : key.keyText with
      | error failure => simp [keyed, bind, Except.bind] at made
      | ok k =>
        cases valued : value.valueText k with
        | error failure => simp [keyed, valued, bind, Except.bind] at made
        | ok v =>
          simp only [keyed, valued, bind, Except.bind] at made
          obtain ⟨texts, each, rfl⟩ := ih.1 made
          exact ⟨(k, v) :: texts, .cons ⟨keyed, valued⟩ each, rfl⟩
    · rintro ⟨texts, each, rfl⟩
      obtain ⟨text, rest, ⟨keyed, valued⟩, others, rfl⟩ := List.forall₂_cons_left_iff.1 each
      simp only [keyed, valued, bind, Except.bind]
      exact ih.2 ⟨rest, others, rfl⟩

end Clat.Format
