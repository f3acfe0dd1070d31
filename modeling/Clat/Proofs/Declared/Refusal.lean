import Clat.Proofs.Declared
import Clat.Proofs.Number.Limit

/-! Refusals of values of any kind. A value that is not of the declared type is shown in the wording
of its issue. Showing fails at an integer with more digits than are written, alone or inside lists,
and then there is no issue that has the path of the value. Every other value is accepted, or refused
by an issue with its format at that path. -/
namespace Clat

open Clat.Number Clat.Text

/-- How writing ends; `large` is whether there is an integer with too many digits in it. -/
inductive Writing {α : Type} (large : Prop) : Except IntegerError α → Prop where
  | done (free : ¬ large) (text : α) : Writing large (.ok text)
  | tooLarge (met : large) : Writing large (.error .tooLarge)

namespace Writing

variable {α β γ : Type} {large large' : Prop} {first : Except IntegerError α}
  {second : Except IntegerError β}

theorem of_iff (written : Writing large first) (same : large ↔ large') : Writing large' first := by
  rwa [← propext same]

theorem eq_tooLarge (written : Writing large first) (met : large) : first = .error .tooLarge := by
  cases written with
  | done free text => exact absurd met free
  | tooLarge met => rfl

theorem map (written : Writing large first) (f : α → β) : Writing large (f <$> first) := by
  cases written with
  | done free text => exact .done free (f text)
  | tooLarge met => exact .tooLarge met

/-- What is written in two parts fails at the first of them that fails. -/
theorem both (written : Writing large first) (written' : Writing large' second)
    (join : α → β → γ) :
    Writing (large ∨ large') (do let text ← first; return join text (← second)) := by
  cases written with
  | tooLarge met => exact .tooLarge (.inl met)
  | done free text =>
    cases written' with
    | tooLarge met' => exact .tooLarge (.inr met')
    | done free' text' => exact .done (not_or.2 ⟨free, free'⟩) (join text text')

end Writing

theorem Number.writeInteger_writing (n : Int) :
    Writing (10 ^ digitLimit ≤ n.natAbs) (writeInteger n) := by
  by_cases short : (decimal n.natAbs).length ≤ digitLimit
  · rw [writeInteger, if_neg (Nat.not_lt.2 short)]
    exact .done (Nat.not_le.2 (length_decimal_le_limit_iff.1 short)) _
  · rw [writeInteger, if_pos (Nat.not_le.1 short)]
    exact .tooLarge (Nat.not_lt.1 (mt length_decimal_le_limit_iff.2 short))

namespace Value

/-- Values with an integer of more digits than are written, at any depth. -/
inductive Unwritable : Value → Prop where
  | integer {n : Int} (large : 10 ^ digitLimit ≤ n.natAbs) : Unwritable (.integer n)
  | list {items : List Value} {item : Value} (member : item ∈ items)
      (unwritable : item.Unwritable) : Unwritable (.list items)

theorem unwritable_integer_iff {n : Int} :
    (integer n).Unwritable ↔ 10 ^ digitLimit ≤ n.natAbs := by
  constructor
  · rintro ⟨large⟩
    exact large
  · exact .integer

theorem unwritable_list_iff {items : List Value} :
    (list items).Unwritable ↔ ∃ item ∈ items, item.Unwritable := by
  constructor
  · rintro (_ | ⟨member, unwritable⟩)
    exact ⟨_, member, unwritable⟩
  · rintro ⟨item, member, unwritable⟩
    exact .list member unwritable

-- The recursion is that of the text: of a list, the first item is written and then the others.
mutual

theorem quoted_writing (value : Value) : Writing value.Unwritable value.quoted := by
  match value with
  | .none => exact .done nofun _
  | .truth _ => exact .done nofun _
  | .float _ => exact .done nofun _
  | .text _ => exact .done nofun _
  | .octets _ => exact .done nofun _
  | .ipv4 _ => exact .done nofun _
  | .ipv6 _ => exact .done nofun _
  | .integer n =>
    rw [quoted]
    exact (writeInteger_writing n).of_iff unwritable_integer_iff.symm
  | .list [] => exact .done (by simp [unwritable_list_iff]) _
  | .list (item :: rest) =>
    have parts := (quoted_writing item).both (quotedRest_writing rest) fun first rest =>
      '[' :: first ++ rest
    rw [quoted]
    refine parts.of_iff ?_
    simp [unwritable_list_iff]

theorem quotedRest_writing (items : List Value) :
    Writing (∃ item ∈ items, item.Unwritable) (quotedRest items) := by
  match items with
  | [] => exact .done (by simp) _
  | item :: rest =>
    have parts := (quoted_writing item).both (quotedRest_writing rest) fun next rest =>
      ',' :: ' ' :: next ++ rest
    rw [quotedRest]
    refine parts.of_iff ?_
    simp

end

theorem shown_writing (value : Value) : Writing value.Unwritable value.shown := by
  unfold shown
  split
  · exact .done nofun _
  · exact .done nofun _
  · exact .done nofun _
  · exact value.quoted_writing.map _

end Value

/-- How the check of a value ends: it passes if the value is accepted; else there is an issue with
its format at the path, if the value can be written. -/
inductive Verdict {α : Type} (path : String) (value : Value) (accepted : Prop) :
    Except Refusal α → Prop where
  | passed (holds : accepted) (writable : ¬ value.Unwritable) (result : α) :
      Verdict path value accepted (.ok result)
  | refused (fails : ¬ accepted) (writable : ¬ value.Unwritable) {cause : Issue.Cause}
      (kind : cause.kind = .format) : Verdict path value accepted (.error (.issue ⟨cause, path⟩))
  | unanswered (fails : ¬ accepted) (unwritable : value.Unwritable) :
      Verdict path value accepted (.error (.unwritable .tooLarge))

namespace Verdict

variable {α β : Type} {path : String} {value : Value} {accepted accepted' : Prop}
  {outcome : Except Refusal α}

theorem of_iff (verdict : Verdict path value accepted outcome) (same : accepted ↔ accepted') :
    Verdict path value accepted' outcome := by
  rwa [← propext same]

theorem map (verdict : Verdict path value accepted outcome) (f : α → β) :
    Verdict path value accepted (outcome.map f) := by
  cases verdict with
  | passed holds writable result => exact .passed holds writable (f result)
  | refused fails writable kind => exact .refused fails writable kind
  | unanswered fails unwritable => exact .unanswered fails unwritable

theorem eq_of_unwritable (verdict : Verdict path value accepted outcome)
    (met : value.Unwritable) : outcome = .error (.unwritable .tooLarge) := by
  cases verdict with
  | passed holds writable result => exact absurd met writable
  | refused fails writable kind => exact absurd met writable
  | unanswered fails unwritable => rfl

/-- A refusal that shows the value. -/
theorem of_shown (fails : ¬ accepted) {cause : String → Issue.Cause}
    (kind : ∀ shown, (cause shown).kind = .format) :
    Verdict (α := α) path value accepted (do
      let shown ← value.shown.mapError Refusal.unwritable
      .error (.issue ⟨cause shown, path⟩)) := by
  have written := value.shown_writing
  generalize value.shown = shown at written
  cases written with
  | done writable text => exact .refused fails writable (kind text)
  | tooLarge unwritable => exact .unanswered fails unwritable

/-- A value that something is made of, or that is refused. -/
theorem of_made {cause : Issue.Cause} (kind : cause.kind = .format) (writable : ¬ value.Unwritable)
    {made : Option α} (holds : accepted ↔ made.isSome)
    (found : ∀ result, made = some result → outcome = .ok result)
    (none : made = .none → outcome = .error (.issue ⟨cause, path⟩)) :
    Verdict path value accepted outcome := by
  cases made with
  | some result =>
    rw [found result rfl]
    exact .passed (holds.2 rfl) writable result
  | none =>
    rw [none rfl]
    exact .refused (mt holds.1 nofun) writable kind

end Verdict

namespace Declared

variable {declaration : Declaration} {least greatest : Int}

theorem checkRange_tooLarge (d : Declared) {n : Int} (outside : n < least ∨ greatest < n)
    (large : 10 ^ digitLimit ≤ n.natAbs) :
    d.checkRange n (some least) (some greatest) = .error (.unwritable .tooLarge) := by
  have written : writeInteger n = .error .tooLarge := (writeInteger_writing n).eq_tooLarge large
  unfold checkRange
  simp only [Option.any_some, decide_eq_true_eq, written]
  split
  next => rfl
  next above =>
    rw [if_pos (outside.resolve_left above)]
    rfl

/-- An integer that cannot be written is out of every range with bounds that can. -/
theorem validate_integer_verdict
    (range : declaration.check = .integer (some least) (some greatest))
    (low : least.natAbs < 10 ^ digitLimit) (high : greatest.natAbs < 10 ^ digitLimit)
    (path : String) (value : Value) :
    Verdict path value (∃ n, value = .integer n ∧ least ≤ n ∧ n ≤ greatest)
      (validate ⟨declaration, value, path⟩) := by
  unfold validate
  rw [range]
  cases value with
  | integer n =>
    have inside : (∃ m, Value.integer n = .integer m ∧ least ≤ m ∧ m ≤ greatest) ↔
        least ≤ n ∧ n ≤ greatest := by simp
    refine Verdict.of_iff ?_ inside.symm
    dsimp only
    by_cases short : n.natAbs < 10 ^ digitLimit
    · have writable : ¬ (Value.integer n).Unwritable := fun unwritable =>
        Nat.not_le.2 short (Value.unwritable_integer_iff.1 unwritable)
      rw [checkRange_eq _ _ _ (length_decimal_le_limit_iff.2 short)]
      split_ifs with below above
      · exact .refused (fun inside => absurd inside.1 (not_le.2 below)) writable rfl
      · exact .refused (fun inside => absurd inside.2 (not_le.2 above)) writable rfl
      · exact .passed ⟨not_lt.1 below, not_lt.1 above⟩ writable ()
    · have large := Nat.not_lt.1 short
      have outside : n < least ∨ greatest < n := by
        generalize 10 ^ digitLimit = bound at low high large
        omega
      rw [checkRange_tooLarge _ outside large]
      exact .unanswered (by omega) (.integer large)
  | _ => exact .of_shown (by simp) fun _ => rfl

theorem validate_string_verdict
    (range : declaration.check = .string (some least) (some greatest))
    (path : String) (value : Value) :
    Verdict path value
      (∃ text, value = .text text ∧ least ≤ text.utf8ByteSize ∧ text.utf8ByteSize ≤ greatest)
      (validate ⟨declaration, value, path⟩) := by
  unfold validate
  rw [range]
  cases value with
  | text text =>
    have inside : (∃ same, Value.text text = .text same ∧ least ≤ same.utf8ByteSize ∧
        same.utf8ByteSize ≤ greatest) ↔
        least ≤ text.utf8ByteSize ∧ text.utf8ByteSize ≤ greatest := by simp
    have writable : ¬ (Value.text text).Unwritable := nofun
    refine Verdict.of_iff ?_ inside.symm
    refine Verdict.map ?_ fun _ => ()
    rw [checkSize_eq]
    split_ifs with below above
    · exact .refused (fun inside => absurd inside.1 (not_le.2 below)) writable rfl
    · exact .refused (fun inside => absurd inside.2 (not_le.2 above)) writable rfl
    · exact .passed ⟨not_lt.1 below, not_lt.1 above⟩ writable text
  | _ => exact .of_shown (by simp) fun _ => rfl

end Declared

namespace IPv4

theorem length_eq_iff_isSome (octets : List UInt8) :
    octets.length = 4 ↔ (ofOctets? octets).isSome := by
  match octets with
  | [_, _, _, _] => exact iff_of_true rfl rfl
  | [] | [_] | [_, _] | [_, _, _] => exact iff_of_false nofun nofun
  | _ :: _ :: _ :: _ :: _ :: _ => exact iff_of_false (by simp) nofun

/-- The values that an address is made of: itself, its octets and its text. -/
def IsSource : Value → Prop
  | .ipv4 _ => True
  | .octets octets => octets.length = 4
  | .text text => ∃ address, ofText? text = some address
  | _ => False

theorem ofValue_verdict (path : String) (value : Value) :
    Verdict path value (IsSource value) (ofValue path value) := by
  cases value with
  | ipv4 address =>
    have writable : ¬ (Value.ipv4 address).Unwritable := nofun
    exact .passed trivial writable address
  | octets octets =>
    have writable : ¬ (Value.octets octets).Unwritable := nofun
    have kind : (Issue.Cause.wrongSize .ipv4 octets.length).kind = .format := rfl
    exact .of_made kind writable (length_eq_iff_isSome octets)
      (fun _ made => by rw [ofValue, made]) (fun none => by rw [ofValue, none])
  | text text =>
    have writable : ¬ (Value.text text).Unwritable := nofun
    have kind : (Issue.Cause.badAddress .ipv4 text).kind = .format := rfl
    exact .of_made kind writable Option.isSome_iff_exists.symm
      (fun _ made => by rw [ofValue, made]) (fun none => by rw [ofValue, none])
  | _ => exact .of_shown not_false fun _ => rfl

end IPv4

namespace IPv6

theorem length_eq_iff_isSome (octets : List UInt8) :
    octets.length = 16 ↔ (ofOctets? octets).isSome := by
  unfold ofOctets?
  split
  next size => exact iff_of_true size rfl
  next other => exact iff_of_false other nofun

/-- The values that an address is made of: itself, its octets and its text. -/
def IsSource : Value → Prop
  | .ipv6 _ => True
  | .octets octets => octets.length = 16
  | .text text => ∃ address, ofText? text = some address
  | _ => False

theorem ofValue_verdict (path : String) (value : Value) :
    Verdict path value (IsSource value) (ofValue path value) := by
  cases value with
  | ipv6 address =>
    have writable : ¬ (Value.ipv6 address).Unwritable := nofun
    exact .passed trivial writable address
  | octets octets =>
    have writable : ¬ (Value.octets octets).Unwritable := nofun
    have kind : (Issue.Cause.wrongSize .ipv6 octets.length).kind = .format := rfl
    exact .of_made kind writable (length_eq_iff_isSome octets)
      (fun _ made => by rw [ofValue, made]) (fun none => by rw [ofValue, none])
  | text text =>
    have writable : ¬ (Value.text text).Unwritable := nofun
    have kind : (Issue.Cause.badAddress .ipv6 text).kind = .format := rfl
    exact .of_made kind writable Option.isSome_iff_exists.symm
      (fun _ made => by rw [ofValue, made]) (fun none => by rw [ofValue, none])
  | _ => exact .of_shown not_false fun _ => rfl

end IPv6

/-- The types that the configuration declares for its values. -/
inductive ValueType where
  | int16
  | interfaceName
  | ipv4
  | ipv6
  deriving DecidableEq, Repr

namespace ValueType

/-- The values of a type. -/
def Accepts : ValueType → Value → Prop
  | .int16, value => ∃ n, value = .integer n ∧ -32768 ≤ n ∧ n ≤ 32767
  | .interfaceName, value =>
    ∃ text, value = .text text ∧ 1 ≤ text.utf8ByteSize ∧ text.utf8ByteSize ≤ 15
  | .ipv4, value => IPv4.IsSource value
  | .ipv6, value => IPv6.IsSource value

/-- Takes a value as one of the type and checks it. An address is checked when it is made. -/
def check (type : ValueType) (path : String) (value : Value) : Except Refusal Unit :=
  match type with
  | .int16 => Declared.validate ⟨.int16, value, path⟩
  | .interfaceName => Declared.validate ⟨.interfaceName, value, path⟩
  | .ipv4 => (IPv4.ofValue path value).map fun _ => ()
  | .ipv6 => (IPv6.ofValue path value).map fun _ => ()

theorem int16_verdict (path : String) (value : Value) :
    Verdict path value (int16.Accepts value) (int16.check path value) := by
  have five : 10 ^ 5 ≤ 10 ^ digitLimit := Nat.pow_le_pow_right (by decide) (by decide)
  exact Declared.validate_integer_verdict rfl (Nat.lt_of_lt_of_le (by decide) five)
    (Nat.lt_of_lt_of_le (by decide) five) path value

theorem interfaceName_verdict (path : String) (value : Value) :
    Verdict path value (interfaceName.Accepts value) (interfaceName.check path value) := by
  have range : Declaration.interfaceName.check = .string (some 1) (some 15) := rfl
  have verdict := Declared.validate_string_verdict range path value
  refine verdict.of_iff (exists_congr fun text => and_congr_right fun _ => ?_)
  omega

theorem verdict (type : ValueType) (path : String) (value : Value) :
    Verdict path value (type.Accepts value) (type.check path value) := by
  cases type with
  | int16 => exact int16_verdict path value
  | interfaceName => exact interfaceName_verdict path value
  | ipv4 => exact (IPv4.ofValue_verdict path value).map _
  | ipv6 => exact (IPv6.ofValue_verdict path value).map _

/-- A value is accepted, or refused by an issue with its format at the path that it is checked at,
unless it has an integer of more digits than are written. Then nothing is said of the path. -/
theorem check_answers (type : ValueType) (path : String) (value : Value) :
    (type.check path value = .ok () ↔ type.Accepts value) ∧
    ((type.check path value = .ok () ∨
        ∃ cause, cause.kind = .format ∧ type.check path value = .error (.issue ⟨cause, path⟩)) ↔
      ¬ value.Unwritable) ∧
    (type.check path value = .error (.unwritable .tooLarge) ↔ value.Unwritable) := by
  have verdict := type.verdict path value
  generalize type.check path value = outcome at verdict
  cases verdict with
  | passed holds writable _ =>
    exact ⟨iff_of_true rfl holds, iff_of_true (.inl rfl) writable, iff_of_false nofun writable⟩
  | refused fails writable kind =>
    exact ⟨iff_of_false nofun fails, iff_of_true (.inr ⟨_, kind, rfl⟩) writable,
      iff_of_false nofun writable⟩
  | unanswered fails unwritable =>
    exact ⟨iff_of_false nofun fails, iff_of_false (by simp) (not_not.2 unwritable),
      iff_of_true rfl unwritable⟩

/-- The least integer with too many digits is refused without an issue, as a value of any type. -/
theorem tenToTheLimit_unanswered :
    let value : Value := .integer (10 ^ digitLimit)
    (∀ type : ValueType, type.check "/plat_subnet" value = .error (.unwritable .tooLarge)) ∧
      ¬ ∃ type : ValueType, type.check "/plat_subnet" value = .ok () ∨
        ∃ cause, type.check "/plat_subnet" value = .error (.issue ⟨cause, "/plat_subnet"⟩) := by
  intro value
  have size : ((10 : Int) ^ digitLimit).natAbs = 10 ^ digitLimit := by
    rw [Int.natAbs_pow, show (10 : Int).natAbs = 10 from rfl]
  have unwritable : value.Unwritable := .integer (Nat.le_of_eq size.symm)
  have unanswered (type : ValueType) :=
    (type.verdict "/plat_subnet" value).eq_of_unwritable unwritable
  refine ⟨unanswered, ?_⟩
  rintro ⟨type, answered⟩
  rw [unanswered type] at answered
  simp at answered

example : int16.check "/mtu" (.truth true) =
    .error (.issue ⟨.wrongType "Int16" "integer" "True" "<class 'bool'>", "/mtu"⟩) := by decide

end ValueType
end Clat
