import Clat.Format.Entry
import Clat.Proofs.Format.Entries
import Clat.Proofs.Format.Yaml.Scalar
import Clat.Proofs.Number.FloatText
import Clat.Proofs.Text.Quoted

/-! Keys by their texts. Entries are told apart by their keys as values, and items by the texts of
these. The text of a key that is no text itself shows what kind of value the key is, and then the
value, so that such keys have one text only where they are one key. What is left are keys of which
one is a text, and a not-a-number that equals nothing. -/
namespace Clat.Format.Yaml

open Clat.Number Clat.Text

/-- What a key is, if it is a scalar and no text. -/
inductive Kind where
  | null
  | truth
  | integer
  | float
  | octets
  | date
  | time
  deriving DecidableEq, Repr

/-- The kind of a key that is written as a text. -/
def Kind.ofText (text : List Char) : Kind :=
  if text.head? = some 'b' then .octets
  else if 'N' ∈ text then .null
  else if 'T' ∈ text ∨ 'F' ∈ text then .truth
  else if ' ' ∈ text then .time
  else if text.all (fun c => c = '-' || isAsciiDigit c) then
    if '-' ∈ text.tail then .date else .integer
  else .float

namespace Value

/-- The text of a key that is a scalar. -/
def keyChars : Value → List Char
  | .null => "None".toList
  | .truth value => if value then "True".toList else "False".toList
  | .integer value => signedDecimal value
  | .float value => value.text
  | .notANumber => "nan".toList
  | .text value => value.toList
  | .octets value => quotedOctets value
  | .date value => value.text
  | .time value => value.text
  | .collection kind => (Value.collection kind).typeName.toList

theorem toList_keyText {key : Value} {text : String} (written : key.keyHolding.keyText = .ok text) :
    text.toList = key.keyChars := by
  cases key with
  | integer value =>
    by_cases small : (decimal value.natAbs).length ≤ digitLimit
    · have given : integerText value = .ok text := written
      rw [integerText_of_le small] at given
      cases given
      exact String.toList_ofList
    · have given : integerText value = .ok text := written
      rw [integerText_of_lt (Nat.not_le.1 small)] at given
      cases given
  | truth value =>
    cases written
    cases value <;> rfl
  | float value =>
    obtain rfl : String.ofList value.text = text := Except.ok.inj written
    exact String.toList_ofList
  | octets value =>
    obtain rfl : String.ofList (quotedOctets value) = text := Except.ok.inj written
    exact String.toList_ofList
  | date value =>
    obtain rfl : String.ofList value.text = text := Except.ok.inj written
    exact String.toList_ofList
  | time value =>
    obtain rfl : String.ofList value.text = text := Except.ok.inj written
    exact String.toList_ofList
  | null | notANumber | text | collection =>
    cases written
    rfl

def kind? : Value → Option Kind
  | .null => some .null
  | .truth _ => some .truth
  | .integer _ => some .integer
  | .float _ => some .float
  | .notANumber => some .float
  | .text _ => none
  | .octets _ => some .octets
  | .date _ => some .date
  | .time _ => some .time
  | .collection _ => none

end Value

/-- No text of a number, a date or a time has a letter of a name, or starts like octets. -/
def Plain (text : List Char) : Prop := ∀ c ∈ text, c ∉ ['b', 'N', 'T', 'F']

theorem plain_of_signs {text signs : List Char} (foreign : ∀ c ∈ signs, c ∉ ['b', 'N', 'T', 'F'])
    (each : ∀ c ∈ text, isAsciiDigit c = true ∨ c ∈ signs) : Plain text := by
  intro c member
  rcases each c member with digit | sign
  · have letters : ∀ c ∈ ['b', 'N', 'T', 'F'], isAsciiDigit c = false := by simp [Char.isDigit]
    intro letter
    rw [letters c letter] at digit
    cases digit
  · exact foreign c sign

theorem ofText_plain {text : List Char} (plain : Plain text) :
    Kind.ofText text =
      if ' ' ∈ text then .time
      else if text.all (fun c => c = '-' || isAsciiDigit c) then
        if '-' ∈ text.tail then .date else .integer
      else .float := by
  have start : text.head? ≠ some 'b' := by
    intro first
    exact plain 'b' (List.mem_of_mem_head? first) (by decide)
  have null : 'N' ∉ text := fun member => plain 'N' member (by decide)
  have truth : ¬ ('T' ∈ text ∨ 'F' ∈ text) := by
    rintro (member | member)
    · exact plain 'T' member (by decide)
    · exact plain 'F' member (by decide)
  rw [Kind.ofText, if_neg start, if_neg null, if_neg truth]

theorem all_dashed {text : List Char} (each : ∀ c ∈ text, isAsciiDigit c = true ∨ c ∈ ['-']) :
    text.all (fun c => c = '-' || isAsciiDigit c) = true := by
  refine List.all_eq_true.2 fun c member => ?_
  rcases each c member with digit | dash
  · rw [digit, Bool.or_true]
  · rw [List.mem_singleton.1 dash]
    rfl

theorem ofText_signedDecimal (value : Int) : Kind.ofText (signedDecimal value) = .integer := by
  have each : ∀ c ∈ signedDecimal value, isAsciiDigit c = true ∨ c ∈ ['-'] := by
    intro c member
    unfold signedDecimal at member
    split at member
    · rcases List.mem_cons.1 member with rfl | place
      · exact .inr (by decide)
      · exact .inl (isAsciiDigit_of_mem_decimal place)
    · exact .inl (isAsciiDigit_of_mem_decimal member)
  have solid : ' ' ∉ signedDecimal value := by
    intro member
    exact absurd (each ' ' member) (by decide)
  have unsigned : '-' ∉ (signedDecimal value).tail := by
    intro member
    have place : '-' ∈ decimal value.natAbs := by
      unfold signedDecimal at member
      split at member
      · exact member
      · exact List.mem_of_mem_tail member
    exact absurd (isAsciiDigit_of_mem_decimal place) (by decide)
  rw [ofText_plain (plain_of_signs (by simp) each), if_neg solid, if_pos (all_dashed each),
    if_neg unsigned]

theorem ofText_float (value : Binary64) : Kind.ofText value.text = .float := by
  have solid : ' ' ∉ value.text := by
    intro member
    exact absurd (Binary64.mem_text member) (by decide)
  have marked : ¬ value.text.all (fun c => c = '-' || isAsciiDigit c) = true := by
    intro whole
    obtain ⟨c, member, mark⟩ := Binary64.text_marked value
    have others : ∀ c ∈ Binary64.marks, (c = '-' || isAsciiDigit c) = false := by
      simp [Binary64.marks, Char.isDigit]
    have given := List.all_eq_true.1 whole c member
    rw [others c mark] at given
    cases given
  rw [ofText_plain (plain_of_signs (by simp [Binary64.signs]) fun c => Binary64.mem_text), if_neg solid,
    if_neg marked]

theorem ofText_date (date : Date) : Kind.ofText date.text = .date := by
  have each : ∀ c ∈ date.text, isAsciiDigit c = true ∨ c ∈ ['-'] := by
    intro c member
    exact (Date.mem_text member).symm.imp id List.mem_singleton.2
  have solid : ' ' ∉ date.text := by
    intro member
    exact absurd (each ' ' member) (by decide)
  have dashed : '-' ∈ date.text.tail := by
    have size : 0 < (fixedDigits 10 4 date.year).length := by
      rw [length_fixedDigits]
      decide
    obtain ⟨first, rest, year⟩ := List.exists_cons_of_length_pos size
    simp [Date.text, year]
  rw [ofText_plain (plain_of_signs (by simp) each), if_neg solid, if_pos (all_dashed each),
    if_pos dashed]

theorem ofText_time (time : DateTime) : Kind.ofText time.text = .time := by
  have blank : ' ' ∈ time.text := by
    rw [DateTime.text_eq]
    simp
  rw [ofText_plain (plain_of_signs (by simp [timeSigns]) fun c => DateTime.mem_text), if_pos blank]

/-- The text of a key that is no text shows its kind. -/
theorem ofText_keyChars {key : Value} {kind : Kind} (is : key.kind? = some kind) :
    Kind.ofText key.keyChars = kind := by
  cases key with
  | null =>
    cases is
    decide
  | truth value =>
    cases is
    cases value <;> decide
  | integer value =>
    cases is
    exact ofText_signedDecimal value
  | float value =>
    cases is
    exact ofText_float value
  | notANumber =>
    cases is
    decide
  | octets value =>
    cases is
    exact if_pos rfl
  | date value =>
    cases is
    exact ofText_date value
  | time value =>
    cases is
    exact ofText_time value
  | text | collection => cases is

/-- Keys that may have one text though they are not one key: a text and a scalar that is none, or
a not-a-number that is not the constant and so equals nothing. -/
def Confusable (key other : Value) : Prop :=
  (key.kind? = none ↔ other.kind? ≠ none) ∨ key = .float .nan ∨ other = .float .nan

/-- A scalar by its kind. Dates and times come with parts that fit. -/
theorem Scalar.of_kind {key : Value} (scalar : Scalar key) :
    match key.kind? with
    | none => ∃ value, key = .text value
    | some .null => key = .null
    | some .truth => ∃ value, key = .truth value
    | some .integer => ∃ value, key = .integer value
    | some .float => (∃ value, key = .float value ∧ value.Proper) ∨ key = .notANumber
    | some .octets => ∃ value, key = .octets value
    | some .date => ∃ value, key = .date value ∧ value.Fits
    | some .time => ∃ value, key = .time value ∧ value.Fits := by
  cases scalar with
  | moment moment =>
    cases moment with
    | date date fits => exact ⟨date, rfl, fits⟩
    | time time fits => exact ⟨time, rfl, fits⟩
  | float value proper => exact .inl ⟨value, rfl, proper⟩
  | notANumber => exact .inr rfl
  | null => rfl
  | truth value | integer value | text value | octets value => exact ⟨value, rfl⟩

theorem equals_self {value : Binary64} (some : value ≠ .nan) : value.equals value = true := by
  cases value with
  | nan => exact absurd rfl some
  | infinite negative => simp [Binary64.equals]
  | finite negative significand exponent => simp [Binary64.equals]

/-- The text of the constant is that of no other number. -/
theorem text_ne_nan {value : Binary64} (proper : value.Proper) (some : value ≠ .nan) :
    value.text ≠ "nan".toList :=
  fun same => some (Binary64.text_inj proper trivial same)

/-- Two keys of one kind and with one text are one key, unless one is a not-a-number that equals
nothing. -/
theorem same_of_kind {key other : Value} {kind : Kind} (scalar : Scalar key)
    (scalar' : Scalar other) (is : key.kind? = some kind) (is' : other.kind? = some kind)
    (clear : key ≠ .float .nan) (clear' : other ≠ .float .nan)
    (written : key.keyChars = other.keyChars) : key.same other = true := by
  have shape := scalar.of_kind
  have shape' := scalar'.of_kind
  rw [is] at shape
  rw [is'] at shape'
  cases kind with
  | float =>
    have number {value : Binary64} (clear : Value.float value ≠ .float .nan) : value ≠ .nan :=
      fun none => clear (congrArg Value.float none)
    rcases shape with ⟨value, rfl, proper⟩ | rfl
    · rcases shape' with ⟨value', rfl, proper'⟩ | rfl
      · obtain rfl : value = value' := Binary64.text_inj proper proper' written
        exact equals_self (number clear)
      · exact absurd written (text_ne_nan proper (number clear))
    · rcases shape' with ⟨value', rfl, proper'⟩ | rfl
      · exact absurd written.symm (text_ne_nan proper' (number clear'))
      · rfl
  | null =>
    obtain rfl := shape
    obtain rfl := shape'
    rfl
  | truth =>
    obtain ⟨value, rfl⟩ := shape
    obtain ⟨value', rfl⟩ := shape'
    revert written
    cases value <;> cases value' <;> decide
  | integer =>
    obtain ⟨value, rfl⟩ := shape
    obtain ⟨value', rfl⟩ := shape'
    obtain rfl : value = value' := signedDecimal_inj written
    simp [Value.same, Value.integer?]
  | octets =>
    obtain ⟨value, rfl⟩ := shape
    obtain ⟨value', rfl⟩ := shape'
    obtain rfl : value = value' := quotedOctets_inj written
    simp [Value.same]
  | date =>
    obtain ⟨value, rfl, fits⟩ := shape
    obtain ⟨value', rfl, fits'⟩ := shape'
    obtain rfl : value = value' := Date.text_inj fits fits' written
    simp [Value.same]
  | time =>
    obtain ⟨value, rfl, fits⟩ := shape
    obtain ⟨value', rfl, fits'⟩ := shape'
    obtain rfl : value = value' := DateTime.text_inj fits fits' written
    simp [Value.same, DateTime.same]

theorem text_apart {text : String} {other : Value} {kind : Kind} (is : other.kind? = some kind) :
    (Value.text text).same other = false ∧ other.same (.text text) = false := by
  cases other with
  | text | collection => cases is
  | _ => exact ⟨rfl, rfl⟩

theorem nan_apart (other : Value) :
    (Value.float .nan).same other = false ∧ other.same (.float .nan) = false := by
  cases other with
  | float value => cases value <;> exact ⟨rfl, rfl⟩
  | _ => exact ⟨rfl, rfl⟩

/-- Scalars with one text are one key just where they are not confusable. -/
theorem same_iff_of_keyChars {key other : Value} (scalar : Scalar key) (scalar' : Scalar other)
    (written : key.keyChars = other.keyChars) :
    key.same other = true ↔ ¬ Confusable key other := by
  have shape := scalar.of_kind
  have shape' := scalar'.of_kind
  cases is : key.kind? with
  | some kind =>
    cases is' : other.kind? with
    | some kind' =>
      constructor
      · rintro same (texts | rfl | rfl)
        · simp [is, is'] at texts
        · rw [(nan_apart other).1] at same
          cases same
        · rw [(nan_apart key).2] at same
          cases same
      · intro clear
        have kinds := ofText_keyChars is
        rw [written, ofText_keyChars is'] at kinds
        subst kinds
        exact same_of_kind scalar scalar' is is' (fun nan => clear (.inr (.inl nan)))
          (fun nan => clear (.inr (.inr nan))) written
    | none =>
      rw [is'] at shape'
      obtain ⟨text, rfl⟩ := shape'
      have apart : key.same (.text text) = false := (text_apart is).2
      simp [apart, Confusable, is, is']
  | none =>
    rw [is] at shape
    obtain ⟨text, rfl⟩ := shape
    cases is' : other.kind? with
    | some kind' =>
      have apart : (Value.text text).same other = false := (text_apart is').1
      simp [apart, Confusable, is, is']
    | none =>
      rw [is'] at shape'
      obtain ⟨text', rfl⟩ := shape'
      have texts : text = text' := String.toList_inj.1 written
      simp [Value.same, texts, Confusable, is']

end Clat.Format.Yaml
