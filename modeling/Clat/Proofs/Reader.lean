import Clat.Proofs.Address.Text
import Clat.Proofs.Declared
import Clat.Proofs.Reader.Numeral
import Clat.Proofs.Session.Run

/-! Readers of items. What a reader comes to depends on the items alone; all it does is report
an issue. -/
namespace Clat

section Refusals

variable {α : Type} {s t : Session}

/-- A refusal by an issue is the issue itself. -/
theorem orRefuse_mapError (result : Except Issue α) :
    orRefuse (result.mapError .issue) = orFail result := by
  cases result with
  | ok value => rfl
  | error issue => rfl

/-- A value that is not refused leaves the session as it is. -/
theorem orRefuse_ok {result : Except Refusal α} {value : α}
    (ok : (orRefuse result).on s = (.ok (.ok value), t)) : result = .ok value ∧ t = s := by
  cases result with
  | ok other =>
    cases ok
    exact ⟨rfl, rfl⟩
  | error refusal => cases refusal <;> cases ok

end Refusals

namespace Reader

open Clat.Number Clat.Text

theorem length_decimal_of_parseInteger {text : List Char} {value : Int}
    (parsed : parseInteger text = .ok value) : (decimal value.natAbs).length ≤ digitLimit := by
  unfold parseInteger at parsed
  split at parsed
  · cases parsed
  · split at parsed
    · cases parsed
    · split at parsed
      · cases parsed
      · split at parsed
        · rename_i read
          cases parsed
          exact length_decimal_of_readInteger read
        · cases parsed

/-- A value out of the range of 16-bit integers, as an issue. -/
def rangeOf (path : String) (value : Int) : Except Issue Int :=
  if value < -32768 then .error ⟨.tooSmall value (-32768), path⟩
  else if 32767 < value then .error ⟨.tooBig value 32767, path⟩
  else .ok value

/-- The 16-bit integer that a text is, or the issue with it. -/
def readInt16 (path text : String) : Except Issue Int :=
  ((parseInteger text.toList).mapError fun cause => ⟨cause, path⟩) >>= rangeOf path

/-- An integer that is read can be written, so that its range is all that is checked, and it is
only refused by an issue. -/
theorem parseInt16_eq (path text : String) :
    parseInt16 path text = (readInt16 path text).mapError .issue := by
  unfold parseInt16 readInt16
  cases parsed : parseInteger text.toList with
  | error cause => rfl
  | ok value =>
    have range : (⟨.int16, .integer value, path⟩ : Declared).validate = _ :=
      Declared.checkRange_eq _ (-32768) 32767 (length_decimal_of_parseInteger parsed)
    change (do
      (⟨.int16, .integer value, path⟩ : Declared).validate
      return value) = (rangeOf path value).mapError .issue
    rw [range, rangeOf]
    by_cases low : value < -32768
    · rw [if_pos low, if_pos low]
      rfl
    · rw [if_neg low, if_neg low]
      by_cases high : 32767 < value
      · rw [if_pos high, if_pos high]
        rfl
      · rw [if_neg high, if_neg high]
        rfl

theorem rangeOf_ok {path : String} {number value : Int} (ok : rangeOf path number = .ok value) :
    -32768 ≤ value ∧ value ≤ 32767 := by
  unfold rangeOf at ok
  split at ok
  · cases ok
  · split at ok
    · cases ok
    · cases ok
      omega

theorem readInt16_range {path text : String} {value : Int}
    (ok : readInt16 path text = .ok value) : -32768 ≤ value ∧ value ≤ 32767 := by
  rw [readInt16] at ok
  cases parsed : parseInteger text.toList with
  | error cause =>
    rw [parsed] at ok
    cases ok
  | ok number =>
    rw [parsed] at ok
    exact rangeOf_ok ok

/-- The text of an item or its default, or the issue that there is none. -/
def textOf (items : Items) (key : String) (default : Option String) : Except Issue String :=
  match items.getOr key default with
  | some text => .ok text
  | none => .error ⟨.missing key, items.pathOf key⟩

variable (items : Items) (key : String) (default : Option String) (s : Session)

theorem string_eq : string items key default = orFail (textOf items key default) := by
  unfold string textOf
  cases items.getOr key default <;> rfl

/-- A reader of another type reads a text first. -/
theorem parsed_eq {α : Type} (parse : String → Except Issue α) :
    (string items key default >>= fun text => orFail (parse text)) =
      orFail (textOf items key default >>= parse) := by
  rw [string_eq, Stage.orFail_bind]

theorem int16_eq_parsed :
    int16 items key default = (do
      let text ← string items key default
      orFail (readInt16 (items.pathOf key) text)) := by
  unfold int16
  simp only [parseInt16_eq, orRefuse_mapError]

theorem int16_eq :
    int16 items key default =
      orFail (textOf items key default >>= readInt16 (items.pathOf key)) := by
  rw [int16_eq_parsed, parsed_eq]

theorem ipv4_eq :
    ipv4 items key default = orFail (textOf items key default >>= IPv4.read (items.pathOf key)) :=
  parsed_eq items key default _

theorem ipv6_eq :
    ipv6 items key default = orFail (textOf items key default >>= IPv6.read (items.pathOf key)) :=
  parsed_eq items key default _

theorem parsed_comesTo {α : Type} (parse : String → Except Issue α) :
    (string items key default >>= fun text => orFail (parse text)).ComesTo s
      (textOf items key default >>= parse) s := by
  rw [parsed_eq]
  exact Stage.comesTo_orFail _ s

theorem int16_comesTo :
    (int16 items key default).ComesTo s
      (textOf items key default >>= readInt16 (items.pathOf key)) s := by
  rw [int16_eq_parsed]
  exact parsed_comesTo items key default s _

theorem ipv4_comesTo :
    (ipv4 items key default).ComesTo s
      (textOf items key default >>= IPv4.read (items.pathOf key)) s :=
  parsed_comesTo items key default s _

theorem ipv6_comesTo :
    (ipv6 items key default).ComesTo s
      (textOf items key default >>= IPv6.read (items.pathOf key)) s :=
  parsed_comesTo items key default s _

/-- A 16-bit integer item that is given is in range. -/
theorem int16_ok {items : Items} {key : String} {default : Option String} {s t : Session}
    {value : Int} (ok : (int16 items key default).on s = (.ok (.ok value), t)) :
    (-32768 ≤ value ∧ value ≤ 32767) ∧ ∃ log, t = { s with log := log } := by
  obtain ⟨given, unchanged⟩ := (int16_comesTo items key default s).of_ok ok
  refine ⟨?_, unchanged⟩
  cases found : textOf items key default with
  | ok text =>
    rw [found] at given
    exact readInt16_range given
  | error issue =>
    rw [found] at given
    cases given

/-- An item that is there, and has a value as its text. -/
theorem parsed_given {α : Type} {items : Items} {key text : String}
    {parse : String → Except Issue α} {value : α} (given : items.get? key = some text)
    (parsed : parse text = .ok value) (default : Option String) (s : Session) :
    (string items key default >>= fun text => orFail (parse text)).ComesTo s (.ok value) s := by
  have found : textOf items key default = .ok text := by rw [textOf, Items.getOr, given]
  have comes := parsed_comesTo items key default s parse
  rw [found] at comes
  exact parsed ▸ comes

theorem zone_of_ipv6 {items : Items} {key : String} {default : Option String}
    {address : IPv6}
    (given : (textOf items key default >>= IPv6.read (items.pathOf key)) = .ok address) :
    address.zone = none := by
  cases found : textOf items key default with
  | ok text =>
    rw [found] at given
    exact IPv6.zone_of_read given
  | error issue =>
    rw [found] at given
    cases given

section Written

theorem parseInteger_signedDecimal {value : Int}
    (short : (decimal value.natAbs).length ≤ digitLimit) :
    parseInteger (signedDecimal value) = .ok value := by
  have readable : (Numeral.ofInt value).Readable := ⟨fun _ => (absurd · List.not_mem_nil), short⟩
  rw [← Numeral.text_ofInt, parseInteger_numeral (Numeral.proper_ofInt value), if_pos readable,
    Numeral.value_ofInt]

/-- A 16-bit integer is read back from its text. -/
theorem readInt16_signedDecimal (path : String) {value : Int}
    (range : -32768 ≤ value ∧ value ≤ 32767) :
    readInt16 path (String.ofList (signedDecimal value)) = .ok value := by
  have short : (decimal value.natAbs).length ≤ 4 + 1 :=
    (length_digits_le_iff (by decide)).2 (by omega)
  have read : parseInteger (signedDecimal value) = .ok value :=
    parseInteger_signedDecimal (short.trans (by decide))
  rw [readInt16, String.toList_ofList, read]
  change rangeOf path value = .ok value
  rw [rangeOf, if_neg (by omega), if_neg (by omega)]

theorem int16_given {items : Items} {key : String} {value : Int}
    (given : items.get? key = some (String.ofList (signedDecimal value)))
    (range : -32768 ≤ value ∧ value ≤ 32767) (default : Option String) (s : Session) :
    (int16 items key default).ComesTo s (.ok value) s := by
  rw [int16_eq_parsed]
  exact parsed_given given (readInt16_signedDecimal (items.pathOf key) range) default s

end Written

end Reader
end Clat
