import Clat.Proofs.Format.Agreement
import Clat.Proofs.Format.Entries
import Clat.Proofs.Format.Yaml.Address
import Clat.Proofs.Format.Yaml.Line
import Clat.Proofs.Reader

/-! Addresses read back from a file. The native notation and JSON give back the address that was
written. YAML does so for IPv4 addresses; an IPv6 address that ends in two colons is refused, and
one that has the form of an integer in base 60 becomes that integer, which is no address. -/
namespace Clat.Format

open Clat.Number

/-- The texts of files with one item: a line of the native notation, a JSON object of strings,
or a line of a YAML document with plain scalars. -/
inductive Written (key text : String) : Format → String → Prop where
  | line (ending : List Char) (isEnding : Yaml.IsEnding ending) :
      Written key text .conf (String.ofList (Conf.lineOf (key, text) ++ ending))
  | object (object : List Char) (isObject : Json.IsObject [(key, text)] object) :
      Written key text .json (String.ofList object)
  | document (ending : List Char) (isEnding : Yaml.IsEnding ending) :
      Written key text .yaml (String.ofList (Yaml.lineOf key.toList (text.toList ++ ending)))

section Entry

variable {format : Format} {source key text : String} (entry : Yaml.IsEntry key text)

/-- One entry whose value can be written makes one item. -/
theorem yamlItems_line {source : List Char} {made : Yaml.Value} {shown : String}
    (read : Yaml.read source = .ok (.collection .mapping, [(.text key, made)]))
    (written : made.holding.valueText key = .ok shown) : yamlItems source = .ok [(key, shown)] := by
  have own : (Yaml.Value.text key).keyHolding.keyText = .ok key := rfl
  rw [yamlItems, read]
  simp only [Yaml.Value.document, Document.items, List.map_cons, List.map_nil, itemsOf, own,
    written, bind, Except.bind]
  rfl

include entry

/-- A word fits on a line of the native notation. -/
theorem fits_of_entry : Conf.Fits (key, text) := by
  have all : Yaml.wordChars.all (fun c => 0x24 ≤ c.toNat && c.toNat ≤ 0x7e) = true := by decide
  have range (c : Char) (word : c ∈ Yaml.wordChars) : 0x24 ≤ c.toNat ∧ c.toNat ≤ 0x7e := by
    simpa using List.all_eq_true.1 all c word
  constructor
  · exact Conf.isWord_of_range fun c member => range c (entry.name.word c member)
  · exact entry.name.filled
  · exact (Conf.isWord_of_range fun c member => range c (entry.word c member)).isValue

/-- A word is the text of its item, in YAML if it has the form of a text and ends in no colon. -/
theorem Written.parse_eq (written : Written key text format source)
    (plain : format = .yaml →
      Yaml.resolvePlain text.toList = Yaml.coreTag "str" ∧ text.toList.getLast? ≠ some ':') :
    format.parse source = .ok [(key, text)] := by
  cases written with
  | line ending isEnding =>
    rw [parse, String.toList_ofList, Conf.parse_line (fits_of_entry entry) isEnding]
    rfl
  | object object isObject =>
    rw [parse, String.toList_ofList]
    exact jsonItems_object isObject (List.nodup_singleton key)
  | document ending isEnding =>
    obtain ⟨string, stays⟩ := plain rfl
    have scalar : Yaml.collectionOf? (Yaml.resolvePlain text.toList) = none := by
      rw [string]
      decide
    have read := Yaml.read_line entry stays isEnding scalar fun nodes start => by
      rw [string]
      exact Yaml.makeScalar_str nodes start text
    rw [parse, String.toList_ofList]
    exact yamlItems_line read rfl

end Entry

section Addresses

variable {format : Format} {source key : String}

/-- The names of the items that are addresses. -/
def addressKeys : List String := ["plat_subnet", "ipv6_host_id", "ipv4_local_subnet"]

theorem isName_of_mem (named : key ∈ addressKeys) :
    Yaml.IsName key.toList ∧ Yaml.resolvePlain key.toList = Yaml.coreTag "str" := by
  have all : addressKeys.all (fun key => !key.toList.isEmpty &&
      key.toList.all Yaml.nameChars.contains && key.toList.length ≤ Yaml.Scanner.keyReach &&
      Yaml.resolvePlain key.toList == Yaml.coreTag "str") = true := by
    decide +kernel
  have one := List.all_eq_true.1 all key named
  simp only [Bool.and_eq_true, Bool.not_eq_true', List.isEmpty_eq_false_iff, List.all_eq_true,
    List.contains_iff_mem, decide_eq_true_eq, beq_iff_eq] at one
  obtain ⟨⟨⟨filled, name⟩, short⟩, string⟩ := one
  exact ⟨⟨filled, name, short⟩, string⟩

theorem word_digits {base : Nat} (radix : 2 ≤ base) (letters : base ≤ 36) (n : Nat) :
    ∀ c ∈ digits base n, c ∈ Yaml.wordChars := by
  have all : ∀ digit < 36, digitChar digit ∈ Yaml.wordChars := by decide
  intro c member
  obtain ⟨digit, small, rfl⟩ := exists_digitChar_of_mem_digits radix member
  exact all digit (by omega)

theorem entry_ipv6 (named : key ∈ addressKeys) {address : IPv6} (bare : address.zone = none) :
    Yaml.IsEntry key address.text where
  name := (isName_of_mem named).1
  string := (isName_of_mem named).2
  filled := List.ne_nil_of_mem (IPv6.colon_mem_text bare)
  word c member := by
    rcases IPv6.mem_text bare member with rfl | ⟨group, digit⟩
    · decide
    · exact word_digits (by decide) (by decide) group c digit

theorem entry_ipv4 (named : key ∈ addressKeys) (address : IPv4) :
    Yaml.IsEntry key address.text where
  name := (isName_of_mem named).1
  string := (isName_of_mem named).2
  filled := by
    rw [IPv4.toList_text]
    exact List.append_ne_nil_of_right_ne_nil _ (List.cons_ne_nil _ _)
  word c member := by
    rcases IPv4.mem_text member with rfl | ⟨octet, digit⟩
    · decide
    · exact word_digits (by decide) (by decide) octet c digit

/-- The item that an IPv6 address in a file becomes: in YAML the address is refused if it ends in a
colon, and an integer in base 60 becomes a decimal numeral. -/
theorem Written.parse_ipv6 (named : key ∈ addressKeys) {address : IPv6} (bare : address.zone = none)
    (written : Written key address.text format source) :
    format.parse source =
      if format = .yaml ∧ address.text.toList.getLast? = some ':' then .error (.refused .yaml)
      else if format = .yaml ∧ address.IsSexagesimal then
        .ok [(key, String.ofList (decimal address.sexagesimal))]
      else .ok [(key, address.text)] := by
  have entry := entry_ipv6 named bare
  have resolved := IPv6.resolvePlain_text bare
  by_cases typed : format = .yaml ∧
      (address.text.toList.getLast? = some ':' ∨ address.IsSexagesimal)
  · obtain ⟨rfl, special⟩ := typed
    cases written with
    | document ending isEnding =>
      rw [parse, String.toList_ofList]
      by_cases colon : address.text.toList.getLast? = some ':'
      · obtain ⟨front, ends⟩ := List.getLast?_eq_some_iff.1 colon
        have some : front ≠ [] := by
          rintro rfl
          have denotes := IPv6.ofText?_text bare
          have none : IPv6.ofText? (String.ofList ([] ++ [':'])) = none := by decide
          rw [← String.ofList_toList (s := address.text), ends, none] at denotes
          cases denotes
        rw [if_pos ⟨rfl, colon⟩, yamlItems, Yaml.read_second entry some ends isEnding]
      · have places := special.resolve_left colon
        rw [if_pos places] at resolved
        have scalar : Yaml.collectionOf? (Yaml.resolvePlain address.text.toList) = none := by
          rw [resolved]
          decide
        have read := Yaml.read_line entry colon isEnding scalar fun nodes start => by
          rw [resolved]
          exact Yaml.makeScalar_int (IPv6.makeInteger_text bare places)
        rw [if_neg fun both => colon both.2, if_pos ⟨rfl, places⟩]
        apply yamlItems_line read
        exact integerText_of_le (IPv6.length_decimal_sexagesimal places)
  · have colon : ¬ (format = .yaml ∧ address.text.toList.getLast? = some ':') := by
      rintro ⟨is, colon⟩
      exact typed ⟨is, .inl colon⟩
    have places : ¬ (format = .yaml ∧ address.IsSexagesimal) := by
      rintro ⟨is, places⟩
      exact typed ⟨is, .inr places⟩
    rw [if_neg colon, if_neg places]
    apply written.parse_eq entry
    intro is
    refine ⟨?_, fun ends => colon ⟨is, ends⟩⟩
    rw [resolved, if_neg fun sexagesimal => places ⟨is, sexagesimal⟩]

/-- The item that an IPv4 address in a file becomes is its text. -/
theorem Written.parse_ipv4 (named : key ∈ addressKeys) {address : IPv4}
    (written : Written key address.text format source) :
    format.parse source = .ok [(key, address.text)] := by
  apply written.parse_eq (entry_ipv4 named address)
  intro _
  refine ⟨IPv4.resolvePlain_text address, fun ends => ?_⟩
  rcases IPv4.mem_text (List.mem_of_getLast? ends) with point | ⟨octet, digit⟩
  · cases point
  · exact absurd (isAsciiDigit_of_mem_decimal digit) (by decide)

/-- A reader reads what the text of its item stands for. -/
theorem reader_item {α : Type} {items : Items} {text : String}
    {read : Items → String → Option String → Stage α} {parse : String → String → Except Issue α}
    (reader : ∀ default, read items key default
      = orFail (Reader.textOf items key default >>= parse (items.pathOf key)))
    (given : items.entries = [(key, text)]) (default : Option String) :
    read items key default = orFail (parse (items.pathOf key) text) := by
  have found : Reader.textOf items key default = .ok text := by
    rw [Reader.textOf, Items.getOr, Items.get?, given, List.lookup_cons_self]
  rw [reader, found]
  rfl

/-- What the address in a file is read back as. A file with an IPv6 address is accepted, unless it
is YAML and the address ends in two colons, and then the address is read as it was written, unless
the file is YAML and the address has the form of an integer in base 60: that integer is refused. A
file with an IPv4 address is accepted, and the address is read as it was written. -/
theorem address_readBack :
    (∀ (address : IPv6) (key : String), address.zone = none →
      key ∈ ["plat_subnet", "ipv6_host_id"] → Written key address.text format source →
      ((∃ entries, format.parse source = .ok entries) ↔
          ¬ (format = .yaml ∧ address.text.toList.getLast? = some ':')) ∧
        ∀ items : Items, format.parse source = .ok items.entries → ∀ default,
          Reader.ipv6 items key default =
            if format = .yaml ∧ address.IsSexagesimal then
              fail ⟨.badAddress .ipv6 (String.ofList (decimal address.sexagesimal)),
                items.pathOf key⟩
            else pure address) ∧
      ∀ address : IPv4, Written "ipv4_local_subnet" address.text format source →
        (∃ entries, format.parse source = .ok entries) ∧
          ∀ items : Items, format.parse source = .ok items.entries → ∀ default,
            Reader.ipv4 items "ipv4_local_subnet" default = pure address := by
  constructor
  · intro address key bare named written
    have among : key ∈ addressKeys := List.mem_append_left ["ipv4_local_subnet"] named
    have parsed := written.parse_ipv6 among bare
    by_cases colon : format = .yaml ∧ address.text.toList.getLast? = some ':'
    · rw [if_pos colon] at parsed
      rw [parsed]
      constructor
      · refine iff_of_false ?_ (not_not_intro colon)
        rintro ⟨entries, accepted⟩
        cases accepted
      · intro items accepted
        cases accepted
    rw [if_neg colon] at parsed
    by_cases places : format = .yaml ∧ address.IsSexagesimal
    · rw [if_pos places] at parsed
      refine ⟨iff_of_true ⟨_, parsed⟩ colon, fun items accepted default => ?_⟩
      have given := Except.ok.inj (accepted.symm.trans parsed)
      have refused (path : String) :
          IPv6.read path (String.ofList (decimal address.sexagesimal))
            = .error ⟨.badAddress .ipv6 (String.ofList (decimal address.sexagesimal)), path⟩ := by
        rw [IPv6.read, IPv6.ofText?_decimal]
      rw [if_pos places, reader_item (Reader.ipv6_eq items key) given, refused]
      rfl
    · rw [if_neg places] at parsed
      refine ⟨iff_of_true ⟨_, parsed⟩ colon, fun items accepted default => ?_⟩
      have given := Except.ok.inj (accepted.symm.trans parsed)
      rw [if_neg places, reader_item (Reader.ipv6_eq items key) given, IPv6.read_text _ bare]
      rfl
  · intro address written
    have parsed := written.parse_ipv4 (by decide)
    refine ⟨⟨_, parsed⟩, fun items accepted default => ?_⟩
    have given := Except.ok.inj (accepted.symm.trans parsed)
    rw [reader_item (Reader.ipv4_eq items _) given, IPv4.read_text]
    rfl

/-- The address 2001:db8::1. -/
def documented : IPv6 where
  octets := [0x20, 1, 0x0d, 0xb8, 0, 0, 0, 0, 0, 0, 0, 0, 0, 0, 0, 1]
  size_eq := by decide

theorem address_readBack_documented :
    documented.zone = none ∧ "plat_subnet" ∈ ["plat_subnet", "ipv6_host_id"] ∧
      Written "plat_subnet" documented.text .yaml "plat_subnet: 2001:db8::1\n" ∧
      Format.yaml.parse "plat_subnet: 2001:db8::1\n" = .ok [("plat_subnet", "2001:db8::1")] ∧
      Reader.ipv6 { entries := [("plat_subnet", "2001:db8::1")] } "plat_subnet" none
        = pure documented ∧
      Written "ipv4_local_subnet" (IPv4.text ⟨192, 0, 0, 4⟩) .conf "ipv4_local_subnet 192.0.0.4" ∧
      Format.conf.parse "ipv4_local_subnet 192.0.0.4"
        = .ok [("ipv4_local_subnet", "192.0.0.4")] ∧
      Reader.ipv4 { entries := [("ipv4_local_subnet", "192.0.0.4")] } "ipv4_local_subnet" none
        = pure ⟨192, 0, 0, 4⟩ := by
  have document : "plat_subnet: 2001:db8::1\n"
      = String.ofList (Yaml.lineOf "plat_subnet".toList (documented.text.toList ++ ['\n'])) := by
    decide +kernel
  have written : Written "plat_subnet" documented.text .yaml "plat_subnet: 2001:db8::1\n" := by
    rw [document]
    exact .document ['\n'] (.inr rfl)
  have parsed : Format.yaml.parse "plat_subnet: 2001:db8::1\n"
      = .ok [("plat_subnet", "2001:db8::1")] := by
    decide +kernel
  have whole : ¬ (Format.yaml = .yaml ∧ documented.IsSexagesimal) := by decide +kernel
  have line : "ipv4_local_subnet 192.0.0.4"
      = String.ofList (Conf.lineOf ("ipv4_local_subnet", IPv4.text ⟨192, 0, 0, 4⟩) ++ []) := by
    decide +kernel
  have written' : Written "ipv4_local_subnet" (IPv4.text ⟨192, 0, 0, 4⟩) .conf
      "ipv4_local_subnet 192.0.0.4" := by
    rw [line]
    exact .line [] (.inl rfl)
  have parsed' : Format.conf.parse "ipv4_local_subnet 192.0.0.4"
      = .ok [("ipv4_local_subnet", "192.0.0.4")] := by
    decide +kernel
  obtain ⟨-, reads⟩ := address_readBack.1 documented "plat_subnet" rfl (by decide) written
  obtain ⟨-, reads'⟩ := address_readBack.2 ⟨192, 0, 0, 4⟩ written'
  refine ⟨rfl, by decide, written, parsed, ?_, written', parsed', ?_⟩
  · rw [reads { entries := [("plat_subnet", "2001:db8::1")] } parsed none, if_neg whole]
  · exact reads' { entries := [("ipv4_local_subnet", "192.0.0.4")] } parsed' none

/-- The address 1:2:3:4:5:6:7:8, whose groups are places of an integer in base 60. -/
def eightDecimals : IPv6 where
  octets := [0, 1, 0, 2, 0, 3, 0, 4, 0, 5, 0, 6, 0, 7, 0, 8]
  size_eq := by decide

/-- In YAML the address is read as an integer, and refused; in the native notation it is read. -/
theorem eightDecimals_misread :
    let summed : Items := { entries := [("ipv6_host_id", "2895057742028")] }
    let kept : Items := { entries := [("ipv6_host_id", "1:2:3:4:5:6:7:8")] }
    let issue : Issue := ⟨.badAddress .ipv6 "2895057742028", "/ipv6_host_id"⟩
    eightDecimals.text = "1:2:3:4:5:6:7:8" ∧
      Format.yaml.parse "ipv6_host_id: 1:2:3:4:5:6:7:8" = .ok summed.entries ∧
      (Reader.ipv6 summed "ipv6_host_id" none).on {}
        = (.ok (.error issue), Session.reported {} issue) ∧
      Format.conf.parse "ipv6_host_id 1:2:3:4:5:6:7:8" = .ok kept.entries ∧
      (Reader.ipv6 kept "ipv6_host_id" none).on {} = (.ok (.ok eightDecimals), {}) := by
  intro summed kept issue
  have refused : IPv6.read "/ipv6_host_id" "2895057742028" = .error issue := by decide +kernel
  have given : IPv6.read "/ipv6_host_id" "1:2:3:4:5:6:7:8" = .ok eightDecimals := by
    decide +kernel
  have reads : Reader.ipv6 summed "ipv6_host_id" none = orFail (.error issue) := by
    rw [reader_item (Reader.ipv6_eq summed _) rfl, ← refused]
    rfl
  have reads' : Reader.ipv6 kept "ipv6_host_id" none = orFail (.ok eightDecimals) := by
    rw [reader_item (Reader.ipv6_eq kept _) rfl, ← given]
    rfl
  refine ⟨by decide +kernel, by decide +kernel, ?_, by decide +kernel, ?_⟩
  · rw [reads]
    rfl
  · rw [reads']
    rfl

end Addresses

end Clat.Format
