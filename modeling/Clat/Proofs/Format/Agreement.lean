import Clat.Proofs.Format.Conf
import Clat.Proofs.Format.Json.Object

/-! The native notation and JSON compared. Items that fit on lines of the native notation are read
back from their lines and from any JSON object of them, in any order. -/
namespace Clat.Format

variable {items : List (String × String)}

/-- The members of an object of strings are the items of it. -/
theorem jsonItems_object {text : List Char} (object : Json.IsObject items text)
    (distinct : (items.map Prod.fst).Nodup) : jsonItems text = .ok items := by
  have texts : List.Forall₂ HasTexts
      ((Json.membersOf items).map fun member => (.text member.1, member.2.holding)) items := by
    rw [Json.membersOf, List.map_map, List.forall₂_map_left_iff, List.forall₂_same]
    exact fun item _ => ⟨rfl, rfl⟩
  have made : itemsOf [] ((Json.membersOf items).map fun member =>
      (.text member.1, member.2.holding)) = .ok items :=
    itemsOf_ok_iff.2 ⟨items, texts, (settle_eq_self_iff.2 distinct).symm⟩
  rw [jsonItems, Json.read_object object distinct]
  exact made

/-- Items with distinct keys that fit on lines are what any JSON object of them is parsed to, and
what their lines are parsed to, one a line or laid out in any way. The order on either side does
not count: every key has its value. -/
theorem parse_json_conf {members lines : List (String × String)} {object : List Char}
    (fits : ∀ item ∈ items, Conf.Fits item) (distinct : (items.map Prod.fst).Nodup)
    (inObject : members.Perm items) (onLines : lines.Perm items)
    (written : Json.IsObject members object) :
    Format.json.parse (String.ofList object) = .ok members ∧
      Format.conf.parse (String.ofList (Conf.written lines)) = .ok lines ∧
      (∀ layout : Conf.Layout, layout.items = lines →
        Format.conf.parse (String.ofList layout.text) = .ok lines) ∧
      ∀ key, members.lookup key = items.lookup key ∧ lines.lookup key = items.lookup key := by
  have distinct' : (members.map Prod.fst).Nodup := (inObject.map Prod.fst).nodup_iff.2 distinct
  have distinct'' : (lines.map Prod.fst).Nodup := (onLines.map Prod.fst).nodup_iff.2 distinct
  have fits' : ∀ item ∈ lines, Conf.Fits item := fun item member =>
    fits item (onLines.mem_iff.1 member)
  refine ⟨?_, ?_, ?_, ?_⟩
  · rw [parse, String.toList_ofList]
    exact jsonItems_object written distinct'
  · rw [parse, String.toList_ofList, Conf.parse_written_of_fits fits' distinct'']
    rfl
  · rintro layout rfl
    rw [parse, String.toList_ofList, Conf.parse_items distinct'']
    rfl
  · exact fun key =>
      ⟨lookup_eq_of_perm distinct inObject key, lookup_eq_of_perm distinct onLines key⟩

/-- Two items as a JSON object with escapes, the second one first. -/
def escaped : String :=
  "\x7b \"host\" :\t\"\\\"\\ud83d\\uDE00\",\n\"mtu\":\"\\u00312 80\" \x7d\n"

theorem parse_json_conf_escaped :
    let items := [("mtu", "12 80"), ("host", "\"😀")]
    let members := [("host", "\"😀"), ("mtu", "12 80")]
    (∀ item ∈ items, Conf.Fits item) ∧ (items.map Prod.fst).Nodup ∧ members.Perm items ∧
      Json.IsObject members escaped.toList ∧
      Format.json.parse (String.ofList escaped.toList) = .ok members ∧
      Format.conf.parse (String.ofList (Conf.written items)) = .ok items := by
  intro items members
  have fits : ∀ item ∈ items, Conf.Fits item := by decide
  have distinct : (items.map Prod.fst).Nodup := by decide
  have order : members.Perm items := by decide
  have host : Json.IsMember ("host", "\"😀") " \"host\" :\t\"\\\"\\ud83d\\uDE00\"".toList := by
    refine ⟨[' '], "host".toList, [' '], ['\t'], "\\\"\\ud83d\\uDE00".toList, [], by decide, by decide,
      by decide, by decide, by decide, .self (by decide), ?_⟩
    exact .cons (.letter '"' '"' rfl) (.cons (.pair '😀' "d83d".toList "DE00".toList 0xd83d 0xde00
      (by decide) (by decide) (by decide) (by decide) (by decide)) .nil)
  have mtu : Json.IsMember ("mtu", "12 80") "\n\"mtu\":\"\\u00312 80\" ".toList := by
    refine ⟨['\n'], "mtu".toList, [], [], "\\u00312 80".toList, [' '], by decide, by decide,
      by decide, by decide, by decide, .self (by decide), ?_⟩
    exact .cons (.unit '1' "0031".toList (by decide)) (.self (by decide))
  have written : Json.IsObject members escaped.toList :=
    ⟨[], _, ['\n'], by decide, by decide, by decide, .inr (.cons host (.last mtu))⟩
  obtain ⟨fromJson, fromConf, -⟩ := parse_json_conf fits distinct order (.refl items) written
  exact ⟨fits, distinct, order, written, fromJson, fromConf⟩

end Clat.Format
