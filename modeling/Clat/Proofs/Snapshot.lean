import Clat.Items
import Clat.Proofs.Address.Text
import Clat.Proofs.Format.Conf
import Clat.Snapshot

/-! Snapshots as items. A snapshot is saved as the items that it was read from or could have been:
its sizes, its IPv4 address, its network and its identifier. Each of them can be written on a line
of the native notation. -/
namespace Clat

open Clat.Format Clat.Number Clat.Text

/-- An item under a key that no other item has. -/
theorem Items.get?_of_mem {items : Items} (distinct : (items.entries.map Prod.fst).Nodup)
    {key value : String} (member : (key, value) ∈ items.entries) :
    items.get? key = some value :=
  (lookup_eq_some_iff_mem distinct).2 member

namespace Snapshot

/-- The text that a field is saved as, if the snapshot has it. -/
def Field.text? : Field → Option String
  | .text value => some value
  | .integer value => some (String.ofList (signedDecimal value))
  | .absent => none

/-- The fields that are items of a configuration file, and not found or made on a run. -/
def savedKeys : List String :=
  ["mtu", "ipv4mtu", "ipv4_local_subnet", "plat_subnet", "ipv6_host_id"]

/-- The items that a snapshot is saved as. Its network is not to be discovered again. -/
def saved (s : Snapshot) : List (String × String) :=
  (s.fields.filterMap fun (key, field) =>
    if key ∈ savedKeys then field.text?.map (key, ·) else none) ++ [("plat_from_dns64", "no")]

theorem saved_eq (s : Snapshot) :
    s.saved = [
      ("mtu", String.ofList (signedDecimal s.mtu)),
      ("ipv4mtu", String.ofList (signedDecimal s.ipv4Mtu)),
      ("ipv4_local_subnet", s.ipv4.text),
      ("plat_subnet", s.plat.text),
      ("ipv6_host_id", s.hostId.text),
      ("plat_from_dns64", "no")] := by
  simp [saved, fields, savedKeys, Field.text?]

/-- A snapshot whose items can be read: its sizes are 16-bit integers, and its addresses have no
zones. -/
structure Readable (s : Snapshot) : Prop where
  mtu : -32768 ≤ s.mtu ∧ s.mtu ≤ 32767
  ipv4Mtu : -32768 ≤ s.ipv4Mtu ∧ s.ipv4Mtu ≤ 32767
  plat : s.plat.zone = none
  hostId : s.hostId.zone = none

theorem keys_saved (s : Snapshot) : s.saved.map Prod.fst = savedKeys ++ ["plat_from_dns64"] := by
  rw [saved_eq]
  rfl

variable {s : Snapshot}

theorem isWord_of_mem_saved (readable : s.Readable) {item : String × String}
    (member : item ∈ s.saved) : Conf.IsWord item.2.toList := by
  have number (value : Int) : Conf.IsWord (String.ofList (signedDecimal value)).toList := by
    rw [String.toList_ofList]
    refine Conf.isWord_of_range fun c inside => ?_
    have range := range_of_mem_signedDecimal inside
    omega
  have address {address : IPv6} (bare : address.zone = none) :
      Conf.IsWord address.text.toList := by
    rw [IPv6.toList_text bare]
    refine Conf.isWord_of_range fun c inside => ?_
    have range := IPv6.range_of_mem_renderCompressed inside
    omega
  rw [saved_eq] at member
  simp only [List.mem_cons, List.not_mem_nil, or_false] at member
  rcases member with rfl | rfl | rfl | rfl | rfl | rfl
  · exact number s.mtu
  · exact number s.ipv4Mtu
  · rw [IPv4.text, String.toList_ofList]
    refine Conf.isWord_of_range fun c inside => ?_
    have range := IPv4.range_of_mem_render inside
    omega
  · exact address readable.plat
  · exact address readable.hostId
  · decide

theorem writable_of_mem_saved (readable : s.Readable) {item : String × String}
    (member : item ∈ s.saved) : Conf.Writable item := by
  have keys : ∀ key ∈ savedKeys ++ ["plat_from_dns64"],
      Conf.IsWord key.toList ∧ key.toList ≠ [] := by
    decide
  have key : item.1 ∈ savedKeys ++ ["plat_from_dns64"] := by
    rw [← keys_saved s]
    exact List.mem_map_of_mem member
  obtain ⟨word, some⟩ := keys item.1 key
  exact ⟨word, some, isWord_of_mem_saved readable member⟩

section Lines

variable {lines : List (String × String)} (order : lines.Perm s.saved)
include order

theorem nodup_keys : (lines.map Prod.fst).Nodup := by
  have keys : (savedKeys ++ ["plat_from_dns64"]).Nodup := by decide
  rw [← keys_saved s] at keys
  exact (order.map Prod.fst).nodup_iff.2 keys

theorem get?_of_mem_saved (file : String) {key value : String} (member : (key, value) ∈ s.saved) :
    Items.get? { entries := lines, file } key = some value :=
  Items.get?_of_mem (nodup_keys order) (order.mem_iff.2 member)

end Lines

end Snapshot

end Clat
