import Clat.Assembly
import Clat.Proofs.Load
import Clat.Proofs.Plat

/-! Items that do not count. After loading, an assembly looks at a file through seven keys and
nothing else, so two files whose items agree on them are assembled by one run: the outcome, the
events and the records are the same, whatever the files are called, whatever notation they are in
and whatever else they hold. -/
namespace Clat

namespace Items

/-- The keys that an assembly looks up. -/
def known : List String := [
  "mtu", "ipv4mtu", "ipv4_local_subnet", "plat_from_dns64", "plat_subnet",
  "plat_from_dns64_hostname", "ipv6_host_id"]

/-- Items that are told apart by nothing an assembly looks at: they stand under one path, and each
known key is absent in both or has one text in both. -/
structure Agree (items other : Items) : Prop where
  path : other.path = items.path
  known : ∀ key ∈ known, other.get? key = items.get? key

end Items

namespace Reader

variable {items other : Items} {key : String}

theorem string_congr (path : other.path = items.path) (same : other.get? key = items.get? key)
    (default : Option String) : string other key default = string items key default := by
  unfold string Items.getOr Items.pathOf
  rw [path, same]

/-- A reader of another type looks at the text of one key, and at the path for its issues. -/
theorem parsed_congr {α : Type} (parse : String → String → Stage α)
    (path : other.path = items.path) (same : other.get? key = items.get? key)
    (default : Option String) :
    (string other key default >>= parse (other.pathOf key)) =
      (string items key default >>= parse (items.pathOf key)) := by
  rw [string_congr path same, Items.pathOf, Items.pathOf, path]

end Reader

namespace Plat

variable {items other : Items}

theorem fromItems_congr (agree : items.Agree other) : fromItems other = fromItems items := by
  have reads : Reader.ipv6 other "plat_subnet" none = Reader.ipv6 items "plat_subnet" none :=
    Reader.parsed_congr (orFail <| IPv6.read · ·) agree.path (agree.known _ (by decide)) none
  rw [fromItems, fromItems, reads, Items.pathOf, Items.pathOf, agree.path]

theorem fromDiscovery_congr (agree : items.Agree other) (network : Int) (lookup : Lookup) :
    fromDiscovery other network lookup = fromDiscovery items network lookup := by
  rw [fromDiscovery, fromDiscovery,
    Reader.string_congr agree.path (agree.known _ (by decide))]

/-- Whatever the source of the network is, it is the same stage. -/
theorem resolve_agree (agree : items.Agree other) (override : Option String) (network : Int)
    (lookup : Lookup) : resolve other override network lookup
      = resolve items override network lookup := by
  cases override with
  | some text => rfl
  | none =>
    rw [resolve_none, resolve_none, agree.known _ (by decide), fromItems_congr agree,
      fromDiscovery_congr agree]

end Plat

namespace Assembly

variable {files files' : Files} {request : Request} {file' : String} {items other : Items}

/-- Two files with some items that agree on the known keys are assembled by the same run: from any
session both come to the same snapshot, issue or fault, and leave the same session behind. -/
theorem assembleWith_agree (find : Finder) (loaded : Load.items files request.file = .ok items)
    (filled : items.isEmpty = false) (loaded' : Load.items files' file' = .ok other)
    (filled' : other.isEmpty = false)
    (known : ∀ key ∈ Items.known, other.get? key = items.get? key) (s : Session) :
    (assembleWith files' find { request with file := file' }).on s
      = (assembleWith files find request).on s := by
  have path : other.path = items.path := by
    rw [Load.path_of_items loaded, Load.path_of_items loaded']
  have agree : items.Agree other := ⟨path, known⟩
  have mtu := Reader.parsed_congr (orRefuse <| Reader.parseInt16 · ·) path
    (known "mtu" (by decide)) (some Defaults.mtu)
  have ipv4Mtu := Reader.parsed_congr (orRefuse <| Reader.parseInt16 · ·) path
    (known "ipv4mtu" (by decide)) (some Defaults.mtu)
  have ipv4 := Reader.parsed_congr (orFail <| IPv4.read · ·) path (known "ipv4_local_subnet" (by decide))
    (some Defaults.ipv4LocalSubnet)
  have hostId := Reader.parsed_congr (orFail <| IPv6.read · ·) path (known "ipv6_host_id" (by decide))
    (some Defaults.ipv6HostId)
  unfold assembleWith
  rw [Stage.on_bind, Stage.on_bind, Load.configuration_filled loaded filled,
    Load.configuration_filled loaded' filled']
  simp only [Reader.int16, Reader.ipv4, Reader.ipv6, mtu, ipv4Mtu, ipv4, hostId,
    Plat.resolve_agree agree]

/-- Items in two notations and two orders. Each file holds an item that the other does not. -/
def twoNotations : Files where
  working := { files := [
    (["clatd.conf"],
      "mtu 1400\ncolour blue\nplat_subnet 64:ff9b::\nplat_from_dns64 no\n".toUTF8.toList),
    (["clatd.json"],
      "\x7b\"plat_from_dns64\": false, \"mtu\": 1400, \"plat_subnet\": \"64:ff9b::\", \"x\": null\x7d".toUTF8.toList)] }

theorem assembleWith_agree_twoNotations :
    let request : Request := { file := "clatd.conf", interface := "wwan0" }
    let items : Items := {
      entries := [("mtu", "1400"), ("colour", "blue"), ("plat_subnet", "64:ff9b::"),
        ("plat_from_dns64", "no")]
      file := "clatd.conf" }
    let other : Items := {
      entries := [("plat_from_dns64", "no"), ("mtu", "1400"), ("plat_subnet", "64:ff9b::"),
        ("x", "")]
      file := "clatd.json" }
    Load.items twoNotations request.file = .ok items ∧ items.isEmpty = false ∧
      Load.items twoNotations "clatd.json" = .ok other ∧ other.isEmpty = false ∧
      (∀ key ∈ Items.known, other.get? key = items.get? key) ∧
      ∀ find s, (assembleWith twoNotations find { request with file := "clatd.json" }).on s
        = (assembleWith twoNotations find request).on s := by
  intro request items other
  have loaded : Load.items twoNotations request.file = .ok items := by decide +kernel
  have loaded' : Load.items twoNotations "clatd.json" = .ok other := by decide +kernel
  have known : ∀ key ∈ Items.known, other.get? key = items.get? key := by decide
  exact ⟨loaded, rfl, loaded', rfl, known,
    fun find s => assembleWith_agree find loaded rfl loaded' rfl known s⟩

end Assembly

end Clat
