import Clat.Discovery
import Clat.Reader

/-! The network of the translator at the provider's side (PLAT). It comes from the command
line, from the configuration, or from discovery. -/
namespace Clat

/-- The network, and the host name asked for if it was discovered. -/
structure Plat where
  network : IPv6
  hostname : Option String := none
  deriving DecidableEq

namespace Plat

def insteadOf {α : Type} (stage : Stage α) (issue : Issue) : Stage α :=
  ExceptT.mk do
    match ← stage.run with
    | .ok value => return .ok value
    | .error _ => (fail issue : Stage α).run

def fromItems (items : Items) : Stage Plat := do
  let network ←
    insteadOf (Reader.ipv6 items "plat_subnet" none) ⟨.noPlat, items.pathOf "plat_subnet"⟩
  return { network }

def fromDiscovery (items : Items) (network : Int) (lookup : Lookup) : Stage Plat := do
  let hostname ←
    Reader.string items "plat_from_dns64_hostname" (some Defaults.detectionHostname)
  let found ← (Discovery.discover lookup { hostname, network } : Run IPv6)
  return { network := found, hostname := some hostname }

/-- The network for a configuration. One given on the command line goes before everything
else; the configuration decides between its own and discovery. -/
def resolve (items : Items) (override : Option String) (network : Int) (lookup : Lookup) :
    Stage Plat := do
  match override with
  | some text =>
    let found ← orFail (IPv6.read "/plat_prefix" text)
    return { network := found }
  | none =>
    if (← Reader.string items "plat_from_dns64" (some "yes")) = "no" then fromItems items
    else fromDiscovery items network lookup

end Plat
end Clat
