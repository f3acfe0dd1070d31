import Clat.Load
import Clat.Plat
import Clat.Snapshot
import Clat.Synthesis
import Clat.Uplink

/-! Assembling a configuration. Stages follow each other in a fixed order, and the first
issue ends the run. -/
namespace Clat.Assembly

open Clat.Text

/-- What a configuration is assembled from, apart from the files. -/
structure Request where
  file : String
  /-- The name of the uplink, as it comes from outside. -/
  interface : LooseText
  /-- The network of the provider, if the command line gives it. -/
  plat : Option String := none
  network : Int := Defaults.defaultNetwork
  lookup : Lookup := .resolver
  deriving DecidableEq, Repr

/-- The path that issues with the uplink are reported at. -/
def uplinkPath : String := "/uplink_interface"

/-- The name of the uplink, which has to fit. -/
def checkInterface (name : LooseText) : Stage String :=
  orRefuse (Declared.validateName uplinkPath name)

/-- The address of the uplink, which has to have one. -/
def uplinkAddress (find : Finder) (name : String) : Stage IPv6 := do
  match ← (Session.lookUp find name : Run (Option IPv6)) with
  | some address => return address
  | none => fail ⟨.noInterfaceAddress name, uplinkPath⟩

/-- Assembles a configuration, with a way to find the address of the uplink. -/
def assembleWith (files : Files) (find : Finder) (request : Request) : Stage Snapshot := do
  let items ← Load.configuration files request.file
  let interface ← checkInterface request.interface
  let mtu ← Reader.int16 items "mtu" (some Defaults.mtu)
  let ipv4Mtu ← Reader.int16 items "ipv4mtu" (some Defaults.mtu)
  let ipv4 ← Reader.ipv4 items "ipv4_local_subnet" (some Defaults.ipv4LocalSubnet)
  let plat ← Plat.resolve items request.plat request.network request.lookup
  let hostId ← Reader.ipv6 items "ipv6_host_id" (some Defaults.ipv6HostId)
  let uplink ← uplinkAddress find interface
  let ipv6 ← (Synthesis.localAddress uplink ipv4 plat.network hostId : Run IPv6)
  (Session.record .info .assembler ("Using " ++ ipv6.text ++ " on " ++ interface) : Run Unit)
  return {
    interface, mtu, ipv4Mtu, ipv4, ipv6, hostId
    plat := plat.network
    hostname := plat.hostname }

/-- Assembles a configuration on a host with some interfaces. -/
def assemble (files : Files) (table : Uplink.Table) (request : Request) : Stage Snapshot :=
  assembleWith files (Uplink.finder table) request

end Clat.Assembly
