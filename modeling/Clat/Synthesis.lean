import Clat.Address.IPv6.Text
import Clat.Checksum
import Clat.Session

/-! The local IPv6 address: the network of the uplink with an interface identifier that is
configured or random. A random one is made checksum-neutral: the local IPv4 address then has
the checksum of the local IPv6 address and the PLAT network together, so that translated
packets keep theirs. -/
namespace Clat.Synthesis

open Clat.Checksum

def identifierSize : Nat := 8

/-- The middle 16 bits that make an address checksum-neutral. They start at an odd offset,
so they count with their octets exchanged. -/
def neutralMiddle (address : IPv6) (ipv4 : IPv4) (plat : IPv6) : Int :=
  let before := add 0 ipv4.octets
  let after := add 0 plat.octets + add 0 address.octets
  swap16 (adjust (swap16 address.middle) before after)

/-- The address with the identifier of random octets, made checksum-neutral. -/
def neutralize (uplink : IPv6) (ipv4 : IPv4) (plat : IPv6) (random : List UInt8) :
    Except IPv6.ReplaceError IPv6 := do
  let address ← uplink.withInterfaceId random
  address.withMiddle (neutralMiddle address ipv4 plat)

/-- The replaced address, or the fault that it cannot be. -/
def orStop {α : Type} : Except IPv6.ReplaceError α → Run α
  | .ok value => return value
  | .error error => throw (.replace error)

def randomAddress (uplink : IPv6) (ipv4 : IPv4) (plat : IPv6) : Run IPv6 := do
  let random ← Session.draw identifierSize
  orStop (neutralize uplink ipv4 plat random)

/-- The local address. The unspecified identifier asks for a random one. -/
def localAddress (uplink : IPv6) (ipv4 : IPv4) (plat hostId : IPv6) : Run IPv6 := do
  if hostId.isUnspecified then
    Session.record .debug .synthesis "Generating a random checksum-neutral interface identifier"
    randomAddress uplink ipv4 plat
  else
    Session.record .debug .synthesis
      ("Using the configured interface identifier from '" ++ hostId.text ++ "'")
    orStop (uplink.withInterfaceId hostId.interfaceId)

end Clat.Synthesis
