import Clat.Address.IPv6.Text
import Clat.Session

/-! The snapshot of a configuration, and the store that holds the one in force. A snapshot is
replaced as a whole and never changed. -/
namespace Clat

open Clat.Number Clat.Text

structure Snapshot where
  interface : String
  mtu : Int
  ipv4Mtu : Int
  ipv4 : IPv4
  ipv6 : IPv6
  plat : IPv6
  hostId : IPv6
  /-- The host name that the network of the provider was discovered with. -/
  hostname : Option String := none
  deriving DecidableEq

namespace Snapshot

inductive Field where
  | text (value : String)
  | integer (value : Int)
  | absent
  deriving DecidableEq, Repr

def fields (s : Snapshot) : List (String × Field) := [
  ("uplink_interface_name", .text s.interface),
  ("mtu", .integer s.mtu),
  ("ipv4mtu", .integer s.ipv4Mtu),
  ("ipv4_local_subnet", .text s.ipv4.text),
  ("ipv6_local_subnet", .text s.ipv6.text),
  ("plat_subnet", .text s.plat.text),
  ("ipv6_host_id", .text s.hostId.text),
  ("plat_from_dns64_hostname",
    match s.hostname with
    | none => .absent
    | some hostname => .text hostname)]

structure Frozen where
  field : String
  deriving DecidableEq, Repr

def Frozen.message (frozen : Frozen) : String :=
  "cannot assign to field " ++ String.ofList (quoted frozen.field.toList)

def assign (_ : Snapshot) (field : String) : Except Frozen Snapshot := .error ⟨field⟩

def dump (s : Snapshot) : Run Unit := do
  let line (name value : String) : Run Unit :=
    Session.record .debug .assembler (name ++ " = " ++ value)
  line "mtu" (String.ofList (signedDecimal s.mtu))
  line "ipv4mtu" (String.ofList (signedDecimal s.ipv4Mtu))
  line "ipv6_local_subnet" s.ipv6.text
  line "ipv4_local_subnet" s.ipv4.text
  line "plat_subnet" s.plat.text
  line "default_pdp_interface" s.interface

end Snapshot

structure Store where
  current : Option Snapshot := none
  deriving DecidableEq

namespace Store

structure Empty where
  deriving DecidableEq, Repr

def Empty.message (_ : Empty) : String := "configuration has not been assembled"

def replace (store : Store) (snapshot : Snapshot) : Run Store := do
  match store.current with
  | none => pure ()
  | some former =>
    Session.record .debug .store
      ("Replacing the configuration of interface " ++ former.interface)
  return { current := some snapshot }

def get (store : Store) : Except Empty Snapshot :=
  match store.current with
  | none => .error {}
  | some snapshot => .ok snapshot

end Store
end Clat
