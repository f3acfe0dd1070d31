import Clat.Address.IPv6.Text
import Clat.Session

/-! The address of the uplink. -/
namespace Clat.Uplink

open Clat.Text

inductive Family where
  | ipv4
  | ipv6
  | other
  deriving DecidableEq, Repr

abbrev Table := List (String × List (Family × String))

def entries (table : Table) (name : String) : List (Family × String) :=
  (table.lookup name).getD []

def dropZone (text : String) : String := String.ofList (splitFirst '%' text.toList).1

/-- The IPv6 addresses among the addresses of an interface. -/
def usable (name : String) : List (Family × String) → Run (List IPv6)
  | [] => return []
  | (family, text) :: rest => do
    if family = .ipv6 then
      match IPv6.ofText? (dropZone text) with
      | some address => return address :: (← usable name rest)
      | none =>
        Session.record .debug .uplink
          ("Ignoring unparsable address '" ++ text ++ "' on interface " ++ name)
        usable name rest
    else usable name rest

/-- The address to use of several: the first that is more than link-local, or else the
first. -/
def choose (addresses : List IPv6) : Option IPv6 :=
  match addresses.find? (!·.isLinkLocal) with
  | some address => some address
  | none => addresses.head?

def address (table : Table) (name : String) : Run (Option IPv6) := do
  return choose (← usable name (entries table name))

def finder (table : Table) : Finder := fun name =>
  let (result, session) := (address table name).run {}
  { result, log := session.log }

end Clat.Uplink
