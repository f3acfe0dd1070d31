import Clat.Address.IPv6.Text
import Clat.Defaults
import Clat.Session

/-! The NAT64 network behind DNS64 answers. A resolver that synthesizes records puts a
well-known IPv4 address into the last four octets; the twelve octets before it are the
network. -/
namespace Clat.Nat64

def wellKnown : List (List UInt8) :=
  (Defaults.wellKnownAddresses.filterMap IPv4.ofText?).map IPv4.octets

def networkSize : Nat := 12

def networkOf (address : IPv6) : IPv6 where
  octets := address.octets.take networkSize ++ List.replicate 4 0
  size_eq := by simp [networkSize, address.size_eq]

/-- Whether an address has a well-known IPv4 address in it. -/
def embedsWellKnown (address : IPv6) : Bool :=
  wellKnown.contains (address.octets.drop networkSize)

/-- The network that the first usable answer gives away. -/
def fromAnswers : List String → Run (Option IPv6)
  | [] => return none
  | text :: rest => do
    match IPv6.ofScopedText? text with
    | none =>
      Session.record .debug .discovery ("Ignoring malformed AAAA answer '" ++ text ++ "'")
      fromAnswers rest
    | some address =>
      if embedsWellKnown address then return some (networkOf address)
      else
        Session.record .debug .discovery
          ("AAAA answer '" ++ text ++ "' does not embed a well-known IPv4 address")
        fromAnswers rest

end Clat.Nat64
