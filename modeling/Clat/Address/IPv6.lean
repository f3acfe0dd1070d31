import Clat.Address.IPv4

/-! IPv6 addresses: sixteen octets and, for an address that comes from an interface, a
zone. The low eight octets are the interface identifier inside a /64 network. The middle
16 bits are octets 11 and 12, the part of the identifier that a checksum-neutral address
adjusts. -/
namespace Clat

structure IPv6 where
  octets : List UInt8
  zone : Option String := none
  size_eq : octets.length = 16
  deriving DecidableEq, Repr

namespace IPv6

def ofOctets? (octets : List UInt8) : Option IPv6 :=
  if h : octets.length = 16 then some { octets, size_eq := h } else none

def unspecified : IPv6 := { octets := List.replicate 16 0, size_eq := by simp }

instance : Inhabited IPv6 := ⟨unspecified⟩

def toNat (address : IPv6) : Nat :=
  address.octets.foldl (fun n octet => n * 256 + octet.toNat) 0

def network (address : IPv6) : List UInt8 := address.octets.take 8

def interfaceId (address : IPv6) : List UInt8 := address.octets.drop 8

def middleOffset : Nat := 11

def middle (address : IPv6) : Nat :=
  (address.octets.getD middleOffset 0).toNat * 256
    + (address.octets.getD (middleOffset + 1) 0).toNat

def isUnspecified (address : IPv6) : Bool := address.octets.all (· == 0)

def isLinkLocal (address : IPv6) : Bool :=
  address.octets.getD 0 0 == 0xfe && (address.octets.getD 1 0).toNat / 64 == 2

/-- Whether two addresses have the same /64 network. -/
def sameNetwork (address other : IPv6) : Bool := address.network == other.network

inductive ReplaceError where
  /-- An interface identifier does not have eight octets. -/
  | badIdentifier (size : Nat)
  | badMiddle (value : Int)
  deriving DecidableEq, Repr

def ReplaceError.message : ReplaceError → String
  | .badIdentifier size => "expected 8 bytes of interface identifier, got " ++ toString size
  | .badMiddle value => "expected a 16-bit value, got " ++ toString value

/-- The address with another interface identifier; a zone is not kept. -/
def withInterfaceId (address : IPv6) (identifier : List UInt8) : Except ReplaceError IPv6 :=
  if h : identifier.length = 8 then
    .ok {
      octets := address.network ++ identifier
      size_eq := by simp [network, address.size_eq, h] }
  else .error (.badIdentifier identifier.length)

/-- The address with other middle 16 bits; a zone is not kept. -/
def withMiddle (address : IPv6) (value : Int) : Except ReplaceError IPv6 :=
  if 0 ≤ value ∧ value ≤ 0xffff then
    .ok {
      octets := (address.octets.set middleOffset (UInt8.ofNat (value.toNat / 256))).set
        (middleOffset + 1) (UInt8.ofNat (value.toNat % 256))
      size_eq := by simp [address.size_eq] }
  else .error (.badMiddle value)

end IPv6
end Clat
