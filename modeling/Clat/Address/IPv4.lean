import Clat.Number.Digits
import Clat.Text.Split

/-! IPv4 addresses. The text form has four decimal octets of one to three ASCII digits,
without a zero in front, and no other. -/
namespace Clat

open Clat.Number Clat.Text

structure IPv4 where
  a : UInt8
  b : UInt8
  c : UInt8
  d : UInt8
  deriving DecidableEq, Repr, Inhabited

namespace IPv4

def octets (address : IPv4) : List UInt8 := [address.a, address.b, address.c, address.d]

def ofOctets? : List UInt8 → Option IPv4
  | [a, b, c, d] => some ⟨a, b, c, d⟩
  | _ => none

def toNat (address : IPv4) : Nat :=
  address.octets.foldl (fun n octet => n * 256 + octet.toNat) 0

def readOctet? (text : List Char) : Option UInt8 :=
  let value := ofDigits 10 text
  if text.isEmpty || !text.all isAsciiDigit || 3 < text.length then none
  else if 1 < text.length && text.head? = some '0' then none
  else if 255 < value then none
  else some (UInt8.ofNat value)

def read? (text : List Char) : Option IPv4 :=
  match splitOn '.' text with
  | [a, b, c, d] => do
    return ⟨← readOctet? a, ← readOctet? b, ← readOctet? c, ← readOctet? d⟩
  | _ => none

def render (address : IPv4) : List Char :=
  joinWith '.' (address.octets.map fun octet => decimal octet.toNat)

def ofText? (text : String) : Option IPv4 := read? text.toList

def text (address : IPv4) : String := String.ofList address.render

end IPv4
end Clat
