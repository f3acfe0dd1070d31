import Clat.Number.Digits

/-! Base 64. Characters outside the alphabet are passed over. Padding that completes a group
of four ends the data. -/
namespace Clat.Format.Yaml

open Clat.Number

def sextet? (c : Char) : Option Nat :=
  let n := c.toNat
  if 65 ≤ n && n ≤ 90 then some (n - 65)
  else if 97 ≤ n && n ≤ 122 then some (n - 71)
  else if 48 ≤ n && n ≤ 57 then some (n + 4)
  else if c = '+' then some 62
  else if c = '/' then some 63
  else none

inductive Base64Error where
  /-- A group has too few characters and no padding. -/
  | padding
  /-- One character is left over; `count` is how many there are. -/
  | excess (count : Nat)
  deriving DecidableEq, Repr

def Base64Error.message : Base64Error → String
  | .padding => "Incorrect padding"
  | .excess count =>
    "Invalid base64-encoded string: number of data characters (" ++ toString count
      ++ ") cannot be 1 more than a multiple of 4"

/-- What ends the data inside a group: nothing, if the group is complete. -/
def endGroup (done : List Nat) (place : Nat) : Except Base64Error (List Nat) :=
  match place with
  | 0 => .ok done.reverse
  | 1 => .error (.excess (done.length / 3 * 4 + 1))
  | _ => .error .padding

/-- Decodes from inside a group: octets so far, last first, the place in the group, the
bits not used yet, and the padding in a row. -/
def decodeGroups (done : List Nat) (place bits pads : Nat) : List Char → Except Base64Error (List Nat)
  | [] => endGroup done place
  | c :: rest =>
    if c = '=' then
      if 2 ≤ place then
        if 4 ≤ place + pads + 1 then .ok done.reverse
        else decodeGroups done place bits (pads + 1) rest
      else decodeGroups done place bits pads rest
    else
      match sextet? c with
      | none => decodeGroups done place bits pads rest
      | some value =>
        match place with
        | 0 => decodeGroups done 1 value 0 rest
        | 1 => decodeGroups ((bits * 4 + value / 16) :: done) 2 (value % 16) 0 rest
        | 2 => decodeGroups ((bits * 16 + value / 4) :: done) 3 (value % 4) 0 rest
        | _ => decodeGroups ((bits * 64 + value) :: done) 0 0 0 rest

def decodeBase64 (text : List Char) : Except Base64Error (List UInt8) :=
  (decodeGroups [] 0 0 0 text).map fun octets => octets.map UInt8.ofNat

end Clat.Format.Yaml
