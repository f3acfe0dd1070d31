import Clat.Address.IPv6

/-! Text form of IPv6 addresses. Writing uses lower-case groups without zeros in front and
puts two colons for the first of the longest runs of at least two zero groups. Reading
takes any RFC 4291 form: groups of up to four hexadecimal digits, one run of zero groups
left out, and a dotted IPv4 address for the last two groups. -/
namespace Clat.IPv6

open Clat.Number Clat.Text

def groupsOf : List UInt8 → List Nat
  | high :: low :: rest => (high.toNat * 256 + low.toNat) :: groupsOf rest
  | _ => []

def octetsOf : List Nat → List UInt8
  | [] => []
  | group :: rest => UInt8.ofNat (group / 256) :: UInt8.ofNat (group % 256) :: octetsOf rest

def zeroRun (groups : List Nat) : Nat := (groups.takeWhile (· == 0)).length

/-- Start and length of the first of the longest runs of zero groups. -/
def longestZeroRun : List Nat → Nat × Nat
  | [] => (0, 0)
  | group :: rest =>
    let (start, length) := longestZeroRun rest
    let here := zeroRun (group :: rest)
    if length ≤ here then (0, here) else (start + 1, length)

/-- Groups in hexadecimal with colons between them. -/
def renderGroups (groups : List Nat) : List Char := joinWith ':' (groups.map (digits 16))

def renderCompressed (groups : List Nat) : List Char :=
  let (start, length) := longestZeroRun groups
  if 1 < length then
    renderGroups (groups.take start) ++ ':' :: ':' :: renderGroups (groups.drop (start + length))
  else renderGroups groups

/-- The text form, with a percent sign and the zone if there is one. -/
def render (address : IPv6) : List Char :=
  renderCompressed (groupsOf address.octets) ++
    match address.zone with
    | none => []
    | some zone => '%' :: zone.toList

def text (address : IPv6) : String := String.ofList address.render

def readGroup? (text : List Char) : Option Nat :=
  if text.isEmpty || 4 < text.length || !text.all (isDigitOf 16) then none
  else some (ofDigits 16 text)

/-- The parts between colons, a dotted last part replaced by its two groups. -/
def readParts? (text : List Char) : Option (List (List Char)) :=
  let parts := splitOn ':' text
  match parts.getLast? with
  | none => none
  | some last =>
    if last.contains '.' then do
      let address ← IPv4.read? last
      return parts.dropLast ++ (groupsOf address.octets).map (digits 16)
    else some parts

/-- The parts on one side of the two colons; the side that has none is one empty part. -/
def side (parts : List (List Char)) : List (List Char) := if parts = [[]] then [] else parts

def readGroups? (parts : List (List Char)) : Option (List Nat) :=
  match parts with
  | [] => none
  | first :: others =>
    let inner := others.dropLast
    if inner.contains [] then
      let front := side (first :: inner.takeWhile (· ≠ []))
      let back := side (others.drop (inner.takeWhile (· ≠ [])).length.succ)
      let left := 8 - (front.length + back.length)
      if left = 0 then none
      else do
        let front ← front.mapM readGroup?
        let back ← back.mapM readGroup?
        return front ++ List.replicate left 0 ++ back
    else if parts.length = 8 then parts.mapM readGroup?
    else none

def read? (text : List Char) : Option IPv6 := do
  let parts ← readParts? text
  let groups ← readGroups? parts
  ofOctets? (octetsOf groups)

/-- The address a text denotes, with an optional zone after a percent sign. -/
def readScoped? (text : List Char) : Option IPv6 :=
  if text.contains '/' then none
  else
    match splitFirst '%' text with
    | (text, none) => read? text
    | (text, some zone) =>
      if zone.isEmpty || zone.contains '%' then none
      else (read? text).map fun address => { address with zone := some (String.ofList zone) }

/-- The address a text denotes; a zone is refused. -/
def ofText? (text : String) : Option IPv6 :=
  if text.toList.contains '%' then none else readScoped? text.toList

def ofScopedText? (text : String) : Option IPv6 := readScoped? text.toList

end Clat.IPv6
