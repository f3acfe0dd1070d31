import Clat.Text.Blank
import Clat.Text.Lines
import Clat.Uplink

/-! What a host says about itself in the status texts of its kernel. -/
namespace Clat.Host

open Clat.Number Clat.Text

/-- The octets that pairs of hexadecimal digits stand for. -/
def hexOctets : List Char → List UInt8
  | high :: low :: rest => UInt8.ofNat (ofDigits 16 [high, low]) :: hexOctets rest
  | _ => []

/-- The interface and the address that a line of the address table names. -/
def addressLine? (line : List Char) : Option (String × IPv6) :=
  match words line with
  | [digits, _, _, _, _, name] =>
    (IPv6.ofOctets? (hexOctets digits)).map fun address => (String.ofList name, address)
  | _ => none

def interfaces (table : String) : Uplink.Table :=
  let found := (lines table.toList).filterMap addressLine?
  (found.map (·.1)).eraseDups.map fun name =>
    (name, (found.filter (·.1 = name)).map fun (_, address) => (.ipv6, address.text))

/-- The second of the boot that the statistics name. -/
def bootSecond (statistics : String) : Nat :=
  ((lines statistics.toList).findSome? fun line =>
    match words line with
    | [name, second] => if name = "btime".toList then some (ofDigits 10 second) else none
    | _ => none).getD 0

/-- The milliseconds since the boot; the text gives hundredths of a second. -/
def upMilliseconds (uptime : String) : Nat :=
  match words uptime.toList with
  | [] => 0
  | word :: _ => ofDigits 10 (word.filter isAsciiDigit) * 10

/-- The number of a process by its own statistics. -/
def processNumber (statistics : String) : Nat :=
  match words statistics.toList with
  | [] => 0
  | word :: _ => ofDigits 10 word

end Clat.Host
