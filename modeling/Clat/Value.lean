import Clat.Address.IPv6.Text
import Clat.Number.FloatText

/-! Loose values, as they come before their type is checked. -/
namespace Clat

open Clat.Number Clat.Text

inductive Value where
  | none
  | truth (value : Bool)
  | integer (value : Int)
  | float (value : Binary64)
  | text (value : String)
  | octets (value : List UInt8)
  | list (items : List Value)
  | ipv4 (value : IPv4)
  | ipv6 (value : IPv6)

namespace Value

def typeName : Value → String
  | .none => "<class 'NoneType'>"
  | .truth _ => "<class 'bool'>"
  | .integer _ => "<class 'int'>"
  | .float _ => "<class 'float'>"
  | .text _ => "<class 'str'>"
  | .octets _ => "<class 'bytes'>"
  | .list _ => "<class 'list'>"
  | .ipv4 _ => "<class 'ipaddress.IPv4Address'>"
  | .ipv6 _ => "<class 'ipaddress.IPv6Address'>"

mutual

/-- The value inside other text: quoted, if it is text itself. -/
def quoted : Value → Except IntegerError (List Char)
  | .none => .ok "None".toList
  | .truth value => .ok (if value then "True".toList else "False".toList)
  | .integer value => writeInteger value
  | .float value => .ok value.text
  | .text value => .ok (Text.quoted value.toList)
  | .octets value => .ok (quotedOctets value)
  | .list [] => .ok "[]".toList
  | .list (item :: rest) => do
    let first ← quoted item
    return '[' :: first ++ (← quotedRest rest)
  | .ipv4 value => .ok ("IPv4Address(".toList ++ Text.quoted value.render ++ [')'])
  | .ipv6 value => .ok ("IPv6Address(".toList ++ Text.quoted value.render ++ [')'])

/-- The items of a list after the first, and the end of the list. -/
def quotedRest : List Value → Except IntegerError (List Char)
  | [] => .ok [']']
  | item :: rest => do
    let next ← quoted item
    return ',' :: ' ' :: next ++ (← quotedRest rest)

end

def shown : Value → Except IntegerError String
  | .text value => .ok value
  | .ipv4 value => .ok value.text
  | .ipv6 value => .ok value.text
  | value => String.ofList <$> value.quoted

def integer? : Value → Option Int
  | .truth value => some (if value then 1 else 0)
  | .integer value => some value
  | _ => Option.none

mutual

/-- Whether two values are equal. Numbers are equal if they are worth the same, truth values
among them. -/
def same : Value → Value → Bool
  | .none, .none => true
  | .text s, .text t => s == t
  | .octets s, .octets t => s == t
  | .list items, .list others => sameItems items others
  | .ipv4 a, .ipv4 b => a == b
  | .ipv6 a, .ipv6 b => a == b
  | .float x, .float y => x.equals y
  | .float x, other => other.integer?.any x.equalsInt
  | value, .float y => value.integer?.any y.equalsInt
  | value, other =>
    match value.integer?, other.integer? with
    | some i, some j => i == j
    | _, _ => false

def sameItems : List Value → List Value → Bool
  | [], [] => true
  | item :: rest, other :: others => same item other && sameItems rest others
  | _, _ => false

end

inductive IntegerFault where
  /-- The text is no numeral, or has too many digits. -/
  | numeral (error : IntegerError)
  | infinite
  | notANumber
  | wrongType
  deriving DecidableEq, Repr

def IntegerFault.message : IntegerFault → String
  | .numeral error => error.message
  | .infinite => "cannot convert float infinity to integer"
  | .notANumber => "cannot convert float NaN to integer"
  | .wrongType => "the value is of no type that has integers"

/-- The octets as characters of a numeral; what is not ASCII is in no numeral. -/
def numeralOf (octets : List UInt8) : List Char :=
  octets.map fun octet => if octet.toNat < 0x80 then Char.ofNat octet.toNat else '?'

def quoteLimit : Nat := 200

/-- The integer that a value stands for: a number without its fraction, a numeral, or the
number of an address. -/
def toInteger : Value → Except IntegerFault Int
  | .truth value => .ok (if value then 1 else 0)
  | .integer value => .ok value
  | .float .nan => .error .notANumber
  | .float (.infinite _) => .error .infinite
  | .float value => .ok (value.truncate?.getD 0)
  | .text value => (readInteger 10 value.toList).mapError .numeral
  | .octets value =>
    (readPlain 10 (quotedOctets (value.take quoteLimit)) (numeralOf value)).mapError .numeral
  | .ipv4 value => .ok value.toNat
  | .ipv6 value => .ok value.toNat
  | .none => .error .wrongType
  | .list _ => .error .wrongType

end Value
end Clat
