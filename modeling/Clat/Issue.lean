import Clat.Format.Error

/-! Issues with a configuration. An issue has a cause and the path of the item it is about;
the cause fixes what kind of issue it is and its wording. -/
namespace Clat

open Clat.Number

inductive Protocol where
  | ipv4
  | ipv6
  deriving DecidableEq, Repr

def Protocol.name : Protocol → String
  | .ipv4 => "IPv4"
  | .ipv6 => "IPv6"

def Protocol.addressSize : Protocol → Nat
  | .ipv4 => 4
  | .ipv6 => 16

namespace Issue

inductive Kind where
  | general
  /-- The configuration file cannot be read or has no items. -/
  | file
  /-- The text of the configuration file is refused. -/
  | parsing
  | missing
  | format
  | resolution
  deriving DecidableEq, Repr

/-- Whether a kind is about the configuration file. -/
def Kind.isAboutFile : Kind → Bool
  | .file => true
  | .parsing => true
  | _ => false

inductive Cause where
  | stated (kind : Kind) (wording : String)
  | unreadable (file reason : String)
  | undecodable (file reason : String)
  | noItems (file : String)
  | content (error : Format.Error)
  | missing (key : String)
  | emptyNumber
  | notNumeric (text : String)
  | trailing (rest : String)
  /-- A numeral has more digits than are read; `size` is how long it is. -/
  | tooManyDigits (negative : Bool) (size : Nat)
  | tooSmall (value least : Int)
  | tooBig (value greatest : Int)
  | wrongType (declared expected shown typeName : String)
  | tooShort (text : String) (least : Int)
  | tooLong (text : String) (greatest : Int)
  | wrongSize (protocol : Protocol) (size : Nat)
  | badAddress (protocol : Protocol) (text : String)
  | notAddress (protocol : Protocol) (shown typeName : String)
  | noInterfaceAddress (interface : String)
  | noPlat
  deriving DecidableEq, Repr

def Cause.kind : Cause → Kind
  | .stated kind _ => kind
  | .unreadable .. => .file
  | .undecodable .. => .file
  | .noItems _ => .file
  | .content _ => .parsing
  | .missing _ => .missing
  | .noInterfaceAddress _ => .resolution
  | .noPlat => .resolution
  | _ => .format

def Cause.wording : Cause → String
  | .stated _ wording => wording
  | .unreadable file reason => "Could not read config file " ++ file ++ ": " ++ reason
  | .undecodable file reason => "Could not decode config file " ++ file ++ ": " ++ reason
  | .noItems file => "Could not read config file " ++ file
  | .content error => error.wording
  | .missing key => key ++ " config item needed"
  | .emptyNumber => "config item is not numeric: empty value"
  | .notNumeric text => "config item is not numeric: " ++ text
  | .trailing rest => "config item contains non-numeric characters: " ++ rest
  | .tooManyDigits negative size =>
    "config item is too " ++ (if negative then "small" else "big") ++ ": " ++ toString size
      ++ " digits"
  | .tooSmall value least =>
    "config item is too small: " ++ String.ofList (signedDecimal value)
      ++ " is lower than the minimum " ++ String.ofList (signedDecimal least)
  | .tooBig value greatest =>
    "config item is too big: " ++ String.ofList (signedDecimal value)
      ++ " is higher than the maximum " ++ String.ofList (signedDecimal greatest)
  | .wrongType declared expected shown typeName =>
    "Unexpected value for '" ++ declared ++ "'. Expected " ++ expected ++ ", got '" ++ shown
      ++ "' with type '" ++ typeName ++ "'"
  | .tooShort text least =>
    "the string value '" ++ text ++ "' is shorter than the minimum "
      ++ String.ofList (signedDecimal least) ++ " bytes"
  | .tooLong text greatest =>
    "the string value '" ++ text ++ "' is longer than the maximum "
      ++ String.ofList (signedDecimal greatest) ++ " bytes"
  | .wrongSize protocol size =>
    "expected " ++ toString protocol.addressSize ++ " bytes of " ++ protocol.name
      ++ " address, got " ++ toString size
  | .badAddress protocol text => "invalid " ++ protocol.name ++ " address specified: " ++ text
  | .notAddress protocol shown typeName =>
    "Unexpected value for a " ++ protocol.name ++ " address. Expected string, got '" ++ shown
      ++ "' with type '" ++ typeName ++ "'"
  | .noInterfaceAddress interface => "unable to find an ipv6 ip on interface " ++ interface
  | .noPlat => "plat_from_dns64 disabled, but no plat_subnet specified"

end Issue

/-- An issue; the path is empty if it is about no item. -/
structure Issue where
  cause : Issue.Cause
  path : String := ""
  deriving DecidableEq, Repr

namespace Issue

def kind (issue : Issue) : Kind := issue.cause.kind

def message (issue : Issue) : String :=
  let wording :=
    if issue.kind.isAboutFile then "file error: " ++ issue.cause.wording else issue.cause.wording
  if issue.path = "" then wording else "[" ++ issue.path ++ "] " ++ wording

end Issue
end Clat
