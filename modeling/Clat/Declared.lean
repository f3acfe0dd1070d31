import Clat.Defaults
import Clat.Issue
import Clat.Text.Loose
import Clat.Text.Utf8
import Clat.Value

/-! Declared types of configuration values. A declaration names what is checked; a declared
value is a loose value under a declaration, with the path it is reported at. -/
namespace Clat

open Clat.Number Clat.Text

inductive Check where
  /-- The declaration is a base for others and asks nothing that could be checked. -/
  | unspecified
  | integer (least greatest : Option Int)
  /-- A text whose UTF-8 form has a size within bounds. -/
  | string (least greatest : Option Int)
  deriving DecidableEq, Repr

structure Declaration where
  name : String
  check : Check
  /-- Whether the declaration was made for one value; then it is like no other. -/
  single : Bool := false
  deriving DecidableEq, Repr

namespace Declaration

def int16 : Declaration := ⟨"Int16", .integer (some (-32768)) (some 32767), false⟩

/-- The greatest size of the name of a network interface: it has to fit a kernel buffer with an
octet that ends it. -/
def longestName : Int := (Defaults.interfaceNameSize - 1 : Nat)

def interfaceName : Declaration :=
  ⟨"InterfaceName", .string (some 1) (some longestName), false⟩

end Declaration

inductive Refusal where
  | issue (issue : Issue)
  /-- The value cannot be written in the wording of the issue. -/
  | unwritable (error : IntegerError)
  /-- The text has no UTF-8 form whose size could be checked. -/
  | unencodable (error : EncodingError)
  /-- The declaration asks nothing that could be checked. -/
  | unspecified
  deriving DecidableEq, Repr

structure Declared where
  declaration : Declaration
  value : Value
  path : String := "/"

namespace Declared

def shown (d : Declared) : Except IntegerError String := d.value.shown

def described (d : Declared) : Except IntegerError String :=
  (d.declaration.name ++ "(\"" ++ · ++ "\")") <$> d.shown

def refuse (d : Declared) (cause : Issue.Cause) : Except Refusal Unit :=
  .error (.issue ⟨cause, d.path⟩)

def refuseType (d : Declared) (expected : String) : Except Refusal Unit := do
  let shown ← d.shown.mapError .unwritable
  d.refuse (.wrongType d.declaration.name expected shown d.value.typeName)

def checkRange (d : Declared) (value : Int) (least greatest : Option Int) :
    Except Refusal Unit := do
  if least.any (value < ·) then
    let _ ← (writeInteger value).mapError Refusal.unwritable
    d.refuse (.tooSmall value (least.getD 0))
  else if greatest.any (· < value) then
    let _ ← (writeInteger value).mapError Refusal.unwritable
    d.refuse (.tooBig value (greatest.getD 0))
  else return ()

/-- Checks that the size of a text is within bounds, and gives the text. -/
def checkSize (path : String) (loose : LooseText) (least greatest : Option Int) :
    Except Refusal String := do
  let text ← loose.text.mapError .unencodable
  let size : Int := utf8Length text.toList
  if least.any (size < ·) then
    .error (.issue ⟨.tooShort text (least.getD 0), path⟩)
  else if greatest.any (· < size) then
    .error (.issue ⟨.tooLong text (greatest.getD 0), path⟩)
  else return text

/-- Checks the value. A truth value is not an integer. -/
def validate (d : Declared) : Except Refusal Unit :=
  match d.declaration.check, d.value with
  | .unspecified, _ => .error .unspecified
  | .integer least greatest, .integer value => d.checkRange value least greatest
  | .integer _ _, _ => d.refuseType "integer"
  | .string least greatest, .text text =>
    (checkSize d.path text least greatest).map fun _ => ()
  | .string _ _, _ => d.refuseType "string"

/-- Checks the name of an interface as it comes from outside. -/
def validateName (path : String) (name : LooseText) : Except Refusal String :=
  checkSize path name (some 1) (some Declaration.longestName)

-- A name that is a text is checked as a value of that type is.
example (path text : String) :
    (validateName path text).map (fun _ => ()) = validate ⟨.interfaceName, .text text, path⟩ := rfl

/-- Whether two declared values are equal: they have one declaration and equal values. -/
def same (d other : Declared) : Bool :=
  d.declaration == other.declaration && !d.declaration.single && d.value.same other.value

end Declared

namespace IPv4

def ofValue (path : String) : Value → Except Refusal IPv4
  | .ipv4 address => .ok address
  | .octets octets =>
    match ofOctets? octets with
    | some address => .ok address
    | none => .error (.issue ⟨.wrongSize .ipv4 octets.length, path⟩)
  | .text text =>
    match ofText? text with
    | some address => .ok address
    | none => .error (.issue ⟨.badAddress .ipv4 text, path⟩)
  | value => do
    let shown ← value.shown.mapError Refusal.unwritable
    .error (.issue ⟨.notAddress .ipv4 shown value.typeName, path⟩)

def read (path text : String) : Except Issue IPv4 :=
  match ofText? text with
  | some address => .ok address
  | none => .error ⟨.badAddress .ipv4 text, path⟩

end IPv4

namespace IPv6

def ofValue (path : String) : Value → Except Refusal IPv6
  | .ipv6 address => .ok address
  | .octets octets =>
    match ofOctets? octets with
    | some address => .ok address
    | none => .error (.issue ⟨.wrongSize .ipv6 octets.length, path⟩)
  | .text text =>
    match ofText? text with
    | some address => .ok address
    | none => .error (.issue ⟨.badAddress .ipv6 text, path⟩)
  | value => do
    let shown ← value.shown.mapError Refusal.unwritable
    .error (.issue ⟨.notAddress .ipv6 shown value.typeName, path⟩)

def read (path text : String) : Except Issue IPv6 :=
  match ofText? text with
  | some address => .ok address
  | none => .error ⟨.badAddress .ipv6 text, path⟩

end IPv6
end Clat
