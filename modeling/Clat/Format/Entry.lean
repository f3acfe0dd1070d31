import Clat.Format.Error
import Clat.Format.Json.Value
import Clat.Format.Yaml.Value

/-! Entries of a document. Items are text, so the scalars of typed notations are written
back as text. -/
namespace Clat.Format

open Clat.Number Clat.Text

/-- What an entry holds, as far as items are concerned. -/
inductive Holding where
  | null
  | truth (value : Bool)
  | integer (value : Int)
  | float (value : Binary64)
  | text (value : String)
  | other (typeName : String)

/-- A document: nothing, a mapping from keys to holdings, or anything else by the name of
its type. -/
inductive Document where
  | nothing
  | mapping (entries : List (Holding × Holding))
  | other (typeName : String)

def integerText (value : Int) : Except Failure String :=
  match writeInteger value with
  | .ok text => .ok (String.ofList text)
  | .error error => .error (.fault (.integer error))

/-- The text of a value. Truth values are yes or no, and nothing is the empty text. -/
def Holding.valueText (key : String) : Holding → Except Failure String
  | .null => .ok ""
  | .truth value => .ok (if value then "yes" else "no")
  | .integer value => integerText value
  | .float value => .ok (String.ofList value.text)
  | .text value => .ok value
  | .other typeName => .error (.refused (.notScalar key typeName))

def Holding.keyText : Holding → Except Failure String
  | .null => .ok "None"
  | .truth value => .ok (if value then "True" else "False")
  | .integer value => integerText value
  | .float value => .ok (String.ofList value.text)
  | .text value => .ok value
  | .other typeName => .ok typeName

/-- Sets an item. An item that is there keeps its position. -/
def setItem (items : List (String × String)) (key value : String) : List (String × String) :=
  if (items.lookup key).isSome then
    items.map fun (k, v) => if k == key then (k, value) else (k, v)
  else items ++ [(key, value)]

/-- The items of entries, added to those before. Of entries whose keys have one text the
last one counts. -/
def itemsOf (items : List (String × String)) :
    List (Holding × Holding) → Except Failure (List (String × String))
  | [] => .ok items
  | (key, value) :: rest => do
    let key ← key.keyText
    let value ← value.valueText key
    itemsOf (setItem items key value) rest

def Document.items : Document → Except Failure (List (String × String))
  | .nothing => .ok []
  | .mapping entries => itemsOf [] entries
  | .other typeName => .error (.refused (.notMapping typeName))

def Json.holding : Json → Holding
  | .null => .null
  | .truth value => .truth value
  | .integer value => .integer value
  | .float value => .float value
  | .string value => .text value
  | .array _ => .other "list"
  | .object _ => .other "dict"

def Json.document : Json → Document
  | .null => .nothing
  | .object members => .mapping (members.map fun (name, value) => (.text name, value.holding))
  | .truth _ => .other "bool"
  | .integer _ => .other "int"
  | .float _ => .other "float"
  | .string _ => .other "str"
  | .array _ => .other "list"

namespace Yaml

/-- What a YAML value is as the value of an entry. -/
def Value.holding : Value → Holding
  | .null => .null
  | .truth value => .truth value
  | .integer value => .integer value
  | .float value => .float value
  | .notANumber => .float .nan
  | .text value => .text value
  | value => .other value.typeName

/-- What a YAML value is as the key of an entry; dates and octets have a text too. -/
def Value.keyHolding : Value → Holding
  | .octets value => .text (String.ofList (quotedOctets value))
  | .date value => .text (String.ofList value.text)
  | .time value => .text (String.ofList value.text)
  | value => value.holding

/-- What a YAML value and its entries are as a document. -/
def Value.document (entries : List (Value × Value)) : Value → Document
  | .null => .nothing
  | .collection .mapping =>
    .mapping (entries.map fun (key, value) => (key.keyHolding, value.holding))
  | value => .other value.typeName

end Yaml
end Clat.Format
