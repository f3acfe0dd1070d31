import Clat.Format.Yaml.Moment
import Clat.Number.FloatText

/-! Values of YAML nodes. A configuration holds scalars; of a collection inside it only the
kind matters, so a collection stands for all of its kind. -/
namespace Clat.Format.Yaml

open Clat.Number Clat.Text

inductive Collection where
  | list
  | mapping
  | set
  deriving DecidableEq, Repr

inductive Value where
  | null
  | truth (value : Bool)
  | integer (value : Int)
  | float (value : Binary64)
  /-- The value written `.nan`, one and the same wherever it is written. -/
  | notANumber
  | text (value : String)
  | octets (value : List UInt8)
  | date (value : Date)
  | time (value : DateTime)
  | collection (kind : Collection)

namespace Value

def integer? : Value → Option Int
  | .truth value => some (if value then 1 else 0)
  | .integer value => some value
  | _ => none

/-- Whether two values are one key. Numbers are compared by what they are worth, truth
values among them. -/
def same (value other : Value) : Bool :=
  match value, other with
  | .null, .null => true
  | .notANumber, .notANumber => true
  | .text s, .text t => s == t
  | .octets s, .octets t => s == t
  | .date s, .date t => s == t
  | .time s, .time t => s.same t
  | .float x, .float y => x.equals y
  | .float x, other => other.integer?.any x.equalsInt
  | value, .float y => value.integer?.any y.equalsInt
  | value, other =>
    match value.integer?, other.integer? with
    | some i, some j => i == j
    | _, _ => false

def typeName : Value → String
  | .null => "NoneType"
  | .truth _ => "bool"
  | .integer _ => "int"
  | .float _ => "float"
  | .notANumber => "float"
  | .text _ => "str"
  | .octets _ => "bytes"
  | .date _ => "date"
  | .time _ => "datetime"
  | .collection .list => "list"
  | .collection .mapping => "dict"
  | .collection .set => "set"

end Value
end Clat.Format.Yaml
