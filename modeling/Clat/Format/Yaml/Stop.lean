import Clat.Format.Yaml.Mark
import Clat.Number.Integer
import Clat.Text.Quoted

/-! Why reading YAML stops. A text that does not have the form of a YAML document is
refused without detail. A document whose nodes cannot become values is refused with the
places that are at odds. A scalar that does not denote a value of its declared type is a
fault. -/
namespace Clat.Format

open Clat.Number Clat.Text

/-- Why the text of a scalar does not denote a value. -/
inductive ScalarFault where
  /-- The text is no integer, or has too many digits. -/
  | integer (error : IntegerError)
  | float (text : String)
  | emptyNumber
  /-- The weight of a base-60 digit is beyond the largest floating-point number. -/
  | weightTooLarge
  | truthWord (text : String)
  | notADate
  | dateOfNoText
  | dateRange (wording : String)
  | codePoint
  | codeOverflow
  deriving DecidableEq, Repr

def ScalarFault.message : ScalarFault → String
  | .integer error => error.message
  | .float text => "could not convert string to float: " ++ String.ofList (quoted text.toList)
  | .emptyNumber => "string index out of range"
  | .weightTooLarge => "int too large to convert to float"
  | .truthWord text => String.ofList (quoted text.toList)
  | .notADate => "the text is not a date"
  | .dateOfNoText => "a date needs a text"
  | .dateRange wording => wording
  | .codePoint => "chr() arg not in range(0x110000)"
  | .codeOverflow => "the code of an escape has more than 31 bits"

namespace Yaml

/-- Why a node cannot become a value: what was being made and from where, what is wrong
and where. -/
structure Trouble where
  context : Option (String × Mark) := none
  problem : String
  place : Mark
  deriving DecidableEq, Repr

/-- The trouble in words. The place of the context is left out when it is the place of
the problem. -/
def Trouble.describe (trouble : Trouble) : List Char :=
  let context :=
    match trouble.context with
    | none => []
    | some (doing, start) =>
      doing.toList ++ '\n' :: (if start.sameAs trouble.place then [] else start.describe ++ ['\n'])
  context ++ trouble.problem.toList ++ '\n' :: trouble.place.describe

inductive Stop where
  | refused
  | trouble (trouble : Trouble)
  | repeatedKey (place : Mark)
  | fault (fault : ScalarFault)
  deriving DecidableEq, Repr

end Yaml
end Clat.Format
