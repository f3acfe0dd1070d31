import Clat.Format.Json.Stop
import Clat.Format.Yaml.Stop

/-! Why the text of a configuration is refused. -/
namespace Clat.Format

open Clat.Number

/-- A place in a text: characters before it, and line and column from one. -/
structure Position where
  offset : Nat
  line : Nat
  column : Nat
  deriving DecidableEq, Repr

def Position.ofLeft (text : List Char) (left : Nat) : Position :=
  let passed := text.take (text.length - left)
  { offset := passed.length
    line := passed.count '\n' + 1
    column := (passed.reverse.takeWhile (· ≠ '\n')).length + 1 }

inductive Error where
  | repeatedLine (key : String) (line : Nat)
  | repeatedName (name : String)
  | repeatedKey (place : Yaml.Mark)
  | json (what : Json.Defect) (place : Position)
  | yaml
  | construction (trouble : Yaml.Trouble)
  | notMapping (typeName : String)
  | notScalar (key typeName : String)
  deriving DecidableEq, Repr

def Error.wording : Error → String
  | .repeatedLine key line => "duplicate key detected: '" ++ key ++ "' on line " ++ toString line
  | .repeatedName name => "duplicate key detected: " ++ name
  | .repeatedKey place => "duplicate key detected: " ++ String.ofList place.describe
  | .json what place =>
    "failed to parse JSON: " ++ what.wording ++ ": line " ++ toString place.line ++ " column "
      ++ toString place.column ++ " (char " ++ toString place.offset ++ ")"
  | .yaml => "failed to parse YAML"
  | .construction trouble => "failed to parse YAML: " ++ String.ofList trouble.describe
  | .notMapping typeName => "expected a mapping of configuration items, got '" ++ typeName ++ "'"
  | .notScalar key typeName =>
    "expected a scalar value for '" ++ key ++ "', got '" ++ typeName ++ "'"

/-- Why a text gives no items: it is refused, or a scalar in it does not denote a value. -/
inductive Failure where
  | refused (error : Error)
  | fault (fault : ScalarFault)
  deriving DecidableEq, Repr

end Clat.Format
