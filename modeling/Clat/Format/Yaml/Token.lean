import Clat.Format.Yaml.Mark

/-! Tokens of YAML. -/
namespace Clat.Format.Yaml

inductive Directive where
  | version (major minor : Nat)
  | tag (handle stem : String)
  | other

inductive Token.Kind where
  | streamEnd
  | directive (directive : Directive)
  | documentStart
  | documentEnd
  | blockSequenceStart
  | blockMappingStart
  | blockEnd
  | flowSequenceStart
  | flowSequenceEnd
  | flowMappingStart
  | flowMappingEnd
  | key
  | value
  | blockEntry
  | flowEntry
  | alias (name : String)
  | anchor (name : String)
  | tag (handle : Option String) (suffix : String)
  | scalar (text : String) (plain : Bool)

/-- A token with the places where it starts and stops. -/
structure Token where
  kind : Token.Kind
  start : Mark
  stop : Mark

end Clat.Format.Yaml
