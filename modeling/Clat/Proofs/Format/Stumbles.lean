import Clat.Format
import Clat.Proofs.Format.Json
import Clat.Proofs.Format.Yaml.Make

/-! Where parsing breaks down: at a scalar that has the form of its type and denotes no value
of it. The native notation has no such scalars. -/
namespace Clat.Format

open Clat.Number

/-- A text on which parsing breaks down in a notation, with the scalar that it breaks down
at. -/
inductive Stumbles (text : List Char) : Format → ScalarFault → Prop where
  /-- A JSON numeral has too many digits, and the text is JSON up to there. -/
  | numeral (whole : List Char) (written : whole <:+: text)
      (digits : ∀ c ∈ whole, isAsciiDigit c = true) (large : digitLimit < whole.length)
      (reached : Json.read text = .error (.integer (.tooManyDigits whole.length))) :
      Stumbles text .json (.integer (.tooManyDigits whole.length))
  /-- The code of an escape or a version is too large in YAML, and the text is composed up to
  there. -/
  | overflow (fault : ScalarFault) (part : Yaml.Overflow text fault)
      (reached : Yaml.compose text = .error (.fault fault)) : Stumbles text .yaml fault
  /-- A YAML node does not fit its tag, and the values before it are made. -/
  | misfit (fault : ScalarFault) (document : Yaml.Document) (node : Yaml.Node)
      (composed : Yaml.compose text = .ok (some document)) (member : node ∈ document.nodes)
      (misfit : Yaml.Misfit document.nodes node fault)
      (reached : (Yaml.Make.document document.root).run { nodes := document.nodes }
        = .error (.fault fault)) : Stumbles text .yaml fault
  /-- A YAML mapping holds an integer that cannot be written, after entries that can. -/
  | overlong (value : Yaml.Value) (entries : List (Yaml.Value × Yaml.Value))
      (read : Yaml.read text = .ok (value, entries)) (holdings : List (Holding × Holding))
      (mapping : value.document entries = .mapping holdings) (overlong : Overlong holdings) :
      Stumbles text .yaml (.integer .tooLarge)

end Clat.Format
