import Clat.Format.Yaml.Resolve
import Clat.Format.Yaml.Stop
import Clat.Format.Yaml.Token

/-! Nodes of a document. Nodes refer to each other by number, because an alias may refer to
a node around it. -/
namespace Clat.Format.Yaml

inductive Content where
  | scalar (text : String)
  | sequence (items : List Nat)
  | mapping (entries : List (Nat × Nat))

def Content.kindName : Content → String
  | .scalar _ => "scalar"
  | .sequence _ => "sequence"
  | .mapping _ => "mapping"

/-- A node with its tag and the place where it starts. -/
structure Node where
  tag : String
  start : Mark
  content : Content

/-- The nodes of a document by number, and the number of the outermost. -/
structure Document where
  nodes : Array Node
  root : Nat

end Clat.Format.Yaml
