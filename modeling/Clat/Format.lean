import Clat.Format.Conf
import Clat.Format.Entry
import Clat.Format.Json.Reader
import Clat.Format.Yaml.Read

/-! The notations of a configuration file. The end of the file name chooses one. -/
namespace Clat

inductive Format where
  | conf
  | yaml
  | json
  deriving DecidableEq, Repr

namespace Format

def jsonItems (text : List Char) : Except Failure (List (String × String)) :=
  match Json.read text with
  | .error (.defect what left) => .error (.refused (.json what (.ofLeft text left)))
  | .error (.repeatedName name) => .error (.refused (.repeatedName name))
  | .error (.integer error) => .error (.fault (.integer error))
  | .ok value => value.document.items

def yamlItems (text : List Char) : Except Failure (List (String × String)) :=
  match Yaml.read text with
  | .error .refused => .error (.refused .yaml)
  | .error (.trouble trouble) => .error (.refused (.construction trouble))
  | .error (.repeatedKey place) => .error (.refused (.repeatedKey place))
  | .error (.fault fault) => .error (.fault fault)
  | .ok (value, entries) => (value.document entries).items

def parse (format : Format) (text : String) : Except Failure (List (String × String)) :=
  match format with
  | .conf => (Conf.parse text.toList).mapError .refused
  | .yaml => yamlItems text.toList
  | .json => jsonItems text.toList

end Format
end Clat
