import Clat.Files
import Clat.Proofs.Text.Split
import Mathlib.Tactic.SplitIfs

/-! Reading files by their paths. A path has only the characters of the text it is from, with
slashes and a dot, so a text without a zero character gives a path without one. -/
namespace Clat

open Clat.Text

namespace Path

end Path

namespace Files

end Files
end Clat
