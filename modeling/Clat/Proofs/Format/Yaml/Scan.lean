import Clat.Proofs.Format.Yaml.Places

/-! Scanning whole texts. Fetching a token goes from one place of the text to another, so a
scan that breaks down does so at an overflow in the text. -/
namespace Clat.Format.Yaml

variable {text : List Char}

namespace Scanner

variable {s : Scanner}

section Fetch

variable (inside : s.mark.In text)
include inside

end Fetch

end Scanner

end Clat.Format.Yaml
