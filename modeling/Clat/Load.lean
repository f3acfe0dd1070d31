import Clat.Files
import Clat.Items
import Clat.Session
import Clat.Text.Lines

/-! Loading the items of a configuration file. -/
namespace Clat.Load

open Clat.Text

inductive Failure where
  | issue (issue : Issue)
  | fault (fault : Fault)
  deriving DecidableEq, Repr

/-- The octets of a file, as a text with plain line feeds. -/
def text (files : Files) (path : Path) : Except Failure String :=
  match files.read path with
  | .error .zeroInPath => .error (.fault .zeroInPath)
  | .error error => .error (.issue ⟨.unreadable path.text error.message, path.text⟩)
  | .ok octets =>
    match decodeUtf8 octets with
    | .error error => .error (.issue ⟨.undecodable path.text error.message, path.text⟩)
    | .ok text => .ok (String.ofList (unifyLineEnds text))

def items (files : Files) (file : String) : Except Failure Items := do
  let path := Path.ofText file
  let text ← text files path
  match path.format.parse text with
  | .ok entries => return { entries, file := path.text }
  | .error (.refused error) => throw (.issue ⟨.content error, ""⟩)
  | .error (.fault fault) => throw (.fault (.scalar fault))

/-- The items of a configuration file, which has to have some. -/
def configuration (files : Files) (file : String) : Stage Items :=
  match items files file with
  | .error (.fault fault) => throwThe Fault fault
  | .error (.issue issue) => fail issue
  | .ok items => if items.isEmpty then fail ⟨.noItems file, file⟩ else return items

end Clat.Load
