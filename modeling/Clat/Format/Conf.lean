import Clat.Format.Error
import Clat.Text.Blank
import Clat.Text.Lines

/-! The native notation: one item a line, the key up to the first blank and the value after
it. A number sign starts a comment. A value may be empty. -/
namespace Clat.Format.Conf

open Clat.Text

/-- The line without its comment and the blanks around. -/
def content (line : List Char) : List Char := trim (line.takeWhile (· ≠ '#'))

def entry (content : List Char) : String × String :=
  (String.ofList (content.takeWhile (!isBlank ·)),
    String.ofList (trim (content.dropWhile (!isBlank ·))))

/-- The items of lines, of which the first has the given number; `items` are those of the
lines before. -/
def entries (number : Nat) (items : List (String × String)) :
    List (List Char) → Except Error (List (String × String))
  | [] => .ok items
  | line :: rest =>
    match content line with
    | [] => entries (number + 1) items rest
    | text =>
      let (key, value) := entry text
      if (items.lookup key).isSome then .error (.repeatedLine key number)
      else entries (number + 1) (items ++ [(key, value)]) rest

def parse (text : List Char) : Except Error (List (String × String)) := entries 1 [] (lines text)

end Clat.Format.Conf
