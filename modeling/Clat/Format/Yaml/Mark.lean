import Clat.Number.Digits

/-! Places in a text. A mark keeps what was passed, last character first, and what is
ahead, so that it serves both to walk through the text and to show where something is. -/
namespace Clat.Format.Yaml

open Clat.Number

def isBreak (c : Char) : Bool :=
  c = '\r' || c = '\n' || c = '\x85' || c = '\u2028' || c = '\u2029'

/-- A place in a text. Lines and columns count from zero. -/
structure Mark where
  index : Nat := 0
  line : Nat := 0
  column : Nat := 0
  passed : List Char := []
  ahead : List Char
  deriving DecidableEq, Repr

namespace Mark

def ofText (text : List Char) : Mark := { ahead := text }

def peek (mark : Mark) : Option Char := mark.ahead.head?

def peekAt (mark : Mark) (offset : Nat) : Option Char := mark.ahead[offset]?

def startsWith (mark : Mark) (text : List Char) : Bool := text.isPrefixOf mark.ahead

/-- The next place. A carriage return before a line feed ends no line, and a byte order
mark takes no column. -/
def step (mark : Mark) : Mark :=
  match mark.ahead with
  | [] => mark
  | c :: rest =>
    let moved : Mark :=
      { mark with index := mark.index + 1, passed := c :: mark.passed, ahead := rest }
    if isBreak c && !(c = '\r' && rest.head? = some '\n') then
      { moved with line := mark.line + 1, column := 0 }
    else if c = '\ufeff' then moved
    else { moved with column := mark.column + 1 }

def advance : Nat → Mark → Mark
  | 0, mark => mark
  | n + 1, mark => advance n mark.step

/-- The characters from here on that satisfy a test, and the place after them. -/
def takeWhile (test : Char → Bool) (mark : Mark) : List Char × Mark :=
  let run := mark.ahead.takeWhile test
  (run, mark.advance run.length)

/-- The place after the characters that satisfy a test. -/
def skipWhile (test : Char → Bool) (mark : Mark) : Mark := (mark.takeWhile test).2

/-- How far to either side of a place an excerpt reaches. -/
def reach : Nat := 36

/-- What an excerpt leaves out at a side that is cut. -/
def ellipsis : List Char := " ... ".toList

/-- One side of an excerpt, from the place outwards, and whether it is cut. A cut leaves
room for the ellipsis. -/
def side (text : List Char) : List Char × Bool :=
  let line := text.takeWhile fun c => !isBreak c
  if reach < line.length then (line.take (reach + 1 - ellipsis.length), true) else (line, false)

/-- The line around the place, with a caret under the place. -/
def excerpt (mark : Mark) : List Char :=
  let (before, cutBefore) := side mark.passed
  let (after, cutAfter) := side mark.ahead
  let head := if cutBefore then ellipsis else []
  let tail := if cutAfter then ellipsis else []
  let indent := List.replicate 4 ' '
  indent ++ head ++ before.reverse ++ after ++ tail ++ '\n' :: indent
    ++ List.replicate (before.length + head.length) ' ' ++ ['^']

def describe (mark : Mark) : List Char :=
  "  in \"<unicode string>\", line ".toList ++ decimal (mark.line + 1)
    ++ ", column ".toList ++ decimal (mark.column + 1) ++ ":\n".toList ++ mark.excerpt

/-- Whether two marks name the same line and column. -/
def sameAs (mark other : Mark) : Bool := mark.line == other.line && mark.column == other.column

end Mark
end Clat.Format.Yaml
