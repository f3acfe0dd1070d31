import Clat.Format.Yaml.Scan.Character
import Clat.Format.Yaml.Token

/-! Block scalars: a head, then the lines that are indented enough. Lines are kept as they
are or folded, and the line ends at the end are kept, dropped or cut to one. -/
namespace Clat.Format.Yaml

open Clat.Number

/-- What happens to the line ends at the end of a block scalar. -/
inductive Chomping where
  | strip
  | clip
  | keep
  deriving DecidableEq

def scanChomping (mark : Mark) : Chomping × Mark :=
  match mark.peek with
  | some '+' => (.keep, mark.step)
  | some '-' => (.strip, mark.step)
  | _ => (.clip, mark)

def scanIncrement (mark : Mark) : Except Stop (Option Nat × Mark) :=
  match mark.peek with
  | some '0' => .error .refused
  | some c => if c.isDigit then .ok (some (c.toNat - 48), mark.step) else .ok (none, mark)
  | none => .ok (none, mark)

/-- Reads the indicators of a head, which come in either order. -/
def scanBlockHead (mark : Mark) : Except Stop (Chomping × Option Nat × Mark) := do
  let (early, mark) := scanChomping mark
  let (increment, mark) ← scanIncrement mark
  let (chomping, mark) :=
    if early = .clip && increment.isSome then scanChomping mark else (early, mark)
  if endsWord mark.peek then return (chomping, increment, mark) else .error .refused

/-- Reads blank lines and gives the deepest indentation among them; `fuel` bounds the
steps. -/
def scanIndentation : Nat → Nat → Mark → List Char × Nat × Mark
  | 0, deepest, mark => ([], deepest, mark)
  | fuel + 1, deepest, mark =>
    if mark.peek = some ' ' then
      let mark := mark.step
      scanIndentation fuel (max deepest mark.column) mark
    else
      match lineBreak mark with
      | ([], _) => ([], deepest, mark)
      | (feed, mark) =>
        let (breaks, deepest, mark) := scanIndentation fuel deepest mark
        (feed ++ breaks, deepest, mark)

def skipIndent (column : Nat) (mark : Mark) : Mark :=
  let run := (mark.ahead.take (column - mark.column)).takeWhile (· = ' ')
  mark.advance run.length

/-- Reads blank lines up to an indentation; `fuel` bounds how many. -/
def scanBlockBreaks (indent : Nat) : Nat → Mark → List Char × Mark
  | 0, mark => ([], mark)
  | fuel + 1, mark =>
    let mark := skipIndent indent mark
    match lineBreak mark with
    | ([], _) => ([], mark)
    | (feed, mark) =>
      let (breaks, mark) := scanBlockBreaks indent fuel mark
      (feed ++ breaks, mark)

def startsBlank (mark : Mark) : Bool := mark.peek = some ' ' || mark.peek = some '\t'

/-- What stands between two lines: a lone line feed between lines that start with no blank
folds into a space, and goes away before blank lines. -/
def joint (folded : Bool) (feed breaks : List Char) (blank : Bool) : List Char :=
  if folded && feed = ['\n'] && !blank then (if breaks.isEmpty then [' '] else []) else feed

/-- Reads the lines of a block scalar, the first of them after `breaks`; `fuel` bounds how
many. -/
def scanBlockLines (folded : Bool) (chomping : Chomping) (indent : Nat) :
    Nat → List Char → List Char → Mark → List Char × Mark
  | 0, _, _, mark => ([], mark)
  | fuel + 1, feed, breaks, mark =>
    if mark.column = indent && mark.peek.isSome then
      let (line, next) := mark.takeWhile (!isBreak ·)
      let (newFeed, next) := lineBreak next
      let (newBreaks, next) := scanBlockBreaks indent (next.ahead.length + 1) next
      let goesOn := next.column = indent && next.peek.isSome
      let between :=
        if goesOn then joint folded newFeed newBreaks (startsBlank mark || startsBlank next) else []
      let (rest, last) := scanBlockLines folded chomping indent fuel newFeed newBreaks next
      (breaks ++ line ++ between ++ rest, last)
    else
      let tail := if chomping = .strip then [] else feed
      (tail ++ (if chomping = .keep then breaks else []), mark)

/-- Reads a block scalar inside a block that is indented to `parent`. -/
def scanBlockScalar (folded : Bool) (parent : Int) (start : Mark) : Except Stop Token := do
  let (chomping, increment, mark) ← scanBlockHead start.step
  let mark ← finishLine mark
  let least := (max (parent + 1) 1).toNat
  let fuel := mark.ahead.length + 1
  let (breaks, indent, mark) :=
    match increment with
    | none =>
      let (breaks, deepest, mark) := scanIndentation fuel 0 mark
      (breaks, max least deepest, mark)
    | some increment =>
      let indent := least + increment - 1
      let (breaks, mark) := scanBlockBreaks indent fuel mark
      (breaks, indent, mark)
  let (text, mark) := scanBlockLines folded chomping indent fuel [] breaks mark
  return ⟨.scalar (String.ofList text) false, start, mark⟩

end Clat.Format.Yaml
