import Clat.Format.Yaml.Scan.Character
import Clat.Format.Yaml.Token

/-! Plain scalars. They end at a comment, at a colon before a blank and, inside brackets,
at the characters that structure collections. Line ends inside fold. -/
namespace Clat.Format.Yaml

/-- Characters that structure collections in brackets. -/
def isFlowMark (c : Char) : Bool := ",[]\x7b\x7d".toList.contains c

/-- Whether a colon with this character after it ends a plain scalar. -/
def endsKey (flow : Bool) (next : Option Char) : Bool :=
  endsToken next || (flow && next.any isFlowMark)

/-- The characters of a plain scalar up to a blank or its end. -/
def plainRun (flow : Bool) : List Char → List Char
  | [] => []
  | c :: rest =>
    if c = ' ' || c = '\t' || isBreak c then []
    else if c = ':' && endsKey flow rest.head? then []
    else if flow && (c = '?' || isFlowMark c) then []
    else c :: plainRun flow rest

/-- Reads the blank lines after the first line end inside a plain scalar; none if the
marker of a document comes. `fuel` bounds the steps. -/
def scanPlainBreaks : Nat → Mark → Option (List Char) × Mark
  | 0, mark => (some [], mark)
  | fuel + 1, mark =>
    if mark.peek = some ' ' then scanPlainBreaks fuel mark.step
    else
      match lineBreak mark with
      | ([], _) => (some [], mark)
      | (feed, mark) =>
        if atSeparator mark then (none, mark)
        else
          let (breaks, mark) := scanPlainBreaks fuel mark
          (breaks.map (feed ++ ·), mark)

structure Gap where
  /-- The characters the gap stands for; none ends the scalar. -/
  text : List Char
  feeds : Bool
  next : Mark

def scanGap (mark : Mark) : Gap :=
  let (blanks, mark) := mark.takeWhile (· = ' ')
  match lineBreak mark with
  | ([], _) => ⟨blanks, false, mark⟩
  | (feed, mark) =>
    if atSeparator mark then ⟨[], true, mark⟩
    else
      match scanPlainBreaks (mark.ahead.length + 1) mark with
      | (none, mark) => ⟨[], true, mark⟩
      | (some breaks, mark) =>
        let fold := if feed ≠ ['\n'] then feed else if breaks.isEmpty then [' '] else []
        ⟨fold ++ breaks, true, mark⟩

structure PlainScan where
  text : List Char
  stop : Mark
  gap : Gap

/-- Reads the runs of a plain scalar after a run that ends at `stop` with a gap after it. A
block scalar ends where a line is indented less than `indent`. `fuel` bounds the runs. -/
def scanRuns (flow : Bool) (indent : Int) : Nat → Mark → Gap → PlainScan
  | 0, stop, gap => ⟨[], stop, gap⟩
  | fuel + 1, stop, gap =>
    if gap.next.peek = some '#' then ⟨[], stop, gap⟩
    else
      match plainRun flow gap.next.ahead with
      | [] => ⟨[], stop, gap⟩
      | run =>
        let stop := gap.next.advance run.length
        let after := scanGap stop
        let rest : PlainScan :=
          if after.text.isEmpty || (!flow && after.next.column < indent) then ⟨[], stop, after⟩
          else scanRuns flow indent fuel stop after
        { rest with text := gap.text ++ run ++ rest.text }

/-- Reads a plain scalar inside a block that is indented to `parent`. The answer is the
token, where reading goes on and whether that is at the start of a line. -/
def scanPlain (flow : Bool) (parent : Int) (start : Mark) : Token × Mark × Bool :=
  let scan := scanRuns flow (parent + 1) (start.ahead.length + 1) start ⟨[], false, start⟩
  (⟨.scalar (String.ofList scan.text) true, start, scan.stop⟩, scan.gap.next, scan.gap.feeds)

end Clat.Format.Yaml
