import Clat.Format.Yaml.Scan.Character
import Clat.Format.Yaml.Token

/-! Scalars in quotes. Line ends fold; inside double quotes a backslash escapes. An escape may be
the code of half of a surrogate pair, and a text has no character for that: all halves become U+FFFD
here, so that scalars which differ in halves alone are not told apart. -/
namespace Clat.Format.Yaml

open Clat.Number

def escapedChar? : Char → Option Char
  | '0' => some '\x00'
  | 'a' => some '\x07'
  | 'b' => some '\x08'
  | 't' => some '\t'
  | '\t' => some '\t'
  | 'n' => some '\n'
  | 'v' => some '\x0b'
  | 'f' => some '\x0c'
  | 'r' => some '\r'
  | 'e' => some '\x1b'
  | ' ' => some ' '
  | '"' => some '"'
  | '\\' => some '\\'
  | '/' => some '/'
  | 'N' => some '\x85'
  | '_' => some '\xa0'
  | 'L' => some '\u2028'
  | 'P' => some '\u2029'
  | _ => none

/-- How many digits follow the letter of an escape with digits. -/
def escapeWidth? : Char → Option Nat
  | 'x' => some 2
  | 'u' => some 4
  | 'U' => some 8
  | _ => none

/-- The character of a code. The format lets half of a surrogate pair stand for itself; a text
cannot hold it, and has the replacement character in its place. -/
def codeChar (code : Nat) : Except Stop Char :=
  if 0x7fffffff < code then .error (.fault .codeOverflow)
  else if 0x10ffff < code then .error (.fault .codePoint)
  else if 0xd800 ≤ code && code ≤ 0xdfff then .ok '\ufffd'
  else .ok (Char.ofNat code)

/-- Reads blank lines inside quotes; `fuel` bounds how many. -/
def scanQuotedBreaks : Nat → Mark → Except Stop (List Char × Mark)
  | 0, mark => .ok ([], mark)
  | fuel + 1, mark =>
    if atSeparator mark then .error .refused
    else
      let mark := mark.skipWhile fun c => c = ' ' || c = '\t'
      match lineBreak mark with
      | ([], _) => .ok ([], mark)
      | (feed, mark) => do
        let (rest, mark) ← scanQuotedBreaks fuel mark
        return (feed ++ rest, mark)

/-- Reads the spaces and line ends at a place inside quotes. A single line feed becomes a
space. -/
def scanQuotedSpaces (mark : Mark) : Except Stop (List Char × Mark) :=
  let (blanks, mark) := mark.takeWhile fun c => c = ' ' || c = '\t'
  match mark.peek with
  | none => .error .refused
  | some _ =>
    match lineBreak mark with
    | ([], _) => .ok (blanks, mark)
    | (feed, mark) => do
      let (breaks, mark) ← scanQuotedBreaks (mark.ahead.length + 1) mark
      let fold := if feed ≠ ['\n'] then feed else if breaks.isEmpty then [' '] else []
      return (fold ++ breaks, mark)

def scanEscape (mark : Mark) : Except Stop (List Char × Mark) :=
  match mark.peek with
  | none => .error .refused
  | some c =>
    match escapedChar? c, escapeWidth? c with
    | some c, _ => .ok ([c], mark.step)
    | none, some width => do
      let (code, next) ← hexNumber width mark.step
      let c ← codeChar code
      return ([c], next)
    | none, none =>
      if isBreak c then
        let mark := (lineBreak mark).2
        scanQuotedBreaks (mark.ahead.length + 1) mark
      else .error .refused

/-- Reads a scalar in quotes up to its closing quote; `fuel` bounds the steps. -/
def scanQuotedBody (quote : Char) : Nat → Mark → Except Stop (List Char × Mark)
  | 0, _ => .error .refused
  | fuel + 1, mark => do
    let double := quote = '"'
    let more (part : List Char) (mark : Mark) : Except Stop (List Char × Mark) := do
      let (rest, mark) ← scanQuotedBody quote fuel mark
      return (part ++ rest, mark)
    match mark.peek with
    | none => .error .refused
    | some c =>
      if !double && c = '\'' && mark.peekAt 1 = some '\'' then more ['\''] (mark.advance 2)
      else if c = quote then return ([], mark.step)
      else if double && c = '\\' then
        let (part, mark) ← scanEscape mark.step
        more part mark
      else if c = ' ' || c = '\t' || isBreak c then
        let (part, mark) ← scanQuotedSpaces mark
        more part mark
      else more [c] mark.step

def scanQuoted (quote : Char) (start : Mark) : Except Stop Token := do
  let (text, mark) ← scanQuotedBody quote (start.ahead.length + 1) start.step
  return ⟨.scalar (String.ofList text) false, start, mark⟩

end Clat.Format.Yaml
