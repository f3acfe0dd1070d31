import Clat.Format.Yaml.Stop

/-! Characters of YAML and the places they may stand. -/
namespace Clat.Format.Yaml

open Clat.Number

/-- Whether a character may stand in a YAML text at all. -/
def isAllowed (c : Char) : Bool :=
  let n := c.toNat
  n = 0x09 || n = 0x0a || n = 0x0d || (0x20 ≤ n && n ≤ 0x7e) || n = 0x85
    || (0xa0 ≤ n && n ≤ 0xd7ff) || (0xe000 ≤ n && n ≤ 0xfffd) || 0x10000 ≤ n

def endsRun (c : Option Char) : Bool := c.all isBreak

/-- Whether a space, the end of a line or the end of the text is here. -/
def endsWord (c : Option Char) : Bool := c.all fun c => c = ' ' || isBreak c

/-- Whether a blank, the end of a line or the end of the text is here. -/
def endsToken (c : Option Char) : Bool := c.all fun c => c = ' ' || c = '\t' || isBreak c

def isNameChar (c : Char) : Bool := c.isAlphanum || c = '-' || c = '_'

def isTagChar (c : Char) : Bool := c.isAlphanum || "-;/?:@&=+$,_.!~*'()[]%".toList.contains c

/-- Whether the marker of a document start or end is at a place, with a blank after it. -/
def atSeparator (mark : Mark) : Bool :=
  (mark.startsWith "---".toList || mark.startsWith "...".toList) && endsToken (mark.peekAt 3)

/-- Reads the end of a line, if there is one. A paragraph or line separator stays what it
is; any other end becomes a line feed. -/
def lineBreak (mark : Mark) : List Char × Mark :=
  match mark.ahead with
  | '\r' :: '\n' :: _ => (['\n'], mark.advance 2)
  | c :: _ =>
    if c = '\u2028' || c = '\u2029' then ([c], mark.step)
    else if isBreak c then (['\n'], mark.step)
    else ([], mark)
  | [] => ([], mark)

/-- The place after the spaces and the comment that are here. -/
def skipComment (mark : Mark) : Mark :=
  let mark := mark.skipWhile (· = ' ')
  if mark.peek = some '#' then mark.skipWhile (!isBreak ·) else mark

/-- The place after what may end a directive or the head of a block scalar: spaces, a
comment and the end of the line. -/
def finishLine (mark : Mark) : Except Stop Mark :=
  let mark := skipComment mark
  if endsRun mark.peek then .ok (lineBreak mark).2 else .error .refused

/-- The number that as many hexadecimal digits as asked for denote. -/
def hexNumber (count : Nat) (mark : Mark) : Except Stop (Nat × Mark) :=
  let places := mark.ahead.take count
  if places.length = count && places.all (isDigitOf 16) then
    .ok (ofDigits 16 places, mark.advance count)
  else .error .refused

end Clat.Format.Yaml
