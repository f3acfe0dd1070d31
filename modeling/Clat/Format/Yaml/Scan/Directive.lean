import Clat.Format.Yaml.Scan.Character
import Clat.Format.Yaml.Token
import Clat.Text.Utf8

/-! Directives, tags and names. -/
namespace Clat.Format.Yaml

open Clat.Number Clat.Text

def scanName (mark : Mark) : Except Stop (String × Mark) :=
  match mark.takeWhile isNameChar with
  | ([], _) => .error .refused
  | (name, mark) => .ok (String.ofList name, mark)

/-- Reads octets given as escapes; `fuel` is how many there may be. -/
def scanOctets : Nat → Mark → Except Stop (List UInt8 × Mark)
  | 0, mark => .ok ([], mark)
  | fuel + 1, mark =>
    if mark.peek = some '%' then do
      let (octet, mark) ← hexNumber 2 mark.step
      let (octets, mark) ← scanOctets fuel mark
      return (UInt8.ofNat octet :: octets, mark)
    else .ok ([], mark)

/-- Reads the characters of a tag; a run of escapes stands for the text its octets
encode. -/
def scanTagChars : Nat → Mark → Except Stop (List Char × Mark)
  | 0, mark => .ok ([], mark)
  | fuel + 1, mark =>
    match mark.peek with
    | none => .ok ([], mark)
    | some c =>
      if c = '%' then do
        let (octets, mark) ← scanOctets mark.ahead.length mark
        match decodeUtf8 octets with
        | .error _ => .error .refused
        | .ok text =>
          let (rest, mark) ← scanTagChars fuel mark
          return (text ++ rest, mark)
      else if isTagChar c then do
        let (rest, mark) ← scanTagChars fuel mark.step
        return (c :: rest, mark)
      else .ok ([], mark)

def scanTagText (mark : Mark) : Except Stop (String × Mark) := do
  let (text, next) ← scanTagChars (mark.ahead.length + 1) mark
  if next.index = mark.index then .error .refused else return (String.ofList text, next)

/-- Reads a tag handle: an exclamation mark, alone before a space, or with a name and
another one. -/
def scanHandle (mark : Mark) : Except Stop (String × Mark) :=
  if mark.peek ≠ some '!' then .error .refused
  else if mark.peekAt 1 = some ' ' then .ok ("!", mark.step)
  else
    let (name, next) := mark.step.takeWhile isNameChar
    if next.peek = some '!' then .ok (String.ofList ('!' :: name ++ ['!']), next.step)
    else .error .refused

def scanTag (start : Mark) : Except Stop Token := do
  let (handle, suffix, mark) ←
    if start.peekAt 1 = some '<' then do
      let (suffix, mark) ← scanTagText (start.advance 2)
      if mark.peek = some '>' then .ok ((none : Option String), suffix, mark.step)
      else .error .refused
    else if endsToken (start.peekAt 1) then .ok (none, "!", start.step)
    else
      let word := start.step.ahead.takeWhile fun c => !(c = ' ' || isBreak c)
      if word.contains '!' then do
        let (handle, mark) ← scanHandle start
        let (suffix, mark) ← scanTagText mark
        .ok (some handle, suffix, mark)
      else do
        let (suffix, mark) ← scanTagText start.step
        .ok (some "!", suffix, mark)
  if endsWord mark.peek then return ⟨.tag handle suffix, start, mark⟩ else .error .refused

def scanAnchor (kind : String → Token.Kind) (start : Mark) : Except Stop Token := do
  let (name, mark) ← scanName start.step
  if endsToken mark.peek || mark.peek.any ("?:,]\x7d%@`".toList.contains ·) then
    return ⟨kind name, start, mark⟩
  else .error .refused

def scanVersionPart (mark : Mark) : Except Stop (Nat × Mark) :=
  match mark.takeWhile isAsciiDigit with
  | ([], _) => .error .refused
  | (places, mark) =>
    if digitLimit < places.length then
      .error (.fault (.integer (.tooManyDigits places.length)))
    else .ok (ofDigits 10 places, mark)

def scanVersion (mark : Mark) : Except Stop (Directive × Mark) := do
  let (major, mark) ← scanVersionPart (mark.skipWhile (· = ' '))
  if mark.peek ≠ some '.' then .error .refused
  else
    let (minor, mark) ← scanVersionPart mark.step
    if endsWord mark.peek then return (.version major minor, mark) else .error .refused

def scanTagDirective (mark : Mark) : Except Stop (Directive × Mark) := do
  let (handle, mark) ← scanHandle (mark.skipWhile (· = ' '))
  if mark.peek ≠ some ' ' then .error .refused
  else
    let (stem, mark) ← scanTagText (mark.skipWhile (· = ' '))
    if endsWord mark.peek then return (.tag handle stem, mark) else .error .refused

def scanDirective (start : Mark) : Except Stop (Token × Mark) := do
  let (name, mark) ← scanName start.step
  if !endsWord mark.peek then .error .refused
  else
    let (directive, mark) ←
      if name = "YAML" then scanVersion mark
      else if name = "TAG" then scanTagDirective mark
      else .ok (.other, mark.skipWhile (!isBreak ·))
    let rest ← finishLine mark
    return (⟨.directive directive, start, mark⟩, rest)

end Clat.Format.Yaml
