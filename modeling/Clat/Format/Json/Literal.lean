import Clat.Format.Json.Stop

/-! String literals of JSON. A scan starts after the opening quote and gives the characters
and what follows the closing one. A literal may escape half of a surrogate pair by itself, and a
text has no character for that: all halves become U+FFFD here, so that literals which differ in
halves alone are not told apart. -/
namespace Clat.Format.Json

open Clat.Number

def escapeLetter? : Char → Option Char
  | '"' => some '"'
  | '\\' => some '\\'
  | '/' => some '/'
  | 'b' => some '\x08'
  | 'f' => some '\x0c'
  | 'n' => some '\n'
  | 'r' => some '\r'
  | 't' => some '\t'
  | _ => none

def codeUnit? (places : List Char) : Option Nat :=
  if places.length = 4 && places.all (isDigitOf 16) then some (ofDigits 16 places) else none

def leadsPair (unit : Nat) : Bool := 0xd800 ≤ unit && unit ≤ 0xdbff

def endsPair (unit : Nat) : Bool := 0xdc00 ≤ unit && unit ≤ 0xdfff

def pairChar (first second : Nat) : Char :=
  Char.ofNat (0x10000 + (first - 0xd800) * 0x400 + (second - 0xdc00))

/-- The character of a code unit. The format lets half of a pair stand for itself; a text cannot
hold it, and has the replacement character in its place. -/
def unitChar (unit : Nat) : Char :=
  if leadsPair unit || endsPair unit then '\ufffd' else Char.ofNat unit

/-- Reads a code-unit escape from the text after the letter `u`, with the second half of a
pair if one follows. A digit escape needs a character after it. -/
def readUnit (text : List Char) : Except Stop (Char × List Char) :=
  let rest := text.drop 4
  if rest.isEmpty then .error (.defect .badCodeUnit (text.length + 1))
  else
    match codeUnit? (text.take 4) with
    | none => .error (.defect .badCodeUnit (text.length + 1))
    | some first =>
      match rest with
      | '\\' :: 'u' :: more =>
        if leadsPair first && 4 < more.length then
          match codeUnit? (more.take 4) with
          | none => .error (.defect .badCodeUnit (more.length + 1))
          | some second =>
            if endsPair second then .ok (pairChar first second, more.drop 4)
            else .ok (unitChar first, rest)
        else .ok (unitChar first, rest)
      | _ => .ok (unitChar first, rest)

/-- Reads a literal by fuel; `start` is what was left at the opening quote. -/
def readLiteralFrom (start : Nat) : Nat → List Char → Except Stop (List Char × List Char)
  | 0, _ => .error (.defect .unterminatedString start)
  | _, [] => .error (.defect .unterminatedString start)
  | _, '"' :: rest => .ok ([], rest)
  | _, ['\\'] => .error (.defect .unterminatedString start)
  | fuel + 1, '\\' :: 'u' :: rest => do
    let (c, rest) ← readUnit rest
    let (body, rest) ← readLiteralFrom start fuel rest
    return (c :: body, rest)
  | fuel + 1, '\\' :: letter :: rest =>
    match escapeLetter? letter with
    | none => .error (.defect .unknownEscape (rest.length + 2))
    | some c => do
      let (body, rest) ← readLiteralFrom start fuel rest
      return (c :: body, rest)
  | fuel + 1, c :: rest =>
    if c.toNat < 0x20 then .error (.defect .controlCharacter (rest.length + 1))
    else do
      let (body, rest) ← readLiteralFrom start fuel rest
      return (c :: body, rest)

/-- Reads a literal from the text after the opening quote. -/
def readLiteral (text : List Char) : Except Stop (String × List Char) := do
  let (body, rest) ← readLiteralFrom (text.length + 1) (text.length + 1) text
  return (String.ofList body, rest)

end Clat.Format.Json
