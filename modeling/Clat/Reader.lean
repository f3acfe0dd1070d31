import Clat.Declared
import Clat.Items
import Clat.Session

/-! Typed reading of items. An item that is not there is read from its default. -/
namespace Clat

/-- Ends the stage with a refusal, if there is one. A refusal that is no issue stops the run. -/
def orRefuse {α : Type} : Except Refusal α → Stage α
  | .ok value => return value
  | .error (.issue issue) => fail issue
  | .error (.unwritable error) => throwThe Fault (.integer error)
  | .error (.unencodable error) => throwThe Fault (.unencodable error)
  | .error .unspecified => throwThe Fault .unspecified

namespace Reader

open Clat.Number Clat.Text

def string (items : Items) (key : String) (default : Option String) : Stage String :=
  match items.getOr key default with
  | some text => return text
  | none => fail ⟨.missing key, items.pathOf key⟩

/-- A numeral at the start of a text, and what follows it. -/
structure Numeral where
  blanks : List Char
  sign : List Char
  digits : List Char
  rest : List Char

/-- The numeral that a text starts with: blanks, a sign and digits. -/
def numeral? (text : List Char) : Option Numeral :=
  let blanks := text.takeWhile isBlank
  let body := text.dropWhile isBlank
  let sign := (body.take 1).filter fun c => c = '-' || c = '+'
  let body := body.drop sign.length
  match body.takeWhile isAsciiDigit with
  | [] => none
  | digits => some ⟨blanks, sign, digits, body.dropWhile isAsciiDigit⟩

def Numeral.text (n : Numeral) : List Char := n.blanks ++ n.sign ++ n.digits

/-- The integer that a text is, or why it is none. -/
def parseInteger (text : List Char) : Except Issue.Cause Int :=
  if text.isEmpty then .error .emptyNumber
  else
    match numeral? text with
    | none => .error (.notNumeric (String.ofList text))
    | some numeral =>
      if !numeral.rest.isEmpty then .error (.trailing (String.ofList numeral.rest))
      else
        match readInteger 10 numeral.text with
        | .ok value => .ok value
        | .error _ => .error (.tooManyDigits (numeral.sign = ['-']) numeral.text.length)

/-- The 16-bit integer that a text is, or why it is none. -/
def parseInt16 (path : String) (text : String) : Except Refusal Int := do
  let value ← (parseInteger text.toList).mapError fun cause => .issue ⟨cause, path⟩
  (⟨.int16, .integer value, path⟩ : Declared).validate
  return value

def int16 (items : Items) (key : String) (default : Option String) : Stage Int := do
  let text ← string items key default
  orRefuse (parseInt16 (items.pathOf key) text)

def ipv4 (items : Items) (key : String) (default : Option String) : Stage IPv4 := do
  let text ← string items key default
  orFail (IPv4.read (items.pathOf key) text)

def ipv6 (items : Items) (key : String) (default : Option String) : Stage IPv6 := do
  let text ← string items key default
  orFail (IPv6.read (items.pathOf key) text)

end Reader
end Clat
