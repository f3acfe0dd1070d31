import Clat.Format.Json.Stop
import Clat.Format.Json.Value
import Clat.Number.FloatText

/-! Numbers of JSON. A fraction or an exponent is taken only if it has a digit, and makes
the number a float. -/
namespace Clat.Format.Json

open Clat.Number

/-- Splits off the integer part: one zero, or digits that start with another digit. -/
def takeWhole? : List Char → Option (List Char × List Char)
  | '0' :: rest => some (['0'], rest)
  | text =>
    match text.takeWhile isAsciiDigit with
    | [] => none
    | whole => some (whole, text.dropWhile isAsciiDigit)

def takeFraction : List Char → List Char × List Char
  | '.' :: rest =>
    match rest.takeWhile isAsciiDigit with
    | [] => ([], '.' :: rest)
    | places => (places, rest.dropWhile isAsciiDigit)
  | text => ([], text)

/-- Splits off an exponent: its mark, an optional sign and digits. -/
def takeExponent : List Char → Option Int × List Char
  | mark :: rest =>
    if mark = 'e' || mark = 'E' then
      let (negative, body) := takeSign rest
      match body.takeWhile isAsciiDigit with
      | [] => (none, mark :: rest)
      | places =>
        let size : Int := ofDigits 10 places
        (some (if negative then -size else size), body.dropWhile isAsciiDigit)
    else (none, mark :: rest)
  | [] => (none, [])

/-- Splits off a minus; the answer says whether there is one. -/
def takeMinus : List Char → Bool × List Char
  | '-' :: rest => (true, rest)
  | text => (false, text)

def readNumber (text : List Char) : Except Stop (Json × List Char) :=
  let (negative, body) := takeMinus text
  match takeWhole? body with
  | none => .error (.defect .noValue text.length)
  | some (whole, rest) =>
    let (fraction, rest) := takeFraction rest
    let (exponent, rest) := takeExponent rest
    if fraction.isEmpty && exponent.isNone then
      match readInteger 10 (if negative then '-' :: whole else whole) with
      | .error error => .error (.integer error)
      | .ok value => .ok (.integer value, rest)
    else
      .ok (.float (Binary64.ofPlaces negative whole fraction (exponent.getD 0)), rest)

end Clat.Format.Json
