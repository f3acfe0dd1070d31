import Clat.Number.Digits
import Clat.Text.Blank
import Clat.Text.DecimalDigit
import Clat.Text.Quoted

/-! Integers as people write them: blanks around, a sign, digits of any script, single
underscores between digits. A decimal numeral of more than 4300 digits is neither read nor
written. -/
namespace Clat.Number

open Clat.Text

/-- The most digits of a decimal numeral that is read or written. -/
def digitLimit : Nat := 4300

inductive IntegerError where
  | tooManyDigits (count : Nat)
  | tooLarge
  /-- The text is no numeral of the base; the text is kept in quoted form. -/
  | notANumeral (base : Nat) (shown : List Char)
  deriving DecidableEq, Repr

def IntegerError.message : IntegerError → String
  | .tooManyDigits count =>
    "Exceeds the limit (" ++ toString digitLimit ++ " digits) for integer string conversion: value has "
      ++ String.ofList (decimal count)
      ++ " digits; use sys.set_int_max_str_digits() to increase the limit"
  | .tooLarge =>
    "Exceeds the limit (" ++ toString digitLimit
      ++ " digits) for integer string conversion; use sys.set_int_max_str_digits() to increase the limit"
  | .notANumeral base shown =>
    "invalid literal for int() with base " ++ String.ofList (decimal base) ++ ": "
      ++ String.ofList (shown.take 200)

/-- The ASCII form of a character of a numeral: a digit of another script becomes an ASCII
digit, a blank becomes a space, and anything else a question mark, which no numeral has. -/
def plainChar (c : Char) : Char :=
  if c.toNat < 0x7f then c
  else if isBlank c then ' '
  else
    match decimalValue? c with
    | some value => digitChar value
    | none => '?'

/-- The blanks that may stand around a numeral in ASCII form. -/
def isPlainBlank (c : Char) : Bool := c = ' ' || (0x09 ≤ c.toNat && c.toNat ≤ 0x0d)

/-- Splits off a sign; the answer says whether it is a minus. -/
def takeSign : List Char → Bool × List Char
  | '-' :: rest => (true, rest)
  | '+' :: rest => (false, rest)
  | text => (false, text)

/-- Drops the mark of a base, and one underscore after it. -/
def dropBaseMark (base : Nat) : List Char → List Char
  | '0' :: mark :: rest =>
    if (base = 16 && mark.toLower = 'x') || (base = 8 && mark.toLower = 'o')
        || (base = 2 && mark.toLower = 'b') then
      match rest with
      | '_' :: rest => rest
      | rest => rest
    else '0' :: mark :: rest
  | text => text

/-- Whether each underscore has a character before and after it that is none. -/
def wellGrouped : List Char → Bool
  | [] => true
  | '_' :: _ => false
  | [_, '_'] => false
  | _ :: '_' :: rest => wellGrouped rest
  | _ :: rest => wellGrouped rest

/-- Reads a numeral whose characters are in ASCII form; `shown` is for the error. -/
def readPlain (base : Nat) (shown : List Char) (text : List Char) : Except IntegerError Int :=
  let (negative, body) := takeSign (text.dropWhile isPlainBlank)
  let body := dropBaseMark base body
  let run := body.takeWhile fun c => isDigitOf base c || c = '_'
  let rest := body.dropWhile fun c => isDigitOf base c || c = '_'
  let places := run.filter (· ≠ '_')
  if !wellGrouped run then .error (.notANumeral base shown)
  else if base = 10 && digitLimit < places.length then .error (.tooManyDigits places.length)
  else if places.isEmpty || !rest.all isPlainBlank then .error (.notANumeral base shown)
  else
    let value : Int := ofDigits base places
    .ok (if negative then -value else value)

def readInteger (base : Nat) (text : List Char) : Except IntegerError Int :=
  readPlain base (quoted text) (text.map plainChar)

def writeInteger (value : Int) : Except IntegerError (List Char) :=
  if digitLimit < (decimal value.natAbs).length then .error .tooLarge
  else .ok (signedDecimal value)

end Clat.Number
