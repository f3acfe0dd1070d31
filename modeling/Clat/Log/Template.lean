import Clat.Number.Scientific
import Clat.Value

/-! Message templates. A percent sign starts a conversion: flags, a least width, a precision
and a letter. Each conversion takes an argument; two percent signs stand for one. -/
namespace Clat.Log

open Clat.Number Clat.Text

inductive TemplateError where
  | incomplete
  | unknownLetter (letter : Char)
  | tooFew
  | tooMany
  /-- An argument is not of the type its conversion asks for. -/
  | wrongType
  /-- A size or an argument is of the type asked for, but beyond what is taken or written. -/
  | outOfRange
  deriving DecidableEq, Repr

structure Conversion where
  left : Bool := false
  plus : Bool := false
  space : Bool := false
  zero : Bool := false
  alternate : Bool := false
  width : Nat := 0
  precision : Option Nat := none
  letter : Char := 's'
  deriving DecidableEq, Repr

def Conversion.flag? (conversion : Conversion) : Char → Option Conversion
  | '-' => some { conversion with left := true }
  | '+' => some { conversion with plus := true }
  | ' ' => some { conversion with space := true }
  | '0' => some { conversion with zero := true }
  | '#' => some { conversion with alternate := true }
  | _ => none

def readFlags (conversion : Conversion) : List Char → Conversion × List Char
  | [] => (conversion, [])
  | c :: rest =>
    match conversion.flag? c with
    | some conversion => readFlags conversion rest
    | none => (conversion, c :: rest)

/-- Reads a number or a star, which takes an integer argument. The number has to fit into a sign
and some bits. -/
def readSize (bits : Nat) (text : List Char) (arguments : List Value) :
    Except TemplateError (Int × List Char × List Value) := do
  let (size, text, arguments) ←
    match text with
    | '*' :: rest =>
      match arguments with
      | [] => throw .tooFew
      | argument :: arguments =>
        match argument.integer? with
        | some size => pure (size, rest, arguments)
        | none => throw .wrongType
    | text =>
      let size : Int := ofDigits 10 (text.takeWhile isAsciiDigit)
      pure (size, text.dropWhile isAsciiDigit, arguments)
  let bound : Int := Nat.pow 2 bits
  if -bound ≤ size ∧ size < bound then return (size, text, arguments)
  else throw .outOfRange

/-- Drops one letter for the length of an argument, which says nothing. -/
def dropLength : List Char → List Char
  | 'h' :: rest => rest
  | 'l' :: rest => rest
  | 'L' :: rest => rest
  | text => text

def readConversion (text : List Char) (arguments : List Value) :
    Except TemplateError (Conversion × List Char × List Value) := do
  let (conversion, text) := readFlags {} text
  let (width, text, arguments) ← readSize 63 text arguments
  let conversion :=
    { conversion with left := conversion.left || width < 0, width := width.natAbs }
  let (conversion, text, arguments) ←
    match text with
    | '.' :: text => do
      let (precision, text, arguments) ← readSize 31 text arguments
      pure ({ conversion with precision := some precision.toNat }, text, arguments)
    | text => pure (conversion, text, arguments)
  match dropLength text with
  | [] => throw .incomplete
  | letter :: rest => return ({ conversion with letter }, rest, arguments)

def Conversion.pad (conversion : Conversion) (text : List Char) : List Char :=
  let fill := List.replicate (conversion.width - text.length) ' '
  if conversion.left then text ++ fill else fill ++ text

/-- A number with its sign, its mark and its digits, filled up to the width. -/
def Conversion.number (conversion : Conversion) (negative : Bool) (mark digits : List Char) :
    List Char :=
  let sign :=
    if negative then ['-'] else if conversion.plus then ['+']
    else if conversion.space then [' '] else []
  let head := sign ++ mark
  if conversion.zero && !conversion.left then
    head ++ List.replicate (conversion.width - head.length - digits.length) '0' ++ digits
  else conversion.pad (head ++ digits)

def Conversion.integer (conversion : Conversion) (value : Int) : List Char :=
  let (base, mark) :=
    match conversion.letter with
    | 'o' => (8, ['0', 'o'])
    | 'x' => (16, ['0', 'x'])
    | 'X' => (16, ['0', 'X'])
    | _ => (10, [])
  let places := digits base value.natAbs
  let places := if conversion.letter = 'X' then places.map Char.toUpper else places
  let fill := List.replicate (conversion.precision.getD 0 - places.length) '0'
  conversion.number (value < 0) (if conversion.alternate then mark else []) (fill ++ places)

def Conversion.float (conversion : Conversion) (value : Binary64) : List Char :=
  let precision := conversion.precision.getD 6
  let point := conversion.alternate || 0 < precision
  let (negative, body) :=
    match value with
    | .nan => (false, "nan".toList)
    | .infinite negative => (negative, "inf".toList)
    | .finite negative significand exponent =>
      (negative,
        match conversion.letter.toLower with
        | 'f' => Binary64.fixedForm significand exponent precision point
        | 'e' => Binary64.scientificForm significand exponent precision point
        | _ => Binary64.generalForm significand exponent precision conversion.alternate)
  let body := if conversion.letter.isUpper then body.map Char.toUpper else body
  conversion.number negative [] body

def Conversion.text (conversion : Conversion) (text : List Char) : List Char :=
  conversion.pad (match conversion.precision with
    | none => text
    | some precision => text.take precision)

def plainText (text : List Char) : List Char :=
  text.flatMap fun c => if c.toNat < 0x80 then [c] else hexEscape c.toNat

/-- The text of an argument, where it can be written. -/
def written {ε : Type} : Except ε (List Char) → Except TemplateError (List Char)
  | .ok text => .ok text
  | .error _ => .error .outOfRange

def integerOf (value : Value) : Except TemplateError Int :=
  match value.integer? with
  | some i => .ok i
  | none => .error .wrongType

/-- The integer that a number is cut down to, if it can be written with decimal digits. -/
def decimalOf (value : Value) : Except TemplateError Int := do
  let i ←
    match value with
    | .float x =>
      match x.truncate? with
      | some i => pure i
      | none => throw .outOfRange
    | value => integerOf value
  let _ ← written (writeInteger i)
  return i

/-- The number nearest to an argument; there is none for the largest integers. -/
def floatOf (value : Value) : Except TemplateError Binary64 :=
  match value with
  | .float value => .ok value
  | value => do
    let i ← integerOf value
    match Binary64.ofNat i.natAbs with
    | .infinite _ => throw .outOfRange
    | size => return if i < 0 then size.neg else size

/-- The character that an argument is or has the code of. The code of half of a surrogate pair is
taken for that of no character, since a text cannot hold it. -/
def charOf (value : Value) : Except TemplateError Char :=
  match value with
  | .text text =>
    match text.toList with
    | [c] => .ok c
    | _ => .error .wrongType
  | value => do
    let code ← integerOf value
    if 0 ≤ code ∧ code.toNat.isValidChar then return Char.ofNat code.toNat
    else throw .outOfRange

def Conversion.apply (conversion : Conversion) (value : Value) :
    Except TemplateError (List Char) :=
  match conversion.letter with
  | 's' => do return conversion.text (← written (value.shown.map String.toList))
  | 'r' => do return conversion.text (← written value.quoted)
  | 'a' => do return conversion.text (plainText (← written value.quoted))
  | 'c' => do return conversion.pad [← charOf value]
  | letter =>
    if letter = 'd' || letter = 'i' || letter = 'u' then conversion.integer <$> decimalOf value
    else if letter = 'x' || letter = 'X' || letter = 'o' then conversion.integer <$> integerOf value
    else if "eEfFgG".toList.contains letter then conversion.float <$> floatOf value
    else .error (.unknownLetter letter)

def fillFrom : Nat → List Char → List Value → Except TemplateError (List Char)
  | 0, _, _ => .error .incomplete
  | _, [], arguments => if arguments.isEmpty then .ok [] else .error .tooMany
  | fuel + 1, '%' :: '%' :: rest, arguments => do
    return '%' :: (← fillFrom fuel rest arguments)
  | fuel + 1, '%' :: rest, arguments => do
    let (conversion, rest, arguments) ← readConversion rest arguments
    match arguments with
    | [] => throw .tooFew
    | argument :: arguments =>
      let text ← conversion.apply argument
      return text ++ (← fillFrom fuel rest arguments)
  | fuel + 1, c :: rest, arguments => do return c :: (← fillFrom fuel rest arguments)

/-- The message of a template. Without arguments it is the template itself. -/
def fill (template : String) (arguments : List Value) : Except TemplateError String :=
  if arguments.isEmpty then .ok template
  else String.ofList <$> fillFrom (template.length + 1) template.toList arguments

end Clat.Log
