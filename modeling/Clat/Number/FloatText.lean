import Clat.Number.Integer
import Clat.Number.Shortest

/-! Text of binary64 numbers. Writing gives the shortest digits that read back, in
positional form for decimal exponents from -4 to 15 and with an exponent of two digits or
more otherwise. Reading takes an optional sign, digits with an optional point and
exponent, or a name of infinity or of no number. -/
namespace Clat.Number.Binary64

open Clat.Text

/-- The least decimal exponent written positionally. -/
def leastPositional : Int := -4

/-- The greatest decimal exponent written positionally. -/
def greatestPositional : Int := 15

/-- The exponent part: sign and at least two digits. -/
def exponentText (exponent : Int) : List Char :=
  let size := decimal exponent.natAbs
  'e' :: (if exponent < 0 then '-' else '+') :: (if size.length < 2 then '0' :: size else size)

/-- The text of the digits of a number whose first digit has the given decimal exponent. -/
def layOut (places : List Char) (exponent : Int) : List Char :=
  if exponent < leastPositional ∨ greatestPositional < exponent then
    match places with
    | [] => []
    | [first] => first :: exponentText exponent
    | first :: rest => first :: '.' :: rest ++ exponentText exponent
  else if exponent < 0 then
    '0' :: '.' :: List.replicate (-exponent - 1).toNat '0' ++ places
  else
    let whole := exponent.toNat + 1
    if places.length ≤ whole then
      places ++ List.replicate (whole - places.length) '0' ++ ['.', '0']
    else places.take whole ++ '.' :: places.drop whole

def text : Binary64 → List Char
  | .nan => ['n', 'a', 'n']
  | .infinite negative => if negative then "-inf".toList else "inf".toList
  | .finite negative significand exponent =>
    let body :=
      if significand = 0 then ['0', '.', '0']
      else
        let d := shortest significand exponent
        let places := decimal d.digits
        layOut places (d.exponent + places.length - 1)
    if negative then '-' :: body else body

/-- The number for digits before and after the point and a decimal exponent. -/
def ofPlaces (negative : Bool) (whole fraction : List Char) (exponent : Int) : Binary64 :=
  let places := (whole ++ fraction).dropWhile (· = '0')
  ofDecimal negative (ofDigits 10 places) places.length (exponent - fraction.length)

def readExponent? : List Char → Option Int
  | [] => some 0
  | mark :: rest =>
    if mark = 'e' || mark = 'E' then
      let (negative, places) := takeSign rest
      if places.isEmpty || !places.all isAsciiDigit then none
      else
        let size : Int := ofDigits 10 places
        some (if negative then -size else size)
    else none

def readUnsigned? (negative : Bool) (body : List Char) : Option Binary64 :=
  let name := body.map Char.toLower
  if name = "inf".toList || name = "infinity".toList then some (.infinite negative)
  else if name = "nan".toList then some .nan
  else
    let whole := body.takeWhile isAsciiDigit
    let rest := body.dropWhile isAsciiDigit
    let (fraction, rest) :=
      match rest with
      | '.' :: rest => (rest.takeWhile isAsciiDigit, rest.dropWhile isAsciiDigit)
      | rest => ([], rest)
    if whole.isEmpty && fraction.isEmpty then none
    else (readExponent? rest).map (ofPlaces negative whole fraction)

/-- Reads a number with blanks around it and digits of any script. -/
def ofText? (source : List Char) : Option Binary64 :=
  let plain := source.map plainChar
  let inner := ((plain.dropWhile isPlainBlank).reverse.dropWhile isPlainBlank).reverse
  let (negative, body) := takeSign inner
  readUnsigned? negative body

end Clat.Number.Binary64
