import Clat.Number.Integer

/-! Why reading JSON stops. A place in the text is given by the number of characters that
are left there. -/
namespace Clat.Format.Json

open Clat.Number

inductive Defect where
  | noValue
  | noName
  | noColon
  | noComma
  | unterminatedString
  | controlCharacter
  | unknownEscape
  | badCodeUnit
  | extraData
  | byteOrderMark
  deriving DecidableEq, Repr

def Defect.wording : Defect → String
  | .noValue => "Expecting value"
  | .noName => "Expecting property name enclosed in double quotes"
  | .noColon => "Expecting ':' delimiter"
  | .noComma => "Expecting ',' delimiter"
  | .unterminatedString => "Unterminated string starting at"
  | .controlCharacter => "Invalid control character at"
  | .unknownEscape => "Invalid \\escape"
  | .badCodeUnit => "Invalid \\uXXXX escape"
  | .extraData => "Extra data"
  | .byteOrderMark => "Unexpected UTF-8 BOM (decode using utf-8-sig)"

inductive Stop where
  /-- The text is no JSON at the place with `left` characters left. -/
  | defect (what : Defect) (left : Nat)
  | repeatedName (name : String)
  | integer (error : IntegerError)
  deriving DecidableEq, Repr

end Clat.Format.Json
