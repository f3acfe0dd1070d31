import Clat.Number.Digits
import Clat.Text.Printable

/-! Quoted form of text and of octets. Single quotes stand around unless the text has a
single quote and no double quote. Backslash, the quote in use and everything that has no
printed form are escaped. -/
namespace Clat.Text

open Clat.Number

/-- The quote that goes around: a double one only when that avoids an escape. -/
def quoteFor (text : List Char) : Char :=
  if text.contains '\'' && !text.contains '"' then '"' else '\''

/-- The escape of a character that has no printed form, of the least sufficient width. -/
def hexEscape (n : Nat) : List Char :=
  if n < 0x100 then '\\' :: 'x' :: fixedDigits 16 2 n
  else if n < 0x10000 then '\\' :: 'u' :: fixedDigits 16 4 n
  else '\\' :: 'U' :: fixedDigits 16 8 n

def quoteChar (quote : Char) (c : Char) : List Char :=
  if c = quote || c = '\\' then ['\\', c]
  else if c = '\t' then ['\\', 't']
  else if c = '\n' then ['\\', 'n']
  else if c = '\r' then ['\\', 'r']
  else if isPrintable c then [c]
  else hexEscape c.toNat

def quoted (text : List Char) : List Char :=
  let quote := quoteFor text
  quote :: text.flatMap (quoteChar quote) ++ [quote]

/-- Quoted octets: those outside printable ASCII are escaped. -/
def quotedOctets (octets : List UInt8) : List Char :=
  let text := octets.map fun b => Char.ofNat b.toNat
  let quote := quoteFor text
  let body := text.flatMap fun c => if c.toNat < 0x7f then quoteChar quote c else hexEscape c.toNat
  'b' :: quote :: body ++ [quote]

end Clat.Text
