import Clat.Number.Digits

/-! Loose texts. A text that comes from outside may hold halves of surrogate pairs, which stand for
octets that are no text, or for pairs that were taken apart. It has a UTF-8 form just if it holds
none of them. -/
namespace Clat.Text

open Clat.Number

/-- A character, or half of a surrogate pair by its distance from the first one, U+D800. -/
inductive Point where
  | char (c : Char)
  | half (offset : Fin 0x800)
  deriving DecidableEq, Repr

def Point.isHalf : Point → Bool
  | .char _ => false
  | .half _ => true

structure LooseText where
  points : List Point
  deriving DecidableEq, Repr

/-- The first halves in a text, side by side, on which encoding stops. -/
structure EncodingError where
  first : Fin 0x800
  position : Nat
  count : Nat
  deriving DecidableEq, Repr

def EncodingError.message (error : EncodingError) : String :=
  let what :=
    if error.count = 1 then
      " '" ++ String.ofList ('\\' :: 'u' :: fixedDigits 16 4 (0xd800 + error.first.val))
        ++ "' in position " ++ toString error.position
    else
      "s in position " ++ toString error.position ++ "-"
        ++ toString (error.position + error.count - 1)
  "'utf-8' codec can't encode character" ++ what ++ ": surrogates not allowed"

namespace LooseText

/-- A text as a loose one. It is a coercion. -/
def ofString (text : String) : LooseText := ⟨text.toList.map .char⟩

instance : Coe String LooseText := ⟨ofString⟩

/-- The characters of points that start at a position of a text. -/
def charsFrom (position : Nat) : List Point → Except EncodingError (List Char)
  | [] => .ok []
  | .char c :: rest => (c :: ·) <$> charsFrom (position + 1) rest
  | .half first :: rest =>
    .error { first, position, count := 1 + (rest.takeWhile Point.isHalf).length }

/-- The text that is meant, which has a UTF-8 form. -/
def text (loose : LooseText) : Except EncodingError String :=
  String.ofList <$> charsFrom 0 loose.points

end LooseText
end Clat.Text
