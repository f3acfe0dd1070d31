/-! UTF-8. Decoding refuses a text at the first octet that no well-formed text could have
there and says why; the lead octet fixes how many octets follow and the range of the
first of them. -/
namespace Clat.Text

inductive Utf8Error where
  | badStart
  /-- An octet that does not continue the character begun. -/
  | badContinuation
  | truncated
  deriving DecidableEq, Repr

def Utf8Error.message : Utf8Error → String
  | .badStart => "invalid start byte"
  | .badContinuation => "invalid continuation byte"
  | .truncated => "unexpected end of data"

/-- What a lead octet calls for: octets to follow, the least and greatest value of the
first of them, and the bits the lead itself contributes. -/
def leadOctet? (b : Nat) : Option (Nat × Nat × Nat × Nat) :=
  if b < 0x80 then some (0, 0, 0, b)
  else if 0xc2 ≤ b && b ≤ 0xdf then some (1, 0x80, 0xbf, b - 0xc0)
  else if b = 0xe0 then some (2, 0xa0, 0xbf, 0)
  else if b = 0xed then some (2, 0x80, 0x9f, 0xd)
  else if 0xe1 ≤ b && b ≤ 0xef then some (2, 0x80, 0xbf, b - 0xe0)
  else if b = 0xf0 then some (3, 0x90, 0xbf, 0)
  else if 0xf1 ≤ b && b ≤ 0xf3 then some (3, 0x80, 0xbf, b - 0xf0)
  else if b = 0xf4 then some (3, 0x80, 0x8f, 4)
  else none

/-- Where decoding stands: the octets still owed, the range of the next one, and the bits
so far. -/
structure Utf8State where
  owed : Nat
  least : Nat
  greatest : Nat
  bits : Nat

/-- Decodes from a state. Between characters `owed` is zero. -/
def decodeFrom (state : Utf8State) : List UInt8 → Except Utf8Error (List Char)
  | [] => if state.owed = 0 then .ok [] else .error .truncated
  | octet :: rest =>
    let b := octet.toNat
    match state.owed with
    | 0 =>
      match leadOctet? b with
      | none => .error .badStart
      | some (0, _, _, bits) => (Char.ofNat bits :: ·) <$> decodeFrom ⟨0, 0, 0, 0⟩ rest
      | some (owed, least, greatest, bits) => decodeFrom ⟨owed, least, greatest, bits⟩ rest
    | owed + 1 =>
      if state.least ≤ b && b ≤ state.greatest then
        let bits := state.bits * 64 + (b - 0x80)
        if owed = 0 then (Char.ofNat bits :: ·) <$> decodeFrom ⟨0, 0, 0, 0⟩ rest
        else decodeFrom ⟨owed, 0x80, 0xbf, bits⟩ rest
      else .error .badContinuation

def decodeUtf8 (octets : List UInt8) : Except Utf8Error (List Char) :=
  decodeFrom ⟨0, 0, 0, 0⟩ octets

def utf8Size (c : Char) : Nat :=
  let n := c.toNat
  if n < 0x80 then 1 else if n < 0x800 then 2 else if n < 0x10000 then 3 else 4

def utf8Length : List Char → Nat
  | [] => 0
  | c :: rest => utf8Size c + utf8Length rest

def encodeUtf8Char (c : Char) : List UInt8 :=
  let n := c.toNat
  let tail (k : Nat) : UInt8 := UInt8.ofNat (0x80 + n / Nat.pow 64 k % 64)
  match utf8Size c with
  | 1 => [UInt8.ofNat n]
  | 2 => [UInt8.ofNat (0xc0 + n / 64), tail 0]
  | 3 => [UInt8.ofNat (0xe0 + n / 4096), tail 1, tail 0]
  | _ => [UInt8.ofNat (0xf0 + n / 262144), tail 2, tail 1, tail 0]

def encodeUtf8 (text : List Char) : List UInt8 := text.flatMap encodeUtf8Char

end Clat.Text
