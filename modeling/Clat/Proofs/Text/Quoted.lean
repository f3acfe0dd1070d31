import Clat.Proofs.Number.Digits
import Clat.Text.Quoted
import Mathlib.Data.List.Basic

/-! Quoted octets. Each octet is written in a way that is read back whatever follows it, so that the
quoted form tells octets from any others. -/
namespace Clat.Text

open Clat.Number

/-- Reads one octet of a quoted form, and what follows it. -/
def readQuoted : List Char → Nat × List Char
  | '\\' :: 'x' :: high :: low :: rest => (ofDigits 16 [high, low], rest)
  | '\\' :: 't' :: rest => (9, rest)
  | '\\' :: 'n' :: rest => (10, rest)
  | '\\' :: 'r' :: rest => (13, rest)
  | '\\' :: c :: rest => (c.toNat, rest)
  | c :: rest => (c.toNat, rest)
  | [] => (0, [])

/-- An octet as it stands between quotes. -/
def quotedOctet (quote : Char) (c : Char) : List Char :=
  if c.toNat < 0x7f then quoteChar quote c else hexEscape c.toNat

theorem quoteFor_eq (text : List Char) : quoteFor text = '"' ∨ quoteFor text = '\'' := by
  unfold quoteFor
  split
  · exact .inl rfl
  · exact .inr rfl

theorem readQuoted_hexEscape {n : Nat} (small : n < 256) (rest : List Char) :
    readQuoted (hexEscape n ++ rest) = (n, rest) := by
  have fits : n < 16 ^ 2 := small
  have value := ofDigits_fixedDigits (by decide) (by decide) fits
  rw [hexEscape, if_pos small]
  change (ofDigits 16 (fixedDigits 16 2 n), rest) = _
  rw [value]

theorem readQuoted_plain {c : Char} (plain : c ≠ '\\') (rest : List Char) :
    readQuoted (c :: rest) = (c.toNat, rest) := by
  unfold readQuoted
  split <;> simp_all

theorem readQuoted_quotedOctet {quote c : Char} (quotes : quote = '"' ∨ quote = '\'')
    (small : c.toNat < 256) (rest : List Char) :
    readQuoted (quotedOctet quote c ++ rest) = (c.toNat, rest) := by
  unfold quotedOctet quoteChar
  by_cases plain : c.toNat < 0x7f
  · rw [if_pos plain]
    by_cases escaped : c = quote ∨ c = '\\'
    · rw [if_pos (by simpa using escaped)]
      rcases escaped with rfl | rfl
      · rcases quotes with rfl | rfl <;> rfl
      · rfl
    rw [if_neg (by simpa using escaped)]
    by_cases tab : c = '\t'
    · rw [if_pos tab, tab]
      rfl
    rw [if_neg tab]
    by_cases feed : c = '\n'
    · rw [if_pos feed, feed]
      rfl
    rw [if_neg feed]
    by_cases carriage : c = '\r'
    · rw [if_pos carriage, carriage]
      rfl
    rw [if_neg carriage]
    split
    · exact readQuoted_plain (fun slash => escaped (.inr slash)) rest
    · exact readQuoted_hexEscape small rest
  · rw [if_neg plain]
    exact readQuoted_hexEscape small rest

theorem quotedOctet_ne_nil (quote c : Char) : quotedOctet quote c ≠ [] := by
  unfold quotedOctet quoteChar hexEscape
  split_ifs <;> simp

theorem flatMap_quotedOctet_inj {quote : Char} (quotes : quote = '"' ∨ quote = '\'')
    {text other : List Char} (small : ∀ c ∈ text, c.toNat < 256)
    (small' : ∀ c ∈ other, c.toNat < 256)
    (same : text.flatMap (quotedOctet quote) = other.flatMap (quotedOctet quote)) :
    text = other := by
  induction text generalizing other with
  | nil =>
    cases other with
    | nil => rfl
    | cons c rest => simp [quotedOctet_ne_nil] at same
  | cons c rest ih =>
    cases other with
    | nil => simp [quotedOctet_ne_nil] at same
    | cons c' rest' =>
      obtain ⟨first, others⟩ := List.forall_mem_cons.1 small
      obtain ⟨first', others'⟩ := List.forall_mem_cons.1 small'
      have read := congrArg readQuoted same
      rw [List.flatMap_cons, List.flatMap_cons, readQuoted_quotedOctet quotes first,
        readQuoted_quotedOctet quotes first'] at read
      obtain ⟨one, more⟩ := Prod.mk.inj read
      rw [Char.toNat_inj.1 one, ih others others' more]

theorem toNat_octetChar (octet : UInt8) : (Char.ofNat octet.toNat).toNat = octet.toNat := by
  have small : octet.toNat < 256 := octet.toNat_lt
  have valid : octet.toNat.isValidChar := .inl (by omega)
  rw [Char.ofNat, dif_pos valid]
  rfl

/-- The quoted form tells octets from any others. -/
theorem quotedOctets_inj {octets other : List UInt8}
    (same : quotedOctets octets = quotedOctets other) : octets = other := by
  have small (octets : List UInt8) :
      ∀ c ∈ octets.map fun octet => Char.ofNat octet.toNat, c.toNat < 256 := by
    intro c member
    obtain ⟨octet, -, rfl⟩ := List.mem_map.1 member
    rw [toNat_octetChar]
    exact octet.toNat_lt
  have inject : Function.Injective fun octet : UInt8 => Char.ofNat octet.toNat := by
    intro octet octet' same
    have codes := congrArg Char.toNat same
    rw [toNat_octetChar, toNat_octetChar] at codes
    exact UInt8.toNat_inj.1 codes
  unfold quotedOctets at same
  simp only [List.cons_append, List.cons.injEq, true_and] at same
  obtain ⟨quote, bodies⟩ := same
  rw [← quote] at bodies
  have texts := flatMap_quotedOctet_inj (quoteFor_eq _) (small octets) (small other)
    (List.append_cancel_right bodies)
  exact List.map_injective_iff.2 inject texts

end Clat.Text
