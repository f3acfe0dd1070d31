import Clat.Text.Utf8

/-! UTF-8 read back. The lead octet of a character takes the bits above the lowest groups of six,
and each octet after it one of those groups. -/
namespace Clat.Text

theorem leadOctet?_two {bits : Nat} (least : 2 ≤ bits) (greatest : bits < 32) :
    leadOctet? (0xc0 + bits) = some (1, 0x80, 0xbf, bits) := by
  have range : (0xc2 ≤ 0xc0 + bits && 0xc0 + bits ≤ 0xdf) = true := by
    rw [Bool.and_eq_true, decide_eq_true_eq, decide_eq_true_eq]
    omega
  rw [leadOctet?, if_neg (by omega), if_pos range, Nat.add_sub_cancel_left]

/-- The octet after the lead excludes long forms and surrogates. -/
theorem leadOctet?_three {bits : Nat} (greatest : bits < 16) :
    leadOctet? (0xe0 + bits)
      = some (2, if bits = 0 then 0xa0 else 0x80, if bits = 13 then 0x9f else 0xbf, bits) := by
  have all : ∀ bits < 16, leadOctet? (0xe0 + bits)
      = some (2, if bits = 0 then 0xa0 else 0x80, if bits = 13 then 0x9f else 0xbf, bits) := by
    decide
  exact all bits greatest

/-- The octet after the lead excludes long forms and what is above the last character. -/
theorem leadOctet?_four {bits : Nat} (greatest : bits < 5) :
    leadOctet? (0xf0 + bits)
      = some (3, if bits = 0 then 0x90 else 0x80, if bits = 4 then 0x8f else 0xbf, bits) := by
  have all : ∀ bits < 5, leadOctet? (0xf0 + bits)
      = some (3, if bits = 0 then 0x90 else 0x80, if bits = 4 then 0x8f else 0xbf, bits) := by
    decide
  exact all bits greatest

section Octets

variable {lead owed least greatest bits group : Nat} (rest : List UInt8)

theorem decodeFrom_one (small : bits < 0x80) :
    decodeFrom ⟨0, 0, 0, 0⟩ (UInt8.ofNat bits :: rest)
      = (Char.ofNat bits :: ·) <$> decodeFrom ⟨0, 0, 0, 0⟩ rest := by
  have value : (UInt8.ofNat bits).toNat = bits := by
    rw [UInt8.toNat_ofNat']
    omega
  have one : leadOctet? bits = some (0, 0, 0, bits) := if_pos small
  rw [decodeFrom]
  simp only [value, one]

theorem decodeFrom_lead (octet : lead < 256)
    (calls : leadOctet? lead = some (owed + 1, least, greatest, bits)) :
    decodeFrom ⟨0, 0, 0, 0⟩ (UInt8.ofNat lead :: rest)
      = decodeFrom ⟨owed + 1, least, greatest, bits⟩ rest := by
  have value : (UInt8.ofNat lead).toNat = lead := by
    rw [UInt8.toNat_ofNat']
    omega
  rw [decodeFrom]
  simp only [value, calls]

theorem decodeFrom_next (six : group < 64)
    (fits : least ≤ 0x80 + group ∧ 0x80 + group ≤ greatest) :
    decodeFrom ⟨owed + 1, least, greatest, bits⟩ (UInt8.ofNat (0x80 + group) :: rest)
      = if owed = 0 then (Char.ofNat (bits * 64 + group) :: ·) <$> decodeFrom ⟨0, 0, 0, 0⟩ rest
        else decodeFrom ⟨owed, 0x80, 0xbf, bits * 64 + group⟩ rest := by
  have value : (UInt8.ofNat (0x80 + group)).toNat = 0x80 + group := by
    rw [UInt8.toNat_ofNat']
    omega
  have range : (least ≤ 0x80 + group && 0x80 + group ≤ greatest) = true := by
    rw [Bool.and_eq_true, decide_eq_true_eq, decide_eq_true_eq]
    exact fits
  rw [decodeFrom]
  simp only [value, range, if_true, Nat.add_sub_cancel_left]

end Octets

theorem decodeFrom_encodeUtf8Char (c : Char) (rest : List UInt8) :
    decodeFrom ⟨0, 0, 0, 0⟩ (encodeUtf8Char c ++ rest)
      = (c :: ·) <$> decodeFrom ⟨0, 0, 0, 0⟩ rest := by
  have self : Char.ofNat c.toNat = c := Char.ofNat_toNat c
  have valid : c.toNat < 0xd800 ∨ 0xdfff < c.toNat ∧ c.toNat < 0x110000 := c.valid
  unfold encodeUtf8Char utf8Size
  generalize c.toNat = n at self valid
  simp only [show Nat.pow 64 0 = 1 from rfl, show Nat.pow 64 1 = 64 from rfl,
    show Nat.pow 64 2 = 4096 from rfl, Nat.div_one]
  by_cases one : n < 0x80
  · rw [if_pos one]
    simp only [List.cons_append, List.nil_append]
    rw [decodeFrom_one rest one, self]
  by_cases two : n < 0x800
  · have whole : n / 64 * 64 + n % 64 = n := by omega
    rw [if_neg one, if_pos two]
    simp only [List.cons_append, List.nil_append]
    rw [decodeFrom_lead _ (by omega) (leadOctet?_two (by omega) (by omega)),
      decodeFrom_next _ (by omega) (by omega), if_pos rfl, whole, self]
  by_cases three : n < 0x10000
  · have whole : (n / 4096 * 64 + n / 64 % 64) * 64 + n % 64 = n := by omega
    rw [if_neg one, if_neg two, if_pos three]
    simp only [List.cons_append, List.nil_append]
    rw [decodeFrom_lead _ (by omega) (leadOctet?_three (by omega)),
      decodeFrom_next _ (by omega) (by split <;> split <;> omega), if_neg (by decide),
      decodeFrom_next _ (by omega) (by omega), if_pos rfl, whole, self]
  · have whole : ((n / 262144 * 64 + n / 4096 % 64) * 64 + n / 64 % 64) * 64 + n % 64 = n := by
      omega
    rw [if_neg one, if_neg two, if_neg three]
    simp only [List.cons_append, List.nil_append]
    rw [decodeFrom_lead _ (by omega) (leadOctet?_four (by omega)),
      decodeFrom_next _ (by omega) (by split <;> split <;> omega), if_neg (by decide),
      decodeFrom_next _ (by omega) (by omega), if_neg (by decide),
      decodeFrom_next _ (by omega) (by omega), if_pos rfl, whole, self]

/-- A text is decoded from the octets it is encoded with. -/
theorem decodeUtf8_encodeUtf8 (text : List Char) : decodeUtf8 (encodeUtf8 text) = .ok text := by
  unfold decodeUtf8 encodeUtf8
  induction text with
  | nil => rfl
  | cons c text ih =>
    rw [List.flatMap_cons, decodeFrom_encodeUtf8Char, ih]
    rfl

end Clat.Text
