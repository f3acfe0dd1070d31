import Clat.Proofs.Checksum.Field

/-! Verification of octets that carry a checksum. Octets verify if their sum folds to the second of
the zeros, that is, if it is a positive multiple of 65535. A checksum behind an even number of octets
makes up for what is missing to the next multiple. A change of one octet is smaller than the distance
of two multiples, so that it never goes unnoticed. -/
namespace Clat.Checksum

/-- The two octets of a 16-bit value. -/
def valueOctets (value : Int) : List UInt8 :=
  [UInt8.ofNat (value.toNat / 256), UInt8.ofNat (value.toNat % 256)]

/-- Octets with a checksum behind them. -/
def sealed (octets : List UInt8) (checksum : Int) : List UInt8 := octets ++ valueOctets checksum

/-- A receiver takes octets for unharmed, checksum included. -/
def Verifies (octets : List UInt8) : Prop := fold (add 0 octets) = 0xffff

theorem fold_eq_modulus_iff {sum : Int} (nonneg : 0 ≤ sum) :
    fold sum = modulus ↔ sum ≠ 0 ∧ sum % modulus = 0 := by
  obtain rfl | positive := Int.le_iff_eq_or_lt.mp nonneg
  · simp
  · rw [fold_of_pos positive]
    simp only [modulus]
    omega

theorem verifies_iff (octets : List UInt8) :
    Verifies octets ↔ add 0 octets ≠ 0 ∧ add 0 octets % modulus = 0 :=
  fold_eq_modulus_iff (add_nonneg octets)

theorem add_sealed {octets : List UInt8} (even : octets.length % 2 = 0) {checksum : Int}
    (fits : IsField16 checksum) : add 0 (sealed octets checksum) = add 0 octets + checksum := by
  have high := toNat_high fits
  have low := toNat_low fits
  rw [sealed, add_zero_append even]
  simp only [valueOctets, add, word, high, low]
  omega

/-- The checksum that octets verify with is their own. Where that is the first of the zeros, the
second does as well. -/
theorem verifies_sealed_iff {octets : List UInt8} (even : octets.length % 2 = 0) {checksum : Int}
    (fits : IsField16 checksum) :
    Verifies (sealed octets checksum) ↔
      checksum = finish (add 0 octets) ∨ checksum = 0xffff ∧ finish (add 0 octets) = 0 := by
  have nonneg := add_nonneg octets
  rw [verifies_iff, add_sealed even fits, finish, complement_of_field (fold_isField16 nonneg)]
  obtain ⟨least, greatest⟩ := fits
  generalize add 0 octets = sum at nonneg ⊢
  obtain rfl | positive := Int.le_iff_eq_or_lt.mp nonneg
  · rw [fold_zero]
    simp only [modulus] at *
    omega
  · rw [fold_of_pos positive]
    simp only [modulus] at *
    omega

/-- A change of one octet changes a sum, and by less than what would make up for it. -/
theorem Verifies.not_set {octets : List UInt8} (verifies : Verifies octets) {offset : Nat}
    (inside : offset < octets.length) {octet : UInt8} (other : octet ≠ octets[offset]) :
    ¬ Verifies (octets.set offset octet) := by
  intro changed
  obtain ⟨-, before⟩ := (verifies_iff octets).1 verifies
  obtain ⟨-, after⟩ := (verifies_iff _).1 changed
  rw [add_set 0 inside octet] at after
  have apart : (octet.toNat : Int) ≠ (octets.getD offset 0).toNat := by
    intro same
    apply other
    rw [← UInt8.toNat_inj, Int.ofNat_inj.1 same, List.getD_eq_getElem?_getD,
      List.getElem?_eq_getElem inside, Option.getD_some]
  have bound := octet.toNat_lt
  have bound' := (octets.getD offset 0).toNat_lt
  have place : weight offset = 256 ∨ weight offset = 1 := by
    unfold weight
    split
    · exact .inl rfl
    · exact .inr rfl
  simp only [modulus] at before after
  obtain place | place := place
  · rw [place] at after
    omega
  · rw [place] at after
    omega

/-- An even number of octets verifies with a checksum behind it just if that is the checksum of the
octets, or the second of the zeros where theirs is the first. So it does with its own checksum, and
whenever it verifies, it no longer does after a change of any single octet, one of the checksum
included. -/
theorem verifies_sealed_detects {octets : List UInt8} (even : octets.length % 2 = 0)
    {checksum : Int} (least : 0 ≤ checksum) (greatest : checksum ≤ 0xffff) :
    (Verifies (sealed octets checksum) ↔
      checksum = finish (add 0 octets) ∨ checksum = 0xffff ∧ finish (add 0 octets) = 0) ∧
    Verifies (sealed octets (finish (add 0 octets))) ∧
    (Verifies (sealed octets checksum) →
      ∀ offset octet, ∀ inside : offset < (sealed octets checksum).length,
        octet ≠ (sealed octets checksum)[offset] →
          ¬ Verifies ((sealed octets checksum).set offset octet)) := by
  have own : IsField16 (finish (add 0 octets)) := finish_isField16 (add_nonneg octets)
  refine ⟨verifies_sealed_iff even ⟨least, greatest⟩, ?_, ?_⟩
  · exact (verifies_sealed_iff even own).2 (.inl rfl)
  · intro verifies offset octet inside other
    exact verifies.not_set inside other

theorem verifies_sealed_detects_otherZero :
    let octets : List UInt8 := [0xff, 0xff]
    octets.length % 2 = 0 ∧ (0 : Int) ≤ 0xffff ∧ (0xffff : Int) ≤ 0xffff ∧
      finish (add 0 octets) = 0 ∧ Verifies (sealed octets 0) ∧ Verifies (sealed octets 0xffff) ∧
      ¬ Verifies ((sealed octets 0xffff).set 3 0xfe) := by
  intro octets
  have even : octets.length % 2 = 0 := by decide
  have finished : finish (add 0 octets) = 0 := by
    rw [finish, fold_of_le (by decide)]
    decide
  obtain ⟨exact, own, detects⟩ := verifies_sealed_detects even
    (by decide : (0 : Int) ≤ 0xffff) (Int.le_refl _)
  rw [finished] at own
  have second : Verifies (sealed octets 0xffff) := exact.2 (.inr ⟨rfl, finished⟩)
  exact ⟨even, by decide, Int.le_refl _, finished, own, second,
    detects second 3 0xfe (by decide) (by decide)⟩

end Clat.Checksum
