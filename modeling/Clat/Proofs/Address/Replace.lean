import Clat.Proofs.Address.Parts

/-! Addresses of which parts are replaced one after another. A part that does not fit is refused and
leaves the address as it is. The network stays whatever is replaced. The middle lies inside the
identifier, so the octets around it are those of the last identifier that fits, and the middle is
that of the last part that fits, of either kind. -/
namespace Clat.IPv6

open Clat.Checksum

/-- A part that takes the place of the one in an address. -/
inductive Part where
  | interfaceId (octets : List UInt8)
  | middle (value : Int)
  deriving DecidableEq, Repr

namespace Part

/-- Whether a part has the size of what it takes the place of. -/
def Fits : Part → Prop
  | .interfaceId octets => octets.length = 8
  | .middle value => 0 ≤ value ∧ value ≤ 0xffff

/-- Puts a part into an address. -/
def putInto (address : IPv6) : Part → Except ReplaceError IPv6
  | .interfaceId octets => address.withInterfaceId octets
  | .middle value => address.withMiddle value

/-- The address after a part was put into it or refused. -/
def after (address : IPv6) (part : Part) : IPv6 :=
  match part.putInto address with
  | .ok replaced => replaced
  | .error _ => address

/-- The identifier that an address takes from a part. -/
def identifier? : Part → Option (List UInt8)
  | .interfaceId octets => if octets.length = 8 then some octets else none
  | .middle _ => none

/-- The middle that an address takes from a part. An identifier has one in its octets 3 and 4. -/
def middle? : Part → Option Int
  | .interfaceId octets =>
    if octets.length = 8 then
      some ((octets.getD 3 0).toNat * 256 + (octets.getD 4 0).toNat)
    else none
  | .middle value => if 0 ≤ value ∧ value ≤ 0xffff then some value else none

theorem putInto_of_fits (address : IPv6) {part : Part} (fits : part.Fits) :
    part.putInto address = .ok (part.after address) := by
  unfold after
  cases part with
  | interfaceId octets =>
    obtain ⟨replaced, put, -⟩ := address.withInterfaceId_ok fits
    rw [putInto, put]
  | middle value =>
    obtain ⟨replaced, put, -⟩ := address.withMiddle_ok fits
    rw [putInto, put]

/-- A part that does not fit is refused. -/
theorem putInto_of_not_fits (address : IPv6) {part : Part} (misfit : ¬ part.Fits) :
    (∃ error, part.putInto address = .error error) ∧ part.after address = address := by
  unfold after
  cases part with
  | interfaceId octets =>
    have refused : address.withInterfaceId octets = .error (.badIdentifier octets.length) :=
      dif_neg misfit
    rw [putInto, refused]
    exact ⟨⟨_, rfl⟩, rfl⟩
  | middle value =>
    have refused : address.withMiddle value = .error (.badMiddle value) := if_neg misfit
    rw [putInto, refused]
    exact ⟨⟨_, rfl⟩, rfl⟩

theorem identifier?_of_not_fits {part : Part} (misfit : ¬ part.Fits) : part.identifier? = none := by
  cases part with
  | interfaceId octets => exact if_neg misfit
  | middle value => rfl

theorem middle?_of_not_fits {part : Part} (misfit : ¬ part.Fits) : part.middle? = none := by
  cases part with
  | interfaceId octets => exact if_neg misfit
  | middle value => exact if_neg misfit

theorem octets_after_interfaceId (address : IPv6) {octets : List UInt8}
    (fits : octets.length = 8) :
    ((interfaceId octets).after address).octets = address.network ++ octets := by
  obtain ⟨replaced, put, made⟩ := address.withInterfaceId_ok fits
  rw [after, putInto, put]
  exact made

theorem octets_after_middle (address : IPv6) {value : Int} (fits : IsField16 value) :
    ((middle value).after address).octets = putField address.octets middleOffset value := by
  obtain ⟨replaced, put, made⟩ := address.withMiddle_ok fits
  rw [after, putInto, put]
  exact made

/-- No part reaches into the network. -/
theorem network_after (address : IPv6) (part : Part) :
    (part.after address).network = address.network := by
  by_cases fits : part.Fits
  · cases part with
    | interfaceId octets => exact network_of_octets (octets_after_interfaceId address fits)
    | middle value =>
      rw [network, octets_after_middle address fits, putField, List.take_set_of_le (by decide),
        List.take_set_of_le (by decide), network]
  · rw [(putInto_of_not_fits address fits).2]

/-- The octets around the middle are those of an identifier that fits, and no middle reaches into
them. -/
theorem getElem?_after (address : IPv6) (part : Part) {place : Nat}
    (around : place ∈ [0, 1, 2, 5, 6, 7]) :
    (part.after address).octets[8 + place]?
      = (part.identifier?.getD address.interfaceId)[place]? := by
  have kept : address.octets[8 + place]? = address.interfaceId[place]? := by
    rw [IPv6.interfaceId, List.getElem?_drop]
  by_cases fits : part.Fits
  · cases part with
    | interfaceId octets =>
      have taken : (interfaceId octets).identifier? = some octets := if_pos fits
      rw [octets_after_interfaceId address fits, taken, Option.getD_some,
        List.getElem?_append_right (by rw [length_network]; omega), length_network,
        Nat.add_sub_cancel_left]
    | middle value =>
      have apart : middleOffset ≠ 8 + place ∧ middleOffset + 1 ≠ 8 + place := by
        simp only [List.mem_cons, List.not_mem_nil, or_false] at around
        rw [middleOffset]
        omega
      rw [octets_after_middle address fits, putField, List.getElem?_set_ne apart.2,
        List.getElem?_set_ne apart.1, kept]
      rfl
  · rw [(putInto_of_not_fits address fits).2, identifier?_of_not_fits fits, kept]
    rfl

/-- The middle is that of a part that fits, of either kind. -/
theorem middle_after (address : IPv6) (part : Part) :
    ((part.after address).middle : Int) = part.middle?.getD address.middle := by
  by_cases fits : part.Fits
  · rw [middle_eq]
    cases part with
    | interfaceId octets =>
      have taken : (interfaceId octets).middle? = some (field octets 3) := if_pos fits
      have behind (place : Nat) :
          (address.network ++ octets).getD (8 + place) 0 = octets.getD place 0 := by
        rw [List.getD_eq_getElem?_getD, List.getElem?_append_right (by rw [length_network]; omega),
          length_network, Nat.add_sub_cancel_left, List.getD_eq_getElem?_getD]
      rw [octets_after_interfaceId address fits, taken, Option.getD_some, field, field]
      exact congrArg₂ word (behind 3) (behind 4)
    | middle value =>
      have taken : (middle value).middle? = some value := if_pos fits
      have inside : middleOffset + 2 ≤ address.octets.length := by
        rw [address.size_eq]
        decide
      rw [octets_after_middle address fits, taken, Option.getD_some, field_putField fits inside]
  · rw [(putInto_of_not_fits address fits).2, middle?_of_not_fits fits]
    rfl

end Part

/-- The address after parts were put into it or refused, one after another. -/
def afterAll (address : IPv6) (parts : List Part) : IPv6 := parts.foldl Part.after address

section Run

variable (start : IPv6)

theorem afterAll_concat (parts : List Part) (part : Part) :
    start.afterAll (parts ++ [part]) = part.after (start.afterAll parts) := by
  rw [afterAll, List.foldl_append]
  rfl

/-- Of what parts give, one more part gives the last. -/
theorem getLast?_filterMap_concat {α : Type} (given : Part → Option α) (parts : List Part)
    (part : Part) :
    ((parts ++ [part]).filterMap given).getLast?
      = (given part).or (parts.filterMap given).getLast? := by
  rw [List.filterMap_append, List.getLast?_append]
  cases chosen : given part with
  | none => simp [chosen]
  | some value => simp [chosen]

theorem network_afterAll (parts : List Part) : (start.afterAll parts).network = start.network := by
  induction parts using List.reverseRecOn with
  | nil => rfl
  | append_singleton parts part ih => rw [afterAll_concat, Part.network_after, ih]

theorem getElem?_afterAll (parts : List Part) {place : Nat} (around : place ∈ [0, 1, 2, 5, 6, 7]) :
    (start.afterAll parts).octets[8 + place]?
      = ((parts.filterMap Part.identifier?).getLast?.getD start.interfaceId)[place]? := by
  induction parts using List.reverseRecOn with
  | nil =>
    rw [← List.getElem?_drop]
    rfl
  | append_singleton parts part ih =>
    rw [afterAll_concat, Part.getElem?_after _ part around, getLast?_filterMap_concat]
    cases part.identifier? with
    | none =>
      rw [Option.none_or, Option.getD_none, ← ih, IPv6.interfaceId, List.getElem?_drop]
    | some octets => rfl

theorem middle_afterAll (parts : List Part) :
    ((start.afterAll parts).middle : Int)
      = (parts.filterMap Part.middle?).getLast?.getD start.middle := by
  induction parts using List.reverseRecOn with
  | nil => rfl
  | append_singleton parts part ih =>
    rw [afterAll_concat, Part.middle_after, getLast?_filterMap_concat]
    cases part.middle? with
    | none => rw [Option.none_or, Option.getD_none, ih]
    | some value => rw [Option.some_or, Option.getD_some, Option.getD_some]

/-- Whatever parts are put into an address one after another, the network is the one at the start.
The octets around the middle are those of the last identifier that fits, or those at the start. The
middle is that of the last part that fits, be it a middle or an identifier with its octets 3 and 4,
or the one at the start. Wherever the parts stop, one more that fits is put into the address, and
any other is refused and changes nothing. -/
theorem afterAll_parts (parts : List Part) :
    (start.afterAll parts).network = start.network ∧
      (start.afterAll parts).sameNetwork start = true ∧
      (∀ place ∈ [0, 1, 2, 5, 6, 7], (start.afterAll parts).octets[8 + place]?
        = ((parts.filterMap Part.identifier?).getLast?.getD start.interfaceId)[place]?) ∧
      ((start.afterAll parts).middle : Int)
        = (parts.filterMap Part.middle?).getLast?.getD start.middle ∧
      ∀ part : Part,
        (part.putInto (start.afterAll parts) = .ok (start.afterAll (parts ++ [part])) ↔ part.Fits) ∧
        ((∃ error, part.putInto (start.afterAll parts) = .error error) ∧
          start.afterAll (parts ++ [part]) = start.afterAll parts ↔ ¬ part.Fits) := by
  have network := start.network_afterAll parts
  refine ⟨network, ?_, fun place around => start.getElem?_afterAll parts around,
    start.middle_afterAll parts, fun part => ?_⟩
  · rw [sameNetwork, network]
    exact beq_self_eq_true start.network
  · rw [afterAll_concat]
    by_cases fits : part.Fits
    · rw [Part.putInto_of_fits _ fits]
      simp [fits]
    · obtain ⟨⟨error, refused⟩, unchanged⟩ := Part.putInto_of_not_fits (start.afterAll parts) fits
      rw [refused, unchanged]
      simp [fits]

example :
    (unspecified.afterAll [.middle 0xabcd, .interfaceId [1, 2, 3, 4, 5, 6, 7, 8], .middle 0x10000,
      .interfaceId [9]]).octets = [0, 0, 0, 0, 0, 0, 0, 0, 1, 2, 3, 4, 5, 6, 7, 8] := by
  decide

end Run

end Clat.IPv6
