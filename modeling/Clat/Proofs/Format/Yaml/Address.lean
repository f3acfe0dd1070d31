import Clat.Proofs.Address.Text
import Clat.Proofs.Format.Yaml.Form

/-! Addresses as plain scalars. The text of an IPv4 address has the form of no other type. That of
an IPv6 address has the form of an integer where its groups are the places of one in base 60, and
then it is worth what the places say. -/
namespace Clat.Format.Yaml

open Clat.Number

/-- Places after the first are numbers of at most two decimal digits, below sixty. -/
theorem isSixty_digits {group : Nat} :
    isSixty (digits 16 group) = true ↔
      (digits 16 group).all isAsciiDigit = true ∧ group < 0x60 := by
  by_cases one : group < 16
  · have all : ∀ group < 16, isSixty [digitChar group] = [digitChar group].all isAsciiDigit := by
      decide
    have small : group < 0x60 := by omega
    rw [digits, dif_pos (.inl one), all group one, and_iff_left small]
  by_cases two : group < 256
  · have places : digits 16 group = [digitChar (group / 16), digitChar (group % 16)] := by
      rw [digits, dif_neg (by omega), digits, dif_pos (by omega)]
      rfl
    have all : ∀ high < 16, ∀ low < 16, isSixty [digitChar high, digitChar low] = true ↔
        [digitChar high, digitChar low].all isAsciiDigit = true ∧ high < 6 := by decide
    have high : group / 16 < 6 ↔ group < 0x60 := by omega
    rw [places, all _ (by omega) _ (by omega), high]
  · have long : ¬ (digits 16 group).length ≤ 1 + 1 := by
      rw [length_digits_le_iff (by decide)]
      exact two
    have not : isSixty (digits 16 group) = false := by
      unfold isSixty
      split
      · rename_i same
        simp [same] at long
      · rename_i same
        simp [same] at long
      · rfl
    rw [not]
    constructor
    · intro false
      cases false
    · rintro ⟨-, small⟩
      omega

/-- The digits of a number other than zero start with one that is not zero. -/
theorem exists_digits_cons {group : Nat} (some : group ≠ 0) :
    ∃ digit more, 0 < digit ∧ digit < 16 ∧ digits 16 group = digitChar digit :: more := by
  by_cases one : group < 16
  · refine ⟨group, [], by omega, one, ?_⟩
    rw [digits, dif_pos (.inl one)]
  · have several : 1 < (digits 16 group).length := by
      by_contra short
      have below : group < 16 ^ (0 + 1) :=
        (length_digits_le_iff (by decide)).1 (show (digits 16 group).length ≤ 0 + 1 by omega)
      omega
    obtain ⟨digit, positive, small, front⟩ := head_digits (by decide) several
    obtain ⟨more, places⟩ := List.head?_eq_some_iff.1 front
    exact ⟨digit, more, positive, small, places⟩

/-- The first place is a number of decimal digits other than zero. -/
theorem isLeading_digits {group : Nat} :
    isLeading (digits 16 group) = true ↔
      (digits 16 group).all isAsciiDigit = true ∧ group ≠ 0 := by
  by_cases zero : group = 0
  · rw [zero, digits]
    simp [isLeading]
    decide
  · obtain ⟨digit, more, positive, small, places⟩ := exists_digits_cons zero
    have all : ∀ digit < 16, 0 < digit →
        ('1' ≤ digitChar digit && digitChar digit ≤ '9') = isAsciiDigit (digitChar digit) := by
      decide
    have marks : ∀ digit < 16, isDigitMark (digitChar digit) = isAsciiDigit (digitChar digit) := by
      decide
    have others : more.all isDigitMark = more.all isAsciiDigit := by
      rw [Bool.eq_iff_iff, List.all_eq_true, List.all_eq_true]
      refine forall₂_congr fun c member => ?_
      obtain ⟨digit, small, rfl⟩ := exists_digitChar_of_mem_digits (show 2 ≤ 16 by decide)
        (places ▸ List.mem_cons_of_mem _ member)
      rw [marks digit small]
    rw [places, isLeading, all digit small positive, others, List.all_cons, and_iff_left zero]

end Clat.Format.Yaml

namespace Clat.IPv6

open Clat.Number Clat.Text Clat.Format.Yaml

/-- Whether the text of an address is an integer in base 60: no group is left out of it, all groups
have decimal digits only, the first is not zero, and the others are below sixty as they are
written. -/
structure IsSexagesimal (address : IPv6) : Prop where
  whole : (longestZeroRun (groupsOf address.octets)).2 ≤ 1
  decimal : ∀ group ∈ groupsOf address.octets, (digits 16 group).all isAsciiDigit = true
  first : (groupsOf address.octets).head? ≠ some 0
  others : ∀ group ∈ (groupsOf address.octets).tail, group < 0x60

instance (address : IPv6) : Decidable address.IsSexagesimal :=
  decidable_of_iff ((longestZeroRun (groupsOf address.octets)).2 ≤ 1 ∧
      (∀ group ∈ groupsOf address.octets, (digits 16 group).all isAsciiDigit = true) ∧
      (groupsOf address.octets).head? ≠ some 0 ∧
      ∀ group ∈ (groupsOf address.octets).tail, group < 0x60)
    ⟨fun ⟨whole, decimal, first, others⟩ => ⟨whole, decimal, first, others⟩,
      fun ⟨whole, decimal, first, others⟩ => ⟨whole, decimal, first, others⟩⟩

/-- What the groups of an address are worth as the places of an integer in base 60. -/
def sexagesimal (address : IPv6) : Nat :=
  (groupsOf address.octets).foldl (fun total group => total * 60 + ofDigits 10 (digits 16 group)) 0

section Text

variable {address : IPv6}

theorem exists_groups (address : IPv6) :
    ∃ group groups, groupsOf address.octets = group :: groups ∧ groups ≠ [] := by
  have eight := length_groups address
  match groupsOf address.octets, eight with
  | group :: next :: groups, _ => exact ⟨group, next :: groups, rfl, List.cons_ne_nil next groups⟩

theorem renderGroups_cons {group : Nat} {groups : List Nat} (some : groups ≠ []) :
    renderGroups (group :: groups) = digits 16 group ++ ':' :: renderGroups groups := by
  obtain ⟨next, others, rfl⟩ := List.exists_cons_of_ne_nil some
  rfl

theorem colon_not_mem_digits (group : Nat) : ':' ∉ digits 16 group :=
  not_mem_digits (by decide) (by decide) (by decide)

theorem isIntegerBody_renderGroups {group : Nat} {groups : List Nat} (some : groups ≠ []) :
    isIntegerBody (renderGroups (group :: groups)) = true ↔
      ((digits 16 group).all isAsciiDigit = true ∧ group ≠ 0) ∧
        ∀ other ∈ groups, (digits 16 other).all isAsciiDigit = true ∧ other < 0x60 := by
  rw [renderGroups_cons some, isIntegerBody_colon (colon_not_mem_digits group),
    splitOn_renderGroups, pieces, if_neg some, Bool.and_eq_true, isLeading_digits, List.all_map]
  refine and_congr_right fun _ => List.all_eq_true.trans ?_
  exact forall₂_congr fun other _ => isSixty_digits

theorem isIntegerBody_renderCompressed (groups : List Nat) :
    isIntegerBody (renderCompressed groups) = true ↔
      (longestZeroRun groups).2 ≤ 1 ∧ isIntegerBody (renderGroups groups) = true := by
  unfold renderCompressed
  obtain ⟨start, length⟩ := longestZeroRun groups
  simp only
  by_cases compressed : 1 < length
  · rw [if_pos compressed, isIntegerBody_gap]
    simp
    omega
  · rw [if_neg compressed, and_iff_right (by omega)]

/-- The text of an address has the form of an integer just where it is one in base 60. -/
theorem isIntegerBody_text (bare : address.zone = none) :
    isIntegerBody address.text.toList = true ↔ address.IsSexagesimal := by
  obtain ⟨group, groups, eq, some⟩ := exists_groups address
  rw [toList_text bare, isIntegerBody_renderCompressed, eq, isIntegerBody_renderGroups some]
  constructor
  · rintro ⟨whole, ⟨decimal, first⟩, others⟩
    refine ⟨by rwa [eq], ?_, ?_, ?_⟩
    · rw [eq]
      exact List.forall_mem_cons.2 ⟨decimal, fun other member => (others other member).1⟩
    · rw [eq, List.head?_cons, Ne, Option.some.injEq]
      exact first
    · rw [eq]
      exact fun other member => (others other member).2
  · rintro ⟨whole, decimal, first, others⟩
    rw [eq] at whole decimal first others
    obtain ⟨leading, rest⟩ := List.forall_mem_cons.1 decimal
    refine ⟨whole, ⟨leading, ?_⟩, fun other member => ⟨rest other member, others other member⟩⟩
    rw [List.head?_cons, Ne, Option.some.injEq] at first
    exact first

theorem mem_text (bare : address.zone = none) {c : Char} (member : c ∈ address.text.toList) :
    c = ':' ∨ ∃ group, c ∈ digits 16 group := by
  rw [toList_text bare] at member
  exact mem_renderCompressed member

theorem colon_mem_text (bare : address.zone = none) : ':' ∈ address.text.toList := by
  rw [toList_text bare]
  unfold renderCompressed
  simp only
  split
  · exact List.mem_append_right _ List.mem_cons_self
  · obtain ⟨group, groups, eq, some⟩ := exists_groups address
    rw [eq, renderGroups_cons some]
    exact List.mem_append_right _ List.mem_cons_self

theorem resolvePlain_text (bare : address.zone = none) :
    resolvePlain address.text.toList
      = coreTag (if address.IsSexagesimal then "int" else "str") := by
  have low {c : Char} (small : c.toNat < 48) : c ∉ address.text.toList := by
    rw [toList_text bare]
    exact not_mem_renderCompressed small _
  rw [resolvePlain_of_colon (colon_mem_text bare)
    ⟨low (by decide), low (by decide), low (by decide), low (by decide)⟩]
  simp only [isIntegerBody_text bare]

/-- Places are read in decimal. -/
theorem readIn_digits {group : Nat} (decimal : (digits 16 group).all isAsciiDigit = true)
    (fits : group < 65536) :
    readIn 10 (digits 16 group) = .ok (ofDigits 10 (digits 16 group) : Nat) := by
  have short : (digits 16 group).length ≤ 3 + 1 := (length_digits_le_iff (by decide)).2 fits
  have read := readInteger_digits (List.all_eq_true.1 decimal) false (digits_ne_nil 16 group)
  have limit : 3 + 1 ≤ digitLimit := by decide
  rw [if_neg (Nat.not_lt.2 (short.trans limit))] at read
  exact congrArg (Except.mapError Format.ScalarFault.integer) read

theorem mapM_readIn_digits {groups : List Nat}
    (decimal : ∀ group ∈ groups, (digits 16 group).all isAsciiDigit = true)
    (fit : ∀ group ∈ groups, group < 65536) :
    (groups.map (digits 16)).mapM (readIn 10)
      = .ok (groups.map fun group => (ofDigits 10 (digits 16 group) : Nat)) := by
  induction groups with
  | nil => rfl
  | cons group groups ih =>
    obtain ⟨first, others⟩ := List.forall_mem_cons.1 decimal
    obtain ⟨firstFits, othersFit⟩ := List.forall_mem_cons.1 fit
    rw [List.map_cons, List.mapM_cons, readIn_digits first firstFits, ih others othersFit]
    rfl

/-- Where the text of an address is an integer, it is what its groups are worth as places. -/
theorem makeInteger_text (bare : address.zone = none) (places : address.IsSexagesimal) :
    makeInteger address.text.toList = .ok (address.sexagesimal : Int) := by
  obtain ⟨group, groups, eq, some⟩ := exists_groups address
  have fit : ∀ other ∈ group :: groups, other < 65536 := eq ▸ fun _ => lt_of_mem_groupsOf
  obtain ⟨whole, decimal, first, -⟩ := places
  rw [eq] at whole decimal first
  have leading : isLeading (digits 16 group) = true := by
    rw [isLeading_digits]
    exact ⟨decimal group List.mem_cons_self, fun zero => first (by rw [zero]; rfl)⟩
  have text : address.text.toList = renderGroups (group :: groups) := by
    rw [toList_text bare, renderCompressed, eq]
    exact if_neg (Nat.not_lt.2 whole)
  have read := mapM_readIn_digits decimal fit
  have pieces : splitOn ':' (renderGroups (group :: groups)) = (group :: groups).map (digits 16) :=
    splitOn_renderGroups (group :: groups)
  have plain : '_' ∉ address.text.toList := by
    intro member
    rcases mem_text bare member with colon | ⟨group, digit⟩
    · cases colon
    · exact not_mem_digits (by decide) (by decide) (by decide) digit
  rw [← pieces] at read
  rw [text] at plain ⊢
  rw [renderGroups_cons some] at plain read ⊢
  rw [makeInteger_colon leading plain read, sexagesimal, eq]
  have cast := sixtyInteger_places
    ((group :: groups).map fun group => ofDigits 10 (digits 16 group))
  rw [List.map_map, List.foldl_map] at cast
  exact congrArg Except.ok cast

/-- Each further place of four digits makes a value at most sixty times as large. -/
theorem foldl_places_lt {groups : List Nat}
    (decimal : ∀ group ∈ groups, (digits 16 group).all isAsciiDigit = true)
    (fit : ∀ group ∈ groups, group < 65536) (total : Nat) :
    groups.foldl (fun total group => total * 60 + ofDigits 10 (digits 16 group)) total + 10 ^ 4
      ≤ (total + 10 ^ 4) * 60 ^ groups.length := by
  induction groups generalizing total with
  | nil => simp
  | cons group groups ih =>
    obtain ⟨first, others⟩ := List.forall_mem_cons.1 decimal
    obtain ⟨firstFits, othersFit⟩ := List.forall_mem_cons.1 fit
    have short : (digits 16 group).length ≤ 3 + 1 := (length_digits_le_iff (by decide)).2 firstFits
    have place : ofDigits 10 (digits 16 group) < 10 ^ 4 := by
      apply Nat.lt_of_lt_of_le
      · apply ofDigits_lt (by decide)
        exact fun c member => isDigitOf_of_isAsciiDigit (List.all_eq_true.1 first c member)
      · exact Nat.pow_le_pow_right (by decide) short
    calc _ ≤ (total * 60 + ofDigits 10 (digits 16 group) + 10 ^ 4) * 60 ^ groups.length :=
          ih others othersFit _
      _ ≤ ((total + 10 ^ 4) * 60) * 60 ^ groups.length := by
          apply Nat.mul_le_mul_right
          omega
      _ = (total + 10 ^ 4) * 60 ^ (group :: groups).length := by
          rw [Nat.mul_assoc, List.length_cons, ← Nat.pow_succ']

/-- An integer in base 60 that is the text of an address can be written in decimal. -/
theorem length_decimal_sexagesimal {address : IPv6} (places : address.IsSexagesimal) :
    (decimal address.sexagesimal).length ≤ digitLimit := by
  have bound := foldl_places_lt places.decimal (fun _ => lt_of_mem_groupsOf) 0
  have short : (decimal address.sexagesimal).length ≤ 19 + 1 := by
    rw [length_digits_le_iff (by decide), sexagesimal]
    rw [length_groups] at bound
    omega
  exact short.trans (by decide)

/-- A number is no address. -/
theorem ofText?_decimal (n : Nat) : ofText? (String.ofList (Number.decimal n)) = none := by
  have free {mark : Char} (other : ¬ (48 ≤ mark.toNat ∧ mark.toNat ≤ 57) ∧
      ¬ (97 ≤ mark.toNat ∧ mark.toNat ≤ 122)) : mark ∉ Number.decimal n :=
    not_mem_digits (by decide) (by decide) other
  have whole : splitOn ':' (Number.decimal n) = [Number.decimal n] :=
    splitOn_of_not_mem (free (by decide))
  have none : read? (Number.decimal n) = none := by
    rw [read?, readParts?_of_not_mem (free (by decide)), whole]
    rfl
  rw [ofText?, readScoped?, String.toList_ofList, splitFirst_of_not_mem (free (by decide))]
  simp only [List.contains_iff_mem]
  rw [if_neg (free (by decide)), if_neg (free (by decide)), none]

end Text

end Clat.IPv6

namespace Clat.IPv4

open Clat.Number Clat.Text Clat.Format.Yaml

theorem mem_text {address : IPv4} {c : Char} (member : c ∈ address.text.toList) :
    c = '.' ∨ ∃ octet, c ∈ decimal octet := by
  rw [text, String.toList_ofList] at member
  exact mem_render member

/-- The text of an address has the form of no other type. -/
theorem resolvePlain_text (address : IPv4) :
    resolvePlain address.text.toList = coreTag "str" := by
  have digits (n : Nat) : ∀ c ∈ decimal n, isAsciiDigit c = true :=
    fun c => isAsciiDigit_of_mem_decimal
  have low {c : Char} (other : ¬ (46 ≤ c.toNat ∧ c.toNat ≤ 57)) : c ∉ address.text.toList := by
    rw [text, String.toList_ofList]
    exact fun member => other (range_of_mem_render member)
  have free : '-' ∉ address.text.toList ∧ '+' ∉ address.text.toList ∧ '\n' ∉ address.text.toList :=
    ⟨low (by decide), low (by decide), low (by decide)⟩
  obtain ⟨digit, more, places⟩ : ∃ digit more, decimal address.a.toNat = digit :: more :=
    List.exists_cons_of_ne_nil (digits_ne_nil 10 address.a.toNat)
  have first := digits address.a.toNat
  rw [places] at first
  obtain ⟨number, others⟩ := List.forall_mem_cons.1 first
  have marks : ∀ c ∈ more, isDigitMark c = true := fun c member => by
    rw [isDigitMark, others c member, Bool.true_or]
  rw [toList_text, places, List.cons_append] at free ⊢
  apply resolvePlain_dotted number free
  · rw [List.dropWhile_append_of_pos marks, List.dropWhile_cons_of_neg (by decide)]
  · exact digits address.b.toNat

end Clat.IPv4
