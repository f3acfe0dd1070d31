import Clat.Declared
import Clat.Proofs.Number.Digits
import Clat.Proofs.Text.Split

/-! Addresses read back from their text. Two colons stand for the run of zero groups that is left
out: the groups on both sides of it have one text each, so how many are missing tells the run. -/
namespace Clat

open Clat.Number Clat.Text

/-- Characters other than small letters and decimal digits are in no digits. -/
theorem not_mem_digits {base n : Nat} (radix : 2 ≤ base) (letters : base ≤ 36) {c : Char}
    (other : ¬ (48 ≤ c.toNat ∧ c.toNat ≤ 57) ∧ ¬ (97 ≤ c.toNat ∧ c.toNat ≤ 122)) :
    c ∉ digits base n := by
  intro member
  obtain ⟨digit, small, rfl⟩ := exists_digitChar_of_mem_digits radix member
  rcases digitChar_range (show digit < 36 by omega) with range | range
  · exact other.1 range
  · exact other.2 range

namespace IPv4

theorem readOctet?_decimal (octet : UInt8) : readOctet? (decimal octet.toNat) = some octet := by
  have below := octet.toNat_lt
  have value : ofDigits 10 (decimal octet.toNat) = octet.toNat :=
    ofDigits_digits (by decide) (by decide) _
  have short : (decimal octet.toNat).length ≤ 2 + 1 :=
    (length_digits_le_iff (by decide)).2 (by omega)
  have places : (decimal octet.toNat).all isAsciiDigit = true :=
    List.all_eq_true.2 fun c => isAsciiDigit_of_mem_decimal
  have front : ¬ (1 < (decimal octet.toNat).length ∧ (decimal octet.toNat).head? = some '0') := by
    rintro ⟨several, zero⟩
    obtain ⟨digit, positive, small, first⟩ := head_digits (by decide) several
    have same : digitChar digit = '0' := Option.some.inj (first.symm.trans zero)
    have read := digitValue?_digitChar (show digit < 36 by omega)
    have nothing : digitValue? '0' = some 0 := by decide
    rw [same, nothing, Option.some.injEq] at read
    omega
  unfold readOctet?
  simp only [value]
  rw [if_neg, if_neg, if_neg (by omega), UInt8.ofNat_toNat]
  · simpa using front
  · simp [digits_ne_nil, places]
    omega

/-- An IPv4 address is read back from its text. -/
theorem read?_render (address : IPv4) : read? address.render = some address := by
  have free : ∀ piece ∈ address.octets.map fun octet => decimal octet.toNat, '.' ∉ piece := by
    intro piece member
    obtain ⟨octet, -, rfl⟩ := List.mem_map.1 member
    exact not_mem_digits (by decide) (by decide) (by decide)
  have pieces := splitOn_joinWith (by simp [octets]) free
  unfold read? render
  rw [pieces]
  simp only [octets, List.map_cons, List.map_nil, readOctet?_decimal]
  rfl

theorem read_text (path : String) (address : IPv4) : read path address.text = .ok address := by
  have given : ofText? address.text = some address := by
    rw [ofText?, text, String.toList_ofList, read?_render]
  rw [read, given]

/-- The characters of a text are dots and decimal digits. -/
theorem mem_render {address : IPv4} {c : Char} (member : c ∈ address.render) :
    c = '.' ∨ ∃ octet, c ∈ decimal octet := by
  rcases mem_joinWith member with point | ⟨piece, among, digit⟩
  · exact .inl point
  · obtain ⟨octet, -, rfl⟩ := List.mem_map.1 among
    exact .inr ⟨octet.toNat, digit⟩

theorem range_of_mem_render {address : IPv4} {c : Char} (member : c ∈ address.render) :
    46 ≤ c.toNat ∧ c.toNat ≤ 57 := by
  rcases mem_render member with rfl | ⟨octet, digit⟩
  · decide
  · have range := (isAsciiDigit_iff c).1 (isAsciiDigit_of_mem_decimal digit)
    omega

theorem toList_text (address : IPv4) :
    address.text.toList = decimal address.a.toNat ++ '.' :: (decimal address.b.toNat ++ '.' ::
      (decimal address.c.toNat ++ '.' :: decimal address.d.toNat)) := by
  rw [text, String.toList_ofList]
  rfl

end IPv4

namespace IPv6

section Groups

theorem octetsOf_groupsOf {octets : List UInt8} (even : octets.length % 2 = 0) :
    octetsOf (groupsOf octets) = octets := by
  induction octets using List.twoStepInduction with
  | nil => rfl
  | singleton high => simp at even
  | cons_cons high low rest ih =>
    have highLt := high.toNat_lt
    have lowLt := low.toNat_lt
    have highPart : (high.toNat * 256 + low.toNat) / 256 = high.toNat := by omega
    have lowPart : (high.toNat * 256 + low.toNat) % 256 = low.toNat := by omega
    rw [groupsOf, octetsOf, highPart, lowPart, UInt8.ofNat_toNat, UInt8.ofNat_toNat,
      ih (by simp only [List.length_cons] at even; omega)]

theorem length_groupsOf (octets : List UInt8) : (groupsOf octets).length = octets.length / 2 := by
  induction octets using List.twoStepInduction with
  | nil => rfl
  | singleton high => simp [groupsOf]
  | cons_cons high low rest ih =>
    rw [groupsOf, List.length_cons, ih, List.length_cons, List.length_cons]
    omega

theorem length_groups (address : IPv6) : (groupsOf address.octets).length = 8 := by
  rw [length_groupsOf, address.size_eq]

theorem lt_of_mem_groupsOf {octets : List UInt8} {group : Nat} (member : group ∈ groupsOf octets) :
    group < 65536 := by
  induction octets using List.twoStepInduction with
  | nil => cases member
  | singleton high => cases member
  | cons_cons high low rest ih =>
    rw [groupsOf, List.mem_cons] at member
    rcases member with rfl | later
    · have highLt := high.toNat_lt
      have lowLt := low.toNat_lt
      omega
    · exact ih later

theorem readGroup?_digits {group : Nat} (fits : group < 65536) :
    readGroup? (digits 16 group) = some group := by
  have short : (digits 16 group).length ≤ 3 + 1 := (length_digits_le_iff (by decide)).2 fits
  have places : (digits 16 group).all (isDigitOf 16) = true :=
    List.all_eq_true.2 fun c => isDigitOf_of_mem_digits (by decide) (by decide)
  rw [readGroup?, if_neg, ofDigits_digits (by decide) (by decide)]
  simp [digits_ne_nil, places]
  omega

theorem mapM_readGroup?_digits {groups : List Nat} (fit : ∀ group ∈ groups, group < 65536) :
    (groups.map (digits 16)).mapM readGroup? = some groups := by
  induction groups with
  | nil => rfl
  | cons group groups ih =>
    obtain ⟨first, others⟩ := List.forall_mem_cons.1 fit
    rw [List.map_cons, List.mapM_cons, readGroup?_digits first, ih others]
    rfl

end Groups

section Runs

theorem take_zeroRun (groups : List Nat) :
    groups.take (zeroRun groups) = List.replicate (zeroRun groups) 0 := by
  induction groups with
  | nil => rfl
  | cons group groups ih =>
    unfold zeroRun at ih ⊢
    by_cases zero : group = 0
    · simp only [List.takeWhile_cons, zero, beq_self_eq_true, if_true, List.length_cons,
        List.take_succ_cons, List.replicate_succ, ih]
    · simp [zero]

theorem zeroRun_le (groups : List Nat) : zeroRun groups ≤ groups.length :=
  (List.takeWhile_sublist _).length_le

/-- What is left out for a run of zero groups is zeros, and they are inside. -/
theorem longestZeroRun_zero (groups : List Nat) :
    (groups.drop (longestZeroRun groups).1).take (longestZeroRun groups).2
        = List.replicate (longestZeroRun groups).2 0 ∧
      (longestZeroRun groups).1 + (longestZeroRun groups).2 ≤ groups.length := by
  induction groups with
  | nil => exact ⟨rfl, Nat.le_refl 0⟩
  | cons group groups ih =>
    rw [longestZeroRun]
    simp only
    split
    · refine ⟨take_zeroRun (group :: groups), ?_⟩
      rw [Nat.zero_add]
      exact zeroRun_le (group :: groups)
    · obtain ⟨zeros, inside⟩ := ih
      refine ⟨zeros, ?_⟩
      rw [List.length_cons]
      omega

end Runs

section Pieces

/-- What stands between the colons in the text of groups. -/
def pieces (groups : List Nat) : List (List Char) :=
  if groups = [] then [[]] else groups.map (digits 16)

theorem splitOn_renderGroups (groups : List Nat) :
    splitOn ':' (renderGroups groups) = pieces groups := by
  unfold renderGroups pieces
  by_cases empty : groups = []
  · rw [if_pos empty, empty]
    rfl
  · rw [if_neg empty, splitOn_joinWith (by simpa using empty)]
    intro piece member
    obtain ⟨group, -, rfl⟩ := List.mem_map.1 member
    exact not_mem_digits (by decide) (by decide) (by decide)

theorem side_pieces (groups : List Nat) : side (pieces groups) = groups.map (digits 16) := by
  unfold side pieces
  cases groups with
  | nil => rfl
  | cons group groups => simp [digits_ne_nil]

/-- Only the first piece may be empty. -/
theorem pieces_eq_cons (groups : List Nat) :
    ∃ first others, pieces groups = first :: others ∧ ∀ piece ∈ others, piece ≠ [] := by
  cases groups with
  | nil => exact ⟨[], [], rfl, by simp⟩
  | cons group groups =>
    refine ⟨digits 16 group, groups.map (digits 16), rfl, fun piece member => ?_⟩
    obtain ⟨other, -, rfl⟩ := List.mem_map.1 member
    exact digits_ne_nil 16 other

theorem readGroups?_all {groups : List Nat} (eight : groups.length = 8)
    (fit : ∀ group ∈ groups, group < 65536) :
    readGroups? (groups.map (digits 16)) = some groups := by
  cases groups with
  | nil => cases eight
  | cons group groups =>
    have full : [] ∉ (groups.map (digits 16)).dropLast := by
      intro member
      obtain ⟨other, -, empty⟩ := List.mem_map.1 (List.dropLast_subset _ member)
      exact digits_ne_nil 16 other empty
    rw [List.map_cons, readGroups?]
    simp only [List.contains_iff_mem]
    rw [if_neg full, if_pos (by simpa using eight), ← List.map_cons, mapM_readGroup?_digits fit]

/-- Where groups are left out, zeros are read. -/
theorem readGroups?_compressed {front back : List Nat}
    (fitFront : ∀ group ∈ front, group < 65536) (fitBack : ∀ group ∈ back, group < 65536)
    (few : front.length + back.length < 8) :
    readGroups? (pieces front ++ [] :: pieces back)
      = some (front ++ List.replicate (8 - (front.length + back.length)) 0 ++ back) := by
  -- The empty part between the two colons is the first of the inner ones that is empty: a side
  -- without groups is one empty part too, but it is the first of all parts or the last.
  obtain ⟨first, others, split, full⟩ := pieces_eq_cons front
  obtain ⟨second, rest, split', -⟩ := pieces_eq_cons back
  have inner : (others ++ [] :: pieces back).dropLast = others ++ [] :: (pieces back).dropLast := by
    rw [split', List.dropLast_append_of_ne_nil (List.cons_ne_nil _ _), List.dropLast_cons_of_ne_nil
      (List.cons_ne_nil _ _)]
  have taken : (others ++ [] :: (pieces back).dropLast).takeWhile (· ≠ []) = others := by
    rw [List.takeWhile_append_of_pos (fun piece member => by simpa using full piece member)]
    simp
  have left : (others ++ [] :: pieces back).drop others.length.succ = pieces back := by
    rw [List.drop_append, List.drop_of_length_le (by omega)]
    simp
  rw [split, List.cons_append, readGroups?]
  simp only [inner, taken, left, ← split, side_pieces, List.length_map]
  rw [if_pos (by simp), if_neg (by omega), mapM_readGroup?_digits fitFront,
    mapM_readGroup?_digits fitBack]
  rfl

end Pieces

section Text

theorem mem_renderGroups {groups : List Nat} {c : Char} (member : c ∈ renderGroups groups) :
    c = ':' ∨ ∃ group, c ∈ digits 16 group := by
  rcases mem_joinWith member with colon | ⟨piece, among, digit⟩
  · exact .inl colon
  · obtain ⟨group, -, rfl⟩ := List.mem_map.1 among
    exact .inr ⟨group, digit⟩

/-- The characters of a text without a zone are colons and hexadecimal digits. -/
theorem mem_renderCompressed {groups : List Nat} {c : Char}
    (member : c ∈ renderCompressed groups) : c = ':' ∨ ∃ group, c ∈ digits 16 group := by
  unfold renderCompressed at member
  simp only at member
  split at member
  · rw [List.mem_append, List.mem_cons, List.mem_cons] at member
    rcases member with front | colon | colon | back
    · exact mem_renderGroups front
    · exact .inl colon
    · exact .inl colon
    · exact mem_renderGroups back
  · exact mem_renderGroups member

/-- They come after dots, slashes and percent signs. -/
theorem range_of_mem_renderCompressed {groups : List Nat} {c : Char}
    (member : c ∈ renderCompressed groups) : 48 ≤ c.toNat ∧ c.toNat ≤ 122 := by
  rcases mem_renderCompressed member with rfl | ⟨group, inside⟩
  · decide
  · obtain ⟨digit, small, rfl⟩ := exists_digitChar_of_mem_digits (by decide) inside
    have range := digitChar_range (show digit < 36 by omega)
    omega

theorem not_mem_renderCompressed {mark : Char} (low : mark.toNat < 48) (groups : List Nat) :
    mark ∉ renderCompressed groups := by
  intro member
  have range := range_of_mem_renderCompressed member
  omega

theorem readParts?_of_not_mem {text : List Char} (free : '.' ∉ text) :
    readParts? text = some (splitOn ':' text) := by
  unfold readParts?
  cases last : (splitOn ':' text).getLast? with
  | none => exact absurd (List.getLast?_eq_none_iff.1 last) (splitOn_ne_nil ':' text)
  | some piece =>
    have plain : '.' ∉ piece := fun inside =>
      free (mem_of_mem_splitOn (List.mem_of_getLast? last) inside)
    simp only [last, List.contains_iff_mem]
    rw [if_neg plain]

theorem readGroups?_renderCompressed {groups : List Nat} (eight : groups.length = 8)
    (fit : ∀ group ∈ groups, group < 65536) :
    readGroups? (splitOn ':' (renderCompressed groups)) = some groups := by
  obtain ⟨zeros, inside⟩ := longestZeroRun_zero groups
  unfold renderCompressed
  generalize longestZeroRun groups = found at zeros inside ⊢
  obtain ⟨start, length⟩ := found
  simp only at zeros inside ⊢
  by_cases compressed : 1 < length
  · have whole : groups.take start ++ List.replicate length 0 ++ groups.drop (start + length)
        = groups := by
      rw [← zeros, List.append_assoc, ← List.drop_drop, List.take_append_drop,
        List.take_append_drop]
    have missing : 8 - ((groups.take start).length + (groups.drop (start + length)).length)
        = length := by
      rw [List.length_take, List.length_drop]
      omega
    rw [if_pos compressed, splitOn_append_mark, splitOn_cons_mark, splitOn_renderGroups,
      splitOn_renderGroups, readGroups?_compressed, missing, whole]
    · exact fun group member => fit group (List.mem_of_mem_take member)
    · exact fun group member => fit group (List.mem_of_mem_drop member)
    · rw [List.length_take, List.length_drop]
      omega
  · have some : groups ≠ [] := by
      rintro rfl
      cases eight
    rw [if_neg compressed, splitOn_renderGroups, pieces, if_neg some, readGroups?_all eight fit]

theorem toList_text {address : IPv6} (bare : address.zone = none) :
    address.text.toList = renderCompressed (groupsOf address.octets) := by
  rw [text, String.toList_ofList, render, bare, List.append_nil]

/-- An IPv6 address without a zone is read back from its text. -/
theorem ofText?_text {address : IPv6} (bare : address.zone = none) :
    ofText? address.text = some address := by
  have groups := readGroups?_renderCompressed (length_groups address) fun _ => lt_of_mem_groupsOf
  have octets : octetsOf (groupsOf address.octets) = address.octets :=
    octetsOf_groupsOf (by rw [address.size_eq])
  have free {mark : Char} (low : mark.toNat < 48) :=
    not_mem_renderCompressed low (groupsOf address.octets)
  have given : read? (renderCompressed (groupsOf address.octets)) = some address := by
    rw [read?, readParts?_of_not_mem (free (by decide))]
    simp only [Option.bind_eq_bind, Option.bind_some, groups, octets]
    rw [ofOctets?, dif_pos address.size_eq, ← bare]
  rw [ofText?, readScoped?, toList_text bare, splitFirst_of_not_mem (free (by decide))]
  simp only [List.contains_iff_mem]
  rw [if_neg (free (by decide)), if_neg (free (by decide)), given]

/-- Where a zone may stand, a text without one is read as it is elsewhere. -/
theorem ofScopedText?_text {address : IPv6} (bare : address.zone = none) :
    ofScopedText? address.text = some address := by
  have given := ofText?_text bare
  rw [ofText?] at given
  split at given
  · cases given
  · exact given

theorem read_text (path : String) {address : IPv6} (bare : address.zone = none) :
    read path address.text = .ok address := by
  rw [read, ofText?_text bare]

theorem zone_of_read? {text : List Char} {address : IPv6} (given : read? text = some address) :
    address.zone = none := by
  unfold read? at given
  obtain ⟨parts, -, made⟩ := Option.bind_eq_some_iff.1 given
  obtain ⟨groups, -, made⟩ := Option.bind_eq_some_iff.1 made
  unfold ofOctets? at made
  split at made
  · cases made
    rfl
  · cases made

/-- An address that a plain text denotes has no zone. -/
theorem zone_of_ofText? {text : String} {address : IPv6} (given : ofText? text = some address) :
    address.zone = none := by
  unfold ofText? at given
  split at given
  · cases given
  · rename_i free
    simp only [List.contains_iff_mem] at free
    rw [readScoped?, splitFirst_of_not_mem free] at given
    simp only at given
    split at given
    · cases given
    · exact zone_of_read? given

theorem zone_of_read {path text : String} {address : IPv6} (given : read path text = .ok address) :
    address.zone = none := by
  unfold read at given
  split at given
  · rename_i other denoted
    cases given
    exact zone_of_ofText? denoted
  · cases given

end Text

end IPv6
end Clat
