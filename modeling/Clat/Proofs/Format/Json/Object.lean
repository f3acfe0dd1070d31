import Clat.Format
import Clat.Proofs.Format.Items
import Mathlib.Data.List.TakeWhile

/-! JSON objects of texts. A string may be written with any escapes, and white space may stand
around every token; reading the object gives back its members, unless two of them have one name. -/
namespace Clat.Format.Json

open Clat.Number

/-- Four hexadecimal digits, of either case, and the code unit that they are. -/
structure IsUnit (places : List Char) (unit : Nat) : Prop where
  length : places.length = 4
  digits : ∀ c ∈ places, isDigitOf 16 c = true
  value : ofDigits 16 places = unit

instance (places : List Char) (unit : Nat) : Decidable (IsUnit places unit) :=
  decidable_of_iff (places.length = 4 ∧ places.all (isDigitOf 16) = true ∧
      ofDigits 16 places = unit)
    ⟨fun ⟨length, digits, value⟩ => ⟨length, List.all_eq_true.1 digits, value⟩,
      fun unit => ⟨unit.length, List.all_eq_true.2 unit.digits, unit.value⟩⟩

/-- Whether a text can stand in a string as it is. -/
def IsPlain (text : List Char) : Prop := ∀ c ∈ text, 0x20 ≤ c.toNat ∧ c ≠ '"' ∧ c ≠ '\\'

instance (text : List Char) : Decidable (IsPlain text) := List.decidableBAll _ text

/-- A character and a way to write it in a string: as it is, by a letter after a backslash, by its
code, or by the codes of a surrogate pair. The quotation mark, the backslash and the control
characters cannot stand as they are. -/
inductive Spelling : Char → List Char → Prop where
  | plain (c : Char) (visible : 0x20 ≤ c.toNat) (quote : c ≠ '"') (slash : c ≠ '\\') :
      Spelling c [c]
  | letter (c letter : Char) (stands : escapeLetter? letter = some c) : Spelling c ['\\', letter]
  | unit (c : Char) (places : List Char) (code : IsUnit places c.toNat) :
      Spelling c ('\\' :: 'u' :: places)
  | pair (c : Char) (high low : List Char) (first second : Nat) (leads : IsUnit high first)
      (ends : IsUnit low second) (range : 0xd800 ≤ first ∧ first ≤ 0xdbff)
      (range' : 0xdc00 ≤ second ∧ second ≤ 0xdfff)
      (code : c.toNat = 0x10000 + (first - 0xd800) * 0x400 + (second - 0xdc00)) :
      Spelling c ('\\' :: 'u' :: high ++ '\\' :: 'u' :: low)

/-- A text and what stands between the quotes of a string for it. -/
inductive Quotes : List Char → List Char → Prop where
  | nil : Quotes [] []
  | cons {c : Char} {spelled text body : List Char} (first : Spelling c spelled)
      (rest : Quotes text body) : Quotes (c :: text) (spelled ++ body)

/-- White space between tokens. -/
def IsGap (text : List Char) : Prop := ∀ c ∈ text, isSpace c = true

instance (text : List Char) : Decidable (IsGap text) := List.decidableBAll _ text

/-- A member of an object with white space around its tokens. -/
def IsMember (item : String × String) (text : List Char) : Prop :=
  ∃ front name middle middle' value back, text =
      front ++ '"' :: (name ++ '"' :: (middle ++ ':' :: (middle' ++ '"' :: (value ++ '"' :: back)))) ∧
    IsGap front ∧ IsGap middle ∧ IsGap middle' ∧ IsGap back ∧
    Quotes item.1.toList name ∧ Quotes item.2.toList value

/-- Members with commas between them. -/
inductive AreMembers : List (String × String) → List Char → Prop where
  | last {item : String × String} {text : List Char} (member : IsMember item text) :
      AreMembers [item] text
  | cons {item : String × String} {items : List (String × String)} {text rest : List Char}
      (member : IsMember item text) (others : AreMembers items rest) :
      AreMembers (item :: items) (text ++ ',' :: rest)

/-- A JSON text of an object whose members are strings. -/
def IsObject (items : List (String × String)) (text : List Char) : Prop :=
  ∃ front inside back, text = front ++ '\x7b' :: (inside ++ '\x7d' :: back) ∧
    IsGap front ∧ IsGap back ∧ (items = [] ∧ IsGap inside ∨ AreMembers items inside)

section Strings

variable {c : Char} {spelled text body rest : List Char} {start fuel : Nat}

theorem codeUnit?_of_isUnit {places : List Char} {unit : Nat} (code : IsUnit places unit) :
    codeUnit? places = some unit := by
  obtain ⟨length, digits, rfl⟩ := code
  have all : places.all (isDigitOf 16) = true := List.all_eq_true.2 digits
  rw [codeUnit?, length, all]
  rfl

/-- No character is half of a pair. -/
theorem not_surrogate (c : Char) : leadsPair c.toNat = false ∧ endsPair c.toNat = false := by
  have valid : c.toNat < 0xd800 ∨ 0xdfff < c.toNat ∧ c.toNat < 0x110000 := c.valid
  simp only [leadsPair, endsPair, Bool.and_eq_false_iff, decide_eq_false_iff_not]
  omega

theorem drop_of_isUnit {places : List Char} {unit : Nat} (code : IsUnit places unit)
    (rest : List Char) : (places ++ rest).drop 4 = rest := by
  rw [← code.length, List.drop_left]

theorem take_of_isUnit {places : List Char} {unit : Nat} (code : IsUnit places unit)
    (rest : List Char) : (places ++ rest).take 4 = places := by
  rw [← code.length, List.take_left]

theorem readUnit_unit {places : List Char} (code : IsUnit places c.toNat) (some : rest ≠ []) :
    readUnit (places ++ rest) = .ok (c, rest) := by
  obtain ⟨leads, ends⟩ := not_surrogate c
  have own : unitChar c.toNat = c := by
    rw [unitChar, leads, ends]
    exact Char.ofNat_toNat c
  have filled : rest.isEmpty = false := by simpa using some
  rw [readUnit, drop_of_isUnit code, take_of_isUnit code, codeUnit?_of_isUnit code]
  simp only [filled, leads, Bool.false_and, Bool.false_eq_true, if_false, own]
  split <;> rfl

theorem readUnit_pair {high low : List Char} {first second : Nat} (leads : IsUnit high first)
    (ends : IsUnit low second) (range : 0xd800 ≤ first ∧ first ≤ 0xdbff)
    (range' : 0xdc00 ≤ second ∧ second ≤ 0xdfff)
    (code : c.toNat = 0x10000 + (first - 0xd800) * 0x400 + (second - 0xdc00))
    (some : rest ≠ []) :
    readUnit (high ++ '\\' :: 'u' :: (low ++ rest)) = .ok (c, rest) := by
  have own : pairChar first second = c := by
    rw [pairChar, ← code]
    exact Char.ofNat_toNat c
  have long : 4 < (low ++ rest).length := by
    have filled := List.length_pos_of_ne_nil some
    rw [List.length_append, ends.length]
    omega
  have isFirst : leadsPair first = true := by simp [leadsPair, range]
  have isSecond : endsPair second = true := by simp [endsPair, range']
  rw [readUnit, drop_of_isUnit leads, take_of_isUnit leads, codeUnit?_of_isUnit leads]
  simp only [List.isEmpty_cons, isFirst, long, decide_true, Bool.and_self, if_true,
    take_of_isUnit ends, codeUnit?_of_isUnit ends, isSecond, drop_of_isUnit ends, own]
  rfl

/-- A text without special characters stands for itself. -/
theorem Quotes.self {text : List Char} (plain : IsPlain text) : Quotes text text := by
  induction text with
  | nil => exact .nil
  | cons c text ih =>
    obtain ⟨⟨visible, quote, slash⟩, others⟩ := List.forall_mem_cons.1 plain
    exact .cons (.plain c visible quote slash) (ih others)

theorem spelled_ne (spelling : Spelling c spelled) : spelled ≠ [] := by
  cases spelling <;> exact List.cons_ne_nil _ _

/-- A character is read from any way to write it, if something follows. -/
theorem readLiteralFrom_spelling (spelling : Spelling c spelled) (some : rest ≠ []) :
    readLiteralFrom start (fuel + 1) (spelled ++ rest) = do
      let (body, rest) ← readLiteralFrom start fuel rest
      return (c :: body, rest) := by
  cases spelling with
  | plain visible quote slash =>
    rw [List.singleton_append, readLiteralFrom, if_neg (by omega)]
    · exact quote
    · rintro rfl -
      exact slash rfl
    · rintro rest' rfl -
      exact slash rfl
    · rintro letter rest' rfl -
      exact slash rfl
  | letter letter stands =>
    rw [List.cons_append, List.singleton_append, readLiteralFrom, stands]
    rintro rfl
    cases stands
  | unit places code =>
    rw [List.cons_append, List.cons_append, readLiteralFrom, readUnit_unit code some]
    rfl
  | pair high low first second leads ends range range' code =>
    have whole : '\\' :: 'u' :: high ++ '\\' :: 'u' :: low ++ rest =
        '\\' :: 'u' :: (high ++ '\\' :: 'u' :: (low ++ rest)) := by
      simp
    rw [whole, readLiteralFrom, readUnit_pair leads ends range range' code some]
    rfl

/-- A string is read up to its closing quote. -/
theorem readLiteralFrom_quotes (quotes : Quotes text body) (enough : text.length < fuel) :
    readLiteralFrom start fuel (body ++ '"' :: rest) = .ok (text, rest) := by
  induction quotes generalizing fuel with
  | nil =>
    cases fuel with
    | zero => exact absurd enough (Nat.not_lt_zero _)
    | succ fuel => rfl
  | @cons c spelled text body first others ih =>
    cases fuel with
    | zero => exact absurd enough (Nat.not_lt_zero _)
    | succ fuel =>
      have filled : body ++ '"' :: rest ≠ [] := by simp
      rw [List.append_assoc, readLiteralFrom_spelling first filled,
        ih (Nat.lt_of_succ_lt_succ enough)]
      rfl

theorem Quotes.length_le (quotes : Quotes text body) : text.length ≤ body.length := by
  induction quotes with
  | nil => exact Nat.le_refl 0
  | cons first others ih =>
    have one := List.length_pos_of_ne_nil (spelled_ne first)
    rw [List.length_cons, List.length_append]
    omega

theorem readLiteral_quotes {name : String} (quotes : Quotes name.toList body) :
    readLiteral (body ++ '"' :: rest) = .ok (name, rest) := by
  have enough : name.toList.length < (body ++ '"' :: rest).length + 1 := by
    have shorter := quotes.length_le
    rw [List.length_append]
    omega
  rw [readLiteral, readLiteralFrom_quotes quotes enough]
  exact congrArg (fun name => Except.ok (name, rest)) String.ofList_toList

end Strings

section Objects

variable {text rest : List Char} {items : List (String × String)} {item : String × String}
  {fuel : Nat}

theorem skipSpace_gap {gap : List Char} (blank : IsGap gap) (rest : List Char) :
    skipSpace (gap ++ rest) = skipSpace rest :=
  List.dropWhile_append_of_pos blank

/-- The members of an object whose members are strings. -/
def membersOf (items : List (String × String)) : List (String × Json) :=
  items.map fun item => (item.1, .string item.2)

/-- A member is read up to the mark after it. -/
theorem readMembers_member (member : IsMember item text) (fuel : Nat) (mark : Char)
    (rest : List Char) (solid : isSpace mark = false) :
    readMembers (fuel + 2) (skipSpace (text ++ mark :: rest)) =
      match (mark :: rest : List Char) with
      | '\x7d' :: rest => .ok ([(item.1, .string item.2)], rest)
      | ',' :: rest => do
        let (members, rest) ← readMembers (fuel + 1) (skipSpace rest)
        return ((item.1, .string item.2) :: members, rest)
      | rest => .error (.defect .noComma rest.length) := by
  obtain ⟨front, name, middle, middle', value, back, rfl, blank, blank', blank'', blank₃, named,
    valued⟩ := member
  have shape : front ++ '"' :: (name ++ '"' :: (middle ++ ':' :: (middle' ++
      '"' :: (value ++ '"' :: back)))) ++ mark :: rest =
      front ++ ('"' :: (name ++ '"' :: (middle ++ (':' :: (middle' ++
        ('"' :: (value ++ '"' :: (back ++ mark :: rest)))))))) := by
    simp
  have quote (rest : List Char) : skipSpace ('"' :: rest) = '"' :: rest := rfl
  have colon (rest : List Char) : skipSpace (':' :: rest) = ':' :: rest := rfl
  have stop : skipSpace (mark :: rest) = mark :: rest := by
    rw [skipSpace, List.dropWhile_cons_of_neg (by rw [solid]; exact Bool.false_ne_true)]
  have after : skipSpace (back ++ mark :: rest) = mark :: rest := by rw [skipSpace_gap blank₃, stop]
  rw [shape, skipSpace_gap blank, quote, readMembers, readLiteral_quotes named]
  simp only [bind, Except.bind, skipSpace_gap blank', colon, skipSpace_gap blank'', quote]
  rw [readValue, readLiteral_quotes valued]
  · simp only [bind, Except.bind, pure, Except.pure]
    generalize skipSpace (back ++ mark :: rest) = left at after
    subst after
    rfl
  · exact Nat.succ_ne_zero fuel

/-- Members are read up to the brace that closes the object. -/
theorem readMembers_members (members : AreMembers items text) (enough : items.length < fuel) :
    readMembers fuel (skipSpace (text ++ '\x7d' :: rest)) = .ok (membersOf items, rest) := by
  induction members generalizing fuel with
  | last member =>
    rw [List.length_singleton] at enough
    obtain ⟨fuel, rfl⟩ := Nat.exists_eq_add_of_le' (Nat.succ_le_of_lt enough)
    exact readMembers_member member fuel '\x7d' rest rfl
  | @cons item items text rest' member others ih =>
    rw [List.length_cons] at enough
    obtain ⟨fuel, rfl⟩ := Nat.exists_eq_add_of_le' (show 2 ≤ fuel by omega)
    rw [List.append_assoc, List.cons_append,
      readMembers_member member fuel ',' (rest' ++ '\x7d' :: rest) rfl]
    simp only [ih (show items.length < fuel + 1 by omega), bind, Except.bind]
    rfl

theorem AreMembers.length_le (members : AreMembers items text) : items.length ≤ text.length := by
  induction members with
  | last member =>
    obtain ⟨front, name, middle, middle', value, back, rfl, -⟩ := member
    simp
    omega
  | cons member others ih =>
    rw [List.length_cons, List.length_append, List.length_cons]
    omega

theorem AreMembers.start (members : AreMembers items text) (rest : List Char) :
    ∃ more, skipSpace (text ++ rest) = '"' :: more := by
  have first {item : String × String} {text : List Char} (member : IsMember item text)
      (rest : List Char) : ∃ more, skipSpace (text ++ rest) = '"' :: more := by
    obtain ⟨front, name, middle, middle', value, back, rfl, blank, -⟩ := member
    rw [List.append_assoc, skipSpace_gap blank]
    exact ⟨_, rfl⟩
  cases members with
  | last member => exact first member rest
  | cons member others =>
    rw [List.append_assoc]
    exact first member _

/-- The check of names passes just where they are distinct and not seen before. -/
theorem distinctNames_ok_iff {seen : List String} {members : List (String × Json)} :
    distinctNames seen members = .ok () ↔
      (members.map Prod.fst).Nodup ∧ ∀ name ∈ members.map Prod.fst, name ∉ seen := by
  fun_induction distinctNames seen members with
  | case1 seen => simp
  | case2 seen name value rest there =>
    have member : name ∈ seen := by simpa using there
    simp [member]
  | case3 seen name value rest fresh ih =>
    have absent : name ∉ seen := by simpa using fresh
    rw [ih, List.map_cons, List.nodup_cons, List.forall_mem_cons]
    constructor
    · rintro ⟨distinct, unseen⟩
      refine ⟨⟨?_, distinct⟩, absent, ?_⟩
      · intro again
        exact unseen name again List.mem_cons_self
      · intro other member
        exact fun inSeen => unseen other member (List.mem_cons_of_mem name inSeen)
    · rintro ⟨⟨once, distinct⟩, -, unseen⟩
      refine ⟨distinct, fun other member inSeen => ?_⟩
      rcases List.mem_cons.1 inSeen with rfl | inSeen
      · exact once member
      · exact unseen other member inSeen

/-- An object with distinct names is read from its brace on. -/
theorem readValue_object {inside : List Char} (form : items = [] ∧ IsGap inside ∨
    AreMembers items inside) (distinct : (items.map Prod.fst).Nodup) (enough : items.length < fuel) :
    readValue (fuel + 1) ('\x7b' :: (inside ++ '\x7d' :: rest)) =
      .ok (.object (membersOf items), rest) := by
  rcases form with ⟨rfl, blank⟩ | members
  · have closed : skipSpace (inside ++ '\x7d' :: rest) = '\x7d' :: rest := skipSpace_gap blank _
    rw [readValue, closed]
    rfl
  · obtain ⟨more, start⟩ := members.start ('\x7d' :: rest)
    have names : distinctNames [] (membersOf items) = .ok () := by
      rw [distinctNames_ok_iff, membersOf, List.map_map]
      exact ⟨distinct, by simp⟩
    have read : readMembers fuel (skipSpace (inside ++ '\x7d' :: rest)) =
        .ok (membersOf items, rest) := readMembers_members members enough
    rw [start] at read
    rw [readValue, start]
    split
    · rename_i closed
      cases closed
    · simp only [read, names, bind, Except.bind]
      rfl

/-- An object with distinct names is read from any text of it. -/
theorem read_object (object : IsObject items text) (distinct : (items.map Prod.fst).Nodup) :
    read text = .ok (.object (membersOf items)) := by
  obtain ⟨front, inside, back, rfl, blank, blank', form⟩ := object
  have start : skipSpace (front ++ '\x7b' :: (inside ++ '\x7d' :: back)) =
      '\x7b' :: (inside ++ '\x7d' :: back) := skipSpace_gap blank _
  have done : skipSpace back = [] := List.dropWhile_eq_nil_iff.2 blank'
  have noMark : (front ++ '\x7b' :: (inside ++ '\x7d' :: back)).head? ≠ some '\ufeff' := by
    cases front with
    | nil => simp
    | cons c front =>
      intro mark
      cases mark
      exact absurd (blank '\ufeff' List.mem_cons_self) (by decide)
  have few : items.length ≤ inside.length := by
    rcases form with ⟨rfl, -⟩ | members
    · exact Nat.zero_le _
    · exact members.length_le
  have fuel : items.length <
      2 * (front ++ '\x7b' :: (inside ++ '\x7d' :: back)).length + 1 := by
    simp
    omega
  rw [Json.read, if_neg noMark, start, Json.enough, readValue_object form distinct fuel]
  simp only [bind, Except.bind, done]
  rfl

end Objects

end Clat.Format.Json
