import Clat.Proofs.Format.Json.Object

/-! The members of the outermost object, as they stand in a text. An object is given with all of
them, or refused for a name that two of them have. -/
namespace Clat.Format.Json

open Clat.Number

/-- A text that starts with an object of some members, whatever their names. -/
def Opens (text : List Char) (members : List (String × Json)) : Prop :=
  ∃ inside rest, skipSpace text = '\x7b' :: inside ∧
    (members = [] ∧ skipSpace inside = '\x7d' :: rest ∨
      readMembers (2 * text.length + 1) (skipSpace inside) = .ok (members, rest))

theorem words_ne_object : ∀ entry ∈ words, ∀ members, entry.2 ≠ .object members := by
  simp [words]

theorem readNumber_ne_object {text rest : List Char} {members : List (String × Json)} :
    readNumber text ≠ .ok (.object members, rest) := by
  intro read
  unfold readNumber at read
  simp only at read
  cases found : takeWhole? (takeMinus text).2 with
  | none =>
    rw [found] at read
    cases read
  | some parts =>
    rw [found] at read
    simp only at read
    split at read
    · split at read <;> cases read
    · cases read

theorem readPlain_ne_object {text rest : List Char} {members : List (String × Json)} :
    readPlain text ≠ .ok (.object members, rest) := by
  unfold readPlain
  intro read
  split at read
  · rename_i found word
    cases read
    obtain ⟨entry, member, after⟩ := List.exists_of_findSome?_eq_some word
    obtain ⟨_, -, same⟩ := Option.map_eq_some_iff.1 after
    exact words_ne_object entry member members (congrArg Prod.fst same)
  · exact readNumber_ne_object read

/-- An object that is read has its brace, its members, and a name for each. -/
theorem readValue_ok_object {fuel : Nat} {text rest : List Char} {members : List (String × Json)}
    (read : readValue (fuel + 1) text = .ok (.object members, rest)) :
    (members.map Prod.fst).Nodup ∧ ∃ inside, text = '\x7b' :: inside ∧
      (members = [] ∧ skipSpace inside = '\x7d' :: rest ∨
        readMembers fuel (skipSpace inside) = .ok (members, rest)) := by
  unfold readValue at read
  split at read
  · cases read
  · rename_i body _
    cases literal : readLiteral body with
    | error stop =>
      rw [literal] at read
      cases read
    | ok found =>
      rw [literal] at read
      cases read
  · rename_i fuel' inside same
    cases same
    split at read
    · rename_i closed
      cases read
      exact ⟨List.nodup_nil, inside, rfl, .inl ⟨rfl, closed⟩⟩
    · cases found : readMembers fuel (skipSpace inside) with
      | error stop =>
        rw [found] at read
        cases read
      | ok result =>
        obtain ⟨members', rest'⟩ := result
        simp only [found, bind, Except.bind] at read
        cases names : distinctNames [] members' with
        | error stop =>
          rw [names] at read
          cases read
        | ok _ =>
          rw [names] at read
          cases read
          exact ⟨(distinctNames_ok_iff.1 names).1, inside, rfl, .inr found⟩
  · rename_i fuel' inside same
    cases same
    split at read
    · cases read
    · cases found : readItems fuel (skipSpace inside) with
      | error stop =>
        rw [found] at read
        cases read
      | ok result =>
        rw [found] at read
        cases read
  · exact absurd read readPlain_ne_object

/-- A text that is read as an object starts with one of the members that are given. -/
theorem read_opens {text : List Char} {members : List (String × Json)}
    (found : read text = .ok (.object members)) :
    Opens text members ∧ (members.map Prod.fst).Nodup := by
  unfold read at found
  split at found
  · cases found
  · cases first : readValue (enough text) (skipSpace text) with
    | error stop =>
      rw [first] at found
      cases found
    | ok result =>
      obtain ⟨value, rest⟩ := result
      simp only [first, bind, Except.bind] at found
      split at found
      · cases found
        obtain ⟨distinct, inside, start, form⟩ := readValue_ok_object first
        exact ⟨⟨inside, rest, start, form⟩, distinct⟩
      · cases found

theorem distinctNames_of_not {members : List (String × Json)}
    (repeated : ¬ (members.map Prod.fst).Nodup) :
    ∃ name, distinctNames [] members = .error (.repeatedName name) := by
  have general (seen : List String) (failed : distinctNames seen members ≠ .ok ()) :
      ∃ name, distinctNames seen members = .error (.repeatedName name) := by
    clear repeated
    fun_induction distinctNames seen members with
    | case1 => exact absurd rfl failed
    | case2 seen name => exact ⟨name, rfl⟩
    | case3 seen name value rest fresh ih => exact ih failed
  refine general [] fun passed => repeated (distinctNames_ok_iff.1 passed).1

/-- A text that starts with an object of which two members have one name is refused for it,
whatever follows. -/
theorem read_repeated {text : List Char} {members : List (String × Json)}
    (opens : Opens text members) (repeated : ¬ (members.map Prod.fst).Nodup) :
    ∃ name, read text = .error (.repeatedName name) := by
  obtain ⟨inside, rest, start, form⟩ := opens
  obtain ⟨name, names⟩ := distinctNames_of_not repeated
  refine ⟨name, ?_⟩
  have noMark : text.head? ≠ some '\ufeff' := by
    intro mark
    obtain ⟨tail, rfl⟩ := List.head?_eq_some_iff.1 mark
    have kept : skipSpace ('\ufeff' :: tail) = '\ufeff' :: tail :=
      List.dropWhile_cons_of_neg (by decide)
    rw [kept] at start
    exact absurd (List.cons.inj start).1 (by decide)
  have stops : readValue (enough text) (skipSpace text) = .error (.repeatedName name) := by
    rcases form with ⟨rfl, -⟩ | found
    · exact absurd List.nodup_nil repeated
    · rw [start, enough, readValue]
      split
      · rename_i closed
        rw [closed] at found
        cases found
      · simp only [found, names, bind, Except.bind]
  rw [read, if_neg noMark]
  simp only [stops, bind, Except.bind]

end Clat.Format.Json
