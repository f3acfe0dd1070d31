import Clat.Format.Yaml.Construct
import Clat.Proofs.Number.Digits

/-! Dates and times as text. What is made of a text has parts that fit the fields they are written
in, so that its own text tells it from every other date or time. -/
namespace Clat

open Clat.Number

namespace Date

/-- The parts of a date fit their fields. -/
structure Fits (date : Date) : Prop where
  year : date.year < 10 ^ 4
  month : date.month < 10 ^ 2
  day : date.day < 10 ^ 2

theorem length_text (date : Date) : date.text.length = 10 := by
  simp [text, length_fixedDigits]

theorem text_inj {date other : Date} (fits : date.Fits) (fits' : other.Fits)
    (same : date.text = other.text) : date = other := by
  unfold text at same
  obtain ⟨front, day⟩ := List.append_inj same (by simp [length_fixedDigits])
  obtain ⟨year, month⟩ := List.append_inj front (by simp [length_fixedDigits])
  have years := fixedDigits_inj (by decide) (by decide) fits.year fits'.year year
  have months := fixedDigits_inj (by decide) (by decide) fits.month fits'.month
    (List.cons.inj month).2
  have days := fixedDigits_inj (by decide) (by decide) fits.day fits'.day (List.cons.inj day).2
  cases date
  cases other
  simp_all

/-- The text of a date has digits and dashes. -/
theorem mem_text {date : Date} {c : Char} (member : c ∈ date.text) :
    c = '-' ∨ isAsciiDigit c = true := by
  unfold text at member
  simp only [List.mem_append, List.mem_cons] at member
  rcases member with (year | dash | month) | dash | day
  · exact .inr (isAsciiDigit_of_mem_fixedDigits year)
  · exact .inl dash
  · exact .inr (isAsciiDigit_of_mem_fixedDigits month)
  · exact .inl dash
  · exact .inr (isAsciiDigit_of_mem_fixedDigits day)

end Date

namespace Format.Yaml

/-- The parts of a time fit their fields, and its offset is less than a day. -/
structure DateTime.Fits (time : DateTime) : Prop where
  date : time.date.Fits
  hour : time.hour < 10 ^ 2
  minute : time.minute < 10 ^ 2
  second : time.second < 10 ^ 2
  micro : time.micro < 10 ^ 6
  offset : ∀ minutes ∈ time.offset, minutes.natAbs < 1440

theorem offsetText_inj {minutes other : Int} (fits : minutes.natAbs < 1440)
    (fits' : other.natAbs < 1440) (same : offsetText minutes = offsetText other) :
    minutes = other := by
  unfold offsetText at same
  obtain ⟨front, low⟩ := List.append_inj same (by simp [length_fixedDigits])
  obtain ⟨sign, high⟩ := List.cons.inj front
  have hours := fixedDigits_inj (by decide) (by decide) (show minutes.natAbs / 60 < 10 ^ 2 by omega)
    (show other.natAbs / 60 < 10 ^ 2 by omega) high
  have rests := fixedDigits_inj (by decide) (by decide) (show minutes.natAbs % 60 < 10 ^ 2 by omega)
    (show other.natAbs % 60 < 10 ^ 2 by omega) (List.cons.inj low).2
  have size : minutes.natAbs = other.natAbs := by omega
  by_cases negative : minutes < 0
  · by_cases negative' : other < 0
    · omega
    · rw [if_pos negative, if_neg negative'] at sign
      exact absurd sign (by decide)
  · by_cases negative' : other < 0
    · rw [if_neg negative, if_pos negative'] at sign
      exact absurd sign (by decide)
    · omega

/-- The offset after a time, if it has one. -/
def suffix : Option Int → List Char
  | none => []
  | some minutes => offsetText minutes

theorem suffix_inj {offset other : Option Int} (fits : ∀ minutes ∈ offset, minutes.natAbs < 1440)
    (fits' : ∀ minutes ∈ other, minutes.natAbs < 1440) (same : suffix offset = suffix other) :
    offset = other := by
  cases offset with
  | none =>
    cases other with
    | none => rfl
    | some minutes => simp [suffix, offsetText] at same
  | some minutes =>
    cases other with
    | none => simp [suffix, offsetText] at same
    | some minutes' => rw [offsetText_inj (fits _ rfl) (fits' _ rfl) same]

theorem head_suffix (offset : Option Int) : (suffix offset).head? ≠ some '.' := by
  cases offset with
  | none => simp [suffix]
  | some minutes => by_cases negative : minutes < 0 <;> simp [suffix, offsetText, negative]

/-- What stands after the seconds: a fraction, if there is one, and the offset, if there is one. -/
def DateTime.tail (time : DateTime) : List Char :=
  (if time.micro = 0 then [] else '.' :: fixedDigits 10 6 time.micro) ++ suffix time.offset

theorem DateTime.text_eq (time : DateTime) :
    time.text = time.date.text ++ ' ' :: fixedDigits 10 2 time.hour
      ++ ':' :: fixedDigits 10 2 time.minute ++ ':' :: fixedDigits 10 2 time.second
      ++ time.tail := by
  unfold tail
  rw [← List.append_assoc]
  rfl

/-- A fraction starts with a point, and an offset does not. -/
theorem DateTime.tail_inj {time other : DateTime} (fits : time.Fits) (fits' : other.Fits)
    (same : time.tail = other.tail) : time.micro = other.micro ∧ time.offset = other.offset := by
  unfold tail at same
  by_cases whole : time.micro = 0
  · by_cases whole' : other.micro = 0
    · rw [if_pos whole, if_pos whole'] at same
      exact ⟨whole.trans whole'.symm, suffix_inj fits.offset fits'.offset same⟩
    · rw [if_pos whole, if_neg whole'] at same
      exact absurd (congrArg List.head? same) (head_suffix _)
  · by_cases whole' : other.micro = 0
    · rw [if_neg whole, if_pos whole'] at same
      exact absurd (congrArg List.head? same.symm) (head_suffix _)
    · rw [if_neg whole, if_neg whole'] at same
      obtain ⟨fraction, offset⟩ := List.append_inj same (by simp [length_fixedDigits])
      exact ⟨fixedDigits_inj (by decide) (by decide) fits.micro fits'.micro
        (List.cons.inj fraction).2, suffix_inj fits.offset fits'.offset offset⟩

theorem DateTime.text_inj {time other : DateTime} (fits : time.Fits) (fits' : other.Fits)
    (same : time.text = other.text) : time = other := by
  rw [text_eq, text_eq] at same
  obtain ⟨front, tails⟩ := List.append_inj same (by simp [length_fixedDigits, Date.length_text])
  obtain ⟨front, seconds⟩ := List.append_inj front
    (by simp [length_fixedDigits, Date.length_text])
  obtain ⟨front, minutes⟩ := List.append_inj front
    (by simp [length_fixedDigits, Date.length_text])
  obtain ⟨dates, hours⟩ := List.append_inj front (by simp [Date.length_text])
  have date := Date.text_inj fits.date fits'.date dates
  have hour := fixedDigits_inj (by decide) (by decide) fits.hour fits'.hour (List.cons.inj hours).2
  have minute := fixedDigits_inj (by decide) (by decide) fits.minute fits'.minute
    (List.cons.inj minutes).2
  have second := fixedDigits_inj (by decide) (by decide) fits.second fits'.second
    (List.cons.inj seconds).2
  obtain ⟨micro, offset⟩ := tail_inj fits fits' tails
  cases time
  cases other
  simp_all

/-- The characters beside digits that texts of times have. -/
def timeSigns : List Char := [' ', ':', '.', '+', '-']

theorem mem_suffix {offset : Option Int} {c : Char} (member : c ∈ suffix offset) :
    isAsciiDigit c = true ∨ c ∈ timeSigns := by
  cases offset with
  | none => cases member
  | some minutes =>
    have sign : (if minutes < 0 then '-' else '+') ∈ timeSigns := by
      split <;> decide
    simp only [suffix, offsetText, List.mem_append, List.mem_cons] at member
    rcases member with (rfl | hour) | rfl | minute
    · exact .inr sign
    · exact .inl (isAsciiDigit_of_mem_fixedDigits hour)
    · exact .inr (by decide)
    · exact .inl (isAsciiDigit_of_mem_fixedDigits minute)

theorem DateTime.mem_tail {time : DateTime} {c : Char} (member : c ∈ time.tail) :
    isAsciiDigit c = true ∨ c ∈ timeSigns := by
  rcases List.mem_append.1 member with fraction | offset
  · split at fraction
    · cases fraction
    · rcases List.mem_cons.1 fraction with rfl | place
      · exact .inr (by decide)
      · exact .inl (isAsciiDigit_of_mem_fixedDigits place)
  · exact mem_suffix offset

theorem DateTime.mem_text {time : DateTime} {c : Char} (member : c ∈ time.text) :
    isAsciiDigit c = true ∨ c ∈ timeSigns := by
  rw [text_eq] at member
  simp only [List.mem_append, List.mem_cons] at member
  rcases member with (((date | rfl | hour) | rfl | minute) | rfl | second) | tail
  · rcases Date.mem_text date with rfl | digit
    · exact .inr (by decide)
    · exact .inl digit
  · exact .inr (by decide)
  · exact .inl (isAsciiDigit_of_mem_fixedDigits hour)
  · exact .inr (by decide)
  · exact .inl (isAsciiDigit_of_mem_fixedDigits minute)
  · exact .inr (by decide)
  · exact .inl (isAsciiDigit_of_mem_fixedDigits second)
  · exact mem_tail tail

section Made

theorem takeDigits?_some {least most : Nat} {text run rest : List Char}
    (taken : takeDigits? least most text = some (run, rest)) :
    run.length ≤ most ∧ ∀ c ∈ run, isAsciiDigit c = true := by
  unfold takeDigits? at taken
  simp only at taken
  split at taken
  · cases taken
  · cases taken
    refine ⟨?_, fun c => List.mem_takeWhile_imp⟩
    exact (List.takeWhile_prefix _).length_le.trans (List.length_take_le most text)

theorem ofDigits_lt_of_digits {text : List Char} {size : Nat} (short : text.length ≤ size)
    (digits : ∀ c ∈ text, isAsciiDigit c = true) : ofDigits 10 text < 10 ^ size :=
  (ofDigits_lt (by decide) fun c member => isDigitOf_of_isAsciiDigit (digits c member)).trans_le
    (Nat.pow_le_pow_right (by decide) short)

theorem microOf_lt {fraction : List Char} (digits : ∀ c ∈ fraction, isAsciiDigit c = true) :
    microOf fraction < 10 ^ 6 := by
  have short : (fraction.take 6).length ≤ 6 := List.length_take_le 6 fraction
  have below : ofDigits 10 (fraction.take 6) < 10 ^ (fraction.take 6).length :=
    ofDigits_lt_of_digits (Nat.le_refl _) fun c member => digits c (List.mem_of_mem_take member)
  have whole : 10 ^ (fraction.take 6).length * 10 ^ (6 - (fraction.take 6).length) = 10 ^ 6 := by
    rw [← Nat.pow_add, Nat.add_sub_cancel' short]
  unfold microOf
  rw [← whole]
  exact Nat.mul_lt_mul_of_pos_right below (Nat.pow_pos (by decide))

theorem daysOfMonth_le (year month : Nat) : daysOfMonth year month ≤ 31 := by
  unfold daysOfMonth
  split_ifs <;> omega

theorem makeDate_fits {year month day : Nat} {date : Date} (small : year < 10 ^ 4)
    (made : makeDate year month day = .ok date) : date.Fits := by
  unfold makeDate at made
  have days := daysOfMonth_le year month
  split at made
  · cases made
  · split at made
    · cases made
    · split at made
      · cases made
      · cases made
        refine ⟨small, ?_, ?_⟩
        · show month < 10 ^ 2
          omega
        · show day < 10 ^ 2
          omega

theorem makeOffset_lt {text : OffsetText} {minutes : Int} (made : makeOffset text = .ok minutes) :
    minutes.natAbs < 1440 := by
  cases text with
  | universal =>
    cases made
    decide
  | signed negative hour minute =>
    let size : Int := ofDigits 10 hour * 60 + ofDigits 10 (minute.getD [])
    have positive : 0 ≤ size := by omega
    have checked : (if 1440 ≤ size
        then Except.error (ScalarFault.dateRange (offsetWording (if negative then -size else size)))
        else Except.ok (if negative then -size else size)) = Except.ok minutes := made
    by_cases large : 1440 ≤ size
    · rw [if_pos large] at checked
      cases checked
    · rw [if_neg large] at checked
      cases checked
      cases negative with
      | true => simp only [if_true]; omega
      | false => simp only [Bool.false_eq_true, if_false]; omega

theorem readClock?_some {text : List Char} {clock : ClockText}
    (read : readClock? text = some clock) : ∀ c ∈ clock.fraction, isAsciiDigit c = true := by
  unfold readClock? at read
  simp only [bind, Option.bind_eq_some_iff] at read
  obtain ⟨hour, -, -, -, minute, -, -, -, ⟨second, rest⟩, -, offset, -, is⟩ := read
  cases is
  simp only
  split
  · exact fun c => List.mem_takeWhile_imp
  · simp

theorem readMoment?_some {text : List Char} {moment : MomentText}
    (read : readMoment? text = some moment) :
    ofDigits 10 moment.year < 10 ^ 4 ∧
      ∀ clock ∈ moment.clock, ∀ c ∈ clock.fraction, isAsciiDigit c = true := by
  unfold readMoment? at read
  simp only [bind, Option.bind_eq_some_iff] at read
  obtain ⟨⟨year, _⟩, taken, -, -, month, -, -, -, ⟨day, rest⟩, -, read⟩ := read
  obtain ⟨short, digits⟩ := takeDigits?_some taken
  have small : ofDigits 10 year < 10 ^ 4 := ofDigits_lt_of_digits short digits
  split at read
  · cases read
    exact ⟨small, by simp⟩
  · split at read
    · obtain ⟨clock, told, is⟩ := Option.bind_eq_some_iff.1 read
      cases is
      exact ⟨small, fun _ same => Option.some.inj same ▸ readClock?_some told⟩
    · split at read
      · obtain ⟨clock, told, is⟩ := Option.bind_eq_some_iff.1 read
        cases is
        exact ⟨small, fun _ same => Option.some.inj same ▸ readClock?_some told⟩
      · cases read

theorem makeDateTime_fits {moment : MomentText} {clock : ClockText} {time : DateTime}
    (year : ofDigits 10 moment.year < 10 ^ 4)
    (fraction : ∀ c ∈ clock.fraction, isAsciiDigit c = true)
    (made : makeDateTime moment clock = .ok time) : time.Fits := by
  unfold makeDateTime at made
  simp only [bind, Except.bind] at made
  split at made
  · cases made
  · rename_i offset shifted
    split at made
    · cases made
    · rename_i date dated
      split_ifs at made with hour minute second
      cases made
      refine ⟨makeDate_fits year dated, ?_, ?_, ?_, microOf_lt fraction, ?_⟩
      · show ofDigits 10 clock.hour < 10 ^ 2
        omega
      · show ofDigits 10 clock.minute < 10 ^ 2
        omega
      · show ofDigits 10 clock.second < 10 ^ 2
        omega
      · intro minutes given
        cases told : clock.offset with
        | none =>
          rw [told] at shifted
          cases shifted
          cases given
        | some text =>
          cases shift : makeOffset text with
          | error fault =>
            rw [told, Option.mapM_some, shift] at shifted
            cases shifted
          | ok minutes' =>
            rw [told, Option.mapM_some, shift] at shifted
            cases shifted
            cases given
            exact makeOffset_lt shift

/-- What a text of a moment makes: a date or a time that fits. -/
inductive Moment : Value → Prop where
  | date (date : Date) (fits : date.Fits) : Moment (.date date)
  | time (time : DateTime) (fits : time.Fits) : Moment (.time time)

theorem makeMoment_ok {source : List Char} {value : Value} (made : makeMoment source = .ok value) :
    Moment value := by
  unfold makeMoment at made
  split at made
  · cases made
  · rename_i moment read
    obtain ⟨year, fraction⟩ := readMoment?_some read
    split at made
    · cases dated : makeDate (ofDigits 10 moment.year) (ofDigits 10 moment.month)
        (ofDigits 10 moment.day) with
      | error fault =>
        rw [dated] at made
        cases made
      | ok date =>
        rw [dated] at made
        cases made
        exact .date date (makeDate_fits year dated)
    · rename_i clock told
      cases timed : makeDateTime moment clock with
      | error fault =>
        rw [timed] at made
        cases made
      | ok time =>
        rw [timed] at made
        cases made
        exact .time time (makeDateTime_fits year (fraction clock told) timed)

end Made

end Format.Yaml

end Clat
