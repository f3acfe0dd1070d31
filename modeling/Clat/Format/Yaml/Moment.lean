import Clat.Calendar
import Clat.Format.Yaml.Stop

/-! Dates and times. The text form is a date, and after the letter T or blanks a time of day
with an optional fraction and an optional offset from universal time. -/
namespace Clat.Format.Yaml

open Clat.Number

inductive OffsetText where
  | universal
  | signed (negative : Bool) (hour : List Char) (minute : Option (List Char))

structure ClockText where
  hour : List Char
  minute : List Char
  second : List Char
  fraction : List Char
  offset : Option OffsetText

structure MomentText where
  year : List Char
  month : List Char
  day : List Char
  clock : Option ClockText

/-- Splits off digits, at least `least` and at most `most`. -/
def takeDigits? (least most : Nat) (text : List Char) : Option (List Char × List Char) :=
  let run := (text.take most).takeWhile isAsciiDigit
  if run.length < least then none else some (run, text.drop run.length)

def after? (c : Char) : List Char → Option (List Char)
  | [] => none
  | head :: rest => if head = c then some rest else none

def isGap (c : Char) : Bool := c = ' ' || c = '\t'

def readOffset? (text : List Char) : Option (Option OffsetText) :=
  match text.dropWhile isGap with
  | [] => if text.isEmpty then some none else none
  | ['Z'] => some (some .universal)
  | sign :: rest =>
    if sign = '-' || sign = '+' then do
      let (hour, rest) ← takeDigits? 1 2 rest
      match rest with
      | [] => return some (.signed (sign = '-') hour none)
      | rest =>
        let (minute, rest) ← takeDigits? 2 2 (← after? ':' rest)
        if rest.isEmpty then return some (.signed (sign = '-') hour (some minute)) else none
    else none

def readClock? (text : List Char) : Option ClockText := do
  let (hour, rest) ← takeDigits? 1 2 text
  let (minute, rest) ← takeDigits? 2 2 (← after? ':' rest)
  let (second, rest) ← takeDigits? 2 2 (← after? ':' rest)
  let (fraction, rest) :=
    match rest with
    | '.' :: rest => (rest.takeWhile isAsciiDigit, rest.dropWhile isAsciiDigit)
    | rest => ([], rest)
  return { hour, minute, second, fraction, offset := ← readOffset? rest }

def readMoment? (text : List Char) : Option MomentText := do
  let (year, rest) ← takeDigits? 4 4 text
  let (month, rest) ← takeDigits? 1 2 (← after? '-' rest)
  let (day, rest) ← takeDigits? 1 2 (← after? '-' rest)
  match rest with
  | [] => return { year, month, day, clock := none }
  | c :: rest =>
    if c = 'T' || c = 't' then return { year, month, day, clock := some (← readClock? rest) }
    else if isGap c then
      return { year, month, day, clock := some (← readClock? (rest.dropWhile isGap)) }
    else none

/-- Whether a text is a date with two digits for month and day, or a date with a time. -/
def isMomentForm (text : List Char) : Bool :=
  match readMoment? text with
  | none => false
  | some moment => moment.clock.isSome || (moment.month.length = 2 && moment.day.length = 2)

/-- A time of day on a date; the offset is in minutes. -/
structure DateTime where
  date : Date
  hour : Nat
  minute : Nat
  second : Nat
  micro : Nat
  offset : Option Int
  deriving DecidableEq, Repr

def makeDate (year month day : Nat) : Except ScalarFault Date :=
  if year = 0 then .error (.dateRange "year 0 is out of range")
  else if month = 0 ∨ 12 < month then .error (.dateRange "month must be in 1..12")
  else if day = 0 ∨ daysOfMonth year month < day then
    .error (.dateRange "day is out of range for month")
  else .ok ⟨year, month, day⟩

def minutesPerDay : Int := 1440

/-- The wording of an offset that is a day or more. -/
def offsetWording (minutes : Int) : String :=
  let days := minutes / minutesPerDay
  let seconds := minutes % minutesPerDay * 60
  let parts := if seconds = 0 then [] else [", seconds=" ++ toString seconds]
  "offset must be a timedelta strictly between -timedelta(hours=24) and timedelta(hours=24), "
    ++ "not datetime.timedelta(days=" ++ toString days ++ String.join parts ++ ")."

/-- Reads an offset in minutes. It has to be less than a day. -/
def makeOffset : OffsetText → Except ScalarFault Int
  | .universal => .ok 0
  | .signed negative hour minute =>
    let size : Int := ofDigits 10 hour * 60 + ofDigits 10 (minute.getD [])
    let minutes := if negative then -size else size
    if minutesPerDay ≤ size then .error (.dateRange (offsetWording minutes)) else .ok minutes

/-- Millionths of a second from the digits of a fraction; further digits are dropped. -/
def microOf (fraction : List Char) : Nat :=
  let places := fraction.take 6
  ofDigits 10 places * Nat.pow 10 (6 - places.length)

def makeDateTime (moment : MomentText) (clock : ClockText) : Except ScalarFault DateTime := do
  let offset ← clock.offset.mapM makeOffset
  let date ← makeDate (ofDigits 10 moment.year) (ofDigits 10 moment.month) (ofDigits 10 moment.day)
  let hour := ofDigits 10 clock.hour
  let minute := ofDigits 10 clock.minute
  let second := ofDigits 10 clock.second
  if 23 < hour then .error (.dateRange "hour must be in 0..23")
  else if 59 < minute then .error (.dateRange "minute must be in 0..59")
  else if 59 < second then .error (.dateRange "second must be in 0..59")
  else return ⟨date, hour, minute, second, microOf clock.fraction, offset⟩

def offsetText (minutes : Int) : List Char :=
  let size := minutes.natAbs
  (if minutes < 0 then '-' else '+') :: fixedDigits 10 2 (size / 60) ++ ':' ::
    fixedDigits 10 2 (size % 60)

def DateTime.text (time : DateTime) : List Char :=
  time.date.text ++ ' ' :: fixedDigits 10 2 time.hour ++ ':' :: fixedDigits 10 2 time.minute
    ++ ':' :: fixedDigits 10 2 time.second
    ++ (if time.micro = 0 then [] else '.' :: fixedDigits 10 6 time.micro)
    ++ (match time.offset with
      | none => []
      | some minutes => offsetText minutes)

/-- The instant in millionths of a second, as if at offset zero if there is no offset. -/
def DateTime.instant (time : DateTime) : Int :=
  let minutes : Int :=
    ((time.date.ordinal * 24 + time.hour) * 60 + time.minute : Nat) - time.offset.getD 0
  (minutes * 60 + time.second) * 1000000 + time.micro

/-- Whether two times are one: both have an offset or none has, and the instants agree. -/
def DateTime.same (time other : DateTime) : Bool :=
  time.offset.isSome == other.offset.isSome && time.instant == other.instant

end Clat.Format.Yaml
