import Clat.Number.Digits

/-! Days of the calendar, and their numbers in order. -/
namespace Clat

open Clat.Number

structure Date where
  year : Nat
  month : Nat
  day : Nat
  deriving DecidableEq, Repr

def isLeap (year : Nat) : Bool := year % 4 = 0 && (year % 100 ≠ 0 || year % 400 = 0)

def daysOfMonth (year month : Nat) : Nat :=
  if month = 2 then (if isLeap year then 29 else 28)
  else if month = 4 || month = 6 || month = 9 || month = 11 then 30
  else 31

def daysOfYear (year : Nat) : Nat := if isLeap year then 366 else 365

namespace Date

def ordinal (date : Date) : Nat :=
  let before := date.year - 1
  365 * before + before / 4 - before / 100 + before / 400
    + (List.range (date.month - 1)).foldl (fun days m => days + daysOfMonth date.year (m + 1)) 0
    + date.day

def text (date : Date) : List Char :=
  fixedDigits 10 4 date.year ++ '-' :: fixedDigits 10 2 date.month ++ '-' ::
    fixedDigits 10 2 date.day

/-- The day some days after the first of a month; `fuel` is how many months may pass. -/
def inMonth (year : Nat) : Nat → Nat → Nat → Date
  | 0, month, days => ⟨year, month, days + 1⟩
  | fuel + 1, month, days =>
    let size := daysOfMonth year month
    if days < size then ⟨year, month, days + 1⟩ else inMonth year fuel (month + 1) (days - size)

/-- The day some days after the first of a year; `fuel` is how many years may pass. -/
def inYear : Nat → Nat → Nat → Date
  | 0, year, days => inMonth year 11 1 days
  | fuel + 1, year, days =>
    let size := daysOfYear year
    if days < size then inMonth year 11 1 days else inYear fuel (year + 1) (days - size)

/-- The day some days after the first of January 1970. -/
def ofEpochDay (days : Nat) : Date := inYear (days / 365) 1970 days

example : ofEpochDay 0 = ⟨1970, 1, 1⟩ := rfl

end Date
end Clat
