import Clat.Calendar

/-! The time in front of a log line. -/
namespace Clat.Log

open Clat.Number

def dayLength : Nat := 86400000

/-- The text of a time given in milliseconds after the start of 1970. -/
def timeText (milliseconds : Nat) : String :=
  let clock := milliseconds % dayLength
  let field (width n : Nat) : List Char := fixedDigits 10 width n
  String.ofList <|
    (Date.ofEpochDay (milliseconds / dayLength)).text ++ ' ' :: field 2 (clock / 3600000)
      ++ ':' :: field 2 (clock / 60000 % 60) ++ ':' :: field 2 (clock / 1000 % 60)
      ++ ',' :: field 3 (clock % 1000)

end Clat.Log
