import Clat.Format.Yaml.Scan.Fetch
import Mathlib.Data.List.TakeWhile
import Mathlib.Tactic.SplitIfs

/-! Where scanning goes. It only moves on through a text, so every place it comes to is in the
text, and what it cannot make sense of is a part of the text. -/
namespace Clat.Format.Yaml

open Clat.Number Clat.Text

variable {text : List Char}

/-- Whether a mark is a place in a text. -/
def Mark.In (mark : Mark) (text : List Char) : Prop := mark.ahead <:+ text

/-- The parts of a text that break the scanner down. -/
inductive Overflow (text : List Char) : ScalarFault → Prop where
  /-- The code of an escape in double quotes has more than 31 bits. -/
  | code (letter : Char) (places : List Char) (written : '\\' :: letter :: places <:+: text)
      (width : escapeWidth? letter = some places.length)
      (hex : places.all (isDigitOf 16) = true) (large : 0x7fffffff < ofDigits 16 places) :
      Overflow text .codeOverflow
  /-- The code of an escape in double quotes is beyond the last code point. -/
  | point (letter : Char) (places : List Char) (written : '\\' :: letter :: places <:+: text)
      (width : escapeWidth? letter = some places.length)
      (hex : places.all (isDigitOf 16) = true) (large : 0x10ffff < ofDigits 16 places) :
      Overflow text .codePoint
  /-- A part of a version has too many digits. -/
  | version (places : List Char) (written : places <:+: text)
      (digits : ∀ c ∈ places, isAsciiDigit c = true) (large : digitLimit < places.length) :
      Overflow text (.integer (.tooManyDigits places.length))

/-- What scanning comes to: a place in the text, or a stop, which is a fault only where the
text has an overflow. -/
def Scans {α : Type} (text : List Char) (place : α → Mark) : Except Stop α → Prop
  | .ok value => (place value).In text
  | .error (.fault fault) => Overflow text fault
  | .error _ => True

namespace Scans

variable {α β : Type} {place : α → Mark} {place' : β → Mark}

theorem bind {result : Except Stop α} {next : α → Except Stop β}
    (scans : Scans text place result)
    (goOn : ∀ value, (place value).In text → Scans text place' (next value)) :
    Scans text place' (result >>= next) := by
  match result, scans with
  | .ok value, inside => exact goOn value inside
  | .error (.fault _), part => exact part
  | .error .refused, _ => trivial
  | .error (.trouble _), _ => trivial
  | .error (.repeatedKey _), _ => trivial

theorem ite {c : Prop} [Decidable c] {yes no : Except Stop α} (left : Scans text place yes)
    (right : Scans text place no) : Scans text place (if c then yes else no) := by
  split_ifs
  · exact left
  · exact right

end Scans

namespace Mark

variable {mark : Mark}

theorem In.step (inside : mark.In text) : mark.step.In text := by
  unfold Mark.step
  split
  · exact inside
  · rename_i c rest next
    have tail : rest <:+ text := (List.suffix_cons c rest).trans (next ▸ inside)
    simp only
    split_ifs <;> exact tail

theorem In.advance (inside : mark.In text) (size : Nat) : (mark.advance size).In text := by
  induction size generalizing mark with
  | zero => exact inside
  | succ size ih => exact ih inside.step

theorem In.takeWhile (inside : mark.In text) (test : Char → Bool) :
    (mark.takeWhile test).2.In text := inside.advance _

theorem In.skipWhile (inside : mark.In text) (test : Char → Bool) :
    (mark.skipWhile test).In text := inside.advance _

theorem In.lineBreak (inside : mark.In text) : (lineBreak mark).2.In text := by
  unfold Yaml.lineBreak
  split
  · exact inside.advance 2
  · split_ifs
    · exact inside.step
    · exact inside.step
    · exact inside
  · exact inside

theorem In.skipComment (inside : mark.In text) : (skipComment mark).In text := by
  unfold Yaml.skipComment
  simp only
  split_ifs
  · exact (inside.skipWhile _).skipWhile _
  · exact inside.skipWhile _

theorem In.finishLine (inside : mark.In text) : Scans text id (finishLine mark) := by
  unfold Yaml.finishLine
  simp only
  split_ifs
  · exact inside.skipComment.lineBreak
  · trivial

theorem In.hexNumber (inside : mark.In text) (count : Nat) :
    Scans text Prod.snd (hexNumber count mark) := by
  unfold Yaml.hexNumber
  simp only
  split_ifs
  · exact inside.advance count
  · trivial

end Mark

section Quoted

variable {mark : Mark}

end Quoted

section Directive

variable {mark : Mark}

end Directive

section Block

variable {mark : Mark}

end Block

section Plain

variable {mark : Mark}

end Plain

end Clat.Format.Yaml
