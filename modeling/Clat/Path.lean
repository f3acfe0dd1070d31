import Clat.Format
import Clat.Text.Split

/-! Paths of files. Empty parts and single dots do not count; two dots do, because the part
before them may not be a directory. -/
namespace Clat

open Clat.Text

structure Path where
  /-- Slashes at the start: none, one, or exactly two. -/
  root : String := ""
  parts : List String := []
  deriving DecidableEq, Repr

namespace Path

/-- The slashes that a text starts with; three or more are as good as one. -/
def rootOf (text : List Char) : String :=
  match (text.takeWhile (· = '/')).length with
  | 0 => ""
  | 2 => "//"
  | _ => "/"

def ofText (text : String) : Path where
  root := rootOf text.toList
  parts := ((splitOn '/' text.toList).map String.ofList).filter fun part => part ≠ "" && part ≠ "."

def text (path : Path) : String :=
  match path.root ++ "/".intercalate path.parts with
  | "" => "."
  | text => text

def name (path : Path) : List Char := (path.parts.getLast?.getD "").toList

/-- The end of the last part from its last dot on, if something is before and after it. -/
def suffix (path : Path) : List Char :=
  let tail := (path.name.reverse.takeWhile (· ≠ '.')).reverse
  if tail.isEmpty || path.name.length ≤ tail.length + 1 then [] else '.' :: tail

def format (path : Path) : Format :=
  let suffix := String.ofList (path.suffix.map Char.toLower)
  if suffix = ".yaml" || suffix = ".yml" then .yaml
  else if suffix = ".json" then .json
  else .conf

end Path
end Clat
