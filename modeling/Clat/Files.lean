import Clat.Path
import Clat.Text.Utf8

/-! Files, and reading one of them. Paths without a slash at the start begin in the working
directory, others in the outermost one. -/
namespace Clat

open Clat.Text

/-- The files below a directory, by their parts. A directory is there if a file is below it. -/
structure Tree where
  files : List (List String × List UInt8) := []
  directories : List (List String) := []
  deriving DecidableEq, Repr

def Tree.isDirectory (tree : Tree) (parts : List String) : Bool :=
  parts.isEmpty || tree.directories.any (parts.isPrefixOf ·)
    || tree.files.any fun (file, _) => parts.isPrefixOf file && parts.length < file.length

inductive Base where
  | working
  | outermost
  deriving DecidableEq, Repr

/-- The files below the working directory, and those known below the outermost one. -/
structure Files where
  working : Tree := {}
  outermost : Tree := {}
  deriving DecidableEq, Repr

def Path.base (path : Path) : Base := if path.root = "" then .working else .outermost

namespace Files

def below (files : Files) : Base → Tree
  | .working => files.working
  | .outermost => files.outermost

inductive ReadError where
  | absent
  | notDirectory
  | isDirectory
  | nameTooLong
  | zeroInPath
  deriving DecidableEq, Repr

def ReadError.message : ReadError → String
  | .absent => "No such file or directory"
  | .notDirectory => "Not a directory"
  | .isDirectory => "Is a directory"
  | .nameTooLong => "File name too long"
  | .zeroInPath => "embedded null byte"

def nameLimit : Nat := 255

def pathLimit : Nat := 4095

inductive Spot where
  | inside (base : Base) (parts : List String)
  | above
  | file (octets : List UInt8)

/-- The directory around a directory. The outermost one is around itself. -/
def leave (base : Base) (parts : List String) : Spot :=
  if base = .working && parts.isEmpty then .above else .inside base parts.dropLast

def enter (files : Files) (spot : Spot) (part : String) : Except ReadError Spot :=
  let long := nameLimit < utf8Length part.toList
  match spot with
  | .file _ => .error .notDirectory
  | .above =>
    if part = ".." then .ok .above
    else .error (if long then .nameTooLong else .absent)
  | .inside base parts =>
    if part = ".." then .ok (leave base parts)
    else if long then .error .nameTooLong
    else
      match (files.below base).files.lookup (parts ++ [part]) with
      | some octets => .ok (.file octets)
      | none =>
        if (files.below base).isDirectory (parts ++ [part]) then
          .ok (.inside base (parts ++ [part]))
        else .error .absent

def read (files : Files) (path : Path) : Except ReadError (List UInt8) := do
  if path.text.toList.contains '\x00' then throw .zeroInPath
  else if pathLimit < utf8Length path.text.toList then throw .nameTooLong
  else
    match ← path.parts.foldlM files.enter (.inside path.base []) with
    | .file octets => return octets
    | _ => throw .isDirectory

end Files
end Clat
