import Clat.Defaults
import Clat.Log.Record
import Clat.Log.Sink
import Clat.Number.Integer
import Clat.Text.Split

/-! Reading the command line. Words are sorted into options and others before any option
takes effect. An option may be shortened as long as it stays distinct, may have its value in
the same word, and several short options may share a word. -/
namespace Clat.CommandLine

open Clat.Number Clat.Text

inductive Purpose where
  | help
  | version
  | interface
  | plat
  | network
  | config
  | level
  | target
  deriving DecidableEq, Repr

def Purpose.takesValue : Purpose → Bool
  | .help => false
  | .version => false
  | _ => true

def names : List (String × Purpose) := [
  ("-h", .help), ("--help", .help),
  ("-V", .version), ("--version", .version),
  ("-i", .interface), ("--interface", .interface),
  ("-p", .plat), ("--plat-prefix", .plat),
  ("-n", .network), ("--netid", .network),
  ("-c", .config), ("--config", .config),
  ("--loglevel", .level),
  ("--logtarget", .target)]

def Purpose.title (purpose : Purpose) : String :=
  "/".intercalate ((names.filter (·.2 = purpose)).map (·.1))

inductive Ending where
  | help
  | version
  | wrong (wording : String)
  deriving DecidableEq, Repr

def wrongFor {α : Type} (purpose : Purpose) (wording : String) : Except Ending α :=
  .error (.wrong ("argument " ++ purpose.title ++ ": " ++ wording))

/-- A value that stands in the word of its option. -/
structure Attached where
  value : List Char
  marked : Bool
  deriving DecidableEq, Repr

inductive Word where
  | option (purpose : Purpose) (short : Bool) (attached : Option Attached)
  | unknown (text : String)
  | plain (text : String)
  | separator
  deriving DecidableEq, Repr

/-- Whether a text is a negative number, which is never taken for an option. One line feed
may follow. -/
def isNegativeNumber (text : List Char) : Bool :=
  let text := if text.getLast? = some '\n' then text.dropLast else text
  let isDigit (c : Char) : Bool := (decimalValue? c).isSome
  match text with
  | '-' :: body =>
    match body.dropWhile isDigit with
    | [] => !body.isEmpty
    | '.' :: fraction => !fraction.isEmpty && fraction.all isDigit
    | _ => false
  | _ => false

/-- An option word by its name and what is attached to it. -/
def optionWord (name : String) (purpose : Purpose) (attached : Option Attached) : Word :=
  .option purpose (name.length = 2) attached

/-- The options that a word may stand for: those with the beginning of a long name, or the
short one it starts with. -/
def candidates (text : List Char) : List (String × Word) :=
  if "--".toList.isPrefixOf text then
    let (stem, value) := splitFirst '=' text
    (names.filter fun (name, _) => stem.isPrefixOf name.toList).map fun (name, purpose) =>
      (name, optionWord name purpose (value.map (⟨·, true⟩)))
  else
    (names.filter fun (name, _) => name.toList = text.take 2).map fun (name, purpose) =>
      (name, optionWord name purpose (some ⟨text.drop 2, false⟩))

/-- The option whose name a word is, or is up to an equals sign. -/
def named? (text : List Char) : Option Word :=
  match names.lookup (String.ofList text) with
  | some purpose => some (optionWord (String.ofList text) purpose none)
  | none =>
    match splitFirst '=' text with
    | (name, some value) =>
      let name := String.ofList name
      (names.lookup name).map fun purpose => optionWord name purpose (some ⟨value, true⟩)
    | _ => none

def sortWord (word : String) : Except Ending Word :=
  let text := word.toList
  if text.length < 2 || text.head? ≠ some '-' then .ok (.plain word)
  else
    match named? text with
    | some option => .ok option
    | none =>
      match candidates text with
      | [(_, option)] => .ok option
      | [] =>
        if isNegativeNumber text || text.contains ' ' then .ok (.plain word)
        else .ok (.unknown word)
      | several =>
        .error (.wrong ("ambiguous option: " ++ word ++ " could match "
          ++ ", ".intercalate (several.map (·.1))))

def sortWords : List String → Except Ending (List Word)
  | [] => .ok []
  | word :: rest =>
    if word = "--" then .ok (.separator :: rest.map .plain)
    else do
      let first ← sortWord word
      return first :: (← sortWords rest)

structure Arguments where
  interface : String
  plat : Option String := none
  network : Int := Defaults.defaultNetwork
  config : String := Defaults.configFile
  level : String := "notice"
  target : String := "stderr"
  deriving DecidableEq, Repr

/-- The arguments read so far, and the words that belong to no option. -/
structure Progress where
  arguments : Arguments := { interface := "" }
  /-- Whether the interface is given, which it has to be. -/
  hasInterface : Bool := false
  extra : List String := []
  deriving DecidableEq, Repr

def levels : List String := ["debug", "info", "notice", "warning", "error", "fatal"]

def targets : List String := ["stdout", "stderr", "syslog"]

def inQuotes (text : String) : String := String.ofList (quoted text.toList)

def oneOf (purpose : Purpose) (choices : List String) (value : String) : Except Ending String :=
  if choices.contains value then .ok value
  else
    wrongFor purpose ("invalid choice: " ++ inQuotes value ++ " (choose from "
      ++ ", ".intercalate (choices.map inQuotes) ++ ")")

def Progress.set (p : Progress) (purpose : Purpose) (value : String) : Except Ending Progress :=
  match purpose with
  | .help => .error .help
  | .version => .error .version
  | .interface =>
    .ok { p with arguments := { p.arguments with interface := value }, hasInterface := true }
  | .plat => .ok { p with arguments := { p.arguments with plat := some value } }
  | .network =>
    match readInteger 10 value.toList with
    | .ok network => .ok { p with arguments := { p.arguments with network } }
    | .error _ => wrongFor purpose ("invalid int value: " ++ inQuotes value)
  | .config => .ok { p with arguments := { p.arguments with config := value } }
  | .level => do
    let level ← oneOf purpose levels value
    return { p with arguments := { p.arguments with level } }
  | .target => do
    let target ← oneOf purpose targets value
    return { p with arguments := { p.arguments with target } }

/-- What an option word comes down to: options without value, then perhaps one with its
value, one that wants the next word, or a word that is no option. -/
structure Cluster where
  bare : List Purpose := []
  last : Option (Purpose × Option String) := none
  extra : List String := []

/-- An error for a value that an option does not take. -/
def ignored {α : Type} (purpose : Purpose) (value : List Char) : Except Ending α :=
  wrongFor purpose ("ignored explicit argument " ++ String.ofList (quoted value))

/-- Takes apart the letters after a short option without value; `purpose` is that option. -/
def letters (purpose : Purpose) : List Char → Except Ending Cluster
  | [] => .ok { bare := [purpose] }
  | letter :: rest =>
    if letter = '-' then ignored purpose (letter :: rest)
    else
      match names.lookup (String.ofList ['-', letter]) with
      | none => .ok { bare := [purpose], extra := [String.ofList ('-' :: letter :: rest)] }
      | some next =>
        if next.takesValue then
          let value :=
            match rest with
            | [] => none
            | '=' :: value => some (String.ofList value)
            | value => some (String.ofList value)
          .ok { bare := [purpose], last := some (next, value) }
        else
          match rest with
          | '=' :: value => ignored next value
          | rest => do
            let cluster ← letters next rest
            return { cluster with bare := purpose :: cluster.bare }

def cluster (purpose : Purpose) (short : Bool) : Option Attached → Except Ending Cluster
  | none => .ok (if purpose.takesValue then { last := some (purpose, none) } else { bare := [purpose] })
  | some ⟨value, marked⟩ =>
    if purpose.takesValue then .ok { last := some (purpose, some (String.ofList value)) }
    else if !short || marked || value.isEmpty then ignored purpose value
    else letters purpose value

def Progress.setAll (p : Progress) : List (Purpose × String) → Except Ending Progress
  | [] => .ok p
  | (purpose, value) :: rest => do
    let p ← p.set purpose value
    p.setAll rest

def readWords (p : Progress) : List Word → Except Ending Progress
  | [] => .ok p
  | .plain text :: rest => readWords { p with extra := p.extra ++ [text] } rest
  | .unknown text :: rest => readWords { p with extra := p.extra ++ [text] } rest
  | .separator :: rest => readWords { p with extra := p.extra ++ ["--"] } rest
  | .option purpose short attached :: rest => do
    let parts ← cluster purpose short attached
    let p := { p with extra := p.extra ++ parts.extra }
    let bare := parts.bare.map (·, "")
    match parts.last, rest with
    | none, rest =>
      let p ← p.setAll bare
      readWords p rest
    | some (last, some value), rest =>
      let p ← p.setAll (bare ++ [(last, value)])
      readWords p rest
    | some (last, none), .plain value :: rest =>
      let p ← p.setAll (bare ++ [(last, value)])
      readWords p rest
    | some (last, none), _ => wrongFor last "expected one argument"

def parse (words : List String) : Except Ending Arguments := do
  let p ← readWords {} (← sortWords words)
  if !p.hasInterface then
    .error (.wrong ("the following arguments are required: " ++ Purpose.interface.title))
  else if !p.extra.isEmpty then
    .error (.wrong ("unrecognized arguments: " ++ " ".intercalate p.extra))
  else return p.arguments

end Clat.CommandLine
