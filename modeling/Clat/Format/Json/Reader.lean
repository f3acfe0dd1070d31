import Clat.Format.Json.Literal
import Clat.Format.Json.Numeral

/-! Reading JSON texts. Reading stops at the first defect; an object is checked for
repeated names when it closes. -/
namespace Clat.Format.Json

/-- Whether a character is white space between tokens. -/
def isSpace (c : Char) : Bool := c = ' ' || c = '\t' || c = '\n' || c = '\r'

def skipSpace (text : List Char) : List Char := text.dropWhile isSpace

/-- What follows a word, if the text starts with it. -/
def afterWord? (word : String) (text : List Char) : Option (List Char) :=
  if word.toList.isPrefixOf text then some (text.drop word.length) else none

def words : List (String × Json) := [
  ("null", .null), ("true", .truth true), ("false", .truth false), ("NaN", .float .nan),
  ("Infinity", .float (.infinite false)), ("-Infinity", .float (.infinite true))]

/-- Reads a value that is no string, array or object. -/
def readPlain (text : List Char) : Except Stop (Json × List Char) :=
  match words.findSome? fun (word, value) => (afterWord? word text).map ((value, ·)) with
  | some found => .ok found
  | none => readNumber text

/-- Checks that no name occurs twice, and refuses with the first that does. -/
def distinctNames : List String → List (String × Json) → Except Stop Unit
  | _, [] => .ok ()
  | seen, (name, _) :: rest =>
    if seen.contains name then .error (.repeatedName name) else distinctNames (name :: seen) rest

mutual

def readValue : Nat → List Char → Except Stop (Json × List Char)
  | 0, text => .error (.defect .noValue text.length)
  | _, '"' :: rest => do
    let (body, rest) ← readLiteral rest
    return (.string body, rest)
  | fuel + 1, '\x7b' :: rest =>
    match skipSpace rest with
    | '\x7d' :: rest => .ok (.object [], rest)
    | rest => do
      let (members, rest) ← readMembers fuel rest
      distinctNames [] members
      return (.object members, rest)
  | fuel + 1, '[' :: rest =>
    match skipSpace rest with
    | ']' :: rest => .ok (.array [], rest)
    | rest => do
      let (items, rest) ← readItems fuel rest
      return (.array items, rest)
  | _, text => readPlain text

def readMembers : Nat → List Char → Except Stop (List (String × Json) × List Char)
  | 0, text => .error (.defect .noName text.length)
  | fuel + 1, '"' :: rest => do
    let (name, rest) ← readLiteral rest
    match skipSpace rest with
    | ':' :: rest =>
      let (value, rest) ← readValue fuel (skipSpace rest)
      match skipSpace rest with
      | '\x7d' :: rest => return ([(name, value)], rest)
      | ',' :: rest =>
        let (members, rest) ← readMembers fuel (skipSpace rest)
        return ((name, value) :: members, rest)
      | rest => .error (.defect .noComma rest.length)
    | rest => .error (.defect .noColon rest.length)
  | _, text => .error (.defect .noName text.length)

def readItems : Nat → List Char → Except Stop (List Json × List Char)
  | 0, text => .error (.defect .noValue text.length)
  | fuel + 1, text => do
    let (item, rest) ← readValue fuel text
    match skipSpace rest with
    | ']' :: rest => return ([item], rest)
    | ',' :: rest =>
      let (items, rest) ← readItems fuel (skipSpace rest)
      return (item :: items, rest)
    | rest => .error (.defect .noComma rest.length)

end

/-- Steps enough for a text: each takes a character, or comes right before one that does. -/
def enough (text : List Char) : Nat := 2 * text.length + 2

def read (text : List Char) : Except Stop Json :=
  if text.head? = some '\ufeff' then .error (.defect .byteOrderMark text.length)
  else do
    let (value, rest) ← readValue (enough text) (skipSpace text)
    match skipSpace rest with
    | [] => return value
    | rest => .error (.defect .extraData rest.length)

end Clat.Format.Json
