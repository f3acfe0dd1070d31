import Clat.Format.Yaml.Base64
import Clat.Format.Yaml.Node
import Clat.Format.Yaml.Value
import Clat.Text.LowerCase
import Clat.Text.Split

/-! Making values of scalars: what the text of a node means under its tag. -/
namespace Clat.Format.Yaml

open Clat.Number Clat.Text

def dropUnderscores (text : List Char) : List Char := text.filter (· ≠ '_')

def readIn (base : Nat) (text : List Char) : Except ScalarFault Int :=
  (readInteger base text).mapError .integer

/-- The value of base-60 digits, most significant first. -/
def sixtyInteger (parts : List Int) : Int := parts.foldl (fun total part => total * 60 + part) 0

/-- Splits off a sign from a number that has characters. -/
def takeNumberSign (text : List Char) : Except ScalarFault (Bool × List Char) :=
  if text.isEmpty then .error .emptyNumber else .ok (takeSign text)

/-- Makes an integer: binary, octal, decimal, hexadecimal or base 60. -/
def makeInteger (source : List Char) : Except ScalarFault Int := do
  let (negative, body) ← takeNumberSign (dropUnderscores source)
  let size : Int ←
    match body with
    | ['0'] => .ok 0
    | '0' :: 'b' :: rest => readIn 2 rest
    | '0' :: 'x' :: rest => readIn 16 rest
    | '0' :: rest => readIn 8 ('0' :: rest)
    | [] => .error .emptyNumber
    | body =>
      if body.contains ':' then sixtyInteger <$> (splitOn ':' body).mapM (readIn 10)
      else readIn 10 body
  return if negative then -size else size

def readFloat (text : List Char) : Except ScalarFault Binary64 :=
  match Binary64.ofText? text with
  | some value => .ok value
  | none => .error (.float (String.ofList text))

/-- Adds up base-60 parts, least significant first; `weight` is what the first is worth. -/
def sumSixty (weight : Nat) (total : Binary64) : List Binary64 → Except ScalarFault Binary64
  | [] => .ok total
  | part :: rest =>
    match Binary64.ofNat weight with
    | .finite negative significand exponent =>
      sumSixty (weight * 60) (total.add (part.mul (.finite negative significand exponent))) rest
    | _ => .error .weightTooLarge

/-- Makes a floating-point number: decimal, base 60, an infinity or not a number. -/
def makeFloat (source : List Char) : Except ScalarFault Value := do
  let (negative, body) ← takeNumberSign (lower (dropUnderscores source))
  let signed (value : Binary64) : Value := .float (if negative then value.neg else value)
  if body = ".inf".toList then return signed (.infinite false)
  else if body = ".nan".toList then return .notANumber
  else if body.contains ':' then
    let parts ← (splitOn ':' body).mapM readFloat
    return signed (← sumSixty 1 (.ofNat 0) parts.reverse)
  else return signed (← readFloat body)

def makeTruth (source : List Char) : Except ScalarFault Bool :=
  let word := String.ofList (lower source)
  if ["yes", "true", "on"].contains word then .ok true
  else if ["no", "false", "off"].contains word then .ok false
  else .error (.truthWord word)

def makeMoment (source : List Char) : Except ScalarFault Value :=
  match readMoment? (Yaml.dropFeed source) with
  | none => .error .notADate
  | some moment =>
    match moment.clock with
    | none => do
      let date ←
        makeDate (ofDigits 10 moment.year) (ofDigits 10 moment.month) (ofDigits 10 moment.day)
      return .date date
    | some clock => return .time (← makeDateTime moment clock)

/-- The first run of characters beyond ASCII, with the place where it starts. -/
def foreignRun (text : List Char) : Nat × List Char :=
  let isAscii (c : Char) : Bool := c.toNat < 0x80
  let rest := text.dropWhile isAscii
  ((text.takeWhile isAscii).length, rest.takeWhile (!isAscii ·))

def foreignWording (start : Nat) (run : List Char) : String :=
  let characters :=
    match run with
    | [c] => " '" ++ String.ofList (hexEscape c.toNat) ++ "' in position " ++ toString start
    | run =>
      "s in position " ++ toString start ++ "-" ++ toString (start + run.length - 1)
  "'ascii' codec can't encode character" ++ characters ++ ": ordinal not in range(128)"

/-- Makes octets of base 64; the error is the wording of a trouble. -/
def makeOctets (source : List Char) : Except String (List UInt8) :=
  match foreignRun source with
  | (start, c :: run) =>
    .error ("failed to convert base64 data into ascii: " ++ foreignWording start (c :: run))
  | (_, []) =>
    (decodeBase64 source).mapError fun error => "failed to decode base64 data: " ++ error.message

/-- The text of a node; for a mapping, the text under the key `=`, if it has one. `fuel`
bounds how deep that is. -/
def scalarText (nodes : Array Node) (node : Node) : Nat → Except Stop String
  | 0 => .error (.trouble ⟨none, "expected a scalar node, but found mapping", node.start⟩)
  | fuel + 1 =>
    let wrong : Except Stop String :=
      .error (.trouble
        ⟨none, "expected a scalar node, but found " ++ node.content.kindName, node.start⟩)
    match node.content with
    | .scalar text => .ok text
    | .sequence _ => wrong
    | .mapping entries =>
      match entries.find? fun (key, _) => nodes[key]?.any (·.tag = coreTag "value") with
      | none => wrong
      | some (_, value) =>
        match nodes[value]? with
        | none => wrong
        | some value => scalarText nodes value fuel

/-- Makes the value of a scalar tag; none for a tag that is not one. -/
def makeScalar (nodes : Array Node) (node : Node) : Except Stop (Option Value) :=
  let text : Except Stop (List Char) := String.toList <$> scalarText nodes node (nodes.size + 1)
  let plainly {α : Type} (result : Except ScalarFault α) : Except Stop α :=
    result.mapError .fault
  if node.tag = coreTag "str" then do return some (.text (String.ofList (← text)))
  else if node.tag = coreTag "null" then do
    let _ ← text
    return some .null
  else if node.tag = coreTag "bool" then do return some (.truth (← plainly (makeTruth (← text))))
  else if node.tag = coreTag "int" then do
    return some (.integer (← plainly (makeInteger (← text))))
  else if node.tag = coreTag "float" then do return some (← plainly (makeFloat (← text)))
  else if node.tag = coreTag "binary" then do
    match makeOctets (← text) with
    | .ok octets => return some (.octets octets)
    | .error problem => .error (.trouble ⟨none, problem, node.start⟩)
  else if node.tag = coreTag "timestamp" then do
    let text ← text
    match node.content with
    | .scalar _ => return some (← plainly (makeMoment text))
    | _ => .error (.fault .dateOfNoText)
  else .ok none

end Clat.Format.Yaml
