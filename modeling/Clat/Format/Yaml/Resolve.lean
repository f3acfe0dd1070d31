import Clat.Format.Yaml.Moment
import Clat.Text.Split

/-! Tags of nodes that have none. The text of a plain scalar chooses among the core types by
its form. A form may be followed by one line feed. -/
namespace Clat.Format.Yaml

open Clat.Number Clat.Text

def coreTag (name : String) : String := "tag:yaml.org,2002:" ++ name

/-- Whether a text has some characters, all of a kind. -/
def someOf (kind : Char → Bool) (text : List Char) : Bool := !text.isEmpty && text.all kind

/-- Whether a character is a digit or an underscore. -/
def isDigitMark (c : Char) : Bool := isAsciiDigit c || c = '_'

def dropSign : List Char → List Char
  | '-' :: rest => rest
  | '+' :: rest => rest
  | text => text

def isWordOf (words : List String) (text : List Char) : Bool := words.contains (String.ofList text)

def isTruthForm : List Char → Bool :=
  isWordOf ["yes", "Yes", "YES", "no", "No", "NO", "true", "True", "TRUE", "false", "False",
    "FALSE", "on", "On", "ON", "off", "Off", "OFF"]

def isNullForm : List Char → Bool := isWordOf ["", "~", "null", "Null", "NULL"]

/-- Whether a text is one or two digits, the first of two below six. -/
def isSixty : List Char → Bool
  | [c] => isAsciiDigit c
  | [c, d] => '0' ≤ c && c ≤ '5' && isAsciiDigit d
  | _ => false

/-- Whether a text is one or more parts of base 60, each after a colon. -/
def isSixtyTail (text : List Char) : Bool :=
  match splitOn ':' text with
  | [] :: parts => !parts.isEmpty && parts.all isSixty
  | _ => false

def isIntegerBody : List Char → Bool
  | '0' :: 'b' :: rest => someOf (fun c => c = '0' || c = '1' || c = '_') rest
  | '0' :: 'x' :: rest => someOf (fun c => isDigitOf 16 c || c = '_') rest
  | ['0'] => true
  | '0' :: rest => someOf (fun c => isDigitOf 8 c || c = '_') rest
  | c :: rest =>
    ('1' ≤ c && c ≤ '9') &&
      (match rest.dropWhile isDigitMark with
        | [] => true
        | tail => isSixtyTail tail)
  | [] => false

def isIntegerForm (text : List Char) : Bool := isIntegerBody (dropSign text)

def isExponent : List Char → Bool
  | mark :: sign :: rest =>
    (mark = 'e' || mark = 'E') && (sign = '-' || sign = '+') && someOf isAsciiDigit rest
  | _ => false

/-- Whether a text is the rest of a float from its point on. -/
def isFraction : List Char → Bool
  | '.' :: rest =>
    match rest.dropWhile isDigitMark with
    | [] => true
    | tail => isExponent tail
  | _ => false

/-- Whether an unsigned text is a float with digits before the point. -/
def isFloatBody (text : List Char) : Bool :=
  text.head?.any isAsciiDigit && isFraction (text.dropWhile isDigitMark)

/-- Whether a text is a float with digits only after the point. -/
def isBareFraction (text : List Char) : Bool :=
  isFraction text && (text.drop 1).head?.any isAsciiDigit

/-- Whether an unsigned text is a float in base 60. -/
def isSixtyFloat (text : List Char) : Bool :=
  let rest := text.dropWhile isDigitMark
  text.head?.any isAsciiDigit && isSixtyTail (rest.takeWhile (· ≠ '.')) &&
    (match rest.dropWhile (· ≠ '.') with
      | '.' :: fraction => fraction.all isDigitMark
      | _ => false)

def isFloatForm (text : List Char) : Bool :=
  let body := dropSign text
  isFloatBody body || isBareFraction text || isSixtyFloat body
    || isWordOf [".inf", ".Inf", ".INF"] body || isWordOf [".nan", ".NaN", ".NAN"] text

def dropFeed (text : List Char) : List Char :=
  if text.getLast? = some '\n' then text.dropLast else text

/-- The core type that the form of a plain scalar chooses. -/
def resolvePlain (text : List Char) : String :=
  let form := dropFeed text
  coreTag <|
    if text ≠ [] && form = [] then "str"
    else if isTruthForm form then "bool"
    else if isFloatForm form then "float"
    else if isIntegerForm form then "int"
    else if form = "<<".toList then "merge"
    else if isNullForm form then "null"
    else if isMomentForm form then "timestamp"
    else if form = ['='] then "value"
    else if isWordOf ["!", "&", "*"] form then "yaml"
    else "str"

end Clat.Format.Yaml
