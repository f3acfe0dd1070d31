import Clat.Address.IPv6
import Clat.Issue
import Clat.Log.Record
import Clat.Text.Loose

/-! What happens around a run: answers to DNS queries and random octets come in, records and
events go out, events being queries, pauses, lookups of interfaces and requests for random
octets. A run stops at a fault; an issue is an ordinary outcome of a stage. -/
namespace Clat

open Clat.Number Clat.Text

/-- What comes of a DNS query. -/
inductive Answer where
  /-- The network itself. -/
  | found (network : IPv6)
  /-- The network itself, as text. -/
  | network (text : String)
  /-- The addresses of the records found. -/
  | records (texts : List String)
  | empty
  /-- The query failed. -/
  | failure (text : String)
  /-- The resolver broke down. -/
  | breakdown (text : String)
  deriving DecidableEq, Repr

/-- A query for the addresses of a host over a network. -/
structure Query where
  hostname : String
  network : Int
  deriving DecidableEq, Repr

/-- Why a run stops. -/
inductive Fault where
  /-- An issue that no stage takes care of. -/
  | unhandled (issue : Issue)
  /-- A query failed. -/
  | query (text : String)
  | breakdown (text : String)
  /-- A scalar of the configuration file does not denote a value. -/
  | scalar (fault : Format.ScalarFault)
  /-- An integer cannot be written. -/
  | integer (error : IntegerError)
  /-- A text has no UTF-8 form. -/
  | unencodable (error : EncodingError)
  /-- A value is checked against a declaration that asks nothing. -/
  | unspecified
  /-- A part of an address cannot be replaced. -/
  | replace (error : IPv6.ReplaceError)
  /-- The path of the configuration file has a zero character. -/
  | zeroInPath
  /-- There is no further answer. -/
  | noAnswer
  /-- There are no further random octets. -/
  | noEntropy
  deriving DecidableEq, Repr

/-- The wording of a fault. -/
def Fault.message : Fault → String
  | .unhandled issue => issue.message
  | .query text => text
  | .breakdown text => text
  | .scalar fault => fault.message
  | .integer error => error.message
  | .unencodable error => error.message
  | .unspecified => ""
  | .replace error => error.message
  | .zeroInPath => "embedded null byte"
  | .noAnswer => "there is no further answer"
  | .noEntropy => "there are no further random octets"

/-- What a run does to its surroundings, apart from logging. -/
inductive Event where
  | query (query : Query)
  | pause (seconds : Nat)
  /-- The address of an interface is looked up. -/
  | lookup (interface : String)
  /-- Random octets are asked for. -/
  | draw (size : Nat)
  deriving DecidableEq, Repr

/-- The surroundings of a run, and what it has done to them in order. -/
structure Session where
  answers : List Answer := []
  entropy : List (List UInt8) := []
  log : List Log.Record := []
  events : List Event := []
  deriving DecidableEq, Repr

/-- A run. -/
abbrev Run := ExceptT Fault (StateM Session)

/-- A stage of a run, which may end in an issue. -/
abbrev Stage := ExceptT Issue Run

/-- What comes of the lookup of an interface: its address, if it has one, and what is logged
on the way. -/
structure Finding where
  result : Except Fault (Option IPv6)
  log : List Log.Record := []

/-- A way to find the address of an interface. It sees nothing of the run. -/
abbrev Finder := String → Finding

namespace Session

/-- The queries sent. -/
def queries (s : Session) : List Query :=
  s.events.filterMap fun
    | .query query => some query
    | _ => none

/-- The seconds waited. -/
def pauses (s : Session) : List Nat :=
  s.events.filterMap fun
    | .pause seconds => some seconds
    | _ => none

/-- The sizes of the random octets asked for. -/
def draws (s : Session) : List Nat :=
  s.events.filterMap fun
    | .draw size => some size
    | _ => none

/-- Does something to the surroundings. -/
def act (event : Event) : Run Unit := modify fun s => { s with events := s.events ++ [event] }

/-- Logs a record. -/
def record (level : Log.Level) (part : Log.Part) (message : String) : Run Unit :=
  modify fun s => { s with log := s.log ++ [⟨level, part.channel, message⟩] }

/-- Waits a number of seconds. -/
def pause (seconds : Nat) : Run Unit := act (.pause seconds)

/-- Sends a query and takes the next answer. -/
def ask (query : Query) : Run Answer := do
  act (.query query)
  match (← get).answers with
  | [] => throw .noAnswer
  | answer :: rest =>
    modify fun s => { s with answers := rest }
    return answer

/-- Draws random octets. -/
def draw (size : Nat) : Run (List UInt8) := do
  act (.draw size)
  match (← get).entropy with
  | [] => throw .noEntropy
  | octets :: rest =>
    modify fun s => { s with entropy := rest }
    return octets

/-- Looks up the address of an interface. -/
def lookUp (find : Finder) (interface : String) : Run (Option IPv6) := do
  act (.lookup interface)
  modify fun s => { s with log := s.log ++ (find interface).log }
  match (find interface).result with
  | .ok address => return address
  | .error fault => throw fault

end Session

/-- Logs an issue and ends the stage with it. -/
def fail {α : Type} (issue : Issue) : Stage α := do
  Session.record .fatal .reader issue.message
  throw issue

/-- Ends the stage with an issue, if there is one. -/
def orFail {α : Type} : Except Issue α → Stage α
  | .ok value => return value
  | .error issue => fail issue

end Clat
