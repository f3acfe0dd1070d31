import Clat.Log.Record
import Clat.Text.Quoted

/-! Where records go. A sink holds records back until there are many or one is severe; since
a record that is let through is severe enough, nothing is ever held back. -/
namespace Clat.Log

open Clat.Text

inductive Target where
  | stdout
  | stderr
  | syslog
  deriving DecidableEq, Repr

def Target.ofName? : String → Option Target
  | "stdout" => some .stdout
  | "stderr" => some .stderr
  | "syslog" => some .syslog
  | _ => none

inductive Layout where
  | bare
  | tagged
  /-- Time, process, stream, level, channel and message. -/
  | dated (stream : String)
  deriving DecidableEq, Repr

/-- The layout for a target; `short` asks for lines without time and process. -/
def Layout.of (target : Target) (short : Bool) : Layout :=
  match target with
  | .syslog => .bare
  | .stdout => if short then .tagged else .dated ""
  | .stderr => if short then .tagged else .dated "(stderr)"

/-- The value of the environment variable that asks for short lines. -/
def shortLines : String := "true"

/-- What lines are marked with: the time and the number of the process. -/
structure Stamp where
  time : String
  process : Nat
  deriving DecidableEq, Repr

def Layout.line (layout : Layout) (stamp : Stamp) (record : Record) : String :=
  let body := record.channel ++ ": " ++ record.message
  match layout with
  | .bare => body
  | .tagged => "[" ++ record.level.tag ++ "] " ++ body
  | .dated stream =>
    stamp.time ++ " clatd[" ++ toString stamp.process ++ "]" ++ stream ++ ": ["
      ++ record.level.tag ++ "] " ++ body

def capacity : Nat := 10000

structure Sink where
  target : Target
  /-- Records below this level are dropped. -/
  level : Level
  /-- A record of this level or above sends on all that are held back. -/
  flushLevel : Level
  layout : Layout
  pending : List Record := []
  passed : List Record := []
  deriving DecidableEq, Repr

inductive SinkError where
  | unknownLevel (name : String)
  | unknownTarget (name : String)
  deriving DecidableEq, Repr

def SinkError.message : SinkError → String
  | .unknownLevel name => String.ofList (quoted name.toList)
  | .unknownTarget name => String.ofList (quoted name.toList) ++ " is not a valid LogTarget"

namespace Sink

/-- A sink for a level and a target by name. The level is looked up first, and serves as both
levels of the sink. -/
def start (level target : String) (short : Bool) : Except SinkError Sink :=
  match Level.ofName? level with
  | none => .error (.unknownLevel level)
  | some level =>
    match Target.ofName? target with
    | none => .error (.unknownTarget target)
    | some target => .ok { target, level, flushLevel := level, layout := .of target short }

def accepts (sink : Sink) (record : Record) : Bool := sink.level.severity ≤ record.level.severity

def take (sink : Sink) (record : Record) : Sink :=
  if !sink.accepts record then sink
  else
    let pending := sink.pending ++ [record]
    if capacity ≤ pending.length || sink.flushLevel.severity ≤ record.level.severity then
      { sink with pending := [], passed := sink.passed ++ pending }
    else { sink with pending }

def takeAll (sink : Sink) (records : List Record) : Sink := records.foldl take sink

def output (sink : Sink) (stamp : Stamp) (target : Target) : String :=
  if sink.target = target then
    String.join (sink.passed.map fun record => sink.layout.line stamp record ++ "\n")
  else ""

end Sink

/-- The channel of a name; the nameless one is the root. -/
def channelOf (name : String) : String := if name = "" then "root" else name

end Clat.Log
