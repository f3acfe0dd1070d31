import Clat.Declared
import Clat.Nat64

/-! Discovery of the NAT64 network. Queries go on until one gives a network; after each in
vain comes a wait, of one second at first and doubling up to two minutes. -/
namespace Clat

open Clat.Number

inductive Lookup where
  | direct
  /-- The answer comes from the resolver and holds address records. -/
  | resolver
  deriving DecidableEq, Repr

namespace Discovery

def nextWait (wait : Nat) : Nat := min (wait * 2) Defaults.longestWait

/-- A wait and those after it, as many as asked for. -/
def waitsFrom (wait : Nat) : Nat → List Nat
  | 0 => []
  | count + 1 => wait :: waitsFrom (nextWait wait) count

def waits (count : Nat) : List Nat := waitsFrom Defaults.firstWait count

/-- Makes a failure of the resolver the failure of a query. -/
def resolverFailure (hostname text : String) : Fault :=
  .query ("AAAA query for '" ++ hostname ++ "' failed: " ++ text)

def interpret (lookup : Lookup) (hostname : String) (answer : Answer) : Run (Option IPv6) :=
  match answer with
  | .found network => return some network
  | .network text =>
    match IPv6.read "/" text with
    | .ok address => return some address
    | .error issue => throw (.unhandled issue)
  | .records texts => Nat64.fromAnswers texts
  | .empty => return none
  | .failure text =>
    match lookup with
    | .direct => throw (.query text)
    | .resolver => throw (resolverFailure hostname text)
  | .breakdown text => throw (.breakdown text)

/-- Sends one query and takes the network in its answer. -/
def query (lookup : Lookup) (target : Query) : Run (Option IPv6) := do
  if lookup = .resolver ∧ target.network ≠ Defaults.defaultNetwork then
    Session.record .debug .discovery
      ("Network " ++ String.ofList (signedDecimal target.network)
        ++ " requested, querying through the system resolver")
  interpret lookup target.hostname (← Session.ask target)

/-- A discovery under way: the session and the seconds of the next wait. -/
structure State where
  session : Session
  wait : Nat := Defaults.firstWait
  deriving DecidableEq, Repr

end Discovery

abbrev Discovery := ExceptT Fault (StateM Discovery.State)

namespace Discovery

def lift {α : Type} (run : Run α) : Discovery α := fun s =>
  let (result, session) := run.run s.session
  (result, { s with session })

/-- Sends a query; a query that fails is one in vain. -/
def tryQuery (lookup : Lookup) (target : Query) : Discovery (Option IPv6) := fun s =>
  match (query lookup target).run s.session with
  | (.error (.query text), session) =>
    let (_, session) := (Session.record .debug .discovery text).run session
    (.ok none, { s with session })
  | (result, session) => (result, { s with session })

def waitOut : Discovery Unit := do
  let wait := (← get).wait
  lift (Session.record .warning .discovery
    ("dns64_detection -- error, sleeping for " ++ toString wait ++ " seconds"))
  lift (Session.pause wait)
  modify fun s => { s with wait := nextWait s.wait }

/-- One attempt: a query, and a wait if it is in vain. -/
def attempt (lookup : Lookup) (target : Query) : Discovery (Option IPv6) := do
  match ← tryQuery lookup target with
  | some network =>
    lift (Session.record .info .discovery
      ("Discovered PLAT prefix " ++ network.text ++ " via " ++ target.hostname))
    return some network
  | none =>
    waitOut
    return none

/-- Attempts until one gives a network; `fuel` bounds how many. -/
def attempts (lookup : Lookup) (target : Query) : Nat → Discovery IPv6
  | 0 => throw .noAnswer
  | fuel + 1 => do
    match ← attempt lookup target with
    | some network => return network
    | none => attempts lookup target fuel

/-- Attempts until one gives a network. Every attempt takes an answer, and one more than
there are finds none. -/
def run (lookup : Lookup) (target : Query) : Discovery IPv6 := do
  attempts lookup target ((← get).session.answers.length + 1)

def discover (lookup : Lookup) (target : Query) : Run IPv6 := fun session =>
  let (result, state) := ExceptT.run (run lookup target) (State.mk session Defaults.firstWait)
  (result, state.session)

end Discovery
end Clat
