import Clat.Value

/-! Outcomes of operations that may fail, with the value that either way gives. -/
namespace Clat

open Clat.Number

structure Outcome where
  succeeded : Bool
  value : Value

namespace Outcome

def described (outcome : Outcome) : Except IntegerError String := do
  let value ← outcome.value.quoted
  return (if outcome.succeeded then "Result.ok(" else "Result.err(") ++ String.ofList value ++ ")"

inductive Mismatch where
  /-- The outcome is the other one; the wording says what was asked of what. -/
  | wrongSide (wording : String)
  | unwritable (error : IntegerError)
  deriving DecidableEq, Repr

/-- The value, if the outcome is the one asked for by `request`. -/
def take (outcome : Outcome) (success : Bool) (request : String) : Except Mismatch Value :=
  if outcome.succeeded = success then .ok outcome.value
  else
    match outcome.described with
    | .ok shown => .error (.wrongSide (request ++ " called on " ++ shown))
    | .error error => .error (.unwritable error)

def unwrap (outcome : Outcome) : Except Mismatch Value := outcome.take true "unwrap()"

def unwrapError (outcome : Outcome) : Except Mismatch Value := outcome.take false "unwrap_err()"

end Outcome
end Clat
