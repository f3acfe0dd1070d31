import Clat.Proofs.Discovery
import Clat.Proofs.Session.Records

/-! What a discovery logs: answers that are passed over, queries that fail and waits. However long it
goes on, nothing of it is fatal. -/
namespace Clat

open Clat.Log

section Nat64

/-- Answers that are passed over are logged for debugging. -/
theorem Nat64.quiet_fromAnswers (texts : List String) : (fromAnswers texts).Quiet := by
  induction texts with
  | nil => exact Run.quiet_pure none
  | cons text rest ih =>
    have passed (message : String) :
        (Session.record .debug .discovery message >>= fun _ => fromAnswers rest).Quiet :=
      (Run.quiet_record message (by decide) (by decide)).bind fun _ => ih
    unfold fromAnswers
    cases IPv6.ofScopedText? text with
    | none => exact passed _
    | some address =>
      by_cases usable : embedsWellKnown address = true
      · simp only [if_pos usable]
        exact Run.quiet_pure _
      · simp only [if_neg usable]
        exact passed _

end Nat64

namespace Discovery

variable {α β : Type} (lookup : Lookup) (target : Query)

theorem quiet_interpret (hostname : String) (answer : Answer) :
    (interpret lookup hostname answer).Quiet := by
  cases answer with
  | found network => exact Run.quiet_pure _
  | network text =>
    simp only [interpret]
    cases IPv6.read "/" text with
    | ok address => exact Run.quiet_pure _
    | error issue => exact Run.quiet_throw _
  | records texts => exact Nat64.quiet_fromAnswers texts
  | empty => exact Run.quiet_pure _
  | failure text =>
    cases lookup with
    | direct => exact Run.quiet_throw _
    | resolver => exact Run.quiet_throw _
  | breakdown text => exact Run.quiet_throw _

theorem quiet_query : (query lookup target).Quiet := by
  have asks : (do interpret lookup target.hostname (← Session.ask target)).Quiet :=
    (Run.quiet_ask target).bind fun answer => quiet_interpret lookup target.hostname answer
  unfold query
  by_cases numbered : lookup = .resolver ∧ target.network ≠ Defaults.defaultNetwork
  · simp only [if_pos numbered]
    exact (Run.quiet_record _ (by decide) (by decide)).bind fun _ => asks
  · simp only [if_neg numbered]
    exact asks

/-- A part of a discovery that logs only quiet records, whatever it comes to. -/
def Quiet (discovery : Discovery α) : Prop :=
  ∀ state, ∃ records, (on discovery state).2.session.log = state.session.log ++ records ∧
    Log.Quiet records

theorem Quiet.bind {discovery : Discovery α} {next : α → Discovery β} (first : Quiet discovery)
    (rest : ∀ value, Quiet (next value)) : Quiet (discovery >>= next) := by
  intro state
  obtain ⟨records, logged, quiet⟩ := first state
  rw [on_bind]
  cases ran : on discovery state with
  | mk result middle =>
    rw [ran] at logged
    cases result with
    | error fault => exact ⟨records, logged, quiet⟩
    | ok value =>
      obtain ⟨records', logged', quiet'⟩ := rest value middle
      refine ⟨records ++ records', ?_, quiet.append quiet'⟩
      rw [logged', logged, List.append_assoc]

theorem quiet_pure (value : α) : Quiet (pure value : Discovery α) :=
  fun _ => ⟨[], (List.append_nil _).symm, quiet_nil⟩

theorem quiet_lift {run : Run α} (quiet : run.Quiet) : Quiet (lift run) :=
  fun state => quiet state.session

/-- A query that fails is logged for debugging. -/
theorem quiet_tryQuery : Quiet (tryQuery lookup target) := by
  rintro ⟨s, wait⟩
  obtain ⟨records, logged, quiet⟩ := quiet_query lookup target s
  cases ran : (query lookup target).on s with
  | mk result t =>
    rw [ran] at logged
    by_cases failed : ∃ text, result = .error (.query text)
    · obtain ⟨text, rfl⟩ := failed
      have tells : (Session.record .debug .discovery text).Quiet :=
        Run.quiet_record text (by decide) (by decide)
      obtain ⟨records', logged', quiet'⟩ := tells t
      have came : query lookup target s = (.error (.query text), t) := ran
      refine ⟨records ++ records', ?_, quiet.append quiet'⟩
      unfold on tryQuery ExceptT.run StateT.run
      simp only [came]
      rw [← List.append_assoc, ← logged]
      exact logged'
    · rw [tryQuery_other wait ran (not_exists.1 failed)]
      exact ⟨records, logged, quiet⟩

theorem quiet_waitOut : Quiet waitOut := by
  intro state
  have warns (message : String) : (Session.record .warning .discovery message).Quiet :=
    Run.quiet_record message (by decide) (by decide)
  exact warns _ state.session

theorem quiet_attempt : Quiet (attempt lookup target) := by
  refine (quiet_tryQuery lookup target).bind fun found => ?_
  cases found with
  | some network =>
    exact (quiet_lift (Run.quiet_record _ (by decide) (by decide))).bind fun _ => quiet_pure _
  | none => exact quiet_waitOut.bind fun _ => quiet_pure _

/-- However many attempts there are, none of them logs anything fatal. -/
theorem quiet_attempts (fuel : Nat) : Quiet (attempts lookup target fuel) := by
  induction fuel with
  | zero => exact fun _ => ⟨[], (List.append_nil _).symm, quiet_nil⟩
  | succ fuel ih =>
    refine (quiet_attempt lookup target).bind fun found => ?_
    cases found with
    | some network => exact quiet_pure network
    | none => exact ih

theorem quiet_discover : (discover lookup target).Quiet := by
  intro s
  rw [discover_on]
  exact quiet_attempts lookup target _ ⟨s, Defaults.firstWait⟩

end Discovery

end Clat
