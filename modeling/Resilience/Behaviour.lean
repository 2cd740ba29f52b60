import Resilience.Fault

/-!
Behaviours: what a call does until it has a result. A service answers each call of an operation
with a behaviour, or is not ready for it.
-/

namespace Resilience

inductive Action where
  /-- Fires the cancellation token of the caller. -/
  | cancelCaller
  /-- Moves the manual clock on. -/
  | advanceClock (millis : Nat)
  /-- Waits in virtual time. -/
  | sleep (millis : Nat)
  /-- Waits for a permit of the gate that belongs to the task. -/
  | awaitGate
  /-- Ends the whole invocation without an outcome. -/
  | crash
  deriving DecidableEq, Repr

/-- The actions of a call, one after the other, and its result after the last of them. -/
structure Behaviour (ε : Type) where
  actions : List Action := []
  result : Except ε String

namespace Behaviour

def immediate {ε : Type} (result : Except ε String) : Behaviour ε := { result }

def mapError {ε δ : Type} (change : ε → δ) (behaviour : Behaviour ε) : Behaviour δ :=
  { actions := behaviour.actions, result := behaviour.result.mapError change }

end Behaviour

/-- What an operation calls. Readiness is asked once before an invocation and once before each
attempt, and the questions are numbered from one. -/
structure Service where
  /-- The failure in place of readiness, if the service is not ready. -/
  unready? : Nat → Option Failure := fun _ => none
  /-- The behaviour of each attempt, numbered from one. -/
  respond : Nat → Behaviour Fault

end Resilience
