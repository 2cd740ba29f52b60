import Resilience.Backoff
import Resilience.Breaker
import Resilience.Bulkhead
import Resilience.Event
import Resilience.Fault
import Resilience.Jitter
import Resilience.Log
import Resilience.Metrics

/-!
Plans: what an invocation asks of its surroundings, one request after the other, and what it does
with each answer. A plan holds no state and knows nothing of other invocations; every path through
it is a list of requests with answers.
-/

namespace Resilience

structure Entry where
  /-- Whether the bulkhead replaces one of another policy. -/
  rebuilt : Bool
  admission : Admission
  /-- The callers that wait, this one included. -/
  waiting : Nat
  deriving DecidableEq, Repr

/-- What an invocation asks for. All requests concern the operation that is invoked. -/
inductive Request where
  /-- The milliseconds on the clock of retry budgets. -/
  | clock
  /-- The virtual time in milliseconds. -/
  | time
  | emit (event : Event)
  | log (line : LogLine)
  | count (counter : Counter) (amount : Nat)
  /-- The policy of the operation, if it is registered. -/
  | resolve
  /-- A slot of the bulkhead with this policy, or a place in its queue. -/
  | enterBulkhead (policy : BulkheadPolicy)
  /-- The slot that the caller queues for; false says that the caller gave up. -/
  | awaitSlot
  /-- The slots taken in the entered bulkhead and the slots there are. -/
  | bulkheadLoad
  | leaveBulkhead
  /-- A permit of the breaker; the refusal tells how long to wait. -/
  | acquirePermit (rule : BreakerRule)
  /-- Hands in the outcome of the permitted call. -/
  | recordSample (rule : BreakerRule) (failed : Bool)
  /-- Gives the permit back without an outcome. -/
  | dropPermit
  /-- One attempt, with the time that it may take. A caller who gives up ends an attempt that
  heeds the caller. -/
  | attempt (number : Nat) (limit : Option Duration) (heedsCaller : Bool)
  /-- A wait before the next attempt; false says that the caller gave up. -/
  | pause (delay : Duration)
  /-- A random change of a delay by up to a bound. -/
  | jitter (bound delay : Duration)
  /-- The backoff strategy of a name. -/
  | strategy (name : String)
  /-- The answer of a fallback handler, if there is one for texts. -/
  | handle (name : String) (fault : Fault)

@[reducible] def Request.Answer : Request → Type
  | .clock | .time => Nat
  | .emit _ | .log _ | .count .. | .leaveBulkhead | .dropPermit => Unit
  | .resolve => Option Policy
  | .enterBulkhead _ => Entry
  | .awaitSlot | .pause _ => Bool
  | .bulkheadLoad => Nat × Nat
  | .acquirePermit _ => Except Duration (Option Transition)
  | .recordSample .. => Option Transition
  | .attempt .. => Outcome
  | .jitter .. => Duration
  | .strategy _ => Option Strategy
  | .handle .. => Option (Except Failure String)

def Request.heedsCaller : Request → Bool
  | .awaitSlot | .pause _ => true
  | .attempt _ _ heedsCaller => heedsCaller
  | _ => false

/-- A value, or a request and what follows each answer. -/
inductive Plan (α : Type) where
  | done (value : α)
  | ask (request : Request) (next : request.Answer → Plan α)

namespace Plan

variable {α β γ : Type}

def bind : Plan α → (α → Plan β) → Plan β
  | done value, next => next value
  | ask request rest, next => ask request fun answer => (rest answer).bind next

instance : Monad Plan where
  pure := done
  bind := bind

@[simp] theorem pure_eq (value : α) : (pure value : Plan α) = done value := rfl

@[simp] theorem done_bind (value : α) (next : α → Plan β) : done value >>= next = next value := rfl

@[simp] theorem ask_bind (request : Request) (rest : request.Answer → Plan α)
    (next : α → Plan β) :
    ask request rest >>= next = ask request fun answer => rest answer >>= next :=
  rfl

theorem bind_done (plan : Plan α) : plan >>= done = plan := by
  induction plan with
  | done value => rfl
  | ask request rest ih =>
    rw [ask_bind]
    exact congrArg (ask request) (funext ih)

theorem bind_assoc (plan : Plan α) (first : α → Plan β) (second : β → Plan γ) :
    plan >>= first >>= second = plan >>= fun value => first value >>= second := by
  induction plan with
  | done value => rfl
  | ask request rest ih =>
    simp only [ask_bind]
    exact congrArg (ask request) (funext ih)

instance : LawfulMonad Plan :=
  LawfulMonad.mk' Plan (fun plan => bind_done plan) (fun _ _ => rfl) bind_assoc

def clock : Plan Nat := ask .clock done

def time : Plan Nat := ask .time done

def emit (event : Event) : Plan Unit := ask (.emit event) done

def log (line : LogLine) : Plan Unit := ask (.log line) done

def count (counter : Counter) (amount : Nat) : Plan Unit := ask (.count counter amount) done

def resolve : Plan (Option Policy) := ask .resolve done

def enterBulkhead (policy : BulkheadPolicy) : Plan Entry := ask (.enterBulkhead policy) done

def awaitSlot : Plan Bool := ask .awaitSlot done

def bulkheadLoad : Plan (Nat × Nat) := ask .bulkheadLoad done

def leaveBulkhead : Plan Unit := ask .leaveBulkhead done

def acquirePermit (rule : BreakerRule) : Plan (Except Duration (Option Transition)) :=
  ask (.acquirePermit rule) done

def recordSample (rule : BreakerRule) (failed : Bool) : Plan (Option Transition) :=
  ask (.recordSample rule failed) done

def dropPermit : Plan Unit := ask .dropPermit done

def attempt (number : Nat) (limit : Option Duration) (heedsCaller : Bool) : Plan Outcome :=
  ask (.attempt number limit heedsCaller) done

def pause (delay : Duration) : Plan Bool := ask (.pause delay) done

/-- A delay after its random change. Without jitter nothing is asked. -/
def jittered (jitter : Jitter) (delay : Duration) : Plan Duration :=
  match jitter with
  | .none => done delay
  | .bounded bound => ask (.jitter bound delay) done

def strategy (name : String) : Plan (Option Strategy) := ask (.strategy name) done

def handle (name : String) (fault : Fault) : Plan (Option (Except Failure String)) :=
  ask (.handle name fault) done

end Plan

end Resilience
