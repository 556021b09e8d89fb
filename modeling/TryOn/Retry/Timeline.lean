import TryOn.Duration
import TryOn.Retry.Execution

/-! A retried operation whose course is known in advance: how long each attempt takes and how it
ends, and when the whole is called off. Times are in milliseconds from the start. -/

set_option autoImplicit false

namespace TryOn.Retry

structure Outcome (α ε : Type) where
  wait : Nat
  result : Except ε α

structure Course (α ε : Type) where
  outcomes : Nat → Outcome α ε
  /-- How long somebody waits before calling the operation off, if anybody does. -/
  cancelAfter : Option Nat
  /-- How far chance prolongs the pause at a given time, below a given bound. -/
  draws : Nat → Nat → Nat

structure Timeline where
  now : Nat
  calls : List (Nat × Nat)
  deriving DecidableEq, Repr

namespace Course

variable {α ε : Type} (course : Course α ε)

def waited (millis : Nat) : Nat :=
  Duration.millis (Duration.waited (Duration.ofMillis millis))

def cancelledAt : Option Nat :=
  course.cancelAfter.map waited

def isCancelledAt (now : Nat) : Bool :=
  course.cancelledAt.any (· ≤ now)

/-- Waiting and chance on the timeline. A pause that ends just when the operation is called off
has been waited out. -/
def means : Means (StateM Timeline) where
  isCancelled := do return course.isCancelledAt (← get).now
  pause millis := do
    let now := (← get).now
    let ending := now + waited millis
    match (course.cancelledAt.map (max now)).filter (· < ending) with
    | some stop =>
      modify fun timeline => { timeline with now := stop }
      return false
    | none =>
      modify fun timeline => { timeline with now := ending }
      return true
  draw bound := do return course.draws (← get).now bound

def operation (attempt : Nat) : StateM Timeline (Except ε α) := do
  let outcome := course.outcomes attempt
  modify fun timeline =>
    { timeline with
      now := timeline.now + waited outcome.wait
      calls := timeline.calls ++ [(attempt, timeline.now)] }
  return outcome.result

def run [Failing ε] (policy : Policy) : Except (Failure ε) α × Timeline :=
  (execute course.means policy course.operation).run ⟨0, []⟩

end Course

end TryOn.Retry
