import TryOn.Retry.Policy
import TryOn.Text.Digits

/-! Running an operation under a retry policy. What running means is left to the monad: a program
of the service, or a timeline that is known in advance. -/

set_option autoImplicit false

namespace TryOn.Retry

inductive Failure (ε : Type) where
  /-- The last failure was judged terminal. -/
  | terminal (attempts : Nat) (last : ε)
  /-- Every attempt that the policy allows has failed. -/
  | exhausted (attempts : Nat) (last : ε)
  /-- It was called off before an attempt or while it waited for one. -/
  | cancelled (attempts : Nat) (last : Option ε)
  deriving DecidableEq, Repr

namespace Failure

variable {ε : Type}

def attempts : Failure ε → Nat
  | .terminal attempts _ | .exhausted attempts _ | .cancelled attempts _ => attempts

def last? : Failure ε → Option ε
  | .terminal _ last | .exhausted _ last => some last
  | .cancelled _ last => last

def isCancelled : Failure ε → Bool
  | .cancelled _ _ => true
  | .terminal _ _ | .exhausted _ _ => false

def message [Failing ε] : Failure ε → String
  | .terminal attempts last =>
    "non-retryable error after " ++ Text.decimal attempts ++ " attempt(s): " ++ Failing.message last
  | .exhausted attempts last =>
    "exhausted retries after " ++ Text.decimal attempts ++ " attempt(s): " ++ Failing.message last
  | .cancelled attempts _ => "cancelled after " ++ Text.decimal attempts ++ " attempt(s)"

end Failure

structure Means (m : Type → Type) where
  isCancelled : m Bool
  /-- Wait so many milliseconds. The answer is false if the operation was called off meanwhile. -/
  pause : Nat → m Bool
  /-- A number drawn at random, at most the given one. -/
  draw : Nat → m Nat

variable {m : Type → Type} [Monad m] {α ε ν : Type} [Failing ε] [Arithmetic ν]

/-- Make an attempt and, if need be, at most `left` more. Attempts are numbered from zero. -/
def executeFrom (means : Means m) (policy : Policy ν) (operation : Nat → m (Except ε α)) :
    (left attempt : Nat) → m (Except (Failure ε) α)
  | left, attempt => do
    if ← means.isCancelled then return .error (.cancelled attempt none)
    match ← operation attempt with
    | .ok value => return .ok value
    | .error failure =>
      match policy.judge failure with
      | .terminal => return .error (.terminal (attempt + 1) failure)
      | .retryable =>
        match left with
        | 0 => return .error (.exhausted (attempt + 1) failure)
        | left + 1 =>
          let draw ← means.draw (policy.spread attempt)
          if ← means.pause (policy.backoff attempt draw) then
            executeFrom means policy operation left (attempt + 1)
          else return .error (.cancelled (attempt + 1) (some failure))

def execute (means : Means m) (policy : Policy ν) (operation : Nat → m (Except ε α)) :
    m (Except (Failure ε) α) :=
  executeFrom means policy operation (policy.maxAttempts - 1) 0

end TryOn.Retry
