/-! Whether a failure is worth another attempt. Many failures say so themselves; the others are
judged by their text. -/

set_option autoImplicit false

namespace TryOn.Retry

inductive Verdict where
  | retryable
  | terminal
  deriving DecidableEq, Repr

def Verdict.name : Verdict → String
  | .retryable => "retryable"
  | .terminal => "terminal"

/-- A kind of failure: its text, and its own verdict if it has one. -/
class Failing (ε : Type) where
  message : ε → String
  verdict? : ε → Option Verdict

/-- A failure of any kind, as far as it matters to a policy. -/
structure Judged where
  text : String
  verdict : Option Verdict
  deriving DecidableEq, Repr

instance : Failing Judged := ⟨Judged.text, Judged.verdict⟩

def Judged.of {ε : Type} [Failing ε] (failure : ε) : Judged :=
  ⟨Failing.message failure, Failing.verdict? failure⟩

end TryOn.Retry
