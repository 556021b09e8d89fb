import TryOn.Text.LowerCase
import TryOn.Violation

/-! The status of a conversion. It moves from pending to processing and from there to completed
or failed; a pending conversion may also fail at once, which is how its owner cancels it. -/

set_option autoImplicit false

namespace TryOn

inductive Status where
  | pending
  | processing
  | completed
  | failed
  deriving DecidableEq, Repr, Inhabited

namespace Status

def all : List Status := [.pending, .processing, .completed, .failed]

def name : Status → String
  | .pending => "pending"
  | .processing => "processing"
  | .completed => "completed"
  | .failed => "failed"

def isTerminal : Status → Bool
  | .completed | .failed => true
  | .pending | .processing => false

def rank : Status → Nat
  | .pending => 0
  | .processing => 1
  | .completed | .failed => 2

def canBecome : Status → Status → Bool
  | .pending, .processing | .pending, .failed => true
  | .processing, .completed | .processing, .failed => true
  | _, _ => false

def next (status : Status) : List Status :=
  all.filter status.canBecome

def ofText? (text : String) : Except Violation Status :=
  let lowered := Text.asciiLowerCase text
  match all.find? (·.name == lowered) with
  | some status => .ok status
  | none => .error (.validation ("unknown conversion status '" ++ lowered ++ "'"))

theorem beq_eq_decide (first second : Status) : (first == second) = decide (first = second) := by
  cases first <;> cases second <;> rfl

theorem rank_lt_of_canBecome {first second : Status} (move : first.canBecome second = true) :
    first.rank < second.rank := by
  cases first <;> cases second <;> first | contradiction | decide

theorem canBecome_eq_false_of_isTerminal {status : Status} (terminal : status.isTerminal = true)
    (other : Status) : status.canBecome other = false := by
  cases status <;> cases other <;> first | rfl | contradiction

theorem mem_next_iff {first second : Status} :
    second ∈ first.next ↔ first.canBecome second = true := by
  cases second <;> simp [next, all]

end Status

end TryOn
