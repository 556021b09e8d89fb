import TryOn.Identifier
import TryOn.Retry.Classification

/-! The queue between those who hand in conversions and the one who processes them: bounded,
first in first out, with any number of senders and one receiver. -/

set_option autoImplicit false

namespace TryOn

inductive QueueError where
  | full
  | closed
  deriving DecidableEq, Repr

namespace QueueError

def message : QueueError → String
  | .full => "work queue is full"
  | .closed => "work queue is closed"

instance : Retry.Failing QueueError where
  message := message
  verdict?
    | .full => some .retryable
    | .closed => some .terminal

end QueueError

structure WorkQueue where
  capacity : Nat
  waiting : List ConversionId
  senders : Nat
  closed : Bool
  /-- There is somebody left to receive. -/
  hasReceiver : Bool
  deriving DecidableEq

inductive Received where
  | item (id : ConversionId)
  | ended
  | waits
  deriving DecidableEq

namespace WorkQueue

/-- An empty queue with one sender. It has room for one conversion at least. -/
def bounded (capacity : Nat) : WorkQueue where
  capacity := max capacity 1
  waiting := []
  senders := 1
  closed := false
  hasReceiver := true

def enqueue (queue : WorkQueue) (id : ConversionId) : Except QueueError Unit × WorkQueue :=
  if queue.closed then (.error .closed, queue)
  else if queue.capacity ≤ queue.waiting.length then (.error .full, queue)
  else (.ok (), { queue with waiting := queue.waiting ++ [id] })

/-- Take what has waited longest. An empty queue has ended when nothing can be added to it. -/
def receive (queue : WorkQueue) : Received × WorkQueue :=
  match queue.waiting with
  | id :: rest => (.item id, { queue with waiting := rest })
  | [] => if queue.closed || queue.senders = 0 then (.ended, queue) else (.waits, queue)

def close (queue : WorkQueue) : WorkQueue :=
  { queue with closed := true }

def dropReceiver (queue : WorkQueue) : WorkQueue :=
  { queue with waiting := [], closed := true, hasReceiver := false }

def cloneSender (queue : WorkQueue) : WorkQueue :=
  { queue with senders := if queue.senders = 0 then 0 else queue.senders + 1 }

def dropSender (queue : WorkQueue) : WorkQueue :=
  { queue with senders := queue.senders - 1 }

theorem enqueue_length_le (queue : WorkQueue) (id : ConversionId)
    (within : queue.waiting.length ≤ queue.capacity) :
    (queue.enqueue id).2.waiting.length ≤ (queue.enqueue id).2.capacity := by
  simp only [enqueue]
  split
  · exact within
  · split
    · exact within
    · simp only [List.length_append, List.length_cons, List.length_nil]
      omega

end WorkQueue

end TryOn
