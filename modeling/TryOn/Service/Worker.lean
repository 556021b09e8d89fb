import TryOn.Duration
import TryOn.Service.Lifecycle
import TryOn.WorkQueue

/-! The worker: it takes conversions from the queue and has so many of them processed at once. It
waits for a free slot before it takes anything, stops taking when it is told to or the queue has
ended, and is done when everything it took is. -/

set_option autoImplicit false

namespace TryOn

structure WorkerStats where
  succeeded : Nat := 0
  failed : Nat := 0
  skipped : Nat := 0
  /-- Conversions whose processing could not be driven to an end. -/
  errors : Nat := 0
  processed : Nat := 0
  running : Nat := 0
  deriving DecidableEq, Repr

namespace WorkerStats

def began (stats : WorkerStats) : WorkerStats :=
  { stats with running := stats.running + 1 }

def finished (stats : WorkerStats) (outcome : Except Failure Service.WorkOutcome) : WorkerStats :=
  let stats := { stats with running := stats.running - 1, processed := stats.processed + 1 }
  match outcome with
  | .ok .succeeded => { stats with succeeded := stats.succeeded + 1 }
  | .ok .failed => { stats with failed := stats.failed + 1 }
  | .ok .skipped => { stats with skipped := stats.skipped + 1 }
  | .error _ => { stats with errors := stats.errors + 1 }

def toData (stats : WorkerStats) (uptime : Duration) : Data :=
  .ofFields [("processed", .ofNat stats.processed), ("succeeded", .ofNat stats.succeeded),
    ("failed", .ofNat stats.failed), ("skipped", .ofNat stats.skipped),
    ("errors", .ofNat stats.errors), ("current_running", .ofNat stats.running),
    ("uptime_secs", .ofNat uptime.seconds)]

end WorkerStats

inductive WorkerPhase where
  | awaitingSlot
  /-- Holding a slot and waiting for a conversion. -/
  | awaitingWork
  /-- Holding a slot and a conversion that is about to be processed. -/
  | holding (id : ConversionId)
  /-- Taking nothing more and waiting for what it has taken. -/
  | draining
  | stopped
  deriving DecidableEq

structure Worker where
  /-- How many conversions may be processed at once. -/
  slots : Nat
  /-- The slots that are held neither by the worker nor by what it has processed. -/
  free : Nat
  phase : WorkerPhase
  stats : WorkerStats
  /-- The conversions taken whose processing has not given back its slot. -/
  underWay : Nat
  /-- Told to take nothing more. -/
  intakeStopped : Bool
  /-- Told to give up what is under way as well. -/
  abandoned : Bool
  deriving DecidableEq

namespace Worker

/-- A worker that has not taken anything yet. It has one slot at least. -/
def ofLimit (maxConcurrent : Nat) : Worker where
  slots := max maxConcurrent 1
  free := max maxConcurrent 1
  phase := .awaitingSlot
  stats := {}
  underWay := 0
  intakeStopped := false
  abandoned := false

def stopIntake (worker : Worker) : Worker :=
  { worker with intakeStopped := true }

def abandon (worker : Worker) : Worker :=
  { worker with intakeStopped := true, abandoned := true }

/-- The processing of a conversion counts its outcome before it gives back its slot. -/
def finish (worker : Worker) (outcome : Except Failure Service.WorkOutcome) : Worker :=
  { worker with stats := worker.stats.finished outcome }

def release (worker : Worker) : Worker :=
  { worker with free := worker.free + 1, underWay := worker.underWay - 1 }

inductive Move where
  /-- It goes on, with nothing new under way. -/
  | proceed (worker : Worker) (queue : WorkQueue)
  /-- It has a conversion processed. -/
  | take (id : ConversionId) (worker : Worker) (queue : WorkQueue)
  deriving DecidableEq

def leave (worker : Worker) (queue : WorkQueue) : Move :=
  .proceed { worker with phase := .draining } queue.close

def leaveSlot (worker : Worker) (queue : WorkQueue) : Move :=
  leave { worker with free := worker.free + 1 } queue

/-- The greatest number of slots that can be kept count of. -/
def maxSlots : Nat := Nat.pow 2 61 - 1

/-- The next move. A worker with too many slots breaks down before it takes anything; then being
told to stop comes before anything that could be taken, but not before what has been. -/
def move? (worker : Worker) (queue : WorkQueue) : Option Move :=
  match worker.phase with
  | .awaitingSlot =>
    if maxSlots < worker.slots then
      some (.proceed { worker with phase := .stopped } queue.dropReceiver)
    else if worker.intakeStopped then some (worker.leave queue)
    else if worker.free = 0 then none
    else some (.proceed { worker with phase := .awaitingWork, free := worker.free - 1 } queue)
  | .awaitingWork =>
    if worker.intakeStopped then some (worker.leaveSlot queue)
    else match queue.receive with
      | (.item id, queue) => some (.proceed { worker with phase := .holding id } queue)
      | (.ended, queue) => some (worker.leaveSlot queue)
      | (.waits, _) => none
  | .holding id =>
    some (.take id
      { worker with
        phase := .awaitingSlot
        stats := worker.stats.began
        underWay := worker.underWay + 1 } queue)
  | .draining =>
    if worker.underWay = 0 then
      some (.proceed { worker with phase := .stopped } queue.dropReceiver)
    else none
  | .stopped => none

end Worker

end TryOn
