import Mathlib.Logic.Relation
import TryOn.Service.Operations
import TryOn.Service.Worker

/-! A worker at work: its queue, those who hand conversions in, and the conversions it has taken.
Everything that can happen beside everything else is a step of its own. Whatever the processing of
a conversion or a dispatch asks may be answered in any way, but for the queue's own answers. -/

set_option autoImplicit false

namespace TryOn

namespace Working

abbrev Outcome := Except Failure Service.WorkOutcome

/-- Where a conversion stands that the worker has taken. -/
inductive Stage where
  | executing (rest : Program Outcome)
  /-- Executed, and its outcome counted, but still in its slot. -/
  | counted (outcome : Outcome)
  | released (outcome : Outcome)

namespace Stage

def outcome? : Stage → Option Outcome
  | .executing _ => none
  | .counted outcome | .released outcome => some outcome

def hasSlot : Stage → Bool
  | .executing _ | .counted _ => true
  | .released _ => false

end Stage

structure Job where
  id : ConversionId
  stage : Stage

namespace Job

def isExecuting (job : Job) : Bool :=
  job.stage.outcome?.isNone

def hasSlot (job : Job) : Bool :=
  job.stage.hasSlot

def endedAs (kind : Outcome → Bool) (job : Job) : Bool :=
  job.stage.outcome?.any kind

end Job

/-- A call of the dispatcher: for which conversion, and what is left of its program. -/
structure Handing where
  id : ConversionId
  rest : Program Unit

structure Shift where
  worker : Worker
  queue : WorkQueue
  handings : List Handing
  /-- What the queue has accepted, and from which call of the dispatcher, if it was one. -/
  accepted : List (Option Nat × ConversionId)
  /-- What the worker has received from the queue. -/
  received : List ConversionId
  jobs : List Job
  /-- The worker has stopped taking conversions because the queue has ended. -/
  ended : Bool

/-- The conversion that a worker has received but not begun to have executed. -/
def held : WorkerPhase → List ConversionId
  | .holding id => [id]
  | _ => []

namespace Shift

def opened (limit capacity : Nat) : Shift where
  worker := .ofLimit limit
  queue := .bounded capacity
  handings := []
  accepted := []
  received := []
  jobs := []
  ended := false

def push (shift : Shift) (source : Option Nat) (id : ConversionId) : Shift :=
  { shift with
    queue := (shift.queue.enqueue id).2
    accepted :=
      if (shift.queue.enqueue id).1.isOk then shift.accepted ++ [(source, id)]
      else shift.accepted }

/-- Whether the worker waits for a conversion and none is to come. -/
def foundEnd (shift : Shift) : Bool :=
  shift.worker.phase = .awaitingWork && !shift.worker.intakeStopped
    && shift.queue.receive.1 = .ended

end Shift

inductive Step (service : Service) (shift : Shift) : Shift → Prop
  | enqueues (id : ConversionId) (sender : 0 < shift.queue.senders) :
    Step service shift (shift.push none id)
  | dispatches (id : ConversionId) :
    Step service shift
      { shift with
        handings := shift.handings
          ++ [⟨id, Service.dispatch service.policies (Program.request (.enqueue id))⟩] }
  /-- A dispatch has its conversion put into the queue, if the queue accepts it. -/
  | hands {index : Nat} {id asked : ConversionId}
    {resume : (Request.enqueue asked).Answer → Program Unit} (sender : 0 < shift.queue.senders)
    (present : shift.handings[index]? = some ⟨id, .ask (.enqueue asked) resume⟩) :
    Step service shift
      { shift.push (some index) asked with
        handings := shift.handings.set index ⟨id, resume (shift.queue.enqueue asked).1⟩ }
  | goesOn {index : Nat} {id : ConversionId} {request : Request}
    {resume : request.Answer → Program Unit} (answer : request.Answer)
    (present : shift.handings[index]? = some ⟨id, .ask request resume⟩)
    (apart : ∀ other, request ≠ .enqueue other) :
    Step service shift
      { shift with handings := shift.handings.set index ⟨id, resume answer⟩ }
  | proceeds {worker : Worker} {queue : WorkQueue}
    (next : shift.worker.move? shift.queue = some (.proceed worker queue)) :
    Step service shift
      { shift with
        worker := worker
        queue := queue
        received := shift.received ++ held worker.phase
        ended := shift.ended || shift.foundEnd }
  | takes {id : ConversionId} {worker : Worker} {queue : WorkQueue}
    (next : shift.worker.move? shift.queue = some (.take id worker queue)) :
    Step service shift
      { shift with
        worker := worker
        queue := queue
        jobs := shift.jobs ++ [⟨id, .executing (service.executeOne id).run⟩] }
  | executes {index : Nat} {id : ConversionId} {request : Request}
    {resume : request.Answer → Program Outcome} (answer : request.Answer)
    (present : shift.jobs[index]? = some ⟨id, .executing (.ask request resume)⟩) :
    Step service shift
      { shift with jobs := shift.jobs.set index ⟨id, .executing (resume answer)⟩ }
  | finishes {index : Nat} {id : ConversionId} {outcome : Outcome}
    (present : shift.jobs[index]? = some ⟨id, .executing (.done outcome)⟩) :
    Step service shift
      { shift with
        worker := shift.worker.finish outcome
        jobs := shift.jobs.set index ⟨id, .counted outcome⟩ }
  | releases {index : Nat} {id : ConversionId} {outcome : Outcome}
    (present : shift.jobs[index]? = some ⟨id, .counted outcome⟩) :
    Step service shift
      { shift with
        worker := shift.worker.release
        jobs := shift.jobs.set index ⟨id, .released outcome⟩ }
  | stops : Step service shift { shift with worker := shift.worker.stopIntake }
  | abandons : Step service shift { shift with worker := shift.worker.abandon }
  | clones (sender : 0 < shift.queue.senders) :
    Step service shift { shift with queue := shift.queue.cloneSender }
  | drops (sender : 0 < shift.queue.senders) :
    Step service shift { shift with queue := shift.queue.dropSender }

abbrev Run (service : Service) : Shift → Shift → Prop :=
  Relation.ReflTransGen (Step service)

end Working

end TryOn
