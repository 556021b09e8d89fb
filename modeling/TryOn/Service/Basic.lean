import TryOn.Retry.Policies
import TryOn.Service.Failure
import TryOn.Service.Program
import TryOn.Settings.Basic

/-! What the operations of the service have in common: how it is set up, and the steps they are
made of. -/

set_option autoImplicit false

namespace TryOn

structure Service where
  policies : Retry.Policies
  watchSettings : Settings.Watch
  /-- Whether notices are sent through a channel, or else left where they are collected. -/
  sendsNotices : Bool

abbrev Action (α : Type) := ExceptT Failure Program α

namespace Action

def request (request : Request) : Action request.Answer :=
  ExceptT.lift (Program.request request)

def now : Action Instant := request .now

def wallClock : Action Timestamp := request .wallClock

def wait (span : Duration) (stop : Stop) : Action Bool := request (.wait span stop)

def poll (id : ConversionId) (stop : Stop) : Action (Option (Except StoreError Conversion)) :=
  request (.poll id stop)

def orFail {α ε : Type} (report : ε → Failure) : Except ε α → Action α
  | .ok value => pure value
  | .error failure => throw (report failure)

def store (call : Store.Call) : Action call.Answer := do
  let answer ← request (.store call)
  orFail .ofStore answer

def audit (action : AuditAction) (user : UserId) (conversion : ConversionId)
    (metadata : Data) : Action Unit := do
  let moment ← wallClock
  request (.audit ⟨action, user, conversion, metadata, moment⟩)

end Action

namespace Service

/-- The classes of operations that are retried, as policies name them. -/
def imagesPolicy : String := "images"

def processorPolicy : String := "processor"

def notifierPolicy : String := "notifier"

def queuePolicy : String := "queue"

def sendNotice (policies : Retry.Policies) (heedsCancel : Bool) (notice : Notice) :
    Program Unit := do
  let _ ← Retry.execute (.ofProgram heedsCancel) (policies.get notifierPolicy)
    fun _ => Program.request (.deliver notice)

/-- Tell the owner of a conversion. Whether that succeeds makes no difference to anything else,
and no caller can call it off. -/
def notify (service : Service) (notice : Notice) : Program Unit :=
  if service.sendsNotices then sendNotice service.policies false notice
  else Program.request (.post notice)

/-- Hand a conversion to the worker, and leave it pending if that fails for good. -/
def dispatch (policies : Retry.Policies) (enqueue : Program (Except QueueError Unit)) :
    Program Unit := do
  let _ ← Retry.execute (.ofProgram false) (policies.get queuePolicy) fun _ => enqueue

end Service

end TryOn
