import TryOn.Service.Basic

/-! The life of a conversion. Every step is planned for the conversion as it was read and applied
only while its status is still the same; who comes too late plans again. -/

set_option autoImplicit false

namespace TryOn.Service

variable (service : Service)

def maxPlans : Nat := 3

/-- Plan a step for the conversion as it is now, and hand the plan to the store. -/
def attemptStep (id : ConversionId) (transition : Transition) :
    Action (Except StoreError Conversion) := do
  let current ← Action.store (.get id)
  let now ← Action.wallClock
  let patch ← Action.orFail .ofIllegalTransition (current.plan transition now)
  Action.request (.store (.update id patch))

/-- Take a step, planning it at most `left` times more after this. -/
def transitionFrom (id : ConversionId) (transition : Transition) (left : Nat) :
    Action Conversion := do
  match ← attemptStep id transition with
  | .ok conversion => return conversion
  | .error failure =>
    match left with
    | 0 => throw (.ofStore failure)
    | left + 1 =>
      match failure with
      | .statusConflict _ _ _ => transitionFrom id transition left
      | failure => throw (.ofStore failure)

def transition (id : ConversionId) (transition : Transition) : Action Conversion :=
  transitionFrom id transition (maxPlans - 1)

def onlyPending (verb : String) (status : Status) : Failure :=
  .invalidRequest ("only pending conversions can be " ++ verb ++ " (status: " ++ status.name ++ ")")

def ofPendingUpdate (verb : String) : StoreError → Failure
  | .statusConflict _ _ actual => onlyPending verb actual
  | failure => .ofStore failure

/-- The conversion, if it belongs to the user. One of somebody else is not found. -/
def get (id : ConversionId) (user : UserId) : Action Conversion := do
  let conversion ← Action.store (.get id)
  if conversion.isOwnedBy user then return conversion
  else throw (.notFound id)

def noticeOf (conversion : Conversion) (kind : NoticeKind) : Notice :=
  ⟨conversion.id, conversion.user, kind, conversion.failure⟩

def cancel (id : ConversionId) (user : UserId) : Action Conversion := do
  let current ← get id user
  if current.status ≠ .pending then throw (onlyPending "cancelled" current.status)
  let now ← Action.wallClock
  let patch ← Action.orFail .ofIllegalTransition (current.plan .cancel now)
  let updated ← Action.request (.store (.update id patch))
  let conversion ← Action.orFail (ofPendingUpdate "cancelled") updated
  Action.audit .cancelled user id .null
  service.notify (noticeOf conversion .failed)
  return conversion

def processingCancelledText : String := "processing cancelled"

def processingFailureText (failure : Retry.Failure ProcessorError) : String :=
  if failure.isCancelled then processingCancelledText
  else match failure.last? with
    | some last => last.message
    | none => Conversion.unknownFailureText

def processRequest (conversion : Conversion) : ProcessRequest :=
  ⟨conversion.id, conversion.source, conversion.target, conversion.style⟩

def complete (id : ConversionId) (result : ImageId) (millis : Nat) : Action Conversion := do
  let conversion ← transition id (.complete result millis)
  Action.request (.count (.completed millis))
  service.notify (noticeOf conversion .completed)
  Action.audit .completed conversion.user id (.ofFields [("processing_time_ms", .ofNat millis)])
  return conversion

def fail (id : ConversionId) (failure : Retry.Failure ProcessorError) : Action Conversion := do
  let text := processingFailureText failure
  let conversion ← transition id (.fail text)
  Action.request (.count .failed)
  service.notify (noticeOf conversion .failed)
  Action.audit .failed conversion.user id
    (.ofFields [("attempts", .ofNat failure.attempts), ("error", .text text)])
  return conversion

/-- Process a pending conversion to its end. If the processor fails the conversion does, which is
no failure of this operation. -/
def process (id : ConversionId) : Action Conversion := do
  let conversion ← transition id .start
  let started ← Action.now
  let outcome ← ExceptT.lift (Retry.execute (.ofProgram true)
    (service.policies.get processorPolicy)
    fun _ => Program.request (.process (processRequest conversion)))
  match outcome with
  | .ok result =>
    let finished ← Action.now
    service.complete id result (Duration.millis (finished - started))
  | .error failure => service.fail id failure

inductive WorkOutcome where
  | succeeded
  | failed
  /-- It was not pending any more. -/
  | skipped
  deriving DecidableEq, Repr

def WorkOutcome.name : WorkOutcome → String
  | .succeeded => "succeeded"
  | .failed => "failed"
  | .skipped => "skipped"

/-- Process a conversion if it is still there and still pending. -/
def executeOne (id : ConversionId) : Action WorkOutcome := do
  match ← Action.request (.store (.get id)) with
  | .error (.notFound _) => return .skipped
  | .error failure => throw (.ofStore failure)
  | .ok conversion =>
    if conversion.status ≠ .pending then return .skipped
    match ← ExceptT.lift (service.process id).run with
    | .ok done => return if done.status = .completed then .succeeded else .failed
    | .error (.invalidTransition _ _) => return .skipped
    | .error failure => throw failure

end TryOn.Service
