import TryOn.Listing.Encoding
import TryOn.Simulation.World

/-! What is reported of a simulation as plain data. The dates of its clock are left out, since they
say nothing about the service. -/

set_option autoImplicit false

namespace TryOn

def Simulation.errorReport (kind message : String) (more : List (String × Data)) : Data :=
  .ofFields ([("error", .text kind), ("message", .text message)] ++ more)

def Simulation.edited (data : Data) (without : List String) (put : List (String × Data)) : Data :=
  match data with
  | .table fields => .ofFields (fields.filter (fun field => !without.contains field.1) ++ put)
  | data => data

open Simulation (errorReport edited)

def Violation.report (violation : Violation) : Data :=
  let kind := match violation with
    | .validation _ => "Validation"
    | .invariant _ => "InvariantViolation"
    | .identifier _ => "InvalidId"
  errorReport kind violation.message []

def IllegalTransition.report (illegal : IllegalTransition) : Data :=
  errorReport "IllegalTransition" illegal.message [("from", illegal.source.toData),
    ("to", illegal.target.toData), ("domain", illegal.violation.report)]

def ImageError.report (failure : ImageError) : Data :=
  let kind := match failure with
    | .notFound _ => "NotFound"
    | .denied _ _ => "Denied"
    | .unavailable _ => "Unavailable"
  errorReport kind failure.message []

def QueueError.report (failure : QueueError) : Data :=
  let kind := match failure with
    | .full => "Full"
    | .closed => "Closed"
  errorReport kind failure.message []

def ProcessorError.report (failure : ProcessorError) : Data :=
  let kind := match failure with
    | .transient _ => "Transient"
    | .rejected _ => "Rejected"
    | .other _ => "Other"
  errorReport kind failure.message []

def StoreError.report (failure : StoreError) : Data :=
  match failure with
  | .notFound _ => errorReport "NotFound" failure.message []
  | .quotaExceeded balance =>
    errorReport "QuotaExceeded" failure.message [("quota", balance.toData)]
  | .statusConflict _ _ _ => errorReport "StatusConflict" failure.message []
  | .invalidUpdate _ => errorReport "InvalidUpdate" failure.message []
  | .storage _ => errorReport "Storage" failure.message []

def RateLimited.report (refusal : RateLimited) : Data :=
  errorReport "RateLimited" refusal.message
    [("retry_after_ms", .ofNat (Duration.millis refusal.retryAfter)),
      ("limit", .ofNat refusal.limit), ("window_ms", .ofNat (Duration.millis refusal.window))]

def Failure.report (failure : Failure) : Data :=
  let kind := match failure with
    | .rateLimited _ _ => "RateLimited"
    | .quotaExceeded _ _ _ => "QuotaExceeded"
    | .invalidImage _ => "InvalidImage"
    | .invalidRequest _ => "InvalidRequest"
    | .accessDenied _ => "AccessDenied"
    | .notFound _ => "NotFound"
    | .invalidTransition _ _ => "InvalidTransition"
    | .retryExhausted _ _ => "RetryExhausted"
    | .cancelled => "Cancelled"
    | .store _ => "Store"
  errorReport kind failure.message [("code", .text failure.code),
    ("transient", .bool failure.isTransient), ("rejection", .bool failure.isAdmissionRejection)]

/-- Unreadable settings are reported without a text: it depends on what could not be read. -/
def Settings.Error.report : Settings.Error → Data
  | .unreadable => .ofFields [("error", .text "Load")]
  | .invalid reason => errorReport "Invalid" (Settings.Error.invalid reason).message []

def Retry.Failure.kind {ε : Type} : Retry.Failure ε → String
  | .terminal _ _ => "NonRetryable"
  | .exhausted _ _ => "Exhausted"
  | .cancelled _ _ => "Cancelled"

namespace Simulation

variable {α ε : Type}

def reportOf (failure : ε → Data) (success : α → Data) : Except ε α → Data
  | .ok value => success value
  | .error error => failure error

def okOr (failure : ε → Data) : Except ε α → Data :=
  reportOf failure fun _ => .text "ok"

def recordReport (conversion : Conversion) : Data :=
  edited conversion.toData ["created_at", "updated_at"]
    [("completed_at", .bool conversion.completedAt.isSome),
      ("invariants", okOr Violation.report conversion.check)]

def viewReport (view : StatusView) : Data :=
  edited view.toData ["updated_at"] [("completed_at", .bool view.completedAt.isSome)]

def createdReport (created : Created) : Data :=
  .ofFields [("record", recordReport created.conversion), ("charged", created.charged.toData),
    ("quota", created.balance.toData)]

def pageReport (page : Listing.Page) : Data :=
  let row (conversion : Conversion) : Data :=
    .list [conversion.id.toData, conversion.status.toData, .ofOption .text conversion.style]
  .ofFields [("items", .list (page.items.map row)), ("total", .ofNat page.total),
    ("has_more", .bool page.hasMore), ("pagination", page.pagination.toData)]

def entryReport (entry : AuditEntry) : Data :=
  edited entry.toData ["at"] [("name", .text entry.action.name)]

def deliveryReport (delivery : Delivery) : Data :=
  .ofFields [("notice", delivery.notice.toData), ("delivered", .bool delivery.delivered)]

def World.report (world : World) : Data :=
  .ofFields [("metrics", world.metrics.toData), ("audit", .list (world.audit.map entryReport)),
    ("notices", .list (world.notices.map Notice.toData)),
    ("sends", .list (world.channel.deliveries.map deliveryReport)),
    ("processor_calls", .ofNat world.processor.calls),
    ("tracked", .ofNat world.limiter.trackedUsers),
    ("logs", .list (world.logs.map LogLine.toData))]

end Simulation

end TryOn
