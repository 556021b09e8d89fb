import TryOn.Service.Admission
import TryOn.Service.Lifecycle
import TryOn.Service.Watch
import TryOn.Text.Blank

/-! The other operations of the service: looking at conversions, changing and deleting them, and
the accounts of users. -/

set_option autoImplicit false

namespace TryOn.Service

def status (id : ConversionId) (user : UserId) : Action StatusView :=
  return (← get id user).view

def list (filter : Listing.Filter) (pagination : Listing.Pagination) : Action Listing.Page :=
  Action.store (.list filter pagination)

def update (id : ConversionId) (user : UserId) (style : Option String) : Action Conversion := do
  let current ← get id user
  if current.status ≠ .pending then throw (onlyPending "edited" current.status)
  let now ← Action.wallClock
  let patch ← Action.orFail .ofViolation (Patch.restyle style now)
  let updated ← Action.request (.store (.update id patch))
  let conversion ← Action.orFail (ofPendingUpdate "edited") updated
  Action.audit .updated user id (.ofFields [("style", .ofOption .text conversion.style)])
  return conversion

def ofDeletion : StoreError → Failure
  | .statusConflict _ _ actual =>
    .invalidRequest ("conversion changed while deleting (status: " ++ actual.name ++ ")")
  | failure => .ofStore failure

def delete (id : ConversionId) (user : UserId) : Action Unit := do
  let current ← get id user
  if current.status = .processing then
    throw (.invalidRequest "conversion is being processed and cannot be deleted")
  let deleted ← Action.request (.store (.delete id current.status))
  Action.orFail ofDeletion deleted
  Action.audit .deleted user id (.ofFields [("status", current.status.toData)])

def quota (user : UserId) : Action Quota.Balance :=
  Action.store (.balance user)

def grant (user : UserId) (credits : Nat) : Action Quota.Balance := do
  if credits = 0 then throw (.invalidRequest "credits to grant must be positive")
  Action.store (.grant user credits)

def setPlan (user : UserId) (plan : String) (monthlyLimit : Nat) : Action Quota.Balance := do
  let plan := Text.trim plan
  if plan.isEmpty then throw (.invalidRequest "plan name must not be blank")
  Action.store (.setPlan user plan monthlyLimit)

end TryOn.Service
