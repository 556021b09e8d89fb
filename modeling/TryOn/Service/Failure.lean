import TryOn.Conversion.Patch
import TryOn.RateLimit
import TryOn.Store.Error

/-! What an operation of the service reports when it does not succeed. -/

set_option autoImplicit false

namespace TryOn

inductive Failure where
  | rateLimited (retryAfter : Duration) (limit : Nat)
  | quotaExceeded (plan : String) (remainingFree remainingPaid : Nat)
  | invalidImage (reason : String)
  | invalidRequest (reason : String)
  | accessDenied (reason : String)
  /-- There is no such conversion, or it belongs to somebody else. -/
  | notFound (id : ConversionId)
  | invalidTransition (source target : Status)
  | retryExhausted (attempts : Nat) (reason : String)
  | cancelled
  /-- A failure of the store that has no other name here. -/
  | store (failure : StoreError)
  deriving DecidableEq

namespace Failure

def message : Failure → String
  | .rateLimited retryAfter limit =>
    "rate limit of " ++ Text.decimal limit ++ " requests exceeded; retry in "
      ++ Text.decimal retryAfter.millis ++ "ms"
  | .quotaExceeded plan free paid =>
    "quota exceeded on plan '" ++ plan ++ "' (remaining free: " ++ Text.decimal free
      ++ ", paid: " ++ Text.decimal paid ++ ")"
  | .invalidImage reason => "invalid image: " ++ reason
  | .invalidRequest reason => "invalid request: " ++ reason
  | .accessDenied reason => "access denied: " ++ reason
  | .notFound id => "conversion not found: " ++ id.text
  | .invalidTransition source target =>
    "invalid transition " ++ source.name ++ " -> " ++ target.name
  | .retryExhausted attempts reason =>
    "retries exhausted after " ++ Text.decimal attempts ++ " attempt(s): " ++ reason
  | .cancelled => "operation cancelled"
  | .store failure => failure.message

def code : Failure → String
  | .rateLimited _ _ => "rate_limited"
  | .quotaExceeded _ _ _ => "quota_exceeded"
  | .invalidImage _ => "invalid_image"
  | .invalidRequest _ => "invalid_request"
  | .accessDenied _ => "access_denied"
  | .notFound _ => "not_found"
  | .invalidTransition _ _ => "invalid_transition"
  | .retryExhausted _ _ => "retry_exhausted"
  | .cancelled => "cancelled"
  | .store _ => "store_error"

def isTransient : Failure → Bool
  | .retryExhausted _ _ | .cancelled | .store (.storage _) => true
  | _ => false

/-- Whether a request was turned away before anything was created or charged. -/
def isAdmissionRejection : Failure → Bool
  | .rateLimited _ _ | .quotaExceeded _ _ _ | .invalidImage _ | .invalidRequest _
  | .accessDenied _ => true
  | _ => false

def ofStore : StoreError → Failure
  | .notFound id => .notFound id
  | .quotaExceeded balance =>
    .quotaExceeded balance.plan balance.remainingFree balance.remainingPaid
  | .statusConflict id _ actual =>
    .invalidRequest
      ("conversion " ++ id.text ++ " changed concurrently and is now " ++ actual.name)
  | .invalidUpdate reason => .store (.invalidUpdate reason)
  | .storage reason => .store (.storage reason)

def ofIllegalTransition (illegal : IllegalTransition) : Failure :=
  .invalidTransition illegal.source illegal.target

def ofViolation (violation : Violation) : Failure :=
  .invalidRequest violation.message

def ofRateLimited (refusal : RateLimited) : Failure :=
  .rateLimited refusal.retryAfter refusal.limit

end Failure

end TryOn
