import TryOn.Conversion.Encoding
import TryOn.Quota.Encoding
import TryOn.Retry.Classification

/-! Why the store refuses a request or cannot answer it. -/

set_option autoImplicit false

namespace TryOn

inductive StoreError where
  | notFound (id : ConversionId)
  /-- Nothing is left of the user's allowances, as the balance shows. -/
  | quotaExceeded (balance : Quota.Balance)
  /-- The stored status is not the expected one. -/
  | statusConflict (id : ConversionId) (expected actual : Status)
  /-- The conversion would not be consistent afterwards. -/
  | invalidUpdate (reason : String)
  | storage (reason : String)
  deriving DecidableEq

namespace StoreError

def message : StoreError → String
  | .notFound id => "conversion not found: " ++ id.text
  | .quotaExceeded balance =>
    "quota exceeded (remaining free: " ++ Text.decimal balance.remainingFree ++ ", paid: "
      ++ Text.decimal balance.remainingPaid ++ ")"
  | .statusConflict id expected actual =>
    "conversion " ++ id.text ++ " is " ++ actual.name ++ ", expected " ++ expected.name
  | .invalidUpdate reason => "invalid update: " ++ reason
  | .storage reason => "storage error: " ++ reason

instance : Retry.Failing StoreError where
  message := message
  verdict?
    | .storage _ => none
    | .notFound _ | .quotaExceeded _ | .statusConflict _ _ _ | .invalidUpdate _ => some .terminal

end StoreError

end TryOn
