/-! What can be wrong with a value of the domain in itself. -/

set_option autoImplicit false

namespace TryOn

/-- A value that fails validation, breaks an invariant, or is no identifier. -/
inductive Violation where
  | validation (reason : String)
  | invariant (reason : String)
  | identifier (reason : String)
  deriving DecidableEq, Repr

def Violation.message : Violation → String
  | .validation reason => "validation failed: " ++ reason
  | .invariant reason => "invariant violated: " ++ reason
  | .identifier reason => "invalid identifier: " ++ reason

end TryOn
