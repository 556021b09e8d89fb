import TryOn.Data.Basic

/-! Lines of the service's log that others rely on: notices and the audit trail. -/

set_option autoImplicit false

namespace TryOn

structure LogLine where
  target : String
  fields : List (String × String)
  deriving DecidableEq, Repr

def LogLine.toData (line : LogLine) : Data :=
  .ofFields [("level", .text "INFO"), ("target", .text line.target),
    ("fields", .ofFields (line.fields.map fun field => (field.1, .text field.2)))]

end TryOn
