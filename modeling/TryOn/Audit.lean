import TryOn.Data.Decode
import TryOn.Data.Json
import TryOn.Identifier
import TryOn.LogLine
import TryOn.Timestamp.Text

/-! The audit trail: who did what to which conversion. -/

set_option autoImplicit false

namespace TryOn

inductive AuditAction where
  | created
  | updated
  | deleted
  | cancelled
  | completed
  | failed
  deriving DecidableEq, Repr

namespace AuditAction

def all : List AuditAction := [.created, .updated, .deleted, .cancelled, .completed, .failed]

def verb : AuditAction → String
  | .created => "created"
  | .updated => "updated"
  | .deleted => "deleted"
  | .cancelled => "cancelled"
  | .completed => "completed"
  | .failed => "failed"

def name (action : AuditAction) : String :=
  "conversion." ++ action.verb

def key (action : AuditAction) : String :=
  "conversion_" ++ action.verb

def toData (action : AuditAction) : Data :=
  .text action.key

def ofData? : Data → Option AuditAction :=
  Data.asVariant? (all.map fun action => (action.key, action))

end AuditAction

structure AuditEntry where
  action : AuditAction
  user : UserId
  conversion : ConversionId
  metadata : Data
  moment : Timestamp

namespace AuditEntry

def logTarget : String := "audit"

def logLine (entry : AuditEntry) : LogLine where
  target := logTarget
  fields := [("message", "audit"), ("action", entry.action.name), ("user_id", entry.user.text),
    ("conversion_id", entry.conversion.text), ("metadata", entry.metadata.json)]

def toData (entry : AuditEntry) : Data :=
  .ofFields [("action", entry.action.toData), ("user_id", entry.user.toData),
    ("conversion_id", entry.conversion.toData), ("metadata", entry.metadata),
    ("at", entry.moment.toData)]

def ofData? : Data → Option AuditEntry :=
  Data.openRecord ["action", "user_id", "conversion_id", "metadata", "at"] do
    return ⟨← Data.required AuditAction.ofData?, ← Data.required Id.ofData?,
      ← Data.required Id.ofData?, ← Data.orDefault .null some, ← Data.required Timestamp.ofData?⟩

end AuditEntry

end TryOn
