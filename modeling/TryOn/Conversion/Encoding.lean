import TryOn.Conversion.Patch
import TryOn.Data.Decode
import TryOn.Timestamp.Text

/-! Conversions and what changes them, as plain data. Fields without a value are written as
null, and read as absent from null or from nothing at all. -/

set_option autoImplicit false

namespace TryOn

open Data (required optional asText? asNat?)

namespace Status

def toData (status : Status) : Data :=
  .text status.name

def ofData? : Data → Option Status :=
  Data.asVariant? (all.map fun status => (status.name, status))

@[simp] theorem ofData?_toData (status : Status) : ofData? status.toData = some status := by
  cases status <;> decide

end Status

namespace Draft

def fieldNames : List String := ["user_id", "source_image_id", "target_image_id", "style"]

def toData (draft : Draft) : Data :=
  .ofFields [("user_id", draft.user.toData), ("source_image_id", draft.source.toData),
    ("target_image_id", draft.target.toData), ("style", .ofOption .text draft.style)]

def ofData? : Data → Option Draft :=
  Data.openRecord fieldNames do
    return ⟨← required Id.ofData?, ← required Id.ofData?, ← required Id.ofData?, ← optional asText?⟩

end Draft

namespace Conversion

def fieldNames : List String :=
  ["id", "user_id", "source_image_id", "target_image_id", "style", "status", "result_image_id",
    "error_message", "processing_time_ms", "created_at", "updated_at", "completed_at"]

def toData (conversion : Conversion) : Data :=
  .ofFields [("id", conversion.id.toData), ("user_id", conversion.user.toData),
    ("source_image_id", conversion.source.toData), ("target_image_id", conversion.target.toData),
    ("style", .ofOption .text conversion.style), ("status", conversion.status.toData),
    ("result_image_id", .ofOption Id.toData conversion.result),
    ("error_message", .ofOption .text conversion.failure),
    ("processing_time_ms", .ofOption .ofNat conversion.processingMillis),
    ("created_at", conversion.createdAt.toData), ("updated_at", conversion.updatedAt.toData),
    ("completed_at", .ofOption Timestamp.toData conversion.completedAt)]

def ofData? : Data → Option Conversion :=
  Data.openRecord fieldNames do
    return ⟨← required Id.ofData?, ← required Id.ofData?, ← required Id.ofData?,
      ← required Id.ofData?, ← optional asText?, ← required Status.ofData?, ← optional Id.ofData?,
      ← optional asText?, ← optional (asNat? 64), ← required Timestamp.ofData?,
      ← required Timestamp.ofData?, ← optional Timestamp.ofData?⟩

end Conversion

namespace StatusView

def fieldNames : List String :=
  ["id", "status", "result_image_id", "error_message", "processing_time_ms", "updated_at",
    "completed_at"]

def toData (view : StatusView) : Data :=
  .ofFields [("id", view.id.toData), ("status", view.status.toData),
    ("result_image_id", .ofOption Id.toData view.result),
    ("error_message", .ofOption .text view.failure),
    ("processing_time_ms", .ofOption .ofNat view.processingMillis),
    ("updated_at", view.updatedAt.toData),
    ("completed_at", .ofOption Timestamp.toData view.completedAt)]

def ofData? : Data → Option StatusView :=
  Data.openRecord fieldNames do
    return ⟨← required Id.ofData?, ← required Status.ofData?, ← optional Id.ofData?,
      ← optional asText?, ← optional (asNat? 64), ← required Timestamp.ofData?,
      ← optional Timestamp.ofData?⟩

end StatusView

namespace Transition

def toData : Transition → Data
  | .start => .ofFields [("to", .text "start_processing")]
  | .complete result millis => .ofFields [("to", .text "complete"),
      ("result_image_id", result.toData), ("processing_time_ms", .ofNat millis)]
  | .fail message => .ofFields [("to", .text "fail"), ("error_message", .text message)]
  | .cancel => .ofFields [("to", .text "cancel")]

def ofTagged? (tag : String) (content : Data) : Option Transition :=
  match tag with
  | "start_processing" => Data.openRecord [] (pure .start) content
  | "complete" => Data.openRecord ["result_image_id", "processing_time_ms"]
      (do return .complete (← required Id.ofData?) (← required (asNat? 64))) content
  | "fail" => Data.openRecord ["error_message"] (do return .fail (← required asText?)) content
  | "cancel" => Data.openRecord [] (pure .cancel) content
  | _ => none

def ofData? : Data → Option Transition
  | .table fields => do ofTagged? (← asText? (← Data.field? fields "to")) (.table fields)
  | .list (tag :: items) => do ofTagged? (← asText? tag) (.list items)
  | _ => none

end Transition

namespace StyleEdit

/-- The label alone; an edit that clears it is written like one that keeps it. -/
def toData : StyleEdit → Data
  | .replace style => .text style
  | .keep | .clear => .null

def ofData? : Data → Option StyleEdit
  | .null => some .keep
  | .text style => some (.replace style)
  | _ => none

/-- The form that tells all three edits apart. -/
def toTaggedData : StyleEdit → Data
  | .keep => .null
  | .clear => .ofFields [("set", .null)]
  | .replace style => .ofFields [("set", .text style)]

def ofTaggedData? : Data → Option StyleEdit
  | .null => some .keep
  | .table [("set", .null)] => some .clear
  | .table [("set", .text style)] => some (.replace style)
  | _ => none

theorem ofTaggedData?_toTaggedData (edit : StyleEdit) :
    ofTaggedData? edit.toTaggedData = some edit := by
  cases edit <;> rfl

end StyleEdit

namespace Patch

def fieldNames : List String :=
  ["expected_status", "status", "style", "result_image_id", "error_message",
    "processing_time_ms", "completed_at", "updated_at"]

def encode (style : StyleEdit → Data) (patch : Patch) : Data :=
  .ofFields [("expected_status", patch.expected.toData),
    ("status", .ofOption Status.toData patch.status), ("style", style patch.style),
    ("result_image_id", .ofOption Id.toData patch.result),
    ("error_message", .ofOption .text patch.failure),
    ("processing_time_ms", .ofOption .ofNat patch.processingMillis),
    ("completed_at", .ofOption Timestamp.toData patch.completedAt),
    ("updated_at", patch.updatedAt.toData)]

def decode? (style : Data → Option StyleEdit) : Data → Option Patch :=
  Data.openRecord fieldNames do
    return ⟨← required Status.ofData?, ← optional Status.ofData?,
      (← optional style).getD .keep, ← optional Id.ofData?, ← optional asText?,
      ← optional (asNat? 64), ← optional Timestamp.ofData?, ← required Timestamp.ofData?⟩

def toData : Patch → Data := encode StyleEdit.toData

def ofData? : Data → Option Patch := decode? StyleEdit.ofData?

def toTaggedData : Patch → Data := encode StyleEdit.toTaggedData

def ofTaggedData? : Data → Option Patch := decode? StyleEdit.ofTaggedData?

end Patch

end TryOn
