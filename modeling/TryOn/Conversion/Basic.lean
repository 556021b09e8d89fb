import TryOn.Conversion.Status
import TryOn.Identifier
import TryOn.Text.Blank
import TryOn.Text.Digits
import TryOn.Timestamp.Civil

/-! Conversions: a source and a target image of a user, the style asked for, and how the work on
them stands. A draft is what a user hands in; the record is what is kept of it. -/

set_option autoImplicit false

namespace TryOn

def Style.maxLength : Nat := 64

def Style.check (style : String) : Except Violation Unit :=
  if Text.isBlankText style then .error (.validation "style must not be blank")
  else if Style.maxLength < style.length then
    .error (.validation ("style must be at most " ++ Text.decimal Style.maxLength ++ " characters"))
  else .ok ()

structure Draft where
  user : UserId
  source : ImageId
  target : ImageId
  style : Option String
  deriving DecidableEq

def Draft.check (draft : Draft) : Except Violation Unit :=
  if draft.source = draft.target then
    .error (.validation "source and target image must be different")
  else match draft.style with
    | some style => Style.check style
    | none => .ok ()

structure Conversion where
  id : ConversionId
  user : UserId
  source : ImageId
  target : ImageId
  style : Option String
  status : Status
  result : Option ImageId
  failure : Option String
  processingMillis : Option Nat
  createdAt : Timestamp
  updatedAt : Timestamp
  completedAt : Option Timestamp
  deriving DecidableEq

structure StatusView where
  id : ConversionId
  status : Status
  result : Option ImageId
  failure : Option String
  processingMillis : Option Nat
  updatedAt : Timestamp
  completedAt : Option Timestamp
  deriving DecidableEq

namespace Conversion

def ofDraft (id : ConversionId) (draft : Draft) (now : Timestamp) : Conversion where
  id := id
  user := draft.user
  source := draft.source
  target := draft.target
  style := draft.style
  status := .pending
  result := none
  failure := none
  processingMillis := none
  createdAt := now
  updatedAt := now
  completedAt := none

def isTerminal (conversion : Conversion) : Bool :=
  conversion.status.isTerminal

def isOwnedBy (conversion : Conversion) (user : UserId) : Bool :=
  conversion.user = user

def view (conversion : Conversion) : StatusView where
  id := conversion.id
  status := conversion.status
  result := conversion.result
  failure := conversion.failure
  processingMillis := conversion.processingMillis
  updatedAt := conversion.updatedAt
  completedAt := conversion.completedAt

/-- What the status says of the other fields: a result belongs to a completed conversion, a
failure text to a failed one, and a moment of completion to both. -/
structure Consistent (conversion : Conversion) : Prop where
  images : conversion.source ≠ conversion.target
  result : conversion.result.isSome = (conversion.status == .completed)
  failure : conversion.failure.isSome = (conversion.status == .failed)
  completedAt : conversion.completedAt.isSome = conversion.isTerminal

def check (conversion : Conversion) : Except Violation Unit :=
  let mismatch (field : String) : Except Violation Unit :=
    .error (.invariant (field ++ " presence does not match status " ++ conversion.status.name))
  if conversion.source = conversion.target then
    .error (.invariant "source image equals target image")
  else if conversion.result.isSome ≠ (conversion.status == .completed) then
    mismatch "result_image_id"
  else if conversion.failure.isSome ≠ (conversion.status == .failed) then
    mismatch "error_message"
  else if conversion.completedAt.isSome ≠ conversion.isTerminal then
    mismatch "completed_at"
  else .ok ()

theorem check_eq_ok_iff (conversion : Conversion) :
    conversion.check = .ok () ↔ conversion.Consistent := by
  constructor
  · intro accepted
    simp only [check] at accepted
    split at accepted
    · contradiction
    · split at accepted
      · contradiction
      · split at accepted
        · contradiction
        · split at accepted
          · contradiction
          · rename_i images result failure completedAt
            exact ⟨images, Classical.not_not.1 result, Classical.not_not.1 failure,
              Classical.not_not.1 completedAt⟩
  · intro consistent
    simp [check, consistent.images, consistent.result, consistent.failure,
      consistent.completedAt]

theorem consistent_ofDraft (id : ConversionId) (draft : Draft) (now : Timestamp)
    (images : draft.source ≠ draft.target) : (ofDraft id draft now).Consistent :=
  ⟨images, rfl, rfl, rfl⟩

end Conversion

end TryOn
