import TryOn.Conversion.Basic

/-! Changes to a conversion. A transition is what is asked for; a patch is what it comes to for
one record, guarded by the status that the record is expected to have. -/

set_option autoImplicit false

namespace TryOn

inductive Transition where
  | start
  | complete (result : ImageId) (processingMillis : Nat)
  | fail (message : String)
  | cancel
  deriving DecidableEq

namespace Transition

def target : Transition → Status
  | .start => .processing
  | .complete _ _ => .completed
  | .fail _ | .cancel => .failed

/-- The statuses a step may be taken from. Failing and cancelling lead to the same status, but
only work under way fails and only work not begun is cancelled. -/
def allowedFrom (transition : Transition) (status : Status) : Bool :=
  match transition with
  | .fail _ => status == .processing
  | .cancel => status == .pending
  | .start | .complete _ _ => status.canBecome transition.target

theorem canBecome_of_allowedFrom {transition : Transition} {status : Status}
    (allowed : transition.allowedFrom status = true) :
    status.canBecome transition.target = true := by
  cases transition <;> cases status <;> first | rfl | contradiction

end Transition

structure IllegalTransition where
  source : Status
  target : Status
  deriving DecidableEq

def IllegalTransition.message (illegal : IllegalTransition) : String :=
  "illegal transition " ++ illegal.source.name ++ " -> " ++ illegal.target.name

def IllegalTransition.violation (illegal : IllegalTransition) : Violation :=
  .invariant illegal.message

inductive StyleEdit where
  | keep
  | clear
  | replace (style : String)
  deriving DecidableEq

def StyleEdit.apply (edit : StyleEdit) (style : Option String) : Option String :=
  match edit with
  | .keep => style
  | .clear => none
  | .replace style => some style

def StyleEdit.assign : Option String → StyleEdit
  | some style => .replace style
  | none => .clear

@[simp] theorem StyleEdit.apply_assign (style old : Option String) :
    (StyleEdit.assign style).apply old = style := by
  cases style <;> rfl

/-- A change to some fields of a conversion that has the expected status. Fields without a value
stay as they are. -/
structure Patch where
  expected : Status
  status : Option Status
  style : StyleEdit
  result : Option ImageId
  failure : Option String
  processingMillis : Option Nat
  completedAt : Option Timestamp
  updatedAt : Timestamp
  deriving DecidableEq

namespace Patch

def move (source target : Status) (now : Timestamp) : Patch where
  expected := source
  status := some target
  style := .keep
  result := none
  failure := none
  processingMillis := none
  completedAt := none
  updatedAt := now

def relabel (style : Option String) (now : Timestamp) : Patch where
  expected := .pending
  status := none
  style := .assign style
  result := none
  failure := none
  processingMillis := none
  completedAt := none
  updatedAt := now

def restyle (style : Option String) (now : Timestamp) : Except Violation Patch :=
  match style with
  | some label => (Style.check label).map fun _ => relabel style now
  | none => .ok (relabel style now)

end Patch

namespace Conversion

def cancelledText : String := "cancelled by user"

def unknownFailureText : String := "unknown error"

def failureText (message : String) : String :=
  if Text.isBlankText message then unknownFailureText else message

def plan (conversion : Conversion) (transition : Transition) (now : Timestamp) :
    Except IllegalTransition Patch :=
  if transition.allowedFrom conversion.status then
    let patch := Patch.move conversion.status transition.target now
    .ok (match transition with
      | .start => patch
      | .complete result millis =>
        { patch with
          result := some result
          processingMillis := some millis
          completedAt := some now }
      | .fail message =>
        { patch with failure := some (failureText message), completedAt := some now }
      | .cancel => { patch with failure := some cancelledText, completedAt := some now })
  else .error ⟨conversion.status, transition.target⟩

/-- Apply a patch, whatever status it expects. -/
def apply (conversion : Conversion) (patch : Patch) : Conversion :=
  { conversion with
    status := patch.status.getD conversion.status
    style := patch.style.apply conversion.style
    result := patch.result <|> conversion.result
    failure := patch.failure <|> conversion.failure
    processingMillis := patch.processingMillis <|> conversion.processingMillis
    completedAt := patch.completedAt <|> conversion.completedAt
    updatedAt := patch.updatedAt }

theorem plan_isOk_iff (conversion : Conversion) (transition : Transition) (now : Timestamp) :
    (conversion.plan transition now).isOk = true
      ↔ transition.allowedFrom conversion.status = true := by
  cases allowed : transition.allowedFrom conversion.status <;>
    simp [plan, allowed, Except.isOk, Except.toBool]

theorem plan_eq_error {conversion : Conversion} {transition : Transition} (now : Timestamp)
    (refused : transition.allowedFrom conversion.status = false) :
    conversion.plan transition now = .error ⟨conversion.status, transition.target⟩ := by
  simp [plan, refused]

inductive Plans (conversion : Conversion) (now : Timestamp) : Transition → Patch → Prop
  | start : Plans conversion now .start (.move conversion.status .processing now)
  | complete (result : ImageId) (millis : Nat) :
    Plans conversion now (.complete result millis)
      { Patch.move conversion.status .completed now with
        result := some result
        processingMillis := some millis
        completedAt := some now }
  | fail (message : String) :
    Plans conversion now (.fail message)
      { Patch.move conversion.status .failed now with
        failure := some (failureText message)
        completedAt := some now }
  | cancel :
    Plans conversion now .cancel
      { Patch.move conversion.status .failed now with
        failure := some cancelledText
        completedAt := some now }

theorem plans_of_plan {conversion : Conversion} {transition : Transition} {now : Timestamp}
    {patch : Patch} (planned : conversion.plan transition now = .ok patch) :
    conversion.Plans now transition patch := by
  unfold plan at planned
  split at planned
  · obtain rfl := Except.ok.inj planned
    cases transition with
    | start => exact .start
    | complete result millis => exact .complete result millis
    | fail message => exact .fail message
    | cancel => exact .cancel
  · cases planned

theorem plan_guard {conversion : Conversion} {transition : Transition} {now : Timestamp}
    {patch : Patch} (planned : conversion.plan transition now = .ok patch) :
    patch.expected = conversion.status ∧ patch.status = some transition.target
      ∧ transition.allowedFrom conversion.status = true := by
  have allowed := (plan_isOk_iff conversion transition now).1 (by rw [planned]; rfl)
  cases plans_of_plan planned <;> exact ⟨rfl, rfl, allowed⟩

theorem millis_of_plan_complete {conversion : Conversion} {image : ImageId} {millis : Nat}
    {now : Timestamp} {patch : Patch}
    (planned : conversion.plan (.complete image millis) now = .ok patch) :
    patch.processingMillis = some millis := by
  cases plans_of_plan planned
  rfl

theorem consistent_apply_plan {conversion : Conversion} {transition : Transition}
    {now : Timestamp} {patch : Patch} (before : conversion.Consistent)
    (planned : conversion.plan transition now = .ok patch) :
    (conversion.apply patch).Consistent := by
  obtain ⟨-, -, allowed⟩ := plan_guard planned
  obtain ⟨images, result, failure, completedAt⟩ := before
  cases plans_of_plan planned <;> cases status : conversion.status <;>
    simp_all [Transition.allowedFrom, Status.canBecome, Transition.target, isTerminal,
      Status.isTerminal] <;>
    constructor <;>
    simp_all [apply, Patch.move, isTerminal, Status.isTerminal, Status.beq_eq_decide]

end Conversion

end TryOn
