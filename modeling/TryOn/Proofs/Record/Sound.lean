import TryOn.Proofs.Store.Acceptance

/-! What holds of every record that the service keeps, and which patches keep it so. A lawful
patch may be older than the record it is applied to: it fits whatever has the expected status. -/

set_option autoImplicit false

namespace TryOn

structure Conversion.Sound (conversion : Conversion) : Prop where
  checked : conversion.check = .ok ()
  style : ∀ label, conversion.style = some label →
    Text.isBlankText label = false ∧ label.length ≤ 64
  failure : ∀ text, conversion.failure = some text → Text.isBlankText text = false
  millis : conversion.processingMillis.isSome = (conversion.status == .completed)
  ordered : conversion.createdAt ≤ conversion.updatedAt
  completedAt : conversion.isTerminal = true → conversion.completedAt = some conversion.updatedAt

/-- What of a record is settled when it is made. -/
structure Conversion.SameIdentity (first second : Conversion) : Prop where
  id : first.id = second.id
  user : first.user = second.user
  source : first.source = second.source
  target : first.target = second.target
  createdAt : first.createdAt = second.createdAt

/-- A patch that was planned for some conversion, or puts an acceptable style label on one. -/
inductive Patch.IsLawful : Patch → Prop
  | planned {current : Conversion} {transition : Transition} {now : Timestamp} {patch : Patch}
    (planned : current.plan transition now = .ok patch) : IsLawful patch
  | relabelled {style : Option String} {now : Timestamp}
    (valid : ∀ label, style = some label → Style.check label = .ok ()) :
    IsLawful (relabel style now)

theorem Style.check_eq_ok_iff {label : String} :
    Style.check label = .ok () ↔ Text.isBlankText label = false ∧ label.length ≤ 64 := by
  unfold Style.check Style.maxLength
  cases blank : Text.isBlankText label
  · simp
  · simp

namespace Conversion

theorem failureText_not_blank (message : String) :
    Text.isBlankText (failureText message) = false := by
  unfold failureText
  cases blank : Text.isBlankText message
  · simpa using blank
  · rw [if_pos rfl]
    decide

theorem plan_updatedAt {current : Conversion} {transition : Transition} {now : Timestamp}
    {patch : Patch} (planned : current.plan transition now = .ok patch) :
    patch.updatedAt = now := by
  cases plans_of_plan planned <;> rfl

theorem sameIdentity_apply (stored : Conversion) (patch : Patch) :
    (stored.apply patch).SameIdentity stored :=
  ⟨rfl, rfl, rfl, rfl, rfl⟩

theorem SameIdentity.refl (conversion : Conversion) : conversion.SameIdentity conversion :=
  ⟨rfl, rfl, rfl, rfl, rfl⟩

theorem SameIdentity.symm {first second : Conversion} (same : first.SameIdentity second) :
    second.SameIdentity first :=
  ⟨same.id.symm, same.user.symm, same.source.symm, same.target.symm, same.createdAt.symm⟩

theorem SameIdentity.trans {first second third : Conversion} (left : first.SameIdentity second)
    (right : second.SameIdentity third) : first.SameIdentity third :=
  ⟨left.id.trans right.id, left.user.trans right.user, left.source.trans right.source,
    left.target.trans right.target, left.createdAt.trans right.createdAt⟩

namespace Sound

variable {stored : Conversion}

theorem consistent (sound : stored.Sound) : stored.Consistent :=
  (check_eq_ok_iff stored).1 sound.checked

theorem ofDraft (id : ConversionId) {draft : Draft} (now : Timestamp)
    (checked : draft.check = .ok ()) : (Conversion.ofDraft id draft now).Sound := by
  obtain ⟨images, style⟩ := Draft.images_style_of_check checked
  exact {
    checked := (check_eq_ok_iff _).2 (consistent_ofDraft id draft now images)
    style := fun label same => Style.check_eq_ok_iff.1 (style label same)
    failure := fun text none => by cases none
    millis := rfl
    ordered := Timestamp.le_refl now
    completedAt := fun terminal => by cases terminal }

theorem millis_eq_none (sound : stored.Sound) (active : stored.status.isTerminal = false) :
    stored.processingMillis = none := by
  have told := sound.millis
  cases status : stored.status with
  | pending | processing => simpa [status, Status.beq_eq_decide] using told
  | completed | failed =>
    rw [status] at active
    cases active

theorem apply_plan {transition : Transition} {now : Timestamp} {patch : Patch}
    (sound : stored.Sound) (planned : stored.plan transition now = .ok patch)
    (later : stored.createdAt ≤ now) : (stored.apply patch).Sound := by
  obtain ⟨-, -, allowed⟩ := plan_guard planned
  have moves := Transition.canBecome_of_allowedFrom allowed
  have consistent := consistent_apply_plan sound.consistent planned
  have active : stored.status.isTerminal = false := by
    cases terminal : stored.status.isTerminal with
    | false => rfl
    | true =>
      rw [Status.canBecome_eq_false_of_isTerminal terminal] at moves
      cases moves
  have untold := sound.millis_eq_none active
  have plans := plans_of_plan planned
  refine ⟨(check_eq_ok_iff _).2 consistent, ?_, ?_, ?_, ?_, ?_⟩
  · intro label same
    refine sound.style label ?_
    cases plans <;> exact same
  · intro text same
    cases plans with
    | start | complete _ _ => exact sound.failure text (by simpa [apply, Patch.move] using same)
    | fail message =>
      obtain rfl : failureText message = text := by simpa [apply, Patch.move] using same
      exact failureText_not_blank message
    | cancel =>
      obtain rfl : cancelledText = text := by simpa [apply, Patch.move] using same
      decide
  · cases plans <;> simp [apply, Patch.move, untold, Status.beq_eq_decide]
  · cases plans <;> exact later
  · intro terminal
    cases plans with
    | start => cases terminal
    | complete _ _ | fail _ | cancel => rfl

theorem apply_relabel {style : Option String} {now : Timestamp} (sound : stored.Sound)
    (pending : stored.status = .pending)
    (valid : ∀ label, style = some label → Style.check label = .ok ())
    (later : stored.createdAt ≤ now) : (stored.apply (.relabel style now)).Sound := by
  have consistent := consistent_apply_relabel sound.consistent style now
  have labelled : (stored.apply (.relabel style now)).style = style :=
    StyleEdit.apply_assign style stored.style
  refine ⟨(check_eq_ok_iff _).2 consistent, ?_, ?_, ?_, later, ?_⟩
  · intro label same
    exact Style.check_eq_ok_iff.1 (valid label (labelled.symm.trans same))
  · intro text same
    exact sound.failure text (by simpa [apply, Patch.relabel] using same)
  · simpa [apply, Patch.relabel] using sound.millis
  · intro terminal
    have active : (stored.apply (.relabel style now)).status = .pending := pending
    rw [isTerminal, active] at terminal
    cases terminal

/-- A lawful patch keeps every sound record of the expected status sound. -/
theorem apply {patch : Patch} (sound : stored.Sound) (lawful : patch.IsLawful)
    (expected : stored.status = patch.expected) (later : stored.createdAt ≤ patch.updatedAt) :
    (stored.apply patch).Sound := by
  cases lawful with
  | planned planned =>
    -- Planned for another record of the same status, it is what would be planned for this one.
    have same := expected.trans (plan_guard planned).1
    rw [← plan_eq_of_status_eq same] at planned
    exact sound.apply_plan planned (plan_updatedAt planned ▸ later)
  | relabelled valid => exact sound.apply_relabel expected valid later

end Sound

end Conversion

theorem Patch.IsLawful.isTerminal_expected {patch : Patch} (lawful : patch.IsLawful) :
    patch.expected.isTerminal = false := by
  cases lawful with
  | planned planned =>
    obtain ⟨expected, -, allowed⟩ := Conversion.plan_guard planned
    have moves := Transition.canBecome_of_allowedFrom allowed
    rw [expected]
    cases terminal : Status.isTerminal _ with
    | false => rfl
    | true =>
      rw [Status.canBecome_eq_false_of_isTerminal terminal] at moves
      cases moves
  | relabelled _ => rfl

end TryOn
