import TryOn.Store.Basic

/-! What the store accepts, and what it makes of it. An update is accepted when the stored status
is the expected one and the patch fits; a patch planned for a conversion fits every consistent one
that has the same status. -/

set_option autoImplicit false

namespace TryOn

theorem Table.eq_of_get?_insert_self {κ ν : Type} [Ord κ] [Std.TransOrd κ] [Std.LawfulEqOrd κ]
    {table : Table κ ν} {key : κ} {value found : ν}
    (present : (table.insert key value).get? key = some found) : found = value :=
  Option.some.inj (present.symm.trans (Table.get?_insert_self table key value))

@[simp] theorem mapError_error {α ε φ : Type} (report : ε → φ) (failure : ε) :
    (Except.error failure : Except ε α).mapError report = .error (report failure) := rfl

@[simp] theorem mapError_ok {α ε φ : Type} (report : ε → φ) (value : α) :
    (Except.ok value : Except ε α).mapError report = .ok value := rfl

theorem Draft.images_style_of_check {draft : Draft} (checked : draft.check = .ok ()) :
    draft.source ≠ draft.target
      ∧ ∀ label, draft.style = some label → Style.check label = .ok () := by
  unfold check at checked
  split at checked
  · cases checked
  · rename_i differ
    refine ⟨differ, fun label same => ?_⟩
    rw [same] at checked
    exact checked

theorem Patch.restyle_eq_ok {style : Option String} {now : Timestamp} {patch : Patch}
    (valid : restyle style now = .ok patch) :
    patch = relabel style now ∧ ∀ label, style = some label → Style.check label = .ok () := by
  cases style with
  | none =>
    cases valid
    exact ⟨rfl, fun label same => by cases same⟩
  | some label =>
    cases checked : Style.check label with
    | error violation => simp [restyle, checked, Except.map] at valid
    | ok _ =>
      simp only [restyle, checked, Except.map, Except.ok.injEq] at valid
      exact ⟨valid.symm, fun other same => Option.some.inj same ▸ checked⟩

namespace Conversion

theorem plan_eq_of_status_eq {first second : Conversion} (same : first.status = second.status)
    (transition : Transition) (now : Timestamp) :
    first.plan transition now = second.plan transition now := by
  simp only [plan, same]

theorem status_apply {stored : Conversion} {patch : Patch}
    (moves : ∀ next, patch.status = some next → stored.status.canBecome next = true) :
    (stored.apply patch).status = stored.status
      ∨ stored.status.canBecome (stored.apply patch).status = true := by
  cases target : patch.status with
  | none => exact .inl (by simp [apply, target])
  | some next => exact .inr (by simpa [apply, target] using moves next target)

theorem consistent_apply_relabel {conversion : Conversion} (before : conversion.Consistent)
    (style : Option String) (now : Timestamp) :
    (conversion.apply (.relabel style now)).Consistent := by
  obtain ⟨images, result, failure, completedAt⟩ := before
  refine ⟨images, ?_, ?_, ?_⟩
  · simpa [apply, Patch.relabel] using result
  · simpa [apply, Patch.relabel] using failure
  · simpa [apply, Patch.relabel, isTerminal] using completedAt

end Conversion

namespace Store

theorem get_eq_ok_iff {store : Store} {id : ConversionId} {conversion : Conversion} :
    store.get id = .ok conversion ↔ store.conversions.get? id = some conversion := by
  unfold get
  cases store.conversions.get? id <;> simp

theorem patched_eq_ok_iff {stored result : Conversion} {patch : Patch} :
    patched stored patch = .ok result
      ↔ (∀ next, patch.status = some next → stored.status.canBecome next = true)
        ∧ (stored.apply patch).Consistent ∧ result = stored.apply patch := by
  rw [← Conversion.check_eq_ok_iff]
  unfold patched
  cases target : patch.status with
  | none =>
    cases checked : (stored.apply patch).check with
    | error violation => simp [bind, Except.bind, checked]
    | ok _ =>
      simp only [bind, Except.bind, mapError_ok, pure, Except.pure, checked, Except.ok.injEq]
      exact ⟨fun same => ⟨fun _ none => (by cases none), trivial, same.symm⟩,
        fun accepted => accepted.2.2.symm⟩
  | some next =>
    cases move : stored.status.canBecome next with
    | false =>
      simp [bind, Except.bind, move]
    | true =>
      cases checked : (stored.apply patch).check with
      | error violation => simp [bind, Except.bind, checked, move]
      | ok _ =>
        simp [bind, Except.bind, pure, Except.pure, checked, move]
        exact ⟨Eq.symm, Eq.symm⟩

theorem status_of_patched {stored result : Conversion} {patch : Patch}
    (patched : patched stored patch = .ok result) :
    result.status = stored.status ∨ stored.status.canBecome result.status = true := by
  obtain ⟨moves, -, rfl⟩ := patched_eq_ok_iff.1 patched
  exact Conversion.status_apply moves

theorem patched_planned {stored current : Conversion} {transition : Transition} {now : Timestamp}
    {patch : Patch} (consistent : stored.Consistent) (same : stored.status = current.status)
    (planned : current.plan transition now = .ok patch) :
    patched stored patch = .ok (stored.apply patch) := by
  obtain ⟨-, target, allowed⟩ := Conversion.plan_guard planned
  rw [← Conversion.plan_eq_of_status_eq same] at planned
  refine patched_eq_ok_iff.2 ⟨fun next moves => ?_, ?_, rfl⟩
  · -- The step was allowed from the status that it was planned for, which is the stored one.
    obtain rfl : transition.target = next := Option.some.inj (target.symm.trans moves)
    exact same ▸ Transition.canBecome_of_allowedFrom allowed
  · exact Conversion.consistent_apply_plan consistent planned

theorem getExpecting_eq_ok_iff {store : Store} {id : ConversionId} {expected : Status}
    {conversion : Conversion} :
    store.getExpecting id expected = .ok conversion
      ↔ store.conversions.get? id = some conversion ∧ conversion.status = expected := by
  unfold getExpecting get
  cases store.conversions.get? id with
  | none => simp [bind, Except.bind]
  | some stored =>
    simp only [bind, Except.bind, Option.some.injEq]
    split
    · rename_i same
      constructor
      · rintro accepted
        cases accepted
        exact ⟨rfl, same⟩
      · rintro ⟨rfl, -⟩
        rfl
    · rename_i differ
      constructor
      · intro accepted
        cases accepted
      · rintro ⟨rfl, same⟩
        exact absurd same differ

theorem getExpecting_eq_error_iff {store : Store} {id : ConversionId} {expected : Status}
    {failure : StoreError} :
    store.getExpecting id expected = .error failure
      ↔ (store.conversions.get? id = none ∧ failure = .notFound id)
        ∨ ∃ stored, store.conversions.get? id = some stored ∧ stored.status ≠ expected
          ∧ failure = .statusConflict id expected stored.status := by
  unfold getExpecting get
  cases store.conversions.get? id with
  | none => simp [bind, Except.bind, eq_comm]
  | some stored =>
    simp only [bind, Except.bind, Option.some.injEq]
    split
    · rename_i same
      simp [pure, Except.pure, same]
    · rename_i differ
      constructor
      · intro refused
        exact .inr ⟨stored, rfl, differ, (Except.error.inj refused).symm⟩
      · rintro (⟨absent, -⟩ | ⟨_, present, -, rfl⟩)
        · cases absent
        · cases present
          rfl

/-- An update is accepted exactly as a commit that applies. -/
theorem update_cases (store : Store) (id : ConversionId) (patch : Patch) :
    (∃ stored result, store.conversions.get? id = some stored ∧ stored.status = patch.expected
        ∧ patched stored patch = .ok result
        ∧ store.update id patch
          = (.ok result, { store with conversions := store.conversions.insert id result }))
      ∨ ∃ failure, store.update id patch = (.error failure, store) := by
  unfold update
  cases guarded : store.getExpecting id patch.expected with
  | error failure => exact .inr ⟨failure, rfl⟩
  | ok stored =>
    obtain ⟨present, expected⟩ := getExpecting_eq_ok_iff.1 guarded
    cases applied : patched stored patch with
    | error failure =>
      refine .inr ⟨failure, ?_⟩
      simp [bind, Except.bind, applied]
    | ok result =>
      refine .inl ⟨stored, result, present, expected, applied, ?_⟩
      simp [bind, Except.bind, applied]

theorem get_update_of_ok {store : Store} {id : ConversionId} {patch : Patch} {result : Conversion}
    (accepted : (store.update id patch).1 = .ok result) :
    (store.update id patch).2.get id = .ok result := by
  rcases store.update_cases id patch with ⟨stored, next, -, -, -, same⟩ | ⟨failure, same⟩
  · rw [same] at accepted ⊢
    obtain rfl := Except.ok.inj accepted
    exact get_eq_ok_iff.2 (Table.get?_insert_self store.conversions id next)
  · rw [same] at accepted
    cases accepted

theorem delete_cases (store : Store) (id : ConversionId) (expected : Status) :
    (∃ stored, store.conversions.get? id = some stored ∧ stored.status = expected
        ∧ store.delete id expected
          = (.ok (), { store with conversions := store.conversions.erase id }))
      ∨ ∃ failure, store.delete id expected = (.error failure, store) := by
  unfold delete
  cases guarded : store.getExpecting id expected with
  | error failure => exact .inr ⟨failure, rfl⟩
  | ok stored =>
    obtain ⟨present, same⟩ := getExpecting_eq_ok_iff.1 guarded
    exact .inl ⟨stored, present, same, rfl⟩

theorem create_cases (store : Store) (draft : Draft) (id : ConversionId) (now : Timestamp) :
    (∃ created, (store.create draft id now).1 = .ok created
        ∧ created.conversion = .ofDraft id draft now
        ∧ (store.create draft id now).2.conversions
          = store.conversions.insert id (.ofDraft id draft now))
      ∨ ∃ failure, (store.create draft id now).1 = .error failure
        ∧ (store.create draft id now).2.conversions = store.conversions := by
  cases charged : (store.account draft.user now).consume with
  | none =>
    refine .inr ⟨.quotaExceeded (store.account draft.user now).balance, ?_, ?_⟩ <;>
      simp [create, charged, setAccount]
  | some taken =>
    refine .inl ⟨⟨.ofDraft id draft now, taken.1, taken.2.balance⟩, ?_, rfl, ?_⟩ <;>
      simp [create, charged, setAccount]

/-- A patch that was planned is accepted for every consistent conversion of the status it was
planned for. -/
theorem update_planned {store : Store} {id : ConversionId} {stored current : Conversion}
    {transition : Transition} {now : Timestamp} {patch : Patch}
    (present : store.conversions.get? id = some stored) (consistent : stored.Consistent)
    (same : stored.status = current.status) (planned : current.plan transition now = .ok patch) :
    (store.update id patch).1 = .ok (stored.apply patch) := by
  obtain ⟨expected, -, -⟩ := Conversion.plan_guard planned
  have fits := patched_planned consistent same planned
  have guarded := getExpecting_eq_ok_iff.2 ⟨present, same.trans expected.symm⟩
  simp [update, guarded, fits, bind, Except.bind]

end Store

end TryOn
