import TryOn.Proofs.Record.Sound

/-! What patches can do to a store, whatever they are. A patch is refused and changes nothing, or it
changes one record, which stays consistent, keeps its identity and goes no way back in its life.
The patches that the service makes are refused for their guard alone. -/

set_option autoImplicit false

namespace TryOn

/-- What patches can make of a record: the same record, at no earlier point of its life. -/
structure Conversion.Advances (earlier later : Conversion) : Prop where
  identity : later.SameIdentity earlier
  onward : earlier.status.rank ≤ later.status.rank

namespace Conversion.Advances

theorem refl (conversion : Conversion) : conversion.Advances conversion :=
  ⟨.refl conversion, Nat.le_refl _⟩

theorem trans {first second third : Conversion} (left : first.Advances second)
    (right : second.Advances third) : first.Advances third :=
  ⟨right.identity.trans left.identity, Nat.le_trans left.onward right.onward⟩

end Conversion.Advances

namespace Store

def Checked (store : Store) : Prop :=
  ∀ id stored, store.conversions.get? id = some stored → stored.check = .ok ()

structure Revises (store : Store) (id : ConversionId) (patch : Patch) (stored next : Conversion)
    (after : Store) : Prop where
  found : store.get id = .ok stored
  guarded : stored.status = patch.expected
  moves : next.status = stored.status ∨ stored.status.canBecome next.status = true
  identity : next.SameIdentity stored
  checked : next.check = .ok ()
  kept : after.get id = .ok next
  elsewhere : ∀ other, other ≠ id → after.conversions.get? other = store.conversions.get? other
  accounts : after.accounts = store.accounts
  terms : after.terms = store.terms

structure Advances (before after : Store) : Prop where
  records : ∀ id, Option.Rel Conversion.Advances (before.conversions.get? id)
    (after.conversions.get? id)
  accounts : after.accounts = before.accounts
  terms : after.terms = before.terms

def afterPatches (store : Store) (patches : List (ConversionId × Patch)) : Store :=
  patches.foldl (fun store entry => (store.update entry.1 entry.2).2) store

section

variable {store after : Store} {id : ConversionId} {patch : Patch} {stored next : Conversion}

theorem revises_of_patched (present : store.conversions.get? id = some stored)
    (guarded : stored.status = patch.expected) (patched : patched stored patch = .ok next) :
    store.Revises id patch stored next
      { store with conversions := store.conversions.insert id next } := by
  have moves := status_of_patched patched
  obtain ⟨-, consistent, rfl⟩ := patched_eq_ok_iff.1 patched
  constructor
  case found => exact get_eq_ok_iff.2 present
  case guarded => exact guarded
  case moves => exact moves
  case identity => exact Conversion.sameIdentity_apply stored patch
  case checked => exact (Conversion.check_eq_ok_iff _).2 consistent
  case kept => exact get_eq_ok_iff.2 (Table.get?_insert_self _ _ _)
  case elsewhere => exact fun other differ => Table.get?_insert_ne _ _ differ
  case accounts => rfl
  case terms => rfl

theorem update_refuses_or_revises (store : Store) (id : ConversionId) (patch : Patch) :
    (∃ failure, store.update id patch = (.error failure, store))
      ∨ ∃ stored next, (store.update id patch).1 = .ok next
        ∧ store.Revises id patch stored next (store.update id patch).2 := by
  rcases store.update_cases id patch with
    ⟨stored, next, present, guarded, patched, whole⟩ | ⟨failure, refused⟩
  · right
    rw [whole]
    exact ⟨stored, next, rfl, revises_of_patched present guarded patched⟩
  · exact .inl ⟨failure, refused⟩

theorem Revises.advances (revises : store.Revises id patch stored next after) :
    stored.Advances next where
  identity := revises.identity
  onward := by
    rcases revises.moves with same | move
    · exact Nat.le_of_eq (congrArg Status.rank same.symm)
    · exact Nat.le_of_lt (Status.rank_lt_of_canBecome move)

theorem Advances.refl (store : Store) : store.Advances store where
  records id := by
    cases store.conversions.get? id with
    | none => exact .none
    | some stored => exact .some (.refl stored)
  accounts := rfl
  terms := rfl

theorem Advances.trans {first second third : Store} (left : first.Advances second)
    (right : second.Advances third) : first.Advances third where
  records id := by
    have earlier := left.records id
    have later := right.records id
    generalize first.conversions.get? id = before at earlier ⊢
    generalize second.conversions.get? id = between at earlier later
    generalize third.conversions.get? id = after at later ⊢
    -- A record that is there stays there, and none comes: two of the four cases are left.
    cases earlier with
    | none => exact later
    | some onward =>
      cases later with
      | some more => exact .some (onward.trans more)
  accounts := right.accounts.trans left.accounts
  terms := right.terms.trans left.terms

/-- One patch, and so any number of them, lets no record go back. -/
theorem advances_update (store : Store) (id : ConversionId) (patch : Patch) :
    store.Advances (store.update id patch).2 := by
  rcases store.update_refuses_or_revises id patch with
    ⟨failure, refused⟩ | ⟨stored, next, -, revises⟩
  · rw [refused]
    exact .refl store
  · constructor
    case accounts => exact revises.accounts
    case terms => exact revises.terms
    case records =>
      intro other
      by_cases same : other = id
      · subst same
        rw [get_eq_ok_iff.1 revises.found, get_eq_ok_iff.1 revises.kept]
        exact .some revises.advances
      · rw [revises.elsewhere other same]
        exact (Advances.refl store).records other

theorem afterPatches_append (store : Store) (first more : List (ConversionId × Patch)) :
    store.afterPatches (first ++ more) = (store.afterPatches first).afterPatches more :=
  List.foldl_append

theorem advances_afterPatches (store : Store) (patches : List (ConversionId × Patch)) :
    store.Advances (store.afterPatches patches) := by
  induction patches generalizing store with
  | nil => exact .refl store
  | cons entry rest ih => exact (store.advances_update entry.1 entry.2).trans (ih _)

theorem Checked.update (checked : store.Checked) (id : ConversionId) (patch : Patch) :
    (store.update id patch).2.Checked := by
  rcases store.update_refuses_or_revises id patch with
    ⟨failure, refused⟩ | ⟨stored, next, -, revises⟩
  · rw [refused]
    exact checked
  · intro other found present
    by_cases same : other = id
    · subst same
      rw [get_eq_ok_iff.1 revises.kept] at present
      cases present
      exact revises.checked
    · rw [revises.elsewhere other same] at present
      exact checked other found present

theorem Checked.afterPatches (checked : store.Checked) (patches : List (ConversionId × Patch)) :
    (store.afterPatches patches).Checked := by
  induction patches generalizing store with
  | nil => exact checked
  | cons entry rest ih => exact ih (checked.update entry.1 entry.2)

theorem update_eq_ok (present : store.conversions.get? id = some stored)
    (guarded : stored.status = patch.expected) (fits : patched stored patch = .ok next) :
    (store.update id patch).1 = .ok next := by
  have expected := getExpecting_eq_ok_iff.2 ⟨present, guarded⟩
  simp [update, expected, fits, bind, Except.bind]

end

/-- Whatever patch is handed in for whatever record of a checked store, it is refused and the store
stays as it was, or it makes a checked record of the stored one, by a legal move if by any, and
changes nothing else. So whatever patches are handed in one after another, at every time all records
pass their check, and from one time to a later one none of them goes back, comes or is lost. A
patch that was planned, or puts on an acceptable label, is accepted for every record that has the
status it expects. -/
theorem patches_harmless (store : Store) (checked : store.Checked) :
    (∀ id patch, (∃ failure, store.update id patch = (.error failure, store))
      ∨ ∃ stored next, (store.update id patch).1 = .ok next
        ∧ store.Revises id patch stored next (store.update id patch).2)
    ∧ (∀ first more, (store.afterPatches first).Checked
      ∧ (store.afterPatches first).Advances (store.afterPatches (first ++ more)))
    ∧ (∀ id stored (current : Conversion) transition now patch, store.get id = .ok stored →
      current.plan transition now = .ok patch → stored.status = patch.expected →
      (store.update id patch).1 = .ok (stored.apply patch))
    ∧ ∀ id stored style now patch, store.get id = .ok stored →
      Patch.restyle style now = .ok patch → stored.status = patch.expected →
      (store.update id patch).1 = .ok (stored.apply patch) := by
  have consistent (id : ConversionId) (stored : Conversion) (found : store.get id = .ok stored) :
      stored.Consistent :=
    (Conversion.check_eq_ok_iff stored).1 (checked id stored (get_eq_ok_iff.1 found))
  refine ⟨store.update_refuses_or_revises, ?runs, ?planned, ?relabelled⟩
  case runs =>
    intro first more
    refine ⟨checked.afterPatches first, ?_⟩
    rw [afterPatches_append]
    exact advances_afterPatches _ more
  case planned =>
    intro id stored current transition now patch found planned guarded
    have same := guarded.trans (Conversion.plan_guard planned).1
    exact update_planned (get_eq_ok_iff.1 found) (consistent id stored found) same planned
  case relabelled =>
    intro id stored style now patch found valid guarded
    obtain ⟨rfl, -⟩ := Patch.restyle_eq_ok valid
    refine update_eq_ok (get_eq_ok_iff.1 found) guarded (patched_eq_ok_iff.2 ⟨nofun, ?_, rfl⟩)
    exact Conversion.consistent_apply_relabel (consistent id stored found) style now

def oneWaiting : Store :=
  let draft : Draft := ⟨⟨.ofNat 2⟩, ⟨.ofNat 3⟩, ⟨.ofNat 4⟩, none⟩
  { opened ⟨"free", 1⟩ with
    conversions := Table.empty.insert ⟨.ofNat 1⟩ (.ofDraft ⟨.ofNat 1⟩ draft ⟨0, 0⟩) }

theorem checked_oneWaiting : oneWaiting.Checked := by
  intro id stored present
  have inside := (Table.get?_eq_some_iff _ _ _).1 present
  simp only [oneWaiting, Table.insert, Table.empty, Table.insertEntry, List.mem_singleton,
    Prod.mk.injEq] at inside
  rw [inside.2]
  exact (Conversion.check_eq_ok_iff _).2 (Conversion.consistent_ofDraft _ _ _ (by decide))

/-- A completion without a result is refused. After it and the start of the processing, the record
has passed its check and has not gone back. -/
theorem patches_harmless_to_waiting :
    let id : ConversionId := ⟨.ofNat 1⟩
    let bare := Patch.move .pending .completed ⟨1, 0⟩
    let start := Patch.move .pending .processing ⟨2, 0⟩
    (oneWaiting.update id bare).1.isOk = false
      ∧ (oneWaiting.update id start).1.map (·.status) = .ok .processing
      ∧ (oneWaiting.afterPatches [(id, bare), (id, start)]).Checked
      ∧ oneWaiting.Advances (oneWaiting.afterPatches [(id, bare), (id, start)]) := by
  intro id bare start
  obtain ⟨-, runs, planned, -⟩ := patches_harmless oneWaiting checked_oneWaiting
  obtain ⟨stored, found⟩ : ∃ stored, oneWaiting.get id = .ok stored := ⟨_, rfl⟩
  have accepted := planned id stored stored .start ⟨2, 0⟩ start found (by cases found; rfl)
    (by cases found; rfl)
  refine ⟨by decide, ?started, (runs [(id, bare), (id, start)] []).1,
    (runs [] [(id, bare), (id, start)]).2⟩
  case started =>
    rw [accepted]
    rfl

end Store

end TryOn
