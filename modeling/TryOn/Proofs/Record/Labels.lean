import TryOn.Proofs.Interleaving.Trace
import TryOn.Proofs.Processing.Conduct
import TryOn.Proofs.Record.Origin

/-! The style of a record as its history tells it. It is the one of its creation until it is put
another on, which is done only while the record waits; so a record that was taken up keeps the style
that it was taken up with. -/

set_option autoImplicit false

namespace TryOn

open Interleaving

theorem Status.ne_pending_of_canBecome {first second : Status}
    (move : first.canBecome second = true) : second ≠ .pending := by
  rintro rfl
  cases first <;> cases move

def StyleEdit.label? : StyleEdit → Option (Option String)
  | .keep => none
  | .clear => some none
  | .replace style => some (some style)

theorem StyleEdit.apply_eq (edit : StyleEdit) (style : Option String) :
    edit.apply style = edit.label?.getD style := by
  cases edit <;> rfl

@[simp] theorem StyleEdit.label?_assign (style : Option String) :
    (StyleEdit.assign style).label? = some style := by
  cases style <;> rfl

/-- Whether a patch leaves the style of a record that does not wait as it is. -/
def Patch.SparesStyle (patch : Patch) : Prop :=
  patch.style = .keep ∨ patch.expected = .pending

theorem Patch.sparesStyle_of_planned {seen : Conversion} {step : Transition} {now : Timestamp}
    {patch : Patch} (planned : seen.plan step now = .ok patch) : patch.style = .keep := by
  cases Conversion.plans_of_plan planned <;> rfl

def Write.label? (id : ConversionId) : Write → Option (Option String)
  | .commit other patch _ => if other = id then patch.style.label? else none
  | .creation _ _ _ | .deletion _ _ => none

namespace Interleaving.History

def labels (history : History) (id : ConversionId) : List (Option String) :=
  history.writes.filterMap (Write.label? id)

def styleOf (history : History) (id : ConversionId) (origin : Conversion) : Option String :=
  (history.labels id).getLast?.getD origin.style

theorem mem_writes_concat_iff {history : History} {event : Event} {write : Write} :
    write ∈ writes (history ++ [event])
      ↔ write ∈ history.writes ∨ event.exchange.write? = some write := by
  rw [writes_concat, List.mem_append, Option.mem_toList]

theorem labels_concat (history : History) (event : Event) (id : ConversionId) :
    labels (history ++ [event]) id
      = history.labels id ++ (event.exchange.write?.bind (Write.label? id)).toList := by
  rw [labels, writes_concat, List.filterMap_append]
  cases event.exchange.write? with
  | none => rfl
  | some write => cases label : write.label? id <;> simp [labels, label]

theorem styleOf_concat (history : History) (event : Event) (id : ConversionId)
    (origin : Conversion) :
    styleOf (history ++ [event]) id origin
      = (event.exchange.write?.bind (Write.label? id)).getD (history.styleOf id origin) := by
  rw [styleOf, labels_concat]
  cases event.exchange.write?.bind (Write.label? id) <;> simp [styleOf]

end Interleaving.History

namespace Record

/-- How a record stands to the labels that its history tells of, and to its being taken up. -/
structure Labelled (conversions : Table ConversionId Conversion) (history : History)
    (id : ConversionId) : Prop where
  stored : ∀ stored, conversions.get? id = some stored → stored.id = id
    ∧ ∃ origin, history.origin? id = some origin ∧ stored.style = history.styleOf id origin
  known : ∀ patch result, .commit id patch result ∈ history.writes → id ∈ history.made
  /-- A record that was taken up has the style that it had then, and does not wait any more. -/
  started : ∀ patch started, .commit id patch started ∈ history.writes →
    patch.status = some .processing → started.id = id
      ∧ ∀ stored, conversions.get? id = some stored →
        stored.style = started.style ∧ stored.status ≠ .pending

namespace Labelled

variable {before after : Table ConversionId Conversion} {history : History} {event : Event}
  {id : ConversionId}

theorem opened (id : ConversionId) : Labelled .empty [] id where
  stored _ present := by cases present
  known _ _ member := by cases member
  started _ _ member := by cases member

theorem of_untouched (labelled : Labelled before history id)
    (same : after.get? id = before.get? id)
    (elsewhere : ∀ write, event.exchange.write? = some write → write.subject ≠ id) :
    Labelled after (history ++ [event]) id := by
  have apart : event.exchange.write?.bind (Write.label? id) = none := by
    refine Option.bind_eq_none_iff.2 fun write written => ?_
    cases write with
    | commit other patch result => exact if_neg (elsewhere _ written)
    | creation _ _ _ | deletion _ _ => rfl
  have old {patch : Patch} {result : Conversion}
      (member : .commit id patch result ∈ History.writes (history ++ [event])) :
      .commit id patch result ∈ history.writes :=
    (History.mem_writes_concat_iff.1 member).resolve_right fun new => elsewhere _ new rfl
  exact {
    stored := by
      intro stored present
      obtain ⟨named, origin, made, style⟩ := labelled.stored stored (same ▸ present)
      refine ⟨named, origin, History.origin?_append made _, ?_⟩
      rw [History.styleOf_concat, apart]
      exact style
    known := fun patch result member =>
      History.mem_made_append (labelled.known patch result (old member)) _
    started := by
      intro patch started member starts
      rw [same]
      exact labelled.started patch started (old member) starts }

theorem mem_made_of_stored (labelled : Labelled before history id) {stored : Conversion}
    (present : before.get? id = some stored) : id ∈ history.made := by
  obtain ⟨-, origin, made, -⟩ := labelled.stored stored present
  exact History.mem_made_of_origin? made

theorem of_creation {draft : Draft} {moment : Timestamp} (labelled : Labelled before history id)
    (written : event.exchange.write? = some (.creation id draft moment))
    (stands : after.get? id = some (.ofDraft id draft moment)) (fresh : id ∉ history.made) :
    Labelled after (history ++ [event]) id := by
  -- The identifier is new, so no change of the history is about it.
  have unchanged (patch : Patch) (result : Conversion) :
      .commit id patch result ∉ History.writes (history ++ [event]) := by
    rw [History.mem_writes_concat_iff, written]
    rintro (old | ⟨⟨⟩⟩)
    exact fresh (labelled.known patch result old)
  have unmade : history.origin? id = none :=
    Option.eq_none_iff_forall_ne_some.2 fun _ made => fresh (History.mem_made_of_origin? made)
  have unlabelled : history.labels id = [] := by
    refine List.filterMap_eq_nil_iff.2 fun write member => ?_
    cases write with
    | commit other patch result =>
      refine if_neg ?_
      rintro rfl
      exact fresh (labelled.known patch result member)
    | creation _ _ _ | deletion _ _ => rfl
  exact {
    stored := by
      intro stored present
      obtain rfl := Option.some.inj (stands.symm.trans present)
      refine ⟨rfl, .ofDraft id draft moment, ?_, ?_⟩
      · rw [History.origin?_concat, unmade, written]
        simp [Write.origin?]
      · rw [History.styleOf_concat, written, History.styleOf, unlabelled]
        rfl
    known := fun patch result member => absurd member (unchanged patch result)
    started := fun patch started member => absurd member (unchanged patch started) }

theorem of_commit {patch : Patch} {stored result : Conversion}
    (labelled : Labelled before history id) (spares : patch.SparesStyle)
    (written : event.exchange.write? = some (.commit id patch result))
    (present : before.get? id = some stored) (expected : stored.status = patch.expected)
    (patched : Store.patched stored patch = .ok result)
    (stands : after.get? id = some result) : Labelled after (history ++ [event]) id := by
  obtain ⟨moves, -, rfl⟩ := Store.patched_eq_ok_iff.1 patched
  obtain ⟨named, origin, made, style⟩ := labelled.stored stored present
  have either {other : Patch} {result : Conversion}
      (member : .commit id other result ∈ History.writes (history ++ [event])) :
      .commit id other result ∈ history.writes
        ∨ (other = patch ∧ result = stored.apply patch) := by
    refine (History.mem_writes_concat_iff.1 member).imp_right fun new => ?_
    cases written.symm.trans new
    exact ⟨rfl, rfl⟩
  exact {
    stored := by
      intro found there
      obtain rfl := Option.some.inj (stands.symm.trans there)
      refine ⟨named, origin, History.origin?_append made _, ?_⟩
      rw [History.styleOf_concat, written, ← style]
      simp [Write.label?, Conversion.apply, StyleEdit.apply_eq]
    known := fun _ _ _ =>
      History.mem_made_append (labelled.mem_made_of_stored present) _
    started := by
      intro other started member starts
      rcases either member with old | ⟨rfl, rfl⟩
      · -- It was taken up before, so it does not wait, and the patch has to spare its style.
        obtain ⟨same, keeps⟩ := labelled.started other started old starts
        obtain ⟨kept, active⟩ := keeps stored present
        refine ⟨same, fun found there => ?_⟩
        obtain rfl := Option.some.inj (stands.symm.trans there)
        have spared : patch.style = .keep :=
          spares.resolve_right fun waits => active (expected.trans waits)
        refine ⟨?_, ?_⟩
        · rw [← kept]
          simp [Conversion.apply, spared, StyleEdit.apply]
        · rcases Conversion.status_apply moves with still | moved
          · exact still ▸ active
          · exact Status.ne_pending_of_canBecome moved
      · -- It is taken up by this very change.
        refine ⟨named, fun found there => ?_⟩
        obtain rfl := Option.some.inj (stands.symm.trans there)
        refine ⟨rfl, ?_⟩
        simp [Conversion.apply, starts] }

theorem of_deletion {expected : Status} (labelled : Labelled before history id)
    (written : event.exchange.write? = some (.deletion id expected))
    (absent : after.get? id = none) : Labelled after (history ++ [event]) id := by
  have old {patch : Patch} {result : Conversion}
      (member : .commit id patch result ∈ History.writes (history ++ [event])) :
      .commit id patch result ∈ history.writes := by
    refine (History.mem_writes_concat_iff.1 member).resolve_right fun new => ?_
    cases written.symm.trans new
  exact {
    stored := fun stored present => by simp [absent] at present
    known := fun patch result member =>
      History.mem_made_append (labelled.known patch result (old member)) _
    started := fun patch started member starts =>
      ⟨(labelled.started patch started (old member) starts).1,
        fun stored present => by simp [absent] at present⟩ }

theorem concat {store next : Store} (labelled : Labelled store.conversions history id)
    (spares : ∀ other patch, event.exchange.request = .store (.update other patch) →
      patch.SparesStyle)
    (fresh : ∀ id, event.exchange.write?.bind Write.made? = some id → id ∉ history.made)
    (reacts : store.Reacts event.exchange next) :
    Labelled next.conversions (history ++ [event]) id := by
  rcases reacts.conversions with ⟨still, same⟩ | ⟨write, written, applies⟩
  · refine labelled.of_untouched (same ▸ rfl) fun write written => ?_
    cases still.symm.trans written
  by_cases here : id = write.subject
  · subst here
    have stands := applies.leaves
    generalize next.conversions = after at applies stands
    cases applies with
    | creation id draft moment =>
      refine labelled.of_creation written stands (fresh id ?_)
      rw [written]
      rfl
    | commit present expected patched =>
      have spares := spares _ _ (Exchange.request_of_commit written)
      exact labelled.of_commit spares written present expected patched stands
    | deletion _ _ => exact labelled.of_deletion written stands
  · refine labelled.of_untouched (applies.get?_elsewhere here) fun other written' => ?_
    obtain rfl := Option.some.inj (written.symm.trans written')
    exact fun same => here same.symm

end Labelled

end Record

end TryOn
