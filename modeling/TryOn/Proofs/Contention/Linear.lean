import TryOn.Proofs.Contention.Foreseen
import TryOn.Proofs.Counting
import TryOn.Proofs.Interleaving.Play

/-! Steps are taken as if at one moment. However the operations interleave, a call of a step either
commits its one patch to a record that the step could be taken from just then, or changes nothing
and says why; and no operation fails with a race that was lost. -/

set_option autoImplicit false

namespace TryOn.Contention

open Interleaving

/-- A call of a step, as part of what a task has exchanged: what came before the call, what the
call has exchanged itself, and what is left of it. -/
structure Calls (scene : Scene) (task : Nat) (before part : Log) (id : ConversionId)
    (step : Transition) (rest : Program (Except Failure Conversion)) : Prop where
  inside : ∃ after, scene.history.log task = before ++ part ++ after
  comes : (Service.transition id step).run.Comes part rest

structure Meets (service : Service) (terms : Quota.Terms) (scene earlier : Scene) (task : Nat)
    (before : Log) (exchange : Exchange) : Prop where
  reached : Run (setting service) (.opened terms) earlier
  onward : Run (setting service) earlier scene
  next : ∃ later, scene.history = earlier.history ++ ⟨task, exchange⟩ :: later
  before : earlier.history.log task = before

/-- The only change that a call has made is a patch of its own, planned for its step, and committed
to a record that had a status then from which the step can be taken. -/
def CommittedOnce (service : Service) (terms : Quota.Terms) (scene : Scene) (task : Nat)
    (before part : Log) (id : ConversionId) (step : Transition) (updated : Conversion) : Prop :=
  ∃ first exchange patch, part = first ++ [exchange]
    ∧ part.filterMap (·.write?) = [.commit id patch updated]
    ∧ exchange.write? = some (.commit id patch updated)
    ∧ ∃ earlier stored now, Meets service terms scene earlier task (before ++ first) exchange
      ∧ earlier.store.conversions.get? id = some stored
      ∧ step.allowedFrom stored.status = true ∧ stored.plan step now = .ok patch
      ∧ updated = stored.apply patch

/-- A call has read a record, as it was stored then, from whose status the step cannot be taken. -/
def SawIllegal (service : Service) (terms : Quota.Terms) (scene : Scene) (task : Nat)
    (before part : Log) (id : ConversionId) (step : Transition) (source : Status) : Prop :=
  ∃ first exchange last seen, part = first ++ exchange :: last
    ∧ exchange.read? = some (id, .ok seen) ∧ seen.status = source
    ∧ step.allowedFrom source = false
    ∧ ∃ earlier, Meets service terms scene earlier task (before ++ first) exchange
      ∧ earlier.store.conversions.get? id = some seen

structure Linearized (service : Service) (terms : Quota.Terms) (scene : Scene) : Prop where
  /-- A task that is to take a step is one call of it. -/
  whole : ∀ task id step rest, scene.tasks[task]? = some ⟨.transition id step, rest⟩ →
    Calls scene task [] (scene.history.log task) id step rest
  once : ∀ task before part id step rest, Calls scene task before part id step rest →
    part.countP (·.request.isUpdate) ≤ 1
  ok_iff : ∀ task before part id step result,
    Calls scene task before part id step (.done result) → ∀ updated,
      result = .ok updated ↔ CommittedOnce service terms scene task before part id step updated
  failed : ∀ task before part id step failure,
    Calls scene task before part id step (.done (.error failure)) →
      part.filterMap (·.write?) = []
        ∧ (failure = .notFound id
          ∨ ∃ source, failure = .invalidTransition source step.target
            ∧ SawIllegal service terms scene task before part id step source)
  foreseen : ∀ (task : Nat) (operation : Operation) (failure : Failure),
    scene.tasks[task]? = some ⟨operation, .done (.error failure)⟩ →
      isStepwise operation = false → ¬ failure.IsUnforeseen

section

variable {service : Service} {terms : Quota.Terms} {scene : Scene} {task : Nat}
  {before part : Log} {id : ConversionId} {step : Transition}
  {rest : Program (Except Failure Conversion)}

theorem meets_of_split (run : Run (setting service) (.opened terms) scene) {first last : Log}
    {exchange : Exchange} (split : scene.history.log task = first ++ exchange :: last) :
    Relies first exchange
      ∧ ∃ earlier later : Scene, Meets service terms scene earlier task first exchange
        ∧ earlier.store.Reacts exchange later.store := by
  obtain ⟨past, future, history, told⟩ := History.split_of_log split
  have orderly : (protocol service terms).Orderly scene := Protocol.orderly_of_run run
  obtain ⟨_, -, -, -, relies⟩ := orderly.followed past _ future history
  have relies : Relies (past.log task) exchange := relies
  obtain ⟨earlier, later, start, goesOn, taken, rfl, reacts⟩ := scene_of_split run history
  exact ⟨told ▸ relies, earlier, later,
    ⟨start, .head taken goesOn, ⟨future, history⟩, told⟩, reacts⟩

theorem Calls.split (calls : Calls scene task before part id step rest) {first last : Log}
    {exchange : Exchange} (split : part = first ++ exchange :: last) :
    ∃ after, scene.history.log task = (before ++ first) ++ exchange :: after := by
  obtain ⟨after, whole⟩ := calls.inside
  exact ⟨last ++ after, by rw [whole, split]; simp⟩

theorem Calls.keeps (calls : Calls scene task before part id step rest)
    (run : Run (setting service) (.opened terms) scene) :
    rest.Keeps once (Action.ends (Commits id step) (Objects id step)) part
      ∧ ∀ first exchange last, part = first ++ exchange :: last →
        once.may first exchange.request := by
  have kept : (Service.transition id step).run.Keeps once
      (Action.ends (Commits id step) (Objects id step)) [] := keeps_transition
  have relied : ∀ first exchange last, part = first ++ exchange :: last →
      Relies first exchange := by
    intro first exchange last split
    obtain ⟨after, whole⟩ := calls.split split
    exact (meets_of_split run whole).1.of_append
  exact kept.comes calls.comes relied

theorem Commits.committedOnce {updated : Conversion} (commits : Commits id step part updated)
    (calls : Calls scene task before part id step rest)
    (run : Run (setting service) (.opened terms) scene) :
    CommittedOnce service terms scene task before part id step updated := by
  obtain ⟨first, exchange, seen, now, patch, rfl, idle, planned, written⟩ := commits
  obtain ⟨after, whole⟩ := calls.split rfl
  obtain ⟨-, earlier, later, meets, reacts⟩ := meets_of_split run whole
  have writes : (first ++ [exchange]).filterMap (·.write?) = [.commit id patch updated] := by
    rw [List.filterMap_append, List.filterMap_eq_nil_iff.2 idle]
    simp [written]
  refine ⟨first, exchange, patch, rfl, writes, written, earlier, ?_⟩
  rcases reacts.conversions with ⟨none, -⟩ | ⟨write, made, applies⟩
  · simp [written] at none
  · obtain rfl := Option.some.inj (written.symm.trans made)
    obtain ⟨expected, -, allowed⟩ := Conversion.plan_guard planned
    generalize later.store.conversions = after at applies
    cases applies with
    | @commit _ _ stored _ present guarded patched =>
      -- The guard of the patch held, so the plan for what was seen fits what is stored.
      have same := guarded.trans expected
      rw [← Conversion.plan_eq_of_status_eq same] at planned
      obtain ⟨-, -, result⟩ := Store.patched_eq_ok_iff.1 patched
      exact ⟨stored, now, meets, present, same ▸ allowed, planned, result⟩

theorem Objection.reason {failure : Failure} (objection : Objection id step part failure)
    (calls : Calls scene task before part id step rest)
    (run : Run (setting service) (.opened terms) scene) :
    failure = .notFound id
      ∨ ∃ source, failure = .invalidTransition source step.target
        ∧ SawIllegal service terms scene task before part id step source := by
  cases objection with
  | gone => exact .inl rfl
  | @illegal exchange seen member read illegal =>
    obtain ⟨first, last, split⟩ := List.append_of_mem member
    obtain ⟨after, whole⟩ := calls.split split
    obtain ⟨-, earlier, later, meets, reacts⟩ := meets_of_split run whole
    have present := Store.get_eq_ok_iff.1 (reacts.read read).symm
    exact .inr ⟨seen.status, rfl, first, exchange, last, seen, split, read, rfl, illegal, earlier,
      meets, present⟩

/-- Steps are linearizable in every scene that can be reached, and nobody fails for a race. -/
theorem steps_linearizable (run : Run (setting service) (.opened terms) scene) :
    Linearized service terms scene := by
  constructor
  · intro task id step rest present
    exact ⟨⟨[], by simp⟩, comes_of_run run task _ present⟩
  · intro task before part id step rest calls
    exact countP_le_one fun first exchange last split =>
      (calls.keeps run).2 first exchange last split
  · intro task before part id step result calls updated
    have ends : Action.ends (Commits id step) (Objects id step) part result := (calls.keeps run).1
    constructor
    · rintro rfl
      exact Commits.committedOnce ends calls run
    · rintro ⟨first, exchange, patch, -, writes, -⟩
      rcases result with failure | other
      · rw [List.filterMap_eq_nil_iff.2 ends.1] at writes
        cases writes
      · -- The record that is returned is the one in the only write.
        obtain ⟨-, -, other', -, writes', -⟩ := Commits.committedOnce ends calls run
        rw [writes] at writes'
        cases writes'
        rfl
  · intro task before part id step failure calls
    obtain ⟨idle, objection⟩ : Objects id step part failure := (calls.keeps run).1
    exact ⟨List.filterMap_eq_nil_iff.2 idle, objection.reason calls run⟩
  · intro task operation failure present apart
    have foresees := foresees_action service apart []
    refine (Program.Keeps.comes foresees (comes_of_run run task _ present) ?_).1
    exact fun first exchange last split => (meets_of_split run split).1

end

/-- Two calls of one step. Both have read the record before either hands in its patch. -/
def contested : Scene :=
  let user : UserId := ⟨.ofNat 1⟩
  let id : ConversionId := ⟨.ofNat 2⟩
  let image : Image := ⟨⟨.ofNat 3⟩, .user user, .shown⟩
  let answers (task count : Nat) (second : Int) : List Turn :=
    List.replicate count (.answer task ⟨second, 0⟩ ⟨.ofNat 5⟩)
  Scene.play ⟨.ofFallback .standard, {}, false⟩ (obliging image ⟨.ofNat 6⟩) (.opened ⟨"free", 1⟩)
    ([.begin (.create user ⟨image.id, ⟨.ofNat 4⟩, none⟩)]
      ++ List.replicate 6 (.answer 0 ⟨0, 0⟩ id)
      ++ [.begin (.transition id .start), .begin (.transition id .start)]
      ++ answers 1 2 1 ++ answers 2 2 2 ++ answers 2 1 3 ++ answers 1 3 4)

theorem contested_linearizable :
    let id : ConversionId := ⟨.ofNat 2⟩
    let service : Service := ⟨.ofFallback .standard, {}, false⟩
    Run (setting service) (.opened ⟨"free", 1⟩) contested
      ∧ Linearized service ⟨"free", 1⟩ contested
      ∧ (contested.history.log 1).countP (·.request.isUpdate) = 1
      ∧ (contested.history.log 2).countP (·.request.isUpdate) = 1
      ∧ contested.history.writes.countP (·.starts id) = 1 := by
  intro id service
  have run : Run (setting service) (.opened ⟨"free", 1⟩) contested := run_play fun _ _ => trivial
  exact ⟨run, steps_linearizable run, by decide +kernel, by decide +kernel, by decide +kernel⟩

end TryOn.Contention
