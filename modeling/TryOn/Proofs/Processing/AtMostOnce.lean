import TryOn.Proofs.Interleaving.Play
import TryOn.Proofs.Processing.Hold

/-! Processing at most once. Whatever else goes on, a conversion is taken up by one run at most;
this run alone calls the processor for it, ends what it has begun, and leaves the outcome of its
own call. -/

set_option autoImplicit false

namespace TryOn.Processing

open Interleaving

/-- Everything may be asked of the service but a bare step, at any moments. -/
def setting (service : Service) : Setting where
  service := service
  offers operation := operation.isTransition = false
  clockForward := false

/-- What is said in `Relies` is borne out by the hold on every conversion. -/
theorem relies_of_hold {service : Service} {operation : Operation} {store next : Store}
    {history : History} {event : Event}
    (hold : ∀ id, Hold service store.conversions history id)
    (may : (conduct service operation).may (history.log event.task) event.exchange.request)
    (reacts : store.Reacts event.exchange next) :
    Relies (history.log event.task) event.exchange where
  named id patch result written := by
    rcases reacts.conversions with ⟨still, -⟩ | ⟨write, same, applies⟩
    · rw [written] at still
      cases still
    · obtain rfl : Write.commit id patch result = write := Option.some.inj (written.symm.trans same)
      generalize next.conversions = after at applies
      cases applies with
      | commit present expected patched =>
        obtain ⟨-, -, rfl⟩ := Store.patched_eq_ok_iff.1 patched
        exact ((hold id).stored _ present).2.1
  found id found holds read := by
    obtain ⟨conversion, present, running⟩ := (hold id).held event.task holds
    refine ⟨conversion, ?_, running⟩
    rw [reacts.read read, Store.get, present]
  accepted id patch holds asked expected := by
    obtain ⟨stored, present, running⟩ := (hold id).held event.task holds
    obtain ⟨task, moment, request, answer⟩ := event
    obtain rfl : request = .store (.update id patch) := asked
    obtain ⟨fresh, performed⟩ := reacts
    rcases may with plain | ⟨own, -, run⟩
    · rw [plain.update.1] at expected
      cases expected
    · cases run with
      | start _ planned => cases expected.symm.trans (expected_of_start planned)
      | finish _ _ planned =>
        -- The plan was made for another reading of the conversion, but for the same status.
        obtain ⟨source, -, -⟩ := Conversion.plan_guard planned
        have same := running.trans (expected.symm.trans source)
        have consistent := ((hold id).stored stored present).2.2
        have accepted := Store.update_planned present consistent same planned
        obtain rfl : answer = .ok (stored.apply patch) :=
          ((Prod.mk.inj performed).1.symm.trans accepted)
        exact ⟨stored.apply patch, rfl⟩

def protocol (service : Service) (terms : Quota.Terms) : Protocol (setting service) terms where
  conduct := conduct service
  settles _ log _ := log.holding = none
  invariant store history := ∀ id, Hold service store.conversions history id
  kept operation offered := by
    refine Program.Keeps.mono (keeps_action service offered) fun log result idle => ?_
    cases result <;> exact idle
  opened := Hold.opened service
  preserved {store next history operation event} hold _ may admitted reacts := by
    refine ⟨relies_of_hold hold may reacts, fun id => ?_⟩
    rcases reacts.conversions with ⟨still, same⟩ | ⟨write, written, applies⟩
    · exact (hold id).of_still same still
    · refine (hold id).of_moves written (moves_of_may may written applies) fun made new => ?_
      exact admitted.fresh made (by rw [written]; exact new)

theorem Hold.kept_while_running {service : Service} {before after : Table ConversionId Conversion}
    {history : History} {event : Event} {id : ConversionId} {write : Write} {running : Conversion}
    (hold : Hold service before history id) (written : event.exchange.write? = some write)
    (moves : Moves service (history.log event.task) before write after)
    (fresh : ∀ id, write.made? = some id → id ∉ history.made)
    (present : before.get? id = some running) (status : running.status = .processing) :
    after.get? id = some running ∨ ∃ ended, (history.log event.task).holding = some id
      ∧ History.EndedBy (history ++ [event]) id event.task ended
      ∧ after.get? id = some ended := by
  by_cases here : write.subject = id
  · subst here
    cases moves with
    | creation _ => exact absurd (hold.stored running present).1 (fresh _ rfl)
    | edit found pending _ _ _ | start found pending _ _ _ =>
      obtain rfl := Option.some.inj (present.symm.trans found)
      rw [status] at pending
      cases pending
    | finish found _ holds expected _ _ _ _ =>
      refine .inr ⟨_, holds, ?_, Table.get?_insert_self _ _ _⟩
      exact ⟨event, by simp, rfl, _, expected, written⟩
    | deletion found apart =>
      obtain rfl := Option.some.inj (present.symm.trans found)
      exact absurd status apart
  · have differ : id ≠ write.subject := fun same => here same.symm
    refine .inl (.trans ?_ present)
    cases moves with
    | creation _ | edit _ _ _ _ _ | start _ _ _ _ _ | finish _ _ _ _ _ _ _ _ =>
      exact Table.get?_insert_ne _ _ differ
    | deletion _ _ => exact Table.get?_erase_ne _ differ

structure AtMostOnce (service : Service) (scene : Scene) (id : ConversionId) : Prop where
  /-- At most one first step is ever committed, and by a run for this conversion. -/
  once : scene.history.countP (·.starts id) ≤ 1
  runs : ∀ task, scene.history.StartedBy id task →
    ∃ run : Task, scene.tasks[task]? = some run ∧ run.operation.runs? = some id
  /-- Nobody else calls the processor for it. -/
  calls : ∀ event ∈ scene.history, ∀ work, event.exchange.request = .process work →
    work.conversion = id → scene.history.StartedBy id event.task
  /-- A second step is always accepted. -/
  commits : ∀ event ∈ scene.history, ∀ patch,
    event.exchange.request = .store (.update id patch) → patch.expected = .processing →
    ∃ ended, event.exchange.write? = some (.commit id patch ended)
  /-- It is being processed exactly while one run is between its two steps. -/
  between : (∃ conversion, scene.store.conversions.get? id = some conversion
      ∧ conversion.status = .processing)
    ↔ ∃! task, (scene.history.log task).holding = some id
  /-- A run that is done is not between its steps. -/
  finished : ∀ task run, scene.tasks[task]? = some run → (∃ result, run.rest = .done result) →
    (scene.history.log task).holding = none
  /-- With no run under way it is not being processed. -/
  settled : (∀ run ∈ scene.tasks, run.operation.runs? ≠ none → ∃ result, run.rest = .done result) →
    ∀ conversion, scene.store.conversions.get? id = some conversion →
      conversion.status ≠ .processing
  /-- The next step leaves it as it is while it is processed, or is the second one of its run. -/
  undisturbed : ∀ next, Step (setting service) scene next →
    ∀ conversion, scene.store.conversions.get? id = some conversion →
      conversion.status = .processing →
      next.store.conversions.get? id = some conversion
        ∨ ∃ task ended, (scene.history.log task).holding = some id
          ∧ next.history.EndedBy id task ended ∧ next.store.conversions.get? id = some ended
  /-- The run is between its steps, or it has ended with the outcome of its own call of the
  processor, which is what the conversion shows for as long as it is there. -/
  outcome : ∀ task, scene.history.StartedBy id task → (scene.history.log task).holding = some id
    ∨ ∃ outcome ended, scene.history.EndedBy id task ended
      ∧ (scene.history.log task).Processed service id outcome ∧ ended.Shows outcome
      ∧ ∀ conversion, scene.store.conversions.get? id = some conversion → conversion = ended

section

variable {service : Service} {terms : Quota.Terms} {scene : Scene} {id : ConversionId}

/-- A change that not everybody may make was made by a run for the conversion. -/
theorem runs_of_commit (orderly : (protocol service terms).Orderly scene) {event : Event}
    {patch : Patch} {result : Conversion} (member : event ∈ scene.history)
    (written : event.exchange.write? = some (.commit id patch result))
    (own : ¬ Request.IsPlain (.store (.update id patch))) :
    ∃ run : Task, scene.tasks[event.task]? = some run ∧ run.operation.runs? = some id := by
  obtain ⟨before, after, split⟩ := List.append_of_mem member
  obtain ⟨run, present, -, may, -⟩ := orderly.followed before event after split
  refine ⟨run, present, ?_⟩
  have may : (conduct service run.operation).may _ _ := may
  rw [Exchange.request_of_commit written] at may
  rcases may with plain | ⟨_, runs, work⟩
  · exact absurd plain own
  · cases work <;> exact runs

theorem runs_of_startedBy (orderly : (protocol service terms).Orderly scene) {task : Nat}
    (started : scene.history.StartedBy id task) :
    ∃ run : Task, scene.tasks[task]? = some run ∧ run.operation.runs? = some id := by
  obtain ⟨event, member, rfl, starts⟩ := started
  obtain ⟨patch, result, written, status⟩ := Event.starts_iff.1 starts
  exact runs_of_commit orderly member written fun plain => plain.update.2 status

theorem runs_of_endedBy (orderly : (protocol service terms).Orderly scene) {task : Nat}
    {ended : Conversion} (left : scene.history.EndedBy id task ended) :
    ∃ run : Task, scene.tasks[task]? = some run ∧ run.operation.runs? = some id := by
  obtain ⟨event, member, rfl, patch, expected, written⟩ := left
  refine runs_of_commit orderly member written fun plain => ?_
  cases expected.symm.trans plain.update.1

theorem startedBy_of_process (orderly : (protocol service terms).Orderly scene) {event : Event}
    {work : ProcessRequest} (member : event ∈ scene.history)
    (asked : event.exchange.request = .process work) :
    scene.history.StartedBy work.conversion event.task := by
  obtain ⟨before, after, split⟩ := List.append_of_mem member
  obtain ⟨run, -, -, may, -⟩ := orderly.followed before event after split
  have may : (conduct service run.operation).may _ _ := may
  rw [asked] at may
  rw [split]
  rcases may with plain | ⟨own, -, run⟩
  · exact absurd plain (Request.IsPlain.not_process work)
  · cases run with
    | process held same => exact (History.startedBy_of_holding (same ▸ held)).append _

theorem commits_of_ending (orderly : (protocol service terms).Orderly scene) {event : Event}
    {patch : Patch} (member : event ∈ scene.history)
    (asked : event.exchange.request = .store (.update id patch))
    (expected : patch.expected = .processing) :
    ∃ ended, event.exchange.write? = some (.commit id patch ended) := by
  obtain ⟨before, after, split⟩ := List.append_of_mem member
  obtain ⟨run, -, -, may, relied⟩ := orderly.followed before event after split
  have may : (conduct service run.operation).may _ _ := may
  have relied : Relies (History.log before event.task) event.exchange := relied
  rw [asked] at may
  rcases may with plain | ⟨own, -, run⟩
  · rw [plain.update.1] at expected
    cases expected
  · cases run with
    | start _ planned => cases expected.symm.trans (expected_of_start planned)
    | finish held _ _ => exact relied.accepted id patch held asked expected

theorem not_holding_of_done (orderly : (protocol service terms).Orderly scene) {task : Nat}
    {run : Task} (present : scene.tasks[task]? = some run)
    (done : ∃ result, run.rest = .done result) : (scene.history.log task).holding = none := by
  obtain ⟨result, finished⟩ := done
  have kept := (orderly.kept task run present).2
  rw [finished] at kept
  exact kept

theorem undisturbed_of_step (orderly : (protocol service terms).Orderly scene) {next : Scene}
    (step : Step (setting service) scene next) {conversion : Conversion}
    (present : scene.store.conversions.get? id = some conversion)
    (running : conversion.status = .processing) :
    next.store.conversions.get? id = some conversion
      ∨ ∃ task ended, (scene.history.log task).holding = some id
        ∧ next.history.EndedBy id task ended ∧ next.store.conversions.get? id = some ended := by
  rcases orderly.step_cases step with
    ⟨same, -⟩ | ⟨operation, event, longer, may, admitted, reacts⟩
  · exact .inl (same ▸ present)
  · rcases reacts.conversions with ⟨-, same⟩ | ⟨write, written, applies⟩
    · exact .inl (same ▸ present)
    · have fresh : ∀ made, write.made? = some made → made ∉ scene.history.made :=
        fun made new => admitted.fresh made (by rw [written]; exact new)
      have moves := moves_of_may may written applies
      rcases (orderly.invariant id).kept_while_running written moves fresh present running with
        still | ⟨ended, holds, step, found⟩
      · exact .inl still
      · exact .inr ⟨event.task, ended, holds, longer ▸ step, found⟩

/-- Every conversion is processed at most once, in every scene that can be reached. -/
theorem processed_at_most_once (run : Run (setting service) (.opened terms) scene)
    (id : ConversionId) : AtMostOnce service scene id := by
  have orderly : (protocol service terms).Orderly scene := Protocol.orderly_of_run run
  have hold : Hold service scene.store.conversions scene.history id := orderly.invariant id
  exact {
    once := hold.once
    runs := fun task started => runs_of_startedBy orderly started
    calls := fun event member work asked same => same ▸ startedBy_of_process orderly member asked
    commits := fun event member patch asked expected =>
      commits_of_ending orderly member asked expected
    between := by
      constructor
      · rintro ⟨conversion, present, running⟩
        obtain ⟨task, holds⟩ := hold.holder conversion present running
        refine ⟨task, holds, fun other too => ?_⟩
        exact History.task_eq_of_startedBy hold.once (History.startedBy_of_holding too)
          (History.startedBy_of_holding holds)
      · rintro ⟨task, holds, -⟩
        exact hold.held task holds
    finished := fun task run present done => not_holding_of_done orderly present done
    settled := by
      intro done conversion present running
      obtain ⟨task, holds⟩ := hold.holder conversion present running
      obtain ⟨run, there, runs⟩ := runs_of_startedBy orderly (History.startedBy_of_holding holds)
      have member : run ∈ scene.tasks := List.mem_of_getElem? there
      have finished := done run member (by rw [runs]; simp)
      rw [not_holding_of_done orderly there finished] at holds
      cases holds
    undisturbed := fun next step conversion present running =>
      undisturbed_of_step orderly step present running
    outcome := hold.ended }

end

/-- Two runs and a cancellation of one conversion, all of which have read it as pending: one run
takes it up, is called the processor, and ends what it began, while the others come too late. -/
def contest : Scene :=
  let user : UserId := ⟨.ofNat 1⟩
  let id : ConversionId := ⟨.ofNat 2⟩
  let image : Image := ⟨⟨.ofNat 3⟩, .user user, .shown⟩
  let answers (task count : Nat) : List Turn :=
    List.replicate count (.answer task ⟨1, 0⟩ ⟨.ofNat 5⟩)
  Scene.play ⟨.ofFallback .standard, {}, false⟩ (obliging image ⟨.ofNat 6⟩) (.opened ⟨"free", 1⟩)
    ([.begin (.create user ⟨image.id, ⟨.ofNat 4⟩, none⟩)]
      ++ List.replicate 6 (.answer 0 ⟨0, 0⟩ id)
      ++ [.begin (.process id), .begin (.executeOne id), .begin (.cancel id user)]
      ++ answers 2 2 ++ answers 3 2 ++ answers 1 11 ++ answers 2 4 ++ answers 3 1 ++ answers 1 3)

theorem contest_won_once :
    let id : ConversionId := ⟨.ofNat 2⟩
    Run (setting ⟨.ofFallback .standard, {}, false⟩) (.opened ⟨"free", 1⟩) contest
      ∧ contest.history.countP (·.starts id) = 1
      ∧ (contest.store.conversions.get? id).map
          (fun conversion => (conversion.status, conversion.result))
        = some (.completed, some ⟨.ofNat 6⟩)
      ∧ ¬ ∃! task, (contest.history.log task).holding = some id := by
  intro id
  have run : Run (setting ⟨.ofFallback .standard, {}, false⟩) (.opened ⟨"free", 1⟩) contest := by
    refine run_play fun operation begins => ?_
    simp only [List.reduceReplicate, List.cons_append, List.nil_append, List.replicate_one,
      List.mem_cons, Turn.begin.injEq, reduceCtorEq, List.not_mem_nil, or_self, or_false,
      false_or] at begins
    rcases begins with rfl | rfl | rfl | rfl <;> rfl
  have shown : (contest.store.conversions.get? id).map
      (fun conversion => (conversion.status, conversion.result))
        = some (.completed, some ⟨.ofNat 6⟩) := by decide +kernel
  have once := processed_at_most_once run id
  refine ⟨run, Nat.le_antisymm once.once (by decide +kernel), shown, fun between => ?_⟩
  obtain ⟨conversion, present, running⟩ := once.between.2 between
  rw [present] at shown
  simp [running] at shown

end TryOn.Processing
