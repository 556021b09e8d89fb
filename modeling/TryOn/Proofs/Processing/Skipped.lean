import TryOn.Proofs.Contention.Linear
import TryOn.Proofs.Processing.AtMostOnce
import TryOn.Proofs.Processing.Course
import TryOn.Proofs.Record.History

/-! What the worker makes of a conversion that others take away from it. It skips one that was gone
before it looked, or that was cancelled or taken up by others since. One that is deleted after it
looked, and before it has taken it up, it reports as a failure. -/

set_option autoImplicit false

namespace TryOn

open Interleaving

namespace Store

variable {store next : Store} {exchange : Exchange} {id : ConversionId}

theorem patched_ne_notFound (stored : Conversion) (patch : Patch) (id : ConversionId) :
    patched stored patch ≠ .error (.notFound id) := by
  unfold patched
  cases checked : (stored.apply patch).check <;> cases patch.status with
  | none => simp [checked, bind, Except.bind, Except.mapError, pure, Except.pure]
  | some next =>
    cases moves : stored.status.canBecome next <;>
      simp [moves, checked, bind, Except.bind, Except.mapError, pure, Except.pure]

theorem get_eq_notFound {other : ConversionId} (refused : store.get other = .error (.notFound id)) :
    other = id ∧ store.conversions.get? id = none := by
  unfold get at refused
  split at refused
  · cases refused
  · cases refused
    exact ⟨rfl, ‹_›⟩

theorem getExpecting_eq_notFound {other : ConversionId} {expected : Status}
    (refused : store.getExpecting other expected = .error (.notFound id)) :
    other = id ∧ store.conversions.get? id = none := by
  obtain ⟨absent, same⟩ | ⟨_, _, _, ⟨⟩⟩ := getExpecting_eq_error_iff.1 refused
  cases same
  exact ⟨rfl, absent⟩

theorem update_eq_notFound {other : ConversionId} {patch : Patch}
    (refused : (store.update other patch).1 = .error (.notFound id)) :
    other = id ∧ store.conversions.get? id = none := by
  cases guarded : store.getExpecting other patch.expected with
  | error failure =>
    have same : failure = .notFound id := by
      simpa [update, guarded, bind, Except.bind] using refused
    exact getExpecting_eq_notFound (same ▸ guarded)
  | ok stored =>
    cases result : patched stored patch with
    | error failure =>
      have same : failure = .notFound id := by
        simpa [update, guarded, result, bind, Except.bind] using refused
      exact absurd (same ▸ result) (patched_ne_notFound stored patch id)
    | ok next => simp [update, guarded, result, bind, Except.bind] at refused

/-- Only who asks about a conversion is told that it is not there, and only if it is not. -/
theorem Reacts.absent_of_misses (reacts : store.Reacts exchange next)
    (misses : exchange.misses id = true) :
    exchange.subject? = some id ∧ store.conversions.get? id = none := by
  obtain ⟨moment, request, answer⟩ := exchange
  cases request with
  | store call =>
    obtain ⟨fresh, performed⟩ := reacts
    rcases answer with failure | value
    · obtain rfl : failure = .notFound id := of_decide_eq_true misses
      have refused := congrArg Prod.fst performed
      cases call with
      | create draft =>
        rw [perform, create] at refused
        split at refused <;> cases refused
      | get other =>
        obtain ⟨rfl, absent⟩ := get_eq_notFound refused
        exact ⟨rfl, absent⟩
      | update other patch =>
        obtain ⟨rfl, absent⟩ := update_eq_notFound refused
        exact ⟨rfl, absent⟩
      | delete other expected =>
        obtain ⟨rfl, absent⟩ := getExpecting_eq_notFound (delete_eq_error refused)
        exact ⟨rfl, absent⟩
      | _ => cases refused
    · cases misses
  | _ => cases misses

theorem getExpecting_of_absent (absent : store.conversions.get? id = none) (expected : Status) :
    store.getExpecting id expected = .error (.notFound id) :=
  getExpecting_eq_error_iff.2 (.inl ⟨absent, rfl⟩)

theorem Reacts.misses_of_absent (reacts : store.Reacts exchange next)
    (subject : exchange.subject? = some id) (absent : store.conversions.get? id = none) :
    exchange.misses id = true := by
  obtain ⟨moment, request, answer⟩ := exchange
  cases request with
  | store call =>
    obtain ⟨fresh, performed⟩ := reacts
    obtain ⟨answered, -⟩ := Prod.mk.inj performed
    have guarded := getExpecting_of_absent absent
    cases call with
    | get other =>
      obtain rfl : other = id := Option.some.inj subject
      obtain rfl : answer = .error (.notFound other) := by
        refine answered.symm.trans ?_
        simp [get, absent]
      simp [Exchange.misses]
    | update other patch =>
      obtain rfl : other = id := Option.some.inj subject
      obtain rfl : answer = .error (.notFound other) := by
        refine answered.symm.trans ?_
        simp [update, guarded, bind, Except.bind]
      simp [Exchange.misses]
    | delete other expected =>
      obtain rfl : other = id := Option.some.inj subject
      obtain rfl : answer = .error (.notFound other) := by
        refine answered.symm.trans ?_
        simp [delete, guarded]
      simp [Exchange.misses]
    | _ => cases subject
  | _ => cases subject

end Store

namespace Interleaving

variable {setting : Setting} {scene later : Scene} {id : ConversionId} {task : Nat}

namespace History

variable {history : History}

def DeletedBetween (history : History) (id : ConversionId) (task : Nat) : Prop :=
  ∃ (before : History) (removal : Event) (after : History),
    history = before ++ removal :: after
      ∧ (∃ expected, removal.exchange.write? = some (.deletion id expected))
      ∧ (∃ exchange ∈ before.log task, exchange.subject? = some id)
      ∧ ∃ exchange ∈ after.log task, exchange.subject? = some id

theorem startedBy_iff : history.StartedBy id task
    ↔ ∃ patch result, .commit id patch result ∈ (history.log task).writes
      ∧ patch.status = some .processing := by
  simp only [mem_writes_log_iff]
  constructor
  · rintro ⟨event, member, same, starts⟩
    obtain ⟨patch, result, written, status⟩ := Event.starts_iff.1 starts
    exact ⟨patch, result, ⟨event, member, same, written⟩, status⟩
  · rintro ⟨patch, result, ⟨event, member, same, written⟩, status⟩
    exact ⟨event, member, same, Event.starts_iff.2 ⟨patch, result, written, status⟩⟩

theorem endedBy_iff {ended : Conversion} : history.EndedBy id task ended
    ↔ ∃ patch, .commit id patch ended ∈ (history.log task).writes
      ∧ patch.expected = .processing := by
  simp only [mem_writes_log_iff]
  constructor
  · rintro ⟨event, member, same, patch, expected, written⟩
    exact ⟨patch, ⟨event, member, same, written⟩, expected⟩
  · rintro ⟨patch, ⟨event, member, same, written⟩, expected⟩
    exact ⟨event, member, same, patch, expected, written⟩

end History

theorem deletes_of_run {conversion : Conversion} (run : Run setting scene later)
    (present : scene.store.conversions.get? id = some conversion) :
    ∃ more : History, later.history = scene.history ++ more
      ∧ (later.store.conversions.get? id = none → more.Deletes id) := by
  induction run with
  | refl => exact ⟨[], (List.append_nil _).symm, fun absent => by simp [present] at absent⟩
  | @tail before after sofar step ih =>
    obtain ⟨more, extended, deletes⟩ := ih
    cases step with
    | begins _ => exact ⟨more, extended, deletes⟩
    | @answers index _ request _ moment answer next _ _ reacts =>
      let event : Event := ⟨index, moment, request, answer⟩
      have reacts : before.store.Reacts event.exchange next := reacts
      refine ⟨more ++ [event], (congrArg (· ++ _) extended).trans (List.append_assoc _ _ _), ?_⟩
      intro absent
      rcases reacts.conversions with ⟨-, same⟩ | ⟨write, written, applies⟩
      · exact (deletes (same ▸ absent)).append [event]
      by_cases here : id = write.subject
      · subst here
        have left := applies.leaves.symm.trans absent
        cases write with
        | deletion _ expected => exact ⟨event, by simp, expected, written⟩
        | _ => cases left
      · exact (deletes ((applies.get?_elsewhere here).symm.trans absent)).append [event]

end Interleaving

namespace Processing

variable {service : Service} {terms : Quota.Terms} {scene : Scene} {id : ConversionId} {task : Nat}

theorem absent_of_deletes (run : Run (setting service) (.opened terms) scene)
    (deletes : scene.history.Deletes id) : scene.store.conversions.get? id = none := by
  obtain ⟨removal, member, expected, deletion⟩ := deletes
  obtain ⟨before, after, split⟩ := List.append_of_mem member
  obtain ⟨there, gone, start, goesOn, taken, rfl, reacts⟩ := scene_of_split run split
  rcases reacts.conversions with ⟨still, -⟩ | ⟨write, written, applies⟩
  · cases deletion.symm.trans still
  obtain rfl := Option.some.inj (written.symm.trans deletion)
  have absent : gone.store.conversions.get? id = none := applies.leaves
  have made : id ∈ there.history.made := by
    have orderly : (protocol service terms).Orderly there := Protocol.orderly_of_run start
    generalize gone.store.conversions = after at applies
    cases applies with
    | deletion present _ => exact ((orderly.invariant id).stored _ present).1
  obtain ⟨more, extended⟩ := exists_history_of_run (.single taken)
  exact absent_of_run goesOn (extended ▸ History.mem_made_append made more) absent

/-- Whoever has found a conversion and misses it later asked before and after it was deleted. -/
theorem deletedBetween_of_misses (run : Run (setting service) (.opened terms) scene)
    {moment : Timestamp} {seen : Conversion} {rest : Log}
    (whole : scene.history.log task = ⟨moment, .store (.get id), .ok seen⟩ :: rest)
    (missed : rest.misses id = true) : scene.history.DeletedBetween id task := by
  let read : Exchange := ⟨moment, .store (.get id), .ok seen⟩
  obtain ⟨exchange, member, misses⟩ := Log.misses_eq_true_iff.1 missed
  obtain ⟨part, last, rfl⟩ := List.append_of_mem member
  have split : scene.history.log task = (read :: part) ++ exchange :: last := whole
  obtain ⟨_, after, history, told⟩ := History.split_of_log split
  obtain ⟨later, _, sofar, -, -, rfl, reacts⟩ := scene_of_split run history
  obtain ⟨subject, absent⟩ := reacts.absent_of_misses misses
  have begun : later.history.log task = [] ++ read :: part := told
  obtain ⟨past, between, longer, -⟩ := History.split_of_log begun
  obtain ⟨asked, _, -, goesOn, taken, rfl, reads⟩ := scene_of_split sofar longer
  have reads : asked.store.Reacts read _ := reads
  have present := Store.get_eq_ok_iff.1 (reads.read rfl).symm
  obtain ⟨more, extended, deletes⟩ := deletes_of_run (.head taken goesOn) present
  obtain rfl : ⟨task, read⟩ :: between = more :=
    List.append_cancel_left (longer.symm.trans extended)
  obtain ⟨removal, inside, expected, deletion⟩ := deletes absent
  -- What deleted it is not the request that has found it.
  rcases List.mem_cons.1 inside with rfl | inside
  · cases deletion
  obtain ⟨first, second, rfl⟩ := List.append_of_mem inside
  refine ⟨asked.history ++ ⟨task, read⟩ :: first, removal, second ++ ⟨task, exchange⟩ :: after,
    by simp [history, longer], ⟨expected, deletion⟩, ⟨read, ?_, rfl⟩, ⟨exchange, ?_, subject⟩⟩
  · exact History.mem_log_iff.2 (by simp)
  · exact History.mem_log_iff.2 (by simp)

theorem misses_of_deletedBetween (run : Run (setting service) (.opened terms) scene)
    {head : Exchange} {rest : Log} (whole : scene.history.log task = head :: rest)
    (deleted : scene.history.DeletedBetween id task) : rest.misses id = true := by
  obtain ⟨before, removal, after, history, ⟨expected, deletion⟩, ⟨asked, early, -⟩,
    ⟨exchange, late, subject⟩⟩ := deleted
  have missed : exchange.misses id = true := by
    obtain ⟨between, last, rfl⟩ := List.append_of_mem (History.mem_log_iff.1 late)
    have split : scene.history = (before ++ removal :: between) ++ ⟨task, exchange⟩ :: last := by
      simp [history]
    obtain ⟨later, _, sofar, -, -, longer, reacts⟩ := scene_of_split run split
    have deletes : later.history.Deletes id := ⟨removal, by simp [longer], expected, deletion⟩
    exact reacts.misses_of_absent subject (absent_of_deletes sofar deletes)
  -- The request that missed it is not the first one of the task.
  have inside : exchange ∈ rest := by
    rw [history, History.log_append] at whole
    obtain ⟨first, others, same⟩ := List.exists_cons_of_ne_nil (List.ne_nil_of_mem early)
    rw [same] at whole
    obtain ⟨-, rfl⟩ := List.cons.inj whole
    refine List.mem_append_right _ (History.mem_log_iff.2 ?_)
    exact List.mem_cons_of_mem _ (History.mem_log_iff.1 late)
  exact Log.misses_eq_true_iff.2 ⟨exchange, inside, missed⟩

theorem run_contention (run : Run (setting service) (.opened terms) scene) :
    Run (Contention.setting service) (.opened terms) scene := by
  refine Relation.ReflTransGen.mono (fun before after step => ?_) _ _ run
  cases step with
  | begins _ => exact .begins trivial
  | answers present admitted reacts => exact .answers present ⟨admitted.fresh, nofun⟩ reacts

theorem eq_notFound_of_done (run : Run (setting service) (.opened terms) scene) {failure : Failure}
    (done : scene.tasks[task]? = some ⟨.executeOne id, .done (.error failure)⟩) :
    failure = .notFound id := by
  have run := run_contention run
  have fails := Contention.fails_executeOne service id []
  refine (Program.Keeps.comes fails (comes_of_run run task _ done) ?_).1
  exact fun first exchange last split => (Contention.meets_of_split run split).1

/-- Whoever has taken a conversion up and is done has ended what was begun, one way or the other. -/
theorem exists_endedBy_of_done {run : Task} (orderly : (protocol service terms).Orderly scene)
    (present : scene.tasks[task]? = some run) (done : ∃ result, run.rest = .done result)
    (started : scene.history.StartedBy id task) :
    ∃ ended, scene.history.EndedBy id task ended
      ∧ (ended.status = .completed ∨ ended.status = .failed) := by
  rcases (orderly.invariant id).ended task started with
    holds | ⟨outcome, ended, step, -, showing, -⟩
  · rw [not_holding_of_done orderly present done] at holds
    cases holds
  · exact ⟨ended, step, showing.completed_or_failed⟩

structure Concludes (history : History) (id : ConversionId) (task : Nat)
    (result : Except Failure Service.WorkOutcome) : Prop where
  /-- There is one failure, and it tells of a deletion that came in between. -/
  failure_iff : ∀ failure,
    result = .error failure ↔ failure = .notFound id ∧ history.DeletedBetween id task
  skipped_iff : result = .ok .skipped
    ↔ ¬ history.StartedBy id task ∧ ¬ history.DeletedBetween id task
  succeeded_iff : result = .ok .succeeded
    ↔ ∃ ended, history.EndedBy id task ended ∧ ended.status = .completed
  failed_iff : result = .ok .failed
    ↔ ∃ ended, history.EndedBy id task ended ∧ ended.status = .failed

namespace Concludes

variable {history : History}

theorem skipped (unstarted : ¬ history.StartedBy id task)
    (unended : ∀ ended, ¬ history.EndedBy id task ended)
    (kept : ¬ history.DeletedBetween id task) : Concludes history id task (.ok .skipped) where
  failure_iff _ := iff_of_false nofun fun both => kept both.2
  skipped_iff := iff_of_true rfl ⟨unstarted, kept⟩
  succeeded_iff := iff_of_false nofun fun ⟨ended, step, _⟩ => unended ended step
  failed_iff := iff_of_false nofun fun ⟨ended, step, _⟩ => unended ended step

theorem missed (unended : ∀ ended, ¬ history.EndedBy id task ended)
    (deleted : history.DeletedBetween id task) :
    Concludes history id task (.error (.notFound id)) where
  failure_iff _ :=
    ⟨fun told => ⟨(Except.error.inj told).symm, deleted⟩, fun both => both.1 ▸ rfl⟩
  skipped_iff := iff_of_false nofun fun both => both.2 deleted
  succeeded_iff := iff_of_false nofun fun ⟨ended, step, _⟩ => unended ended step
  failed_iff := iff_of_false nofun fun ⟨ended, step, _⟩ => unended ended step

theorem ended {ended : Conversion} (started : history.StartedBy id task)
    (step : history.EndedBy id task ended)
    (only : ∀ other, history.EndedBy id task other → other = ended)
    (terminal : ended.status = .completed ∨ ended.status = .failed)
    (kept : ¬ history.DeletedBetween id task) :
    Concludes history id task
      (.ok (if ended.status = .completed then .succeeded else .failed)) where
  failure_iff _ := iff_of_false nofun fun both => kept both.2
  skipped_iff := iff_of_false (by split <;> nofun) fun both => both.1 started
  succeeded_iff := by
    constructor
    · intro told
      refine ⟨ended, step, Classical.not_not.1 fun other => ?_⟩
      rw [if_neg other] at told
      cases told
    · rintro ⟨other, ending, completed⟩
      rw [if_pos (only other ending ▸ completed)]
  failed_iff := by
    constructor
    · intro told
      refine ⟨ended, step, terminal.resolve_left fun completed => ?_⟩
      rw [if_pos completed] at told
      cases told
    · rintro ⟨other, ending, failed⟩
      obtain rfl := only other ending
      rw [failed]
      rfl

end Concludes

/-- Every task of the worker that is done, in every scene that can be reached, has come to what was
done in the meantime. -/
theorem concludes_of_done (run : Run (setting service) (.opened terms) scene)
    {result : Except Failure Service.WorkOutcome}
    (done : scene.tasks[task]? = some ⟨.executeOne id, .done result⟩) :
    Concludes scene.history id task result := by
  have orderly : (protocol service terms).Orderly scene := Protocol.orderly_of_run run
  obtain ⟨moment, answer, rest, whole, found, works⟩ :=
    works_executeOne (comes_of_run run task _ done).yields
  have missing : rest.misses id = true ↔ scene.history.DeletedBetween id task := by
    refine ⟨fun missed => ?_, misses_of_deletedBetween run whole⟩
    obtain ⟨exchange, member, -⟩ := Log.misses_eq_true_iff.1 missed
    obtain ⟨seen, rfl⟩ := found (List.ne_nil_of_mem member)
    exact deletedBetween_of_misses run whole missed
  have same : (scene.history.log task).writes = rest.writes := by
    rw [whole]
    rfl
  have unended (idle : rest.writes = []) (ended : Conversion) :
      ¬ scene.history.EndedBy id task ended := by
    simp [History.endedBy_iff, same, idle]
  have taken {seen started : Conversion} {now : Timestamp} {patch : Patch}
      (begins : seen.plan .start now = .ok patch)
      (inside : .commit id patch started ∈ rest.writes) : scene.history.StartedBy id task := by
    refine History.startedBy_iff.2 ⟨patch, started, ?_, (Conversion.plan_guard begins).2.1⟩
    rwa [same]
  cases works with
  | skipped still =>
    refine .skipped ?_ (unended still.writes) ?_
    · simp [History.startedBy_iff, same, still.writes]
    · simp [← missing, still.found]
  | stopped idle missed =>
    obtain rfl := eq_notFound_of_done run done
    exact .missed (unended idle) (missing.1 (missed.2 rfl))
  | @halfway _ _ patch _ started begins writes =>
    -- Who is done has taken the second step too, but that is not among the changes.
    have taken := taken begins (writes ▸ List.mem_singleton_self _)
    obtain ⟨ended, step, -⟩ := exists_endedBy_of_done orderly done ⟨result, rfl⟩ taken
    obtain ⟨other, inside, running⟩ := History.endedBy_iff.1 step
    rw [same, writes] at inside
    cases List.mem_singleton.1 inside
    cases running.symm.trans (expected_of_start begins)
  | @ended _ _ _ _ start finish _ _ started ended begins ends found writes =>
    have taken := taken begins (writes ▸ List.mem_cons_self)
    have only (other : Conversion) (step : scene.history.EndedBy id task other) :
        other = ended := by
      obtain ⟨patch, inside, running⟩ := History.endedBy_iff.1 step
      rw [same, writes] at inside
      rcases List.mem_cons.1 inside with first | last
      · cases first
        cases running.symm.trans (expected_of_start begins)
      · cases List.mem_singleton.1 last
        rfl
    obtain ⟨other, step, terminal⟩ := exists_endedBy_of_done orderly done ⟨_, rfl⟩ taken
    obtain rfl := only other step
    refine .ended taken step only terminal ?_
    simp [← missing, found]

def worked? : Task → Option (ConversionId × Except Failure Service.WorkOutcome)
  | ⟨.executeOne id, .done result⟩ => some (id, result)
  | _ => none

theorem worked?_eq_some {run : Task} {result : Except Failure Service.WorkOutcome}
    (worked : worked? run = some (id, result)) : run = ⟨.executeOne id, .done result⟩ := by
  obtain ⟨operation, rest⟩ := run
  cases operation with
  | executeOne other =>
    cases rest with
    | done result =>
      cases worked
      rfl
    | ask _ _ => cases worked
  | _ => cases worked

/-- A task of the worker has found its conversion pending when a rival begins, and goes on after the
rival is done. -/
def against (rival : Operation) : Scene :=
  let user : UserId := ⟨.ofNat 1⟩
  let id : ConversionId := ⟨.ofNat 2⟩
  let image : Image := ⟨⟨.ofNat 3⟩, .user user, .shown⟩
  let answers (task count : Nat) : List Turn :=
    List.replicate count (.answer task ⟨1, 0⟩ ⟨.ofNat 5⟩)
  Scene.play ⟨.ofFallback .standard, {}, false⟩ (obliging image ⟨.ofNat 6⟩) (.opened ⟨"free", 1⟩)
    ([.begin (.create user ⟨image.id, ⟨.ofNat 4⟩, none⟩)]
      ++ List.replicate 6 (.answer 0 ⟨0, 0⟩ id)
      ++ [.begin (.executeOne id), .begin rival] ++ answers 1 1 ++ answers 2 15 ++ answers 1 2)

theorem run_against {rival : Operation} (offered : rival.isTransition = false) :
    Run (setting ⟨.ofFallback .standard, {}, false⟩) (.opened ⟨"free", 1⟩) (against rival) := by
  refine run_play (Setting.offersAll_iff.2 ?_)
  refine List.forall_mem_cons.2 ⟨rfl, List.forall_mem_cons.2 ⟨rfl, ?_⟩⟩
  exact List.forall_mem_singleton.2 offered

theorem done_against {rival : Operation} {result : Except Failure Service.WorkOutcome}
    (worked : (against rival).tasks[task]?.bind worked? = some (id, result)) :
    (against rival).tasks[task]? = some ⟨.executeOne id, .done result⟩ := by
  obtain ⟨run, present, worked⟩ := Option.bind_eq_some_iff.1 worked
  rw [present, worked?_eq_some worked]

/-- Another task of the worker was faster: it has ended the conversion, and the first one skips. -/
theorem skipped_against_executeOne :
    let id : ConversionId := ⟨.ofNat 2⟩
    let scene := against (.executeOne id)
    Run (setting ⟨.ofFallback .standard, {}, false⟩) (.opened ⟨"free", 1⟩) scene
      ∧ scene.tasks[1]? = some ⟨.executeOne id, .done (.ok .skipped)⟩
      ∧ scene.tasks[2]? = some ⟨.executeOne id, .done (.ok .succeeded)⟩
      ∧ ¬ scene.history.StartedBy id 1
      ∧ ∃ ended, scene.history.EndedBy id 2 ended ∧ ended.status = .completed := by
  intro id scene
  have run : Run _ _ scene := run_against rfl
  have slower : scene.tasks[1]? = some ⟨.executeOne id, .done (.ok .skipped)⟩ :=
    done_against (by decide +kernel)
  have faster : scene.tasks[2]? = some ⟨.executeOne id, .done (.ok .succeeded)⟩ :=
    done_against (by decide +kernel)
  exact ⟨run, slower, faster, ((concludes_of_done run slower).skipped_iff.1 rfl).1,
    (concludes_of_done run faster).succeeded_iff.1 rfl⟩

/-- Its owner deletes the conversion that the worker has found pending. It is not taken up, yet that
is not reported as skipping it. -/
theorem missed_against_delete :
    let id : ConversionId := ⟨.ofNat 2⟩
    let scene := against (.delete id ⟨.ofNat 1⟩)
    Run (setting ⟨.ofFallback .standard, {}, false⟩) (.opened ⟨"free", 1⟩) scene
      ∧ scene.tasks[1]? = some ⟨.executeOne id, .done (.error (.notFound id))⟩
      ∧ ¬ scene.history.StartedBy id 1 := by
  intro id scene
  refine ⟨run_against rfl, done_against (by decide +kernel), ?_⟩
  rintro ⟨event, member, -, starts⟩
  have unstarted : scene.history.all (fun event => !event.starts id) = true := by decide +kernel
  have apart := List.all_eq_true.1 unstarted event member
  rw [starts] at apart
  cases apart

end Processing

end TryOn
