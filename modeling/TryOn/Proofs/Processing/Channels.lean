import TryOn.Proofs.Faults.Run
import TryOn.Proofs.Processing.Skipped

/-! What the channels tell of a run that has failed. The counter, the notices and the entry tell of
the record that it leaves; the record and the notice have one text of the failure, and the entry has
the text from before it was looked at whether there is anything to be read in it. -/

set_option autoImplicit false

namespace TryOn

open Interleaving

section Wordless

theorem Text.isBlankText_append (first rest : String) :
    isBlankText (first ++ rest) = (isBlankText first && isBlankText rest) := by
  simp [isBlankText]

/-- Nobody called the processing off, and the last error of the processor is known by its text
alone, which is blank. -/
def Retry.Failure.IsWordless (failure : Retry.Failure ProcessorError) : Prop :=
  failure.isCancelled = false
    ∧ ∃ text, failure.last? = some (.other text) ∧ Text.isBlankText text = true

theorem ProcessorError.isBlankText_message_iff (error : ProcessorError) :
    Text.isBlankText error.message = true
      ↔ ∃ text, error = .other text ∧ Text.isBlankText text = true := by
  have worded {start : String} (shown : Text.isBlankText start = false) (reason : String) :
      Text.isBlankText (start ++ reason) ≠ true := by
    rw [Text.isBlankText_append, shown, Bool.false_and]
    exact Bool.false_ne_true
  cases error with
  | transient reason => exact iff_of_false (worded (by decide) reason) (by simp)
  | rejected reason => exact iff_of_false (worded (by decide) reason) (by simp)
  | other text => exact ⟨fun blank => ⟨text, rfl, blank⟩, fun ⟨_, same, blank⟩ => by
      cases same
      exact blank⟩

theorem Service.isBlankText_processingFailureText_iff (failure : Retry.Failure ProcessorError) :
    Text.isBlankText (processingFailureText failure) = true ↔ failure.IsWordless := by
  have cancelled : Text.isBlankText processingCancelledText = false := by decide
  cases failure with
  | terminal attempts last | exhausted attempts last =>
    simp [processingFailureText, Retry.Failure.IsWordless, Retry.Failure.isCancelled,
      Retry.Failure.last?, ProcessorError.isBlankText_message_iff]
  | cancelled attempts last =>
    simp [processingFailureText, Retry.Failure.IsWordless, Retry.Failure.isCancelled, cancelled]

end Wordless

theorem Log.Processed.prepend {service : Service} {id : ConversionId} {outcome : Service.Outcome}
    {log : Log} (before : Log) (processed : log.Processed service id outcome) :
    Log.Processed service id outcome (before ++ log) := by
  obtain ⟨first, clock, part, after, started, rfl, ⟨sofar, exchange, patch, rfl, step⟩, yields⟩ :=
    processed
  exact ⟨before ++ (sofar ++ [exchange]), clock, part, after, started, by simp,
    ⟨before ++ sofar, exchange, patch, (List.append_assoc _ _ _).symm, step⟩, yields⟩

namespace Processing

open Faults (Reports account_transition told_of_account told_of_between words_told
  reports_of_patched said)
open Service (Tidings tidings)

variable {service : Service} {terms : Quota.Terms} {scene : Scene} {id : ConversionId} {task : Nat}
  {log : Log}

theorem started_of_tries {left : Nat} {started : Conversion}
    (tries : Service.Tries id .start left log (.ok started)) : log.Started id started := by
  generalize same : Except.ok started = result at tries
  induction tries with
  | failed _ | refused _ => cases same
  | taken attempt =>
    cases same
    obtain _ | _ | planned := attempt
    exact ⟨[_, _], _, _, rfl, rfl, (Conversion.plan_guard planned).2.1⟩
  | again _ _ ih =>
    obtain ⟨before, exchange, patch, rfl, written, status⟩ := ih same
    exact ⟨_ ++ before, exchange, patch, (List.append_assoc _ _ _).symm, written, status⟩

structure Ends (service : Service) (id : ConversionId) (log : Log) (finish : Patch)
    (ended : Conversion) (outcome : Service.Outcome) (millis : Nat) (date : Timestamp) : Prop where
  processed : log.Processed service id outcome
  planned : ∃ seen now, Conversion.plan seen (Service.ending outcome millis) now = .ok finish
  told : ∃ tries, log.told = .count (tidings outcome millis).event
    :: (List.replicate (tries + 1)
        (.notice (Service.noticeOf ended (tidings outcome millis).kind))
      ++ [.entry ⟨(tidings outcome millis).action, ended.user, id,
        (tidings outcome millis).metadata, date⟩])
  only : ∀ patch other, .commit id patch other ∈ log.writes → patch.expected = .processing →
    other = ended

theorem ends_of_process {result : Except Failure Conversion} {finish : Patch} {ended : Conversion}
    (yields : (service.process id).Yields log result)
    (inside : .commit id finish ended ∈ log.writes) (second : finish.expected = .processing) :
    ∃ outcome millis date, Ends service id log finish ended outcome millis date := by
  obtain ⟨failure, rfl, missed⟩ | ⟨first, clock, asked, clocks, last, started, outcome, millis, rfl,
    began, between, served, concluded⟩ := Service.parts_of_process yields
  · rw [((account_transition missed).refused _ rfl).1] at inside
    cases inside
  have account := account_transition began
  obtain ⟨seen, moment, start, begins, starting⟩ := account.commits
  have idle := (isStill_of_between between : Log.IsStill _ id).writes
  have before {rest : Log} : Log.writes (first ++ (clock :: (asked ++ clocks) ++ rest))
      = .commit id start started :: Log.writes rest := by
    rw [Log.writes_append, Log.writes_append, starting, idle]
    rfl
  cases Service.concludes_conclude concluded with
  | vain vain =>
    rw [before, ((account_transition vain).refused _ rfl).1] at inside
    cases List.mem_singleton.1 inside
    cases second.symm.trans (expected_of_start begins)
  | @told finishing words ended' finished spoken =>
    have account' := account_transition finished
    obtain ⟨current, now, patch, planned, taken⟩ := account'.commits
    obtain ⟨unchanged, -, tries, date, -, told⟩ := words_told spoken
    have writes : Log.writes (finishing ++ words) = [.commit id patch ended'] := by
      rw [Log.writes_append, taken, unchanged, List.append_nil]
    -- The first step was planned for a record that waits, so it is not meant.
    have last {finish : Patch} {ended : Conversion}
        (member : .commit id finish ended
          ∈ Log.writes (first ++ (clock :: (asked ++ clocks) ++ (finishing ++ words))))
        (second : finish.expected = .processing) : finish = patch ∧ ended = ended' := by
      rw [before, writes] at member
      rcases List.mem_cons.1 member with one | later
      · cases one
        cases second.symm.trans (expected_of_start begins)
      · cases List.mem_singleton.1 later
        exact ⟨rfl, rfl⟩
    obtain ⟨rfl, rfl⟩ := last inside second
    refine ⟨outcome, millis, date, ?_, ⟨current, now, planned⟩, ⟨tries, ?_⟩,
      fun _ _ member expected => (last member expected).2⟩
    · exact ⟨first, clock, asked, clocks ++ (finishing ++ words), started, by simp,
        started_of_tries (Service.tries_transition began), served⟩
    · rw [Log.told_append, Log.told_append, Log.told_append, told_of_account account,
        told_of_between between, told_of_account account', told]
      rfl

theorem Ends.prepend {finish : Patch} {ended : Conversion} {outcome : Service.Outcome}
    {millis : Nat} {date : Timestamp} {before : Log} (silent : before.told = [])
    (idle : before.writes = []) (ends : Ends service id log finish ended outcome millis date) :
    Ends service id (before ++ log) finish ended outcome millis date where
  processed := ends.processed.prepend before
  planned := ends.planned
  told := by
    rw [Log.told_append, silent]
    exact ends.told
  only := by
    rw [Log.writes_append, idle]
    exact ends.only

theorem ends_of_task {operation : Operation} (runs : operation.runs? = some id)
    {result : Except Failure operation.Result} {finish : Patch} {ended : Conversion}
    (yields : (operation.action service).Yields log result)
    (inside : .commit id finish ended ∈ log.writes) (second : finish.expected = .processing) :
    ∃ outcome millis date, Ends service id log finish ended outcome millis date := by
  cases operation with
  | process other =>
    cases runs
    exact ends_of_process yields inside second
  | executeOne other =>
    cases runs
    -- The look before the run changes nothing and tells nobody.
    cases Service.visits_executeOne yields with
    | @worked moment seen run _ _ ran =>
      obtain ⟨outcome, millis, date, ends⟩ := ends_of_process ran inside second
      have look : Log.told [⟨moment, .store (.get id), .ok seen⟩] = [] := rfl
      exact ⟨outcome, millis, date, ends.prepend look rfl⟩
    | _ => cases inside
  | _ => cases runs

section Scenes

theorem patched_of_commit (run : Run (setting service) (.opened terms) scene) {event : Event}
    {patch : Patch} {result : Conversion} (member : event ∈ scene.history)
    (written : event.exchange.write? = some (.commit id patch result)) :
    ∃ stored, stored.id = id ∧ Store.patched stored patch = .ok result := by
  obtain ⟨before, after, split⟩ := List.append_of_mem member
  obtain ⟨there, next, start, -, -, -, reacts⟩ := scene_of_split run split
  rcases reacts.conversions with ⟨still, -⟩ | ⟨write, same, applies⟩
  · cases written.symm.trans still
  obtain rfl := Option.some.inj (written.symm.trans same)
  have orderly : (protocol service terms).Orderly there := Protocol.orderly_of_run start
  generalize next.store.conversions = after at applies
  cases applies with
  | commit present expected patched =>
    exact ⟨_, ((orderly.invariant id).stored _ present).2.1, patched⟩

theorem startedBy_of_processed {outcome : Service.Outcome}
    (processed : (scene.history.log task).Processed service id outcome) :
    scene.history.StartedBy id task := by
  obtain ⟨first, clock, part, after, started, whole, taken, -⟩ := processed
  obtain ⟨before, exchange, patch, rfl, written, status⟩ := taken
  have member : exchange ∈ scene.history.log task := by simp [whole]
  exact ⟨⟨task, exchange⟩, History.mem_log_iff.1 member, rfl,
    Event.starts_iff.2 ⟨patch, started, written, status⟩⟩

/-- What a run has told that has left its conversion failed, and the failure it has told of. -/
structure Announces (service : Service) (id : ConversionId) (log : Log) (ended : Conversion)
    (failure : Retry.Failure ProcessorError) (notice : Notice) (entry : AuditEntry) : Prop where
  processed : log.Processed service id (.error failure)
  told : ∃ tries, log.told
    = .count .failed :: (List.replicate (tries + 1) (.notice notice) ++ [.entry entry])
  notice : notice = ⟨id, ended.user, .failed, ended.failure⟩
  subject : entry.action = .failed ∧ entry.user = ended.user ∧ entry.conversion = id
  /-- The entry has the text as it was put down, the record has it as one that can be read. -/
  text : entry.error? = some (Service.processingFailureText failure)
  kept : ended.failure = some (Conversion.failureText (Service.processingFailureText failure))

theorem Announces.error?_eq_iff {ended : Conversion} {failure : Retry.Failure ProcessorError}
    {notice : Notice} {entry : AuditEntry}
    (announces : Announces service id log ended failure notice entry) :
    entry.error? = ended.failure ↔ ¬ failure.IsWordless := by
  rw [announces.text, announces.kept, ← Service.isBlankText_processingFailureText_iff,
    Option.some.injEq, Conversion.failureText]
  split
  · rename_i blank
    refine iff_of_false (fun same => ?_) (not_not.2 blank)
    rw [same] at blank
    exact absurd blank (by decide)
  · rename_i shown
    exact iff_of_true rfl shown

theorem Ends.announces {finish : Patch} {stored ended : Conversion} {outcome : Service.Outcome}
    {millis : Nat} {date : Timestamp} (ends : Ends service id log finish ended outcome millis date)
    (named : stored.id = id) (patched : Store.patched stored finish = .ok ended)
    (failed : ended.status = .failed) :
    ∃ failure notice entry, Announces service id log ended failure notice entry := by
  obtain ⟨seen, now, planned⟩ := ends.planned
  have own : ended.id = id := (Faults.patched_target planned patched).2.trans named
  obtain ⟨-, reports, kept⟩ := reports_of_patched own date planned patched
  cases outcome with
  | ok image =>
    obtain ⟨target, -⟩ := Faults.patched_target planned patched
    cases failed.symm.trans target
  | error failure =>
    exact ⟨failure, _, _, ends.processed, ends.told, by rw [← own]; rfl, ⟨rfl, rfl, rfl⟩,
      reports.error? failed, kept failed⟩

/-- Whatever else goes on, and however the processor, the policy and the caller have brought it
about, a run that has left its conversion failed has told of that once. As long as the conversion is
there it stays as it was left. The notice has the text of the record. The entry has it too, unless
the processor's own text was blank: then it has that. -/
theorem channels_agree_iff (run : Run (setting service) (.opened terms) scene) {worker : Task}
    {ended : Conversion} (present : scene.tasks[task]? = some worker)
    (done : ∃ result, worker.rest = .done result) (left : scene.history.EndedBy id task ended)
    (failed : ended.status = .failed) :
    ∃ failure notice entry, Announces service id (scene.history.log task) ended failure notice entry
      ∧ (∀ stored, scene.store.conversions.get? id = some stored → stored = ended)
      ∧ notice.detail = ended.failure
      ∧ (entry.error? = ended.failure ↔ ¬ failure.IsWordless) := by
  have orderly : (protocol service terms).Orderly scene := Protocol.orderly_of_run run
  obtain ⟨event, member, rfl, finish, second, written⟩ := left
  obtain ⟨stored, named, patched⟩ := patched_of_commit run member written
  have inside : .commit id finish ended ∈ (scene.history.log event.task).writes :=
    History.mem_writes_log_iff.2 ⟨event, member, rfl, written⟩
  obtain ⟨_, there, runs⟩ := runs_of_endedBy orderly ⟨event, member, rfl, finish, second, written⟩
  obtain rfl := Option.some.inj (there.symm.trans present)
  have comes := comes_of_run run event.task _ present
  obtain ⟨result, finished⟩ := done
  rw [finished] at comes
  obtain ⟨outcome, millis, date, ends⟩ := ends_of_task runs comes.yields inside second
  obtain ⟨failure, notice, entry, announces⟩ := ends.announces named patched failed
  refine ⟨failure, notice, entry, announces, fun found holds => ?_, ?_, announces.error?_eq_iff⟩
  · -- A task that is done holds nothing any more, so it is the record it has left that stays.
    rcases (orderly.invariant id).ended _ (startedBy_of_processed ends.processed) with
      holding | ⟨-, other, left, -, -, stays⟩
    · cases holding.symm.trans (not_holding_of_done orderly present ⟨result, finished⟩)
    · obtain ⟨patch, too, expected⟩ := History.endedBy_iff.1 left
      exact (stays found holds).trans (ends.only patch other too expected)
  · rw [announces.notice]

def gaveUp (text : String) : Scene :=
  let user : UserId := ⟨.ofNat 1⟩
  let image : Image := ⟨⟨.ofNat 3⟩, .user user, .shown⟩
  let respond : (request : Request) → request.Answer
    | .process _ => .error (.other text)
    | request => obliging image ⟨.ofNat 6⟩ request
  Scene.play Faults.onceOnly respond (.opened ⟨"free", 1⟩)
    ([.begin (.create user ⟨image.id, ⟨.ofNat 4⟩, none⟩)]
      ++ List.replicate 6 (.answer 0 ⟨0, 0⟩ ⟨.ofNat 2⟩)
      ++ [.begin (.process ⟨.ofNat 2⟩)]
      ++ List.replicate 15 (.answer 1 ⟨1, 0⟩ ⟨.ofNat 5⟩))

theorem run_gaveUp (text : String) :
    Run (setting Faults.onceOnly) (.opened ⟨"free", 1⟩) (gaveUp text) := by
  refine run_play (Setting.offersAll_iff.2 ?_)
  exact List.forall_mem_cons.2 ⟨rfl, List.forall_mem_singleton.2 rfl⟩

theorem left_gaveUp (text kept : String)
    (done : (gaveUp text).tasks[1]?.any (fun task => task.rest.isDone) = true)
    (starts : (gaveUp text).history.any (fun event => event.task = 1 && event.starts ⟨.ofNat 2⟩)
      = true)
    (failed : ((gaveUp text).store.conversions.get? ⟨.ofNat 2⟩).map
      (fun stored => (stored.status, stored.failure)) = some (.failed, some kept)) :
    ∃ worker ended, (gaveUp text).tasks[1]? = some worker
      ∧ (∃ result, worker.rest = .done result)
      ∧ (gaveUp text).history.EndedBy ⟨.ofNat 2⟩ 1 ended
      ∧ ended.status = .failed ∧ ended.failure = some kept := by
  have orderly : (protocol _ _).Orderly _ := Protocol.orderly_of_run (run_gaveUp text)
  obtain ⟨worker, present, finished⟩ := (Option.any_eq_true ..).1 done
  have finished := Program.isDone_iff.1 finished
  obtain ⟨event, member, both⟩ := List.any_eq_true.1 starts
  rw [Bool.and_eq_true, decide_eq_true_eq] at both
  obtain ⟨stored, holds, same⟩ := Option.map_eq_some_iff.1 failed
  obtain ⟨status, failure⟩ := Prod.mk.inj same
  rcases (orderly.invariant ⟨.ofNat 2⟩).ended 1 ⟨event, member, both⟩ with
    holding | ⟨-, ended, left, -, -, stays⟩
  · cases holding.symm.trans (not_holding_of_done orderly present finished)
  · obtain rfl := stays stored holds
    exact ⟨worker, stored, present, finished, left, status, failure⟩

theorem channels_agree_of_words :
    Run (setting Faults.onceOnly) (.opened ⟨"free", 1⟩) (gaveUp "no face")
      ∧ ∃ ended failure notice entry, (gaveUp "no face").history.EndedBy ⟨.ofNat 2⟩ 1 ended
        ∧ Announces Faults.onceOnly ⟨.ofNat 2⟩ ((gaveUp "no face").history.log 1) ended failure
            notice entry
        ∧ ended.failure = some "no face" ∧ notice.detail = ended.failure
        ∧ entry.error? = ended.failure := by
  obtain ⟨worker, ended, present, done, left, failed, kept⟩ :=
    left_gaveUp "no face" "no face" (by decide +kernel) (by decide +kernel) (by decide +kernel)
  obtain ⟨failure, notice, entry, announces, -, detail, agree⟩ :=
    channels_agree_iff (run_gaveUp "no face") present done left failed
  refine ⟨run_gaveUp "no face", ended, failure, notice, entry, left, announces, kept, detail,
    agree.2 fun wordless => ?_⟩
  have text := announces.kept.symm.trans kept
  rw [Conversion.failureText,
    if_pos ((Service.isBlankText_processingFailureText_iff failure).2 wordless)] at text
  exact absurd text (by decide)

/-- A processor that fails with an empty text: the record has the text for a failure that is not
known, and the entry has none. -/
theorem entry_differs_of_empty_text :
    Run (setting Faults.onceOnly) (.opened ⟨"free", 1⟩) (gaveUp "")
      ∧ ∃ ended entry, (gaveUp "").history.EndedBy ⟨.ofNat 2⟩ 1 ended ∧ ended.status = .failed
        ∧ .entry entry ∈ Log.told ((gaveUp "").history.log 1)
        ∧ ended.failure = some "unknown error" ∧ entry.error? = some "" := by
  obtain ⟨-, ended, -, -, left, failed, kept⟩ :=
    left_gaveUp "" "unknown error" (by decide +kernel) (by decide +kernel) (by decide +kernel)
  have said : "" ∈ (Log.told ((gaveUp "").history.log 1)).filterMap
      (fun mark => mark.entry?.bind (·.error?)) := by decide +kernel
  obtain ⟨mark, member, text⟩ := List.mem_filterMap.1 said
  obtain ⟨entry, entered, text⟩ := Option.bind_eq_some_iff.1 text
  cases mark with
  | entry other =>
    cases entered
    exact ⟨run_gaveUp "", ended, entry, left, failed, member, kept, text⟩
  | _ => cases entered

end Scenes

end Processing

end TryOn
