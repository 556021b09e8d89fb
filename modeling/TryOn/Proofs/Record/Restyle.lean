import Mathlib.Data.List.Basic
import TryOn.Proofs.Contention.Lawful
import TryOn.Proofs.Processing.Course
import TryOn.Proofs.Record.History
import TryOn.Proofs.Record.Labels

/-! No edit of a style is lost. Editors and workers plan for records that may have been changed
since they were read; all the same the last edit that was accepted tells the style, and the
processor is asked for the style that the record keeps from then on. -/

set_option autoImplicit false

namespace TryOn

open Interleaving

def Log.TookUp (log : Log) (work : ProcessRequest) : Prop :=
  ∃ id patch started, .commit id patch started ∈ log.writes
    ∧ patch.status = some .processing ∧ work = Service.processRequest started

theorem Log.TookUp.mono {log more : Log} {work : ProcessRequest} (tookUp : log.TookUp work)
    (within : log ⊆ more) : more.TookUp work := by
  obtain ⟨id, patch, started, member, rest⟩ := tookUp
  exact ⟨id, patch, started, List.filterMap_subset _ within member, rest⟩

theorem Exchange.write?_eq_none_of_quiet {exchange : Exchange}
    (quiet : exchange.request.IsQuiet) : exchange.write? = none := by
  obtain ⟨moment, request, answer⟩ := exchange
  cases request with
  | store call =>
    cases call with
    | create _ | update _ _ | delete _ _ => exact quiet.elim
    | _ => rfl
  | process _ => exact quiet.elim
  | _ => rfl

theorem Program.Yields.writes_eq_nil {α : Type} {program : Program α} {log : Log} {result : α}
    (yields : program.Yields log result) (quiet : program.Asks Request.IsQuiet) :
    log.writes = [] :=
  List.filterMap_eq_nil_iff.2 fun exchange member =>
    Exchange.write?_eq_none_of_quiet (yields.asked quiet exchange member)

namespace Restyle

/-- What an operation makes of the styles of records: an edit puts its label on the record that it
is of, and no other operation puts any on. -/
def Labels (id : ConversionId) (patch : Patch) : Operation → Prop
  | .update other _ style => other = id ∧ ∃ now, patch = .relabel style now
  | _ => patch.style = .keep

def Permits (operation : Operation) (log : Log) : Request → Prop
  | .store (.update id patch) => Labels id patch operation
  | .process work => log.TookUp work
  | _ => True

/-- Nothing is relied on. -/
def conduct (operation : Operation) : Conduct where
  may := Permits operation
  expects _ _ := True

variable {operation : Operation} {log : Log} {service : Service} {id : ConversionId} {α : Type}

theorem permits_of_free {request : Request} (free : request.IsFree) :
    Permits operation log request := by
  cases free with
  | create _ | delete _ => trivial
  | quiet quiet =>
    cases request with
    | store call => cases call <;> trivial
    | process _ => exact quiet.elim
    | _ => trivial

theorem permits_of_step (other : ∀ id user style, operation ≠ .update id user style)
    {request : Request} (step : request.IsStep) : Permits operation log request := by
  cases request with
  | store call =>
    cases call with
    | update id patch =>
      obtain ⟨seen, step, now, planned⟩ := step
      have keeps := Patch.sparesStyle_of_planned planned
      cases operation with
      | update id user style => exact absurd rfl (other id user style)
      | _ => exact keeps
    | _ => trivial
  | process _ => exact step.elim
  | _ => trivial

def Upholds (operation : Operation) (action : Action α) : Prop :=
  ∀ log, action.Keeps (conduct operation) (fun _ _ => True) (fun _ _ => True) log

theorem upholds_of_asks {action : Action α} {allowed : Request → Prop}
    (asks : action.Asks allowed)
    (permits : ∀ log request, allowed request → Permits operation log request) :
    Upholds operation action := by
  intro log
  refine Program.Asks.keeps asks (fun part _ request fits => permits _ request fits) ?_
  intro part result _ _
  cases result <;> trivial

theorem asks_update (id : ConversionId) (user : UserId) (style : Option String) :
    (Service.update id user style).Asks (Permits (.update id user style) []) := by
  have quiet {α : Type} {action : Action α} (asks : action.Asks Request.IsQuiet) :
      action.Asks (Permits (.update id user style) []) :=
    Program.Asks.mono asks fun _ quiet => permits_of_free (.quiet quiet)
  refine (quiet (Service.silent_get id user).quiet).bind fun current => .ite trivial ?_
  refine (Action.asks_request trivial).bind fun now => ?_
  refine Action.asks_orFail_bind _ fun patch valid => ?_
  have labels : Labels id patch (.update id user style) :=
    ⟨rfl, now, (Patch.restyle_eq_ok valid).1⟩
  refine (Action.asks_request labels).bind fun updated => ?_
  refine (Action.asks_orFail _ _).bind fun conversion => ?_
  exact (quiet (Service.quiet_audit _ _ _ _)).bind fun _ => trivial

section Runs

theorem tookUp_of_start {started : Conversion}
    (yields : (Service.transition id .start).Yields log (.ok started)) :
    log.TookUp (Service.processRequest started) := by
  obtain ⟨-, seen, now, patch, begins, writes⟩ := Processing.steps_transition yields
  refine ⟨id, patch, started, ?_, (Conversion.plan_guard begins).2.1, rfl⟩
  rw [writes]
  exact List.mem_singleton_self _

theorem asks_conclude (outcome : Service.Outcome) (millis : Nat) :
    (service.conclude id outcome millis).Asks Request.IsStep := by
  refine (Service.asks_transition id _).bind fun ended => ?_
  exact (service.outward_tell id outcome millis ended).mono fun _ outward => outward.quiet.step

variable (other : ∀ id user style, operation ≠ .update id user style)

include other

theorem upholds_process : Upholds operation (service.process id) := by
  have steps {α : Type} {action : Action α} (asks : action.Asks Request.IsStep) :
      Upholds operation action := upholds_of_asks asks fun _ _ => permits_of_step other
  intro log
  refine Action.keeps_bind.2 (Program.Asks.keeps (Service.asks_transition id .start)
    (fun _ _ _ step => permits_of_step other step) fun part result _ yields => ?_)
  cases result with
  | error failure => trivial
  | ok started =>
    -- From here on the log has the change by which the record was taken up, and the processor is
    -- asked for what that has left.
    have tookUp := (tookUp_of_start yields).mono (List.subset_append_right log part)
    refine Action.keeps_bind.2 (Action.keeps_request.2 ⟨trivial, fun clock instant _ => ?_⟩)
    have tookUp := tookUp.mono (List.subset_append_left _ [⟨clock, .now, instant⟩])
    refine Action.keeps_bind.2 (Action.keeps_lift.2 (Program.Asks.keeps
      (service.asks_processing (Service.processRequest started)) ?_ ?_))
    · intro asked _ request serves
      cases request with
      | process work =>
        obtain rfl : work = Service.processRequest started := serves
        exact tookUp.mono (List.subset_append_left _ asked)
      | store _ => exact serves.elim
      | _ => trivial
    · intro asked outcome _ _
      cases outcome with
      | error failure => exact steps (asks_conclude (.error failure) 0) _
      | ok image =>
        refine Action.keeps_bind.2 (Action.keeps_request.2 ⟨trivial, fun late finished _ => ?_⟩)
        exact steps (asks_conclude (.ok image) _) _

theorem upholds_executeOne : Upholds operation (service.executeOne id) := by
  intro log
  refine Action.keeps_bind.2 (Action.keeps_request.2 ⟨trivial, fun moment answer _ => ?_⟩)
  rcases answer with failure | conversion
  · cases failure <;> trivial
  · refine Action.keeps_ite (fun _ => trivial) fun _ => ?_
    refine Action.keeps_bind.2 (Action.keeps_lift.2 ?_)
    refine Program.Keeps.mono (upholds_process other _) fun log result _ => ?_
    rcases result with failure | done
    · cases failure <;> trivial
    · trivial

end Runs

theorem upholds_action (service : Service) (operation : Operation) :
    Upholds operation (operation.action service) := by
  by_cases free : operation.IsFree
  · exact upholds_of_asks (Operation.free_action service free) fun _ _ => permits_of_free
  have steps {α : Type} {action : Action α} (asks : action.Asks Request.IsStep)
      (other : ∀ id user style, operation ≠ .update id user style) :
      Upholds operation action := upholds_of_asks asks fun _ _ => permits_of_step other
  cases operation with
  | update id user style =>
    refine upholds_of_asks (asks_update id user style) fun log request permits => ?_
    cases request with
    | process _ =>
      obtain ⟨_, _, _, member, -⟩ := permits
      cases member
    | store call => cases call <;> exact permits
    | _ => trivial
  | cancel id user => exact steps (service.asks_cancel id user) nofun
  | transition id step => exact steps (Service.asks_transition id step) nofun
  | process id => exact upholds_process nofun
  | executeOne id => exact upholds_executeOne nofun
  | _ => exact absurd trivial free

/-- What an edit comes to. It is accepted, and answers with the record as it has become, or it has
changed nothing and fails. -/
theorem update_cases {user : UserId} {style : Option String} {result : Except Failure Conversion}
    (yields : (Service.update id user style).Yields log result) :
    (log.writes = [] ∧ ∃ failure, result = .error failure)
      ∨ ∃ now updated, log.writes = [.commit id (.relabel style now) updated]
        ∧ result = .ok updated := by
  unfold Service.update at yields
  rcases yields.bind with ⟨failure, rfl, missed⟩ | ⟨looks, rest, current, rfl, found, later⟩
  · exact .inl ⟨missed.writes_eq_nil (Service.silent_get id user).quiet, failure, rfl⟩
  rw [Log.writes_append, found.writes_eq_nil (Service.silent_get id user).quiet, List.nil_append]
  rcases later.throwIf with ⟨-, rfl, refused⟩ | ⟨-, edits⟩
  · exact .inl ⟨rfl, _, refused⟩
  obtain ⟨clock, now, _, rfl, dated⟩ := edits.request_bind
  rcases dated.orFail_bind with ⟨_, -, rfl, refused⟩ | ⟨patch, valid, asked⟩
  · exact .inl ⟨rfl, _, refused⟩
  obtain ⟨moment, answer, last, rfl, answered⟩ := asked.request_bind
  rcases answered.orFail_bind with ⟨_, rfl, rfl, refused⟩ | ⟨updated, rfl, told⟩
  · exact .inl ⟨rfl, _, refused⟩
  -- What is left is to enter the edit.
  unfold Action.audit at told
  rw [bind_assoc] at told
  obtain ⟨late, date, _, rfl, entering⟩ := told.request_bind
  obtain ⟨entered, ⟨⟩, _, rfl, returned⟩ := entering.request_bind
  cases returned
  obtain ⟨rfl, -⟩ := Patch.restyle_eq_ok valid
  exact .inr ⟨now, updated, rfl, rfl⟩

def protocol (setting : Setting) (terms : Quota.Terms) : Protocol setting terms where
  conduct := conduct
  settles _ _ _ := True
  invariant store history := ∀ id, Record.Labelled store.conversions history id
  kept operation _ := by
    refine Program.Keeps.mono (upholds_action setting.service operation []) fun log result _ => ?_
    trivial
  opened := Record.Labelled.opened
  preserved {store next history operation event} labelled _ may admitted reacts := by
    refine ⟨trivial, fun id => (labelled id).concat (fun other patch asked => ?_) admitted.fresh
      reacts⟩
    have may : Permits operation _ _ := may
    rw [asked] at may
    cases operation with
    | update _ _ _ =>
      obtain ⟨-, now, rfl⟩ := may
      exact .inr rfl
    | _ => exact .inl may

section Scenes

variable {setting : Setting} {terms : Quota.Terms} {scene : Scene} {task : Nat}

def accepted (scene : Scene) (id : ConversionId) : List (Option String) :=
  scene.history.filterMap fun event =>
    match scene.tasks[event.task]?.map Task.operation, event.exchange.write? with
    | some (.update _ _ style), some (.commit other _ _) => if other = id then some style else none
    | _, _ => none

/-- Labels are put on by edits, and by all of them that are accepted. -/
theorem accepted_eq_labels (orderly : (protocol setting terms).Orderly scene)
    (id : ConversionId) : accepted scene id = scene.history.labels id := by
  rw [accepted, History.labels, History.writes, List.filterMap_filterMap]
  refine List.filterMap_congr fun event member => ?_
  obtain ⟨before, after, split⟩ := List.append_of_mem member
  obtain ⟨⟨operation, rest⟩, present, -, may, -⟩ := orderly.followed before event after split
  -- What the task may ask tells whether its change is an edit.
  have may : Permits operation _ _ := may
  rw [present, Option.map_some]
  cases written : event.exchange.write? with
  | none => cases operation <;> rfl
  | some write =>
    cases write with
    | creation _ _ _ | deletion _ _ => cases operation <;> rfl
    | commit other patch result =>
      rw [Exchange.request_of_commit written] at may
      cases operation with
      | update _ user style =>
        obtain ⟨rfl, now, rfl⟩ := may
        simp [Write.label?, Patch.relabel]
      | _ =>
        have keeps : patch.style = .keep := may
        simp [Write.label?, keeps, StyleEdit.label?]

def Accepts (setting : Setting) (terms : Quota.Terms) (scene : Scene) (id : ConversionId)
    (task : Nat) (style : Option String) (updated : Conversion) : Prop :=
  ∃ before event after now stored earlier next,
    scene.history = before ++ event :: after ∧ event.task = task
    ∧ event.exchange.write? = some (.commit id (.relabel style now) updated)
    ∧ Run setting (.opened terms) earlier ∧ earlier.history = before
    ∧ Step setting earlier next ∧ Run setting next scene
    ∧ earlier.store.conversions.get? id = some stored ∧ stored.status = .pending
    ∧ updated = { stored with style := style, updatedAt := now }
    ∧ next.store.conversions.get? id = some updated

theorem accepts_of_commit (run : Run setting (.opened terms) scene) {style : Option String}
    {now : Timestamp} {updated : Conversion}
    (member : .commit id (.relabel style now) updated ∈ (scene.history.log task).writes) :
    Accepts setting terms scene id task style updated := by
  obtain ⟨event, inside, same, written⟩ := History.mem_writes_log_iff.1 member
  obtain ⟨before, after, split⟩ := List.append_of_mem inside
  obtain ⟨earlier, next, start, goesOn, step, sofar, reacts⟩ := scene_of_split run split
  rcases reacts.conversions with ⟨still, -⟩ | ⟨write, written', applies⟩
  · cases written.symm.trans still
  obtain rfl := Option.some.inj (written.symm.trans written')
  have stands := applies.leaves
  generalize conversions : next.store.conversions = later at applies stands
  cases applies with
  | @commit _ _ stored _ present expected patched =>
    obtain ⟨-, -, rfl⟩ := Store.patched_eq_ok_iff.1 patched
    refine ⟨before, event, after, now, stored, earlier, next, split, same, written, start, sofar,
      step, goesOn, present, expected, ?_, conversions ▸ stands⟩
    simp [Conversion.apply, Patch.relabel]

theorem commit_of_accepts {style : Option String} {updated : Conversion}
    (accepts : Accepts setting terms scene id task style updated) :
    ∃ now, .commit id (.relabel style now) updated ∈ (scene.history.log task).writes := by
  obtain ⟨before, event, after, now, _, _, _, split, same, written, -⟩ := accepts
  exact ⟨now, History.mem_writes_log_iff.2 ⟨event, by simp [split], same, written⟩⟩

structure Styled (setting : Setting) (terms : Quota.Terms) (scene : Scene) (id : ConversionId) :
    Prop where
  /-- The last edit that was accepted tells the style, and else the creation does. -/
  recorded : ∀ stored, scene.store.conversions.get? id = some stored →
    ∃ origin, scene.history.origin? id = some origin
      ∧ stored.style = (accepted scene id).getLast?.getD origin.style
  /-- An edit succeeds exactly if it was accepted, and then answers with the record as it became. -/
  answered : ∀ task user style result,
    scene.tasks[task]? = some ⟨.update id user style, .done result⟩ →
    ∀ updated, result = .ok updated ↔ Accepts setting terms scene id task style updated
  /-- What the processor was asked for has the style that the record has since. -/
  processed : ∀ event ∈ scene.history, ∀ work, event.exchange.request = .process work →
    work.conversion = id → ∀ stored, scene.store.conversions.get? id = some stored →
      stored.style = work.style

/-- Whatever is done about a record, and in what order, no edit of its style is lost. -/
theorem styles_kept (run : Run setting (.opened terms) scene) (id : ConversionId) :
    Styled setting terms scene id := by
  have orderly : (protocol setting terms).Orderly scene := Protocol.orderly_of_run run
  have labelled : Record.Labelled scene.store.conversions scene.history id := orderly.invariant id
  refine ⟨?recorded, ?answered, ?processed⟩
  case recorded =>
    intro stored present
    obtain ⟨-, origin, made, style⟩ := labelled.stored stored present
    rw [accepted_eq_labels orderly]
    exact ⟨origin, made, style⟩
  case answered =>
    intro task user style result done updated
    rcases update_cases (comes_of_run run task _ done).yields with
      ⟨idle, failure, rfl⟩ | ⟨now, became, writes, rfl⟩
    · refine iff_of_false nofun fun accepts => ?_
      obtain ⟨now, member⟩ := commit_of_accepts accepts
      rw [idle] at member
      cases member
    · constructor
      · rintro ⟨⟩
        exact accepts_of_commit run (writes ▸ List.mem_singleton_self _)
      · intro accepts
        obtain ⟨now, member⟩ := commit_of_accepts accepts
        rw [writes] at member
        cases List.mem_singleton.1 member
        rfl
  case processed =>
    rintro event member work asked rfl stored present
    obtain ⟨before, after, split⟩ := List.append_of_mem member
    obtain ⟨worker, -, -, may, -⟩ := orderly.followed before event after split
    have may : Permits worker.operation _ _ := may
    rw [asked] at may
    -- Its own task has taken the record up before, and since then no label was put on.
    obtain ⟨id, patch, started, commit, starts, rfl⟩ := may
    obtain ⟨taking, early, -, written⟩ := History.mem_writes_log_iff.1 commit
    have inside : .commit id patch started ∈ scene.history.writes :=
      List.mem_filterMap.2 ⟨taking, split ▸ List.mem_append_left _ early, written⟩
    obtain ⟨named, keeps⟩ := (orderly.invariant id).started patch started inside starts
    exact (keeps stored (named ▸ present)).1

def asks? (event : Event) : Option ConversionId :=
  match event.exchange.request with
  | .process work => some work.conversion
  | _ => none

theorem asks?_eq_some {event : Event} (asked : asks? event = some id) :
    ∃ work, event.exchange.request = .process work ∧ work.conversion = id := by
  unfold asks? at asked
  split at asked
  · rename_i work same
    exact ⟨work, same, Option.some.inj asked⟩
  · cases asked

theorem styles_kept_of_edited :
    let id : ConversionId := ⟨.ofNat 2⟩
    Run (Record.setting ⟨.ofFallback .standard, {}, false⟩) (.opened ⟨"free", 1⟩) Record.edited
      ∧ accepted Record.edited id = [some "ink", some "oil"]
      ∧ (∃ stored, Record.edited.store.conversions.get? id = some stored
        ∧ stored.style = some "oil")
      ∧ ∃ event ∈ Record.edited.history, ∃ work, event.exchange.request = .process work
        ∧ work.style = some "oil" := by
  intro id
  have run : Run (Record.setting ⟨.ofFallback .standard, {}, false⟩) (.opened ⟨"free", 1⟩)
      Record.edited := run_play fun _ _ => trivial
  have both : accepted Record.edited id = [some "ink", some "oil"] := by decide +kernel
  have there : (Record.edited.store.conversions.get? id).isSome = true := by decide +kernel
  have worked : Record.edited.history.any (fun event => asks? event = some id) = true := by
    decide +kernel
  have styled := styles_kept run id
  obtain ⟨stored, present⟩ := Option.isSome_iff_exists.1 there
  obtain ⟨origin, -, style⟩ := styled.recorded stored present
  rw [both] at style
  obtain ⟨event, member, asked⟩ := List.any_eq_true.1 worked
  obtain ⟨work, request, same⟩ := asks?_eq_some (of_decide_eq_true asked)
  exact ⟨run, both, ⟨stored, present, style⟩, event, member, work, request,
    (styled.processed event member work request same stored present).symm.trans style⟩

end Scenes

end Restyle

end TryOn
