import TryOn.Proofs.Processing.Conduct
import TryOn.Proofs.Record.Sound

/-! How the operations treat records. Nobody hands in a patch but for a record that was read
before, and of a moment that was told after that; by then the record may be another one. -/

set_option autoImplicit false

namespace TryOn

open Interleaving (Operation)

def Log.Saw (id : ConversionId) (seen : Conversion) (log : Log) : Prop :=
  ∃ exchange ∈ log, exchange.read? = some (id, .ok seen) ∧ seen.createdAt ≤ exchange.moment

namespace Record

/-- What may be asked: a draft was checked, and a patch is a lawful one for a record that was made
before. -/
def Permits (log : Log) : Request → Prop
  | .store (.create draft) => draft.check = .ok ()
  | .store (.update id patch) =>
    patch.IsLawful ∧ ∃ seen, log.Saw id seen ∧ seen.createdAt ≤ patch.updatedAt
  | _ => True

/-- What is relied on: the clock is right and does not go back, and what is read was made. -/
structure Relies (log : Log) (exchange : Exchange) : Prop where
  onward : ∀ earlier ∈ log, earlier.moment ≤ exchange.moment
  clock : ∀ time, exchange.clock? = some time → time = exchange.moment
  made : ∀ id seen, exchange.read? = some (id, .ok seen) → seen.createdAt ≤ exchange.moment

def conduct : Conduct := ⟨Permits, Relies⟩

/-- An action that keeps to the conduct, whatever was asked before it. -/
def Upholds {α : Type} (action : Action α) : Prop :=
  ∀ log, action.Keeps conduct (fun _ _ => True) (fun _ _ => True) log

variable {α β : Type}

theorem permits_of_free {request : Request} (log : Log) (free : request.IsFree) :
    Permits log request := by
  cases free with
  | create checked => exact checked
  | delete _ => trivial
  | quiet quiet =>
    cases request with
    | store call => cases call <;> trivial
    | _ => trivial

theorem permits_of_serves {work : ProcessRequest} {request : Request} (log : Log)
    (serves : request.Serves work) : Permits log request := by
  cases request with
  | store _ => exact serves.elim
  | _ => trivial

theorem Upholds.bind {action : Action α} {next : α → Action β} (first : Upholds action)
    (later : ∀ value, Upholds (next value)) : Upholds (action >>= next) := by
  intro log
  refine Action.keeps_bind.2 ((first log).mono ?_ fun _ _ _ => trivial)
  exact fun log value _ => later value log

theorem Upholds.ite {condition : Prop} [Decidable condition] {first second : Action α}
    (yes : Upholds first) (no : Upholds second) :
    Upholds (if condition then first else second) :=
  fun log => Action.keeps_ite (fun _ => yes log) fun _ => no log

theorem upholds_of_free {action : Action α} (free : action.Asks Request.IsFree) :
    Upholds action := by
  intro log
  refine Program.Asks.keeps free (fun part _ request fits => permits_of_free _ fits) ?_
  intro part result _ _
  cases result <;> trivial

theorem upholds_processing (service : Service) (work : ProcessRequest) :
    Upholds (ExceptT.lift (service.processing work)) := by
  intro log
  refine Action.keeps_lift.2 (Program.Asks.keeps (service.asks_processing work) ?_ ?_)
  · exact fun part _ request serves => permits_of_serves _ serves
  · exact fun _ _ _ _ => trivial

/-- What an action with a patch amounts to: once a record was read, the clock is, and what is made
of its time is lawful. -/
theorem keeps_patching {ε : Type} {id : ConversionId} {seen : Conversion} {log : Log}
    {report : ε → Failure} {make : Timestamp → Except ε Patch} {last : Patch → Action α}
    (saw : log.Saw id seen)
    (lawful : ∀ now patch, make now = .ok patch → patch.IsLawful ∧ patch.updatedAt = now)
    (patched : ∀ log patch, Permits log (.store (.update id patch)) →
      (last patch).Keeps conduct (fun _ _ => True) (fun _ _ => True) log) :
    Action.Keeps conduct (fun _ _ => True) (fun _ _ => True)
      (Action.wallClock >>= fun now => Action.orFail report (make now) >>= last) log := by
  refine Action.keeps_bind.2 (Action.keeps_request.2 ⟨trivial, fun moment now relied => ?_⟩)
  refine Action.keeps_bind.2 (Action.keeps_orFail.2 ?_)
  cases made : make now with
  | error failure => trivial
  | ok patch =>
    obtain ⟨fits, dated⟩ := lawful now patch made
    obtain ⟨exchange, member, read, earlier⟩ := saw
    -- The clock was asked after the record was read, so it cannot show an earlier moment.
    refine patched _ patch ⟨fits, seen, ?_, ?_⟩
    · exact ⟨exchange, List.mem_append_left _ member, read, earlier⟩
    · rw [dated, relied.clock now rfl]
      exact Timestamp.le_trans earlier (relied.onward exchange member)

theorem keeps_get (id : ConversionId) (user : UserId) (log : Log) :
    (Service.get id user).Keeps conduct (fun log seen => log.Saw id seen)
      (fun _ _ => True) log := by
  refine Action.keeps_bind.2 (Action.keeps_store.2 ⟨trivial, fun moment answer relied => ?_⟩)
  rcases answer with failure | seen
  · trivial
  · refine Action.keeps_ite (fun _ => ?_) fun _ => trivial
    exact ⟨_, List.mem_append_right _ List.mem_cons_self, rfl, relied.made id seen rfl⟩

variable (service : Service) (id : ConversionId)

theorem upholds_attemptStep (transition : Transition) :
    Upholds (Service.attemptStep id transition) := by
  intro log
  refine Action.keeps_bind.2 (Action.keeps_store.2 ⟨trivial, fun moment answer relied => ?_⟩)
  rcases answer with failure | seen
  · trivial
  · have saw : Log.Saw id seen (log ++ [⟨moment, .store (.get id), .ok seen⟩]) :=
      ⟨_, List.mem_append_right _ List.mem_cons_self, rfl, relied.made id seen rfl⟩
    refine keeps_patching saw ?_ ?_
    · exact fun now patch planned => ⟨.planned planned, Conversion.plan_updatedAt planned⟩
    · exact fun log patch permitted => Action.keeps_request.2 ⟨permitted, fun _ _ _ => trivial⟩

theorem upholds_transition (transition : Transition) :
    Upholds (Service.transition id transition) := by
  unfold Service.transition
  generalize Service.maxPlans - 1 = left
  induction left with
  | zero =>
    unfold Service.transitionFrom
    refine (upholds_attemptStep id transition).bind fun result log => ?_
    rcases result with failure | conversion <;> trivial
  | succ left ih =>
    -- Who comes too late begins again with a look at the record, so the log may be any.
    unfold Service.transitionFrom
    refine (upholds_attemptStep id transition).bind fun result log => ?_
    rcases result with failure | conversion
    · cases failure with
      | statusConflict _ _ _ => exact ih log
      | _ => trivial
    · trivial

theorem upholds_notify (notice : Notice) : Upholds (ExceptT.lift (service.notify notice)) :=
  upholds_of_free (service.quiet_notify notice).free

theorem upholds_audit (action : AuditAction) (user : UserId) (metadata : Data) :
    Upholds (Action.audit action user id metadata) :=
  upholds_of_free (Service.quiet_audit action user id metadata).free

theorem upholds_request (request : Request) (quiet : request.IsQuiet) :
    Upholds (Action.request request) :=
  upholds_of_free (Action.asks_request (.quiet quiet))

theorem upholds_pure (value : α) : Upholds (pure value) := fun _ => trivial

theorem upholds_update (user : UserId) (style : Option String) :
    Upholds (Service.update id user style) := by
  intro log
  refine Action.keeps_bind.2 ((keeps_get id user log).mono ?_ fun _ _ _ => trivial)
  refine fun log seen saw => Action.keeps_ite (fun _ => trivial) fun _ => ?_
  refine keeps_patching saw ?_ fun log patch permitted => ?_
  · intro now patch valid
    obtain ⟨rfl, fits⟩ := Patch.restyle_eq_ok valid
    exact ⟨.relabelled fits, rfl⟩
  · refine Action.keeps_bind.2 (Action.keeps_request.2 ⟨permitted, fun moment answer _ => ?_⟩)
    rcases answer with failure | updated
    · trivial
    · exact (upholds_audit id _ user _).bind (fun _ => upholds_pure updated) _

theorem upholds_cancel (user : UserId) : Upholds (service.cancel id user) := by
  intro log
  refine Action.keeps_bind.2 ((keeps_get id user log).mono ?_ fun _ _ _ => trivial)
  refine fun log seen saw => Action.keeps_ite (fun _ => trivial) fun _ => ?_
  refine keeps_patching saw ?_ fun log patch permitted => ?_
  · exact fun now patch planned => ⟨.planned planned, Conversion.plan_updatedAt planned⟩
  · refine Action.keeps_bind.2 (Action.keeps_request.2 ⟨permitted, fun moment answer _ => ?_⟩)
    rcases answer with failure | updated
    · trivial
    · refine (upholds_audit id _ user _).bind (fun _ => ?_) _
      exact (upholds_notify service _).bind fun _ => upholds_pure updated

theorem upholds_process : Upholds (service.process id) := by
  refine (upholds_transition id .start).bind fun conversion => ?_
  refine (upholds_request .now trivial).bind fun started => ?_
  refine (upholds_processing service _).bind fun outcome => ?_
  cases outcome with
  | error failure =>
    refine (upholds_transition id _).bind fun conversion => ?_
    refine (upholds_request (.count _) trivial).bind fun _ => ?_
    refine (upholds_notify service _).bind fun _ => ?_
    exact (upholds_audit id _ _ _).bind fun _ => upholds_pure conversion
  | ok result =>
    refine (upholds_request .now trivial).bind fun finished => ?_
    refine (upholds_transition id _).bind fun conversion => ?_
    refine (upholds_request (.count _) trivial).bind fun _ => ?_
    refine (upholds_notify service _).bind fun _ => ?_
    exact (upholds_audit id _ _ _).bind fun _ => upholds_pure conversion

theorem upholds_executeOne : Upholds (service.executeOne id) := by
  refine (upholds_request (.store (.get id)) trivial).bind fun answer => ?_
  rcases answer with failure | conversion
  · cases failure <;> exact fun _ => trivial
  · refine .ite (fun _ => trivial) fun log => ?_
    refine Action.keeps_bind.2 (Action.keeps_lift.2 ?_)
    refine Program.Keeps.mono (upholds_process service id log) fun log result _ => ?_
    rcases result with failure | done
    · cases failure <;> trivial
    · trivial

theorem upholds_action (operation : Operation) : Upholds (operation.action service) := by
  by_cases free : operation.IsFree
  · exact upholds_of_free (Operation.free_action service free)
  · cases operation with
    | update id user style => exact upholds_update id user style
    | cancel id user => exact upholds_cancel service id user
    | transition id step => exact upholds_transition id step
    | process id => exact upholds_process service id
    | executeOne id => exact upholds_executeOne service id
    | _ =>
      exfalso
      exact free trivial

end Record

end TryOn
