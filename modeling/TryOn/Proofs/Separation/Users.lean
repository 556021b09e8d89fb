import TryOn.Proofs.Interleaving.Plain
import TryOn.Proofs.Separation.Engine

/-! Users apart from each other. Before a record is touched it is looked at, and unless it is the
caller's there is nothing more to it: a record of somebody else is as good as none. -/

set_option autoImplicit false

namespace TryOn

open TryOn.Action (asks_request asks_orFail asks_store)

def Request.IsLook (id : ConversionId) : Request → Prop
  | .store (.get target) | .poll target _ => target = id
  | .now => True
  | _ => False

section

variable {user : UserId} {known : ConversionId → Prop} {fresh : ConversionId}

theorem Request.IsOutward.within {request : Request} (outward : request.IsOutward) :
    request.IsWithin user known fresh := by
  cases request with
  | store _ | poll _ _ | checkRate _ | recordRate _ | process _ => exact outward.elim
  | _ => exact trivial

theorem Action.Asks.within {α : Type} {action : Action α} (asks : action.Asks Request.IsOutward) :
    action.Asks (Request.IsWithin user known fresh) :=
  Program.Asks.mono asks fun _ => Request.IsOutward.within

end

namespace Service

section

variable (service : Service) (user : UserId) {known : ConversionId → Prop} {fresh : ConversionId}

theorem within_admission (request : AdmissionRequest) (new : known fresh) :
    (service.admission user request).Asks (Request.IsWithin user known fresh) := by
  have checks : Request.IsWithin user known fresh (.checkRate user) := rfl
  have reserves : Request.IsWithin user known fresh (.store (.create (request.draft user))) :=
    ⟨rfl, new⟩
  have records : Request.IsWithin user known fresh (.recordRate user) := rfl
  refine (asks_request checks).bind fun allowed => (asks_orFail _ _).bind fun _ => ?_
  refine (service.outward_resolveImage request.source).within.bind fun source => .ite trivial ?_
  refine (service.outward_resolveImage request.target).within.bind fun target => .ite trivial ?_
  refine (asks_orFail _ _).bind fun _ => ?_
  exact (asks_store reserves).bind fun created => (asks_request records).bind fun _ => trivial

theorem within_list {filter : Listing.Filter} (mine : filter.user = user)
    (pagination : Listing.Pagination) :
    (list filter pagination).Asks (Request.IsWithin user known fresh) := by
  have lists : Request.IsWithin user known fresh (.store (.list filter pagination)) := mine
  exact asks_store lists

theorem within_quota : (quota user).Asks (Request.IsWithin user known fresh) := by
  have looks : Request.IsWithin user known fresh (.store (.balance user)) := rfl
  exact asks_store looks

theorem within_grant (credits : Nat) :
    (grant user credits).Asks (Request.IsWithin user known fresh) := by
  have grants : Request.IsWithin user known fresh (.store (.grant user credits)) := rfl
  exact .ite trivial (asks_store grants)

theorem within_setPlan (plan : String) (monthlyLimit : Nat) :
    (setPlan user plan monthlyLimit).Asks (Request.IsWithin user known fresh) := by
  unfold setPlan
  generalize Text.trim plan = plan
  have sets : Request.IsWithin user known fresh (.store (.setPlan user plan monthlyLimit)) := rfl
  exact .ite trivial (asks_store sets)

theorem within_create (request : AdmissionRequest) (new : known fresh) :
    (service.create user request).Asks (Request.IsWithin user known fresh) := by
  refine (Action.asks_tryCatch (service.within_admission user request new) fun failure => ?_).bind
    fun created => ?_
  · exact .ite ((asks_request trivial).bind fun _ => trivial) trivial
  · refine (asks_request trivial).bind fun _ => ?_
    refine (outward_audit _ _ _ _).within.bind fun _ => ?_
    refine (service.outward_notify _).within.bind fun _ => ?_
    exact (outward_dispatch _ _).within.bind fun _ => trivial

end

theorem run_get_bind {β : Type} (id : ConversionId) (user : UserId) (next : Conversion → Action β) :
    (get id user >>= next).run = .ask (.store (.get id)) fun answer =>
      match answer with
      | .ok conversion =>
        if conversion.isOwnedBy user then (next conversion).run else .done (.error (.notFound id))
      | .error failure => .done (.error (.ofStore failure)) := by
  unfold get
  show Program.ask _ _ = _
  congr
  funext answer
  cases answer with
  | error failure => rfl
  | ok conversion =>
    let guarded : Action Conversion :=
      if Conversion.isOwnedBy conversion user then pure conversion else throw (.notFound id)
    show guarded.run.bind (ExceptT.bindCont next) = ite _ _ _
    by_cases owned : Conversion.isOwnedBy conversion user = true
    · rw [show guarded = pure conversion from if_pos owned, if_pos owned]
      rfl
    · rw [show guarded = throw (.notFound id) from if_neg owned, if_neg owned]
      rfl

def watchOn (grace : Duration) (id : ConversionId) (options : WatchOptions) (started : Instant)
    (seen : Conversion) : Action Conversion :=
  let period := max options.pollInterval WatchOptions.minPollInterval
  let watching : Watching := ⟨id, grace, period, started + options.timeout⟩
  if seen.isTerminal then pure seen
  else watching.lookFrom (options.timeout / period + 2) (started + period) seen

theorem run_watchFor (grace : Duration) (id : ConversionId) (user : UserId)
    (options : WatchOptions) :
    (watchFor grace id user options).run = .ask .now fun (started : Instant) =>
      .ask (.poll id ⟨true, some (started + options.timeout)⟩) fun looked =>
        match looked with
        | none => .done (.error .cancelled)
        | some (.error failure) => .done (.error (.ofStore failure))
        | some (.ok conversion) =>
          if conversion.isOwnedBy user then (watchOn grace id options started conversion).run
          else .done (.error (.notFound id)) := by
  unfold watchFor
  show Program.ask _ _ = _
  congr
  funext started
  show Program.ask _ _ = _
  congr
  funext looked
  rcases looked with - | failure | conversion
  · rfl
  · rfl
  · show ExceptT.run (ite _ _ _) = ite _ _ _
    cases owned : conversion.isOwnedBy user with
    | true => simp [watchOn]
    | false => simp

end Service

namespace Engine

variable {β : Type} {user : UserId} {id : ConversionId} {engine first second : Engine}
  {surroundings : Surroundings}

theorem get_of_record? {conversion : Conversion} {store : Store}
    (own : store.record? user id = some conversion) :
    store.get id = .ok conversion ∧ conversion.isOwnedBy user = true := by
  obtain ⟨found, owned⟩ := Option.filter_eq_some_iff.1 own
  exact ⟨by rw [Store.get, found], owned⟩

theorem get_of_no_record? {store : Store} (absent : store.record? user id = none) :
    store.get id = .error (.notFound id)
      ∨ ∃ conversion, store.get id = .ok conversion ∧ conversion.isOwnedBy user = false := by
  unfold Store.get
  cases found : store.conversions.get? id with
  | none => exact .inl rfl
  | some conversion =>
    refine .inr ⟨conversion, rfl, ?_⟩
    simpa [Store.record?, found] using absent

theorem react_get (engine : Engine) (respond : (request : Request) → request.Answer) (turn : Turn)
    (id : ConversionId) :
    engine.react respond turn (.store (.get id)) = (engine.store.get id, engine) :=
  rfl

theorem react_poll (engine : Engine) (respond : (request : Request) → request.Answer) (turn : Turn)
    (id : ConversionId) (stop : Stop) :
    engine.react respond turn (.poll id stop) = (some (engine.store.get id), engine) :=
  rfl

theorem react_now (engine : Engine) (respond : (request : Request) → request.Answer)
    (turn : Turn) : engine.react respond turn .now = (respond .now, engine) :=
  rfl

theorem isClear_of_record? {conversion : Conversion} {store : Store}
    (own : store.record? user id = some conversion) : store.IsClear user (· = id) := by
  rintro _ rfl
  exact (Option.filter_eq_some_iff.1 own).1.trans own.symm

/-- A program that first looks for a record of the user: without one it is at its end, and with one
it makes no request but within what is known to be the user's. -/
structure Guards (surroundings : Surroundings) (user : UserId) (id : ConversionId)
    (looks : List Request) (program : Program (Except Failure β)) : Prop where
  onlyLooks : ∀ request ∈ looks, request.IsLook id
  refuses : ∀ engine : Engine, engine.store.record? user id = none →
    serve surroundings program 0 engine = ⟨looks, engine, .error (.notFound id)⟩
  admits : ∀ conversion, ∃ rest : Program (Except Failure β),
    rest.Asks (Request.IsWithin user (· = id) surroundings.fresh)
      ∧ ∀ engine : Engine, engine.store.record? user id = some conversion →
        let served := serve surroundings rest looks.length engine
        serve surroundings program 0 engine
          = ⟨looks ++ served.requests, served.engine, served.result⟩

theorem Guards.separate {looks : List Request} {program : Program (Except Failure β)}
    (guards : Guards surroundings user id looks program) (agrees : first.AgreesOn user second) :
    Separate user first second (serve surroundings program 0 first)
      (serve surroundings program 0 second) := by
  have same := agrees.store.record id
  cases own : first.store.record? user id with
  | none =>
    -- Neither engine has a record of the user there, so both runs end at once.
    rw [guards.refuses first own, guards.refuses second (same.symm.trans own)]
    exact ⟨rfl, rfl, agrees, fun other _ => ⟨.refl other first, .refl other second⟩⟩
  | some conversion =>
    -- Both have the same, so what is left to do is the same and within what is the user's.
    have own' := same.symm.trans own
    obtain ⟨rest, asks, admits⟩ := guards.admits conversion
    have separate := separate_of_asks asks agrees (isClear_of_record? own)
      (isClear_of_record? own') looks.length
    rw [admits first own, admits second own']
    exact ⟨separate.result, congrArg (looks ++ ·) separate.requests, separate.agrees,
      separate.others⟩

theorem guards_get_bind {next : Conversion → Action β}
    (asks : ∀ conversion,
      (next conversion).Asks (Request.IsWithin user (· = id) surroundings.fresh)) :
    Guards surroundings user id [.store (.get id)] (Service.get id user >>= next).run where
  onlyLooks := by simp [Request.IsLook]
  refuses engine absent := by
    rw [Service.run_get_bind, serve_ask, react_get]
    rcases get_of_no_record? absent with missing | ⟨conversion, found, foreign⟩
    · rw [missing]
      rfl
    · simp [found, foreign, serve]
  admits conversion := by
    refine ⟨(next conversion).run, asks conversion, fun engine own => ?_⟩
    obtain ⟨found, owned⟩ := get_of_record? own
    rw [Service.run_get_bind, serve_ask, react_get, found]
    simp [owned]

theorem asks_watchOn (grace : Duration) (options : WatchOptions) (started : Instant)
    (seen : Conversion) :
    (Service.watchOn grace id options started seen).Asks
      (Request.IsWithin user (· = id) surroundings.fresh) :=
  .ite trivial (Service.asks_lookFrom trivial (fun _ => rfl) (fun _ _ => trivial) _ _ _)

theorem guards_watchFor (grace : Duration) (options : WatchOptions) :
    Guards surroundings user id
      [.now, .poll id ⟨true, some ((surroundings.respond 0 .now : Instant) + options.timeout)⟩]
      (Service.watchFor grace id user options).run where
  onlyLooks := by simp [Request.IsLook]
  refuses engine absent := by
    rw [Service.run_watchFor, serve_ask, react_now, serve_ask, react_poll]
    rcases get_of_no_record? absent with missing | ⟨conversion, found, foreign⟩
    · rw [missing]
      rfl
    · simp [found, foreign, serve]
  admits conversion := by
    refine ⟨_, asks_watchOn grace options (surroundings.respond 0 .now) conversion,
      fun engine own => ?_⟩
    obtain ⟨found, owned⟩ := get_of_record? own
    rw [Service.run_watchFor, serve_ask, react_now, serve_ask, react_poll, found]
    simp [owned]

theorem guards_get :
    Guards surroundings user id [.store (.get id)] (Service.get id user).run := by
  rw [← bind_pure (Service.get id user)]
  exact guards_get_bind fun _ => trivial

theorem guards_status :
    Guards surroundings user id [.store (.get id)] (Service.status id user).run :=
  guards_get_bind fun _ => trivial

theorem guards_update (style : Option String) :
    Guards surroundings user id [.store (.get id)] (Service.update id user style).run := by
  refine guards_get_bind fun current => .ite trivial ?_
  refine (asks_request trivial).bind fun now => (asks_orFail _ _).bind fun patch => ?_
  have updates : Request.IsWithin user (· = id) surroundings.fresh (.store (.update id patch)) :=
    rfl
  refine (asks_request updates).bind fun updated => (asks_orFail _ _).bind fun conversion => ?_
  exact (Service.outward_audit _ _ _ _).within.bind fun _ => trivial

theorem guards_cancel (service : Service) :
    Guards surroundings user id [.store (.get id)] (service.cancel id user).run := by
  refine guards_get_bind fun current => .ite trivial ?_
  refine (asks_request trivial).bind fun now => (asks_orFail _ _).bind fun patch => ?_
  have updates : Request.IsWithin user (· = id) surroundings.fresh (.store (.update id patch)) :=
    rfl
  refine (asks_request updates).bind fun updated => (asks_orFail _ _).bind fun conversion => ?_
  refine (Service.outward_audit _ _ _ _).within.bind fun _ => ?_
  exact (service.outward_notify _).within.bind fun _ => trivial

theorem guards_delete :
    Guards surroundings user id [.store (.get id)] (Service.delete id user).run := by
  refine guards_get_bind fun current => .ite trivial ?_
  have deletes : Request.IsWithin user (· = id) surroundings.fresh
      (.store (.delete id current.status)) := rfl
  refine (asks_request deletes).bind fun deleted => (asks_orFail _ _).bind fun _ => ?_
  exact (Service.outward_audit _ _ _ _).within

end Engine

namespace Interleaving.Operation

def caller? : Operation → Option UserId
  | .create caller _ | .get _ caller | .status _ caller | .update _ caller _ | .cancel _ caller
  | .delete _ caller | .watch _ caller _ _ | .quota caller | .grant caller _
  | .setPlan caller _ _ => some caller
  | .list filter _ => some filter.user
  | .transition _ _ | .process _ | .executeOne _ => none

def subject? : Operation → Option ConversionId
  | .get id _ | .status id _ | .update id _ _ | .cancel id _ | .delete id _ | .watch id _ _ _ =>
    some id
  | _ => none

def isCreation : Operation → Bool
  | .create _ _ => true
  | _ => false

open Engine (Guards Surroundings Separate serve)

variable {user : UserId} {operation : Operation} {surroundings : Surroundings}

theorem guards_action (service : Service) (mine : operation.caller? = some user)
    {id : ConversionId} (subject : operation.subject? = some id) :
    ∃ looks, Guards surroundings user id looks (operation.action service).run := by
  cases operation with
  | get target caller =>
    cases mine
    cases subject
    exact ⟨_, Engine.guards_get⟩
  | status target caller =>
    cases mine
    cases subject
    exact ⟨_, Engine.guards_status⟩
  | update target caller style =>
    cases mine
    cases subject
    exact ⟨_, Engine.guards_update style⟩
  | cancel target caller =>
    cases mine
    cases subject
    exact ⟨_, Engine.guards_cancel service⟩
  | delete target caller =>
    cases mine
    cases subject
    exact ⟨_, Engine.guards_delete⟩
  | watch target caller timeout poll =>
    cases mine
    cases subject
    exact ⟨_, Engine.guards_watchFor _ _⟩
  | _ => cases subject

theorem within_action (service : Service) (mine : operation.caller? = some user)
    (general : operation.subject? = none) (fresh : ConversionId) :
    (operation.action service).Asks
      (Request.IsWithin user (fun id => operation.isCreation = true ∧ id = fresh) fresh) := by
  cases operation with
  | create caller request =>
    cases mine
    exact service.within_create user request ⟨rfl, rfl⟩
  | list filter pagination => exact Service.within_list user (Option.some.inj mine) pagination
  | quota caller =>
    cases mine
    exact Service.within_quota user
  | grant caller credits =>
    cases mine
    exact Service.within_grant user credits
  | setPlan caller plan limit =>
    cases mine
    -- Unfolded further, the program would be stuck at the name of the plan.
    dsimp only [action]
    with_reducible exact Service.within_setPlan user plan limit
  | transition _ _ | process _ | executeOne _ => cases mine
  | _ => cases general

/-- Let all that is a user's be the same in two engines. Then whatever the user asks for, on any
identifier, has the same result and asks the same of others in both, leaves them the same for the
user, and leaves in each what is anybody else's as it was. Without a record of the user the result
is that there is none, and nothing was done but to look, whoever else may have one there. -/
theorem users_separate (service : Service) (mine : operation.caller? = some user)
    {first second : Engine} (agrees : first.AgreesOn user second)
    (unused : operation.isCreation = true →
      first.store.conversions.get? surroundings.fresh = none
        ∧ second.store.conversions.get? surroundings.fresh = none) :
    let run := serve surroundings (operation.action service).run 0
    Separate user first second (run first) (run second)
      ∧ ∀ id, operation.subject? = some id → first.store.record? user id = none →
        (run first).result = .error (.notFound id) ∧ (run first).engine = first
          ∧ ∀ request ∈ (run first).requests, request.IsLook id := by
  intro run
  constructor
  · cases subject : operation.subject? with
    | some id =>
      obtain ⟨looks, guards⟩ := guards_action service mine subject
      exact guards.separate agrees
    | none =>
      have asks := within_action service mine subject surroundings.fresh
      refine Engine.separate_of_asks asks agrees ?_ ?_ 0 <;> rintro id ⟨creates, rfl⟩
      · simp [Store.record?, (unused creates).1]
      · simp [Store.record?, (unused creates).2]
  · intro id subject absent
    obtain ⟨looks, guards⟩ := guards_action service mine subject
    have refused : run first = ⟨looks, first, .error (.notFound id)⟩ := guards.refuses first absent
    rw [refused]
    exact ⟨rfl, rfl, guards.onlyLooks⟩

section

def owner : UserId := ⟨.ofNat 1⟩

def stranger : UserId := ⟨.ofNat 2⟩

def portrait : Image := ⟨⟨.ofNat 3⟩, .user owner, .shown⟩

def hidden : ConversionId := ⟨.ofNat 5⟩

def modest : Service := ⟨.ofFallback .standard, {}, false⟩

def idleDay : Surroundings :=
  ⟨hidden, fun _ => ⟨0, 0⟩, fun _ => 0, fun _ => obliging portrait ⟨.ofNat 6⟩⟩

def vacant : Engine := .opened ⟨"free", 1⟩ 3 (Duration.ofMillis 60000)

def submission : Operation := .create owner ⟨portrait.id, ⟨.ofNat 4⟩, none⟩

def occupied : Engine :=
  (serve idleDay (submission.action modest).run 0 vacant).engine

theorem users_separate_at_hidden_record :
    let run := serve idleDay ((Operation.cancel hidden stranger).action modest).run 0
    (occupied.store.conversions.get? hidden).isSome = true
      ∧ Separate stranger occupied vacant (run occupied) (run vacant)
      ∧ (run occupied).result = .error (.notFound hidden) ∧ (run occupied).engine = occupied := by
  intro run
  -- Of what the owner does the stranger is none the wiser.
  have made : Separate owner vacant vacant (serve idleDay (submission.action modest).run 0 vacant)
      (serve idleDay (submission.action modest).run 0 vacant) :=
    (users_separate modest rfl (.refl owner vacant) fun _ => ⟨rfl, rfl⟩).1
  have agrees : vacant.AgreesOn stranger occupied := (made.others stranger (by decide)).1
  obtain ⟨separate, refused⟩ := @users_separate stranger (.cancel hidden stranger) idleDay modest
    rfl _ _ agrees.symm nofun
  obtain ⟨result, engine, -⟩ := refused hidden rfl (by decide +kernel)
  exact ⟨by decide +kernel, separate, result, engine⟩

end

end Interleaving.Operation

end TryOn
