import TryOn.Proofs.Interleaving.Quiet
import TryOn.Proofs.Interleaving.Scene

/-! What the operations ask for that neither run the processor nor take a step of their caller's
choice: of the conversions they make new ones, and change or remove those that are not being
processed. -/

set_option autoImplicit false

namespace TryOn

open TryOn.Action (asks_request asks_orFail asks_store)

/-- Whether a request hands in no patch: it makes a conversion, removes one that is not being
processed, or leaves all as they are. -/
inductive Request.IsFree : Request → Prop
  | quiet {request : Request} (quiet : request.IsQuiet) : IsFree request
  | create {draft : Draft} (checked : draft.check = .ok ()) : IsFree (.store (.create draft))
  | delete {id : ConversionId} {expected : Status} (apart : expected ≠ .processing) :
    IsFree (.store (.delete id expected))

inductive Request.IsPlain : Request → Prop
  | free {request : Request} (free : request.IsFree) : IsPlain request
  | cancel {id : ConversionId} {current : Conversion} {now : Timestamp} {patch : Patch}
    (planned : current.plan .cancel now = .ok patch) : IsPlain (.store (.update id patch))
  | restyle {id : ConversionId} {style : Option String} {now : Timestamp} {patch : Patch}
    (valid : Patch.restyle style now = .ok patch) : IsPlain (.store (.update id patch))

theorem Request.IsQuiet.plain {request : Request} (quiet : request.IsQuiet) : request.IsPlain :=
  .free (.quiet quiet)

namespace Request.IsPlain

theorem create {draft : Draft} (plain : IsPlain (.store (.create draft))) :
    draft.check = .ok () := by
  cases plain with
  | free free =>
    cases free with
    | quiet quiet => exact quiet.elim
    | create checked => exact checked

theorem delete {id : ConversionId} {expected : Status}
    (plain : IsPlain (.store (.delete id expected))) : expected ≠ .processing := by
  cases plain with
  | free free =>
    cases free with
    | quiet quiet => exact quiet.elim
    | delete apart => exact apart

theorem not_process (work : ProcessRequest) : ¬ IsPlain (.process work) := by
  rintro (⟨⟨quiet⟩⟩)
  exact quiet.elim

end Request.IsPlain

namespace Action

variable {α : Type}

theorem Asks.free {action : Action α} (quiet : action.Asks Request.IsQuiet) :
    action.Asks Request.IsFree :=
  Program.Asks.mono quiet fun _ => .quiet

theorem Asks.plain {action : Action α} (quiet : action.Asks Request.IsQuiet) :
    action.Asks Request.IsPlain :=
  Program.Asks.mono quiet fun _ => Request.IsQuiet.plain

theorem asks_orFail_bind {β ε : Type} {allowed : Request → Prop} (report : ε → Failure)
    {result : Except ε α} {next : α → Action β}
    (accepted : ∀ value, result = .ok value → (next value).Asks allowed) :
    (orFail report result >>= next).Asks allowed := by
  cases result with
  | ok value => exact accepted value rfl
  | error failure => exact trivial

theorem asks_tryCatch {allowed : Request → Prop} {action : Action α}
    {handler : Failure → Action α} (first : action.Asks allowed)
    (later : ∀ failure, (handler failure).Asks allowed) :
    (tryCatch action handler).Asks allowed := by
  unfold Asks at *
  rw [ExceptT.run_tryCatch]
  refine first.bind fun result => ?_
  cases result with
  | ok value => exact trivial
  | error failure => exact later failure

end Action

namespace Service

variable (service : Service)

theorem free_admission (user : UserId) (request : AdmissionRequest) :
    (service.admission user request).Asks Request.IsFree := by
  refine (asks_request (.quiet trivial)).bind fun allowed => ?_
  refine (asks_orFail _ _).bind fun _ => ?_
  refine (silent_resolveImage service request.source).quiet.free.bind fun source => .ite trivial ?_
  refine (silent_resolveImage service request.target).quiet.free.bind fun target => .ite trivial ?_
  refine Action.asks_orFail_bind _ fun _ checked => ?_
  refine (asks_store (.create checked)).bind fun created => ?_
  exact (asks_request (.quiet trivial)).bind fun _ => trivial

theorem free_create (user : UserId) (request : AdmissionRequest) :
    (service.create user request).Asks Request.IsFree := by
  refine Action.Asks.bind (Action.asks_tryCatch (service.free_admission user request) ?_) ?_
  · intro failure
    exact .ite ((asks_request (.quiet trivial)).bind fun _ => trivial) trivial
  · intro created
    refine (asks_request (.quiet trivial)).bind fun _ => ?_
    refine (quiet_audit _ _ _ _).free.bind fun _ => ?_
    refine (service.quiet_notify _).free.bind fun _ => ?_
    exact (Action.asks_lift (silent_dispatch _ _)).quiet.free.bind fun _ => trivial

theorem free_delete (id : ConversionId) (user : UserId) :
    (delete id user).Asks Request.IsFree := by
  refine (silent_get id user).quiet.free.bind fun current => ?_
  by_cases running : current.status = .processing
  · rw [if_pos running]
    exact trivial
  · rw [if_neg running]
    refine (asks_request (.delete running)).bind fun deleted => ?_
    exact (asks_orFail _ _).bind fun _ => (quiet_audit _ _ _ _).free

theorem plain_update (id : ConversionId) (user : UserId) (style : Option String) :
    (update id user style).Asks Request.IsPlain := by
  refine (silent_get id user).quiet.plain.bind fun current => .ite trivial ?_
  refine (asks_request (.free (.quiet trivial))).bind fun now => ?_
  refine Action.asks_orFail_bind _ fun patch valid => ?_
  refine (asks_request (.restyle valid)).bind fun updated => ?_
  refine (asks_orFail _ _).bind fun conversion => ?_
  exact (quiet_audit _ _ _ _).plain.bind fun _ => trivial

theorem plain_cancel (id : ConversionId) (user : UserId) :
    (service.cancel id user).Asks Request.IsPlain := by
  refine (silent_get id user).quiet.plain.bind fun current => .ite trivial ?_
  refine (asks_request (.free (.quiet trivial))).bind fun now => ?_
  refine Action.asks_orFail_bind _ fun patch planned => ?_
  refine (asks_request (.cancel planned)).bind fun updated => ?_
  refine (asks_orFail _ _).bind fun conversion => ?_
  refine (quiet_audit _ _ _ _).plain.bind fun _ => ?_
  exact (service.quiet_notify _).plain.bind fun _ => trivial

end Service

namespace Interleaving.Operation

def IsSilent : Operation → Prop
  | .get _ _ | .status _ _ | .list _ _ | .watch _ _ _ _ => True
  | .quota _ | .grant _ _ | .setPlan _ _ _ => True
  | _ => False

theorem silent_action (service : Service) {operation : Operation} (silent : operation.IsSilent) :
    (operation.action service).Asks Request.IsSilent := by
  cases operation with
  | get id user => exact Service.silent_get id user
  | status id user => exact Service.silent_status id user
  | list filter pagination => exact Service.silent_list filter pagination
  | watch id user timeout poll => exact service.silent_watch id user timeout poll
  | quota user => exact Service.silent_quota user
  | grant user credits => exact Service.silent_grant user credits
  | setPlan user plan limit =>
    -- Unfolded further, the program would be stuck at the name of the plan.
    dsimp only [action]
    with_reducible exact Service.silent_setPlan user plan limit
  | _ => exact silent.elim

def IsFree : Operation → Prop
  | .update _ _ _ | .cancel _ _ | .transition _ _ | .process _ | .executeOne _ => False
  | _ => True

theorem free_action (service : Service) {operation : Operation} (free : operation.IsFree) :
    (operation.action service).Asks Request.IsFree := by
  by_cases silent : operation.IsSilent
  · exact (silent_action service silent).quiet.free
  · cases operation with
    | create user request => exact service.free_create user request
    | delete id user => exact Service.free_delete id user
    | update _ _ _ | cancel _ _ | transition _ _ | process _ | executeOne _ => exact free.elim
    | _ => exact absurd trivial silent

end Interleaving.Operation

end TryOn
