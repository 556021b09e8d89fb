import TryOn.Proofs.Interleaving.Conduct
import TryOn.Service.Operations

/-! Requests that leave every conversion as it is, and the parts of the service that make no
others. -/

set_option autoImplicit false

namespace TryOn

def Request.IsQuiet : Request → Prop
  | .store (.create _) | .store (.update _ _) | .store (.delete _ _) | .process _ => False
  | _ => True

def Request.IsOutward : Request → Prop
  | .store _ | .poll _ _ | .checkRate _ | .recordRate _ | .process _ => False
  | _ => True

/-- Whether a request neither changes a conversion, nor calls the processor, nor tells anybody what
has been done. -/
def Request.IsSilent : Request → Prop
  | .store (.create _) | .store (.update _ _) | .store (.delete _ _) | .process _ => False
  | .deliver _ | .post _ | .audit _ | .count _ => False
  | _ => True

theorem Request.IsSilent.quiet {request : Request} (silent : request.IsSilent) :
    request.IsQuiet := by
  cases request with
  | store call =>
    cases call with
    | create _ | update _ _ | delete _ _ => exact silent.elim
    | _ => exact trivial
  | process _ => exact silent.elim
  | _ => exact trivial

theorem Request.IsOutward.quiet {request : Request} (outward : request.IsOutward) :
    request.IsQuiet := by
  cases request with
  | store _ | process _ => exact outward.elim
  | _ => exact trivial

namespace Action

variable {α β : Type} {allowed : Request → Prop}

def Asks (allowed : Request → Prop) (action : Action α) : Prop :=
  action.run.Asks allowed

theorem Asks.bind {action : Action α} {next : α → Action β} (first : action.Asks allowed)
    (later : ∀ value, (next value).Asks allowed) : (action >>= next).Asks allowed := by
  unfold Asks at *
  rw [ExceptT.run_bind]
  refine Program.Asks.bind first fun result => ?_
  cases result with
  | ok value => exact later value
  | error failure => exact trivial

theorem Asks.ite {condition : Prop} [Decidable condition] {first second : Action α}
    (yes : first.Asks allowed) (no : second.Asks allowed) :
    (if condition then first else second).Asks allowed :=
  Program.Asks.ite yes no

theorem asks_lift {program : Program α} (asks : program.Asks allowed) :
    Asks allowed (ExceptT.lift program) := by
  show (Except.ok <$> program).Asks allowed
  rw [map_eq_pure_bind]
  exact asks.bind fun _ => trivial

theorem asks_request {request : Request} (fits : allowed request) :
    Asks allowed (Action.request request) :=
  asks_lift (Program.asks_request fits)

theorem asks_orFail {ε : Type} (report : ε → Failure) (result : Except ε α) :
    Asks allowed (orFail report result) := by
  cases result <;> trivial

theorem asks_store {call : Store.Call} (fits : allowed (.store call)) :
    Asks allowed (Action.store call) :=
  (asks_request fits).bind fun answer => asks_orFail .ofStore answer

theorem asks_audit (clock : allowed .wallClock) (entry : ∀ entry, allowed (.audit entry))
    (action : AuditAction) (user : UserId) (id : ConversionId) (metadata : Data) :
    Asks allowed (Action.audit action user id metadata) :=
  (asks_request clock).bind fun moment => asks_request (entry ⟨action, user, id, metadata, moment⟩)

theorem Asks.quiet {action : Action α} (silent : action.Asks Request.IsSilent) :
    action.Asks Request.IsQuiet :=
  Program.Asks.mono silent fun _ => Request.IsSilent.quiet

end Action

namespace Retry

theorem asks_executeFrom {α ε : Type} [Failing ε] {allowed : Request → Prop} {heedsCancel : Bool}
    {policy : Policy} {operation : Nat → Program (Except ε α)}
    (cancels : allowed .isCancelled) (waits : ∀ span stop, allowed (.wait span stop))
    (draws : ∀ bound, allowed (.draw bound))
    (attempts : ∀ attempt, (operation attempt).Asks allowed)
    (left attempt : Nat) :
    (executeFrom (.ofProgram heedsCancel) policy operation left attempt).Asks allowed := by
  have cancelled : (Means.ofProgram heedsCancel).isCancelled.Asks allowed := by
    cases heedsCancel
    · trivial
    · exact Program.asks_request cancels
  have drawn (bound : Nat) : ((Means.ofProgram heedsCancel).draw bound).Asks allowed :=
    Program.Asks.ite trivial (Program.asks_request (draws bound))
  induction left generalizing attempt with
  | zero =>
    unfold executeFrom
    refine cancelled.bind fun stop => .ite trivial ((attempts attempt).bind fun result => ?_)
    cases result with
    | ok value => trivial
    | error failure =>
      dsimp only
      cases policy.judge failure <;> trivial
  | succ left ih =>
    unfold executeFrom
    refine cancelled.bind fun stop => .ite trivial ((attempts attempt).bind fun result => ?_)
    cases result with
    | ok value => trivial
    | error failure =>
      dsimp only
      cases policy.judge failure with
      | terminal => trivial
      | retryable =>
        refine (drawn _).bind fun draw => ?_
        refine (Program.asks_request (waits _ _)).bind fun (goesOn : Bool) => ?_
        exact .ite (ih (attempt + 1)) trivial

end Retry

namespace Service

theorem outward_execute {α ε : Type} [Retry.Failing ε] {heedsCancel : Bool} {policy : Retry.Policy}
    {operation : Nat → Program (Except ε α)}
    (attempts : ∀ attempt, (operation attempt).Asks Request.IsOutward) :
    (Retry.execute (.ofProgram heedsCancel) policy operation).Asks Request.IsOutward :=
  Retry.asks_executeFrom trivial (fun _ _ => trivial) (fun _ => trivial) attempts _ _

theorem outward_resolveImage (service : Service) (id : ImageId) :
    (service.resolveImage id).Asks Request.IsOutward :=
  (Action.asks_lift (outward_execute fun _ => Program.asks_request trivial)).bind fun looked =>
    Action.asks_orFail .ofLookup looked

theorem outward_notify (service : Service) (notice : Notice) :
    Action.Asks Request.IsOutward (ExceptT.lift (service.notify notice)) := by
  refine Action.asks_lift (.ite ?_ (Program.asks_request trivial))
  exact (outward_execute fun _ => Program.asks_request trivial).bind fun _ => trivial

theorem outward_dispatch (policies : Retry.Policies) (id : ConversionId) :
    Action.Asks Request.IsOutward
      (ExceptT.lift (dispatch policies (Program.request (.enqueue id)))) := by
  refine Action.asks_lift ?_
  exact (outward_execute fun _ => Program.asks_request trivial).bind fun _ => trivial

theorem outward_audit (action : AuditAction) (user : UserId) (id : ConversionId)
    (metadata : Data) : (Action.audit action user id metadata).Asks Request.IsOutward :=
  Action.asks_audit trivial (fun _ => trivial) action user id metadata

theorem quiet_notify (service : Service) (notice : Notice) :
    Action.Asks Request.IsQuiet (ExceptT.lift (service.notify notice)) :=
  Program.Asks.mono (service.outward_notify notice) fun _ => Request.IsOutward.quiet

theorem quiet_audit (action : AuditAction) (user : UserId) (id : ConversionId) (metadata : Data) :
    (Action.audit action user id metadata).Asks Request.IsQuiet :=
  Program.Asks.mono (outward_audit action user id metadata) fun _ => Request.IsOutward.quiet

theorem silent_execute {α ε : Type} [Retry.Failing ε] {heedsCancel : Bool} {policy : Retry.Policy}
    {operation : Nat → Program (Except ε α)}
    (attempts : ∀ attempt, (operation attempt).Asks Request.IsSilent) :
    (Retry.execute (.ofProgram heedsCancel) policy operation).Asks Request.IsSilent :=
  Retry.asks_executeFrom trivial (fun _ _ => trivial) (fun _ => trivial) attempts _ _

theorem silent_resolveImage (service : Service) (id : ImageId) :
    (service.resolveImage id).Asks Request.IsSilent :=
  (Action.asks_lift (silent_execute fun _ => Program.asks_request trivial)).bind fun looked =>
    Action.asks_orFail .ofLookup looked

theorem silent_dispatch (policies : Retry.Policies) (id : ConversionId) :
    (dispatch policies (Program.request (.enqueue id))).Asks Request.IsSilent :=
  (silent_execute fun _ => Program.asks_request trivial).bind fun _ => trivial

theorem silent_get (id : ConversionId) (user : UserId) :
    (get id user).Asks Request.IsSilent :=
  (Action.asks_store trivial).bind fun _ => .ite trivial trivial

theorem silent_status (id : ConversionId) (user : UserId) :
    (status id user).Asks Request.IsSilent :=
  (silent_get id user).bind fun _ => trivial

theorem silent_list (filter : Listing.Filter) (pagination : Listing.Pagination) :
    (list filter pagination).Asks Request.IsSilent :=
  Action.asks_store trivial

theorem silent_quota (user : UserId) : (quota user).Asks Request.IsSilent :=
  Action.asks_store trivial

theorem silent_grant (user : UserId) (credits : Nat) :
    (grant user credits).Asks Request.IsSilent :=
  .ite trivial (Action.asks_store trivial)

theorem silent_setPlan (user : UserId) (plan : String) (monthlyLimit : Nat) :
    (setPlan user plan monthlyLimit).Asks Request.IsSilent := by
  unfold setPlan
  generalize Text.trim plan = plan
  exact .ite trivial (Action.asks_store trivial)

section

variable {allowed : Request → Prop} {id : ConversionId}

theorem asks_lastLook (clock : allowed .now) (polls : ∀ stop, allowed (.poll id stop))
    (grace : Duration) (seen : Conversion) : (lastLook grace id seen).Asks allowed := by
  refine (Action.asks_request clock).bind fun now => ?_
  refine (Action.asks_request (polls _)).bind fun looked => ?_
  rcases looked with - | - | - <;> trivial

/-- What a watch asks for: to look at the conversion, at the clock, and to wait. -/
theorem asks_lookFrom {watching : Watching} (clock : allowed .now)
    (polls : ∀ stop, allowed (.poll watching.id stop))
    (waits : ∀ span stop, allowed (.wait span stop)) (looks : Nat) (planned : Instant)
    (seen : Conversion) : (watching.lookFrom looks planned seen).Asks allowed := by
  have last (seen : Conversion) := asks_lastLook clock polls watching.grace seen
  induction looks generalizing planned seen with
  | zero => exact last seen
  | succ looks ih =>
    -- However a look turns out, what can follow is the next look, a last one, or nothing.
    have next (seen : Conversion) : Action.Asks allowed (do
        let now ← Action.now
        if ← Action.wait (planned - now) watching.stop then
          let now ← Action.now
          watching.lookFrom looks (nextTick planned now watching.period) seen
        else lastLook watching.grace watching.id seen) := by
      refine (Action.asks_request clock).bind fun now => ?_
      refine (Action.asks_request (waits _ _)).bind fun (waited : Bool) => .ite ?_ (last seen)
      exact (Action.asks_request clock).bind fun now => ih _ seen
    unfold Watching.lookFrom
    refine (Action.asks_request (polls _)).bind fun looked => ?_
    rcases looked with - | failure | conversion
    · exact last seen
    · cases failure with
      | notFound _ => trivial
      | _ => exact next seen
    · exact .ite trivial (next conversion)

end

theorem silent_watch (service : Service) (id : ConversionId) (user : UserId)
    (timeout poll : Option Nat) : (service.watch id user timeout poll).Asks Request.IsSilent := by
  unfold watch watchFor
  refine (Action.asks_request trivial).bind fun started => ?_
  refine (Action.asks_request trivial).bind fun looked => ?_
  rcases looked with - | failure | conversion
  · trivial
  · trivial
  · refine .ite trivial (.ite trivial ?_)
    exact asks_lookFrom trivial (fun _ => trivial) (fun _ _ => trivial) _ _ _

end Service

end TryOn
