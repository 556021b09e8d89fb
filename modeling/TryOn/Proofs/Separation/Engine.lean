import TryOn.Proofs.Admission.Alone
import TryOn.Proofs.Store.Owned

/-! Two engines side by side. If all that is one user's is the same in both, they cannot be told
apart by requests about that user; and what is anybody else's stays in each of them as it is. -/

set_option autoImplicit false

namespace TryOn

namespace RateLimiter

structure AgreesOn (user : UserId) (first second : RateLimiter) : Prop where
  maxRequests : first.maxRequests = second.maxRequests
  window : first.window = second.window
  hits : first.hits.get? user = second.hits.get? user

variable {user other : UserId} {first second third : RateLimiter} {now : Instant}

theorem AgreesOn.refl (user : UserId) (limiter : RateLimiter) : AgreesOn user limiter limiter :=
  ⟨rfl, rfl, rfl⟩

theorem AgreesOn.symm (agrees : first.AgreesOn user second) : second.AgreesOn user first :=
  ⟨agrees.maxRequests.symm, agrees.window.symm, agrees.hits.symm⟩

theorem AgreesOn.trans (left : first.AgreesOn user second) (right : second.AgreesOn user third) :
    first.AgreesOn user third :=
  ⟨left.maxRequests.trans right.maxRequests, left.window.trans right.window,
    left.hits.trans right.hits⟩

theorem get?_keepLog (limiter : RateLimiter) (user other : UserId) (log : List Instant) :
    (limiter.keepLog user log).hits.get? other
      = if other = user then if log.isEmpty then none else some log
        else limiter.hits.get? other := by
  unfold keepLog
  by_cases same : other = user
  · subst same
    cases log.isEmpty <;> simp
  · cases log.isEmpty <;> simp [same, Table.get?_insert_ne, Table.get?_erase_ne]

theorem get?_hits_check (limiter : RateLimiter) (user other : UserId) (now : Instant) :
    (limiter.check user now).2.hits.get? other
      = if other = user ∧ limiter.maxRequests ≠ 0 then
          ((limiter.hits.get? user).map (prune limiter.window now)).filter (!·.isEmpty)
        else limiter.hits.get? other := by
  unfold check
  by_cases none : limiter.maxRequests = 0
  · simp [none]
  · rw [if_neg none]
    cases found : limiter.hits.get? user with
    | none =>
      by_cases same : other = user
      · simp [same, found]
      · simp [same]
    | some log =>
      cases pruned : prune limiter.window now log with
      | nil => simp [pruned, get?_keepLog, none, Option.filter]
      | cons oldest rest =>
        simp only [pruned]
        split <;> simp [pruned, get?_keepLog, none, Option.filter]

theorem get?_hits_record (limiter : RateLimiter) (user other : UserId) (now : Instant) :
    (limiter.record user now).hits.get? other
      = if other = user then
          some (prune limiter.window now ((limiter.hits.get? user).getD []) ++ [now])
        else limiter.hits.get? other := by
  unfold record
  by_cases same : other = user
  · simp [same]
  · rw [if_neg same, Table.get?_insert_ne _ _ same]

theorem AgreesOn.check (agrees : AgreesOn user first second) (now : Instant) :
    (first.check user now).1 = (second.check user now).1
      ∧ AgreesOn user (first.check user now).2 (second.check user now).2 := by
  obtain ⟨limit, window, hits⟩ := agrees
  have recent : first.recent user now = second.recent user now := by
    rw [RateLimiter.recent, RateLimiter.recent, window, hits]
  have verdict : first.verdict now = second.verdict now := by
    funext hits
    unfold RateLimiter.verdict refusal
    rw [limit, window]
  refine ⟨by rw [check_eq, check_eq, recent, verdict], ?_, ?_, ?_⟩
  · rw [(first.terms_check user now).1, (second.terms_check user now).1, limit]
  · rw [(first.terms_check user now).2, (second.terms_check user now).2, window]
  · simp only [get?_hits_check, limit, window, hits]

theorem AgreesOn.record (agrees : AgreesOn user first second) (now : Instant) :
    AgreesOn user (first.record user now) (second.record user now) where
  maxRequests := agrees.maxRequests
  window := agrees.window
  hits := by simp only [get?_hits_record, agrees.window, agrees.hits]

theorem agreesOn_check (limiter : RateLimiter) (now : Instant) (differ : other ≠ user) :
    AgreesOn other limiter (limiter.check user now).2 where
  maxRequests := (limiter.terms_check user now).1.symm
  window := (limiter.terms_check user now).2.symm
  hits := by simp [get?_hits_check, differ]

theorem agreesOn_record (limiter : RateLimiter) (now : Instant) (differ : other ≠ user) :
    AgreesOn other limiter (limiter.record user now) where
  maxRequests := rfl
  window := rfl
  hits := by simp [get?_hits_record, differ]

end RateLimiter

/-- Whether a request is about a user, and if about a record then under an identifier that is known
to have none of anybody else. -/
def Request.IsWithin (user : UserId) (known : ConversionId → Prop) (fresh : ConversionId) :
    Request → Prop
  | .store call => call.IsWithin user known fresh
  | .poll id _ => known id
  | .checkRate other | .recordRate other => other = user
  | _ => True

namespace Engine

/-- All that is a user's is the same in two engines. -/
structure AgreesOn (user : UserId) (first second : Engine) : Prop where
  store : first.store.AgreesOn user second.store
  limiter : first.limiter.AgreesOn user second.limiter

theorem AgreesOn.refl (user : UserId) (engine : Engine) : AgreesOn user engine engine :=
  ⟨.refl user engine.store, .refl user engine.limiter⟩

theorem AgreesOn.symm {user : UserId} {first second : Engine}
    (agrees : first.AgreesOn user second) : second.AgreesOn user first :=
  ⟨agrees.store.symm, agrees.limiter.symm⟩

theorem AgreesOn.trans {user : UserId} {first second third : Engine}
    (left : first.AgreesOn user second) (right : second.AgreesOn user third) :
    first.AgreesOn user third :=
  ⟨left.store.trans right.store, left.limiter.trans right.limiter⟩

/-- What a program finds itself among: the clocks and the answers of others at each exchange, and
the identifier for a conversion that it makes. -/
structure Surroundings where
  fresh : ConversionId
  moment : Nat → Timestamp
  instant : Nat → Instant
  respond : Nat → (request : Request) → request.Answer

def Surroundings.turn (surroundings : Surroundings) (count : Nat) : Turn :=
  ⟨true, surroundings.moment count, surroundings.instant count, surroundings.fresh⟩

structure Served (α : Type) where
  requests : List Request
  engine : Engine
  result : α

def serve {α : Type} (surroundings : Surroundings) :
    Program α → (count : Nat) → Engine → Served α
  | .done result, _, engine => ⟨[], engine, result⟩
  | .ask request resume, count, engine =>
    let (answer, next) :=
      engine.react (surroundings.respond count) (surroundings.turn count) request
    let served := serve surroundings (resume answer) (count + 1) next
    { served with requests := request :: served.requests }

section

variable {user other : UserId} {known : ConversionId → Prop} {first second engine : Engine}
  {respond : (request : Request) → request.Answer} {turn : Turn} {request : Request}

theorem AgreesOn.react (agrees : first.AgreesOn user second)
    (respond : (request : Request) → request.Answer) (turn : Turn)
    (clear : first.store.IsClear user known) (clear' : second.store.IsClear user known)
    (within : request.IsWithin user known turn.fresh) :
    (first.react respond turn request).1 = (second.react respond turn request).1
      ∧ AgreesOn user (first.react respond turn request).2
        (second.react respond turn request).2 := by
  obtain ⟨store, limiter⟩ := agrees
  cases request with
  | store call =>
    exact ⟨(store.perform_eq turn.moment within clear clear').1,
      store.perform turn.moment within clear clear', limiter⟩
  | poll id _ =>
    have same := store.get?_eq clear clear' within
    exact ⟨by simp only [Engine.react, Store.react, Store.get, same], store, limiter⟩
  | checkRate _ =>
    obtain rfl := (within : _ = user)
    exact ⟨(limiter.check turn.instant).1, store, (limiter.check turn.instant).2⟩
  | recordRate _ =>
    obtain rfl := (within : _ = user)
    exact ⟨rfl, store, limiter.record turn.instant⟩
  | _ => exact ⟨rfl, store, limiter⟩

/-- A request about a user leaves everybody else's as it is. -/
theorem agreesOn_react (clear : engine.store.IsClear user known)
    (within : request.IsWithin user known turn.fresh) (differ : other ≠ user) :
    AgreesOn other engine (engine.react respond turn request).2 := by
  have store := Store.AgreesOn.refl other engine.store
  have limiter := RateLimiter.AgreesOn.refl other engine.limiter
  cases request with
  | store call =>
    exact ⟨engine.store.agreesOn_perform turn.moment within clear differ, limiter⟩
  | checkRate _ =>
    obtain rfl := (within : _ = user)
    exact ⟨store, engine.limiter.agreesOn_check turn.instant differ⟩
  | recordRate _ =>
    obtain rfl := (within : _ = user)
    exact ⟨store, engine.limiter.agreesOn_record turn.instant differ⟩
  | _ => exact ⟨store, limiter⟩

theorem isClear_react (clear : engine.store.IsClear user known)
    (within : request.IsWithin user known turn.fresh) :
    (engine.react respond turn request).2.store.IsClear user known := by
  cases request with
  | store call => exact (engine.store.moves_perform turn.moment within clear).isClear clear
  | _ => exact clear

end

/-- Two runs between which the user cannot tell, and of which nobody else can tell that they took
place. -/
structure Separate {α : Type} (user : UserId) (first second : Engine) (one two : Served α) :
    Prop where
  result : one.result = two.result
  requests : one.requests = two.requests
  agrees : one.engine.AgreesOn user two.engine
  others : ∀ other, other ≠ user →
    first.AgreesOn other one.engine ∧ second.AgreesOn other two.engine

section

variable {α : Type} {user : UserId} {known : ConversionId → Prop} {first second : Engine}
  {surroundings : Surroundings}

theorem serve_ask (request : Request) (resume : request.Answer → Program α) (count : Nat)
    (engine : Engine) :
    let reacted := engine.react (surroundings.respond count) (surroundings.turn count) request
    let served := serve surroundings (resume reacted.1) (count + 1) reacted.2
    serve surroundings (.ask request resume) count engine
      = ⟨request :: served.requests, served.engine, served.result⟩ :=
  rfl

/-- Requests about a user, one after the other, keep two runs in step. -/
theorem separate_of_asks {program : Program α}
    (asks : program.Asks (Request.IsWithin user known surroundings.fresh))
    (agrees : first.AgreesOn user second)
    (clear : first.store.IsClear user known) (clear' : second.store.IsClear user known)
    (count : Nat) :
    Separate user first second (serve surroundings program count first)
      (serve surroundings program count second) := by
  -- A request keeps the engines alike, and keeps out of what is anybody else's.
  induction program generalizing first second count with
  | done result => exact ⟨rfl, rfl, agrees, fun other _ => ⟨.refl other first, .refl other second⟩⟩
  | ask request resume ih =>
    obtain ⟨within, later⟩ := asks
    obtain ⟨same, agrees⟩ := agrees.react (surroundings.respond count) (surroundings.turn count)
      clear clear' within
    have rest := ih (first.react (surroundings.respond count) (surroundings.turn count) request).1
      (later _) agrees (isClear_react clear within) (isClear_react clear' within) (count + 1)
    rw [serve_ask, serve_ask, ← same]
    exact ⟨rest.result, congrArg (request :: ·) rest.requests, rest.agrees, fun other differ =>
      ⟨(agreesOn_react clear within differ).trans (rest.others other differ).1,
        (agreesOn_react clear' within differ).trans (rest.others other differ).2⟩⟩

end

end Engine

end TryOn
