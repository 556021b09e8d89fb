import TryOn.Proofs.Admission.Engine
import TryOn.Proofs.Interleaving.Quiet
import TryOn.Proofs.Interleaving.Yields

/-! The gates of admission. Each hears somebody or looks at the request, in a fixed order, and the
first objection is what the caller is told. Those behind it are not asked, and of those before it
none has left a trace: only a draft that the store accepts does, and it passes last. -/

set_option autoImplicit false

namespace TryOn

namespace Service

def lookUp (service : Service) (id : ImageId) : Program (Except (Retry.Failure ImageError) Image) :=
  Retry.execute (.ofProgram true) (service.policies.get imagesPolicy) fun _ =>
    Program.request (.image id)

end Service

/-- Whether a request leaves no trace, whatever it is answered. -/
def Request.IsIdle (request : Request) : Prop :=
  ∀ (moment : Timestamp) (answer : request.Answer),
    Exchange.leavesTrace ⟨moment, request, answer⟩ = false

namespace Service

theorem idle_execute {α ε : Type} [Retry.Failing ε] {heedsCancel : Bool} {policy : Retry.Policy}
    {operation : Nat → Program (Except ε α)}
    (attempts : ∀ attempt, (operation attempt).Asks Request.IsIdle) :
    (Retry.execute (.ofProgram heedsCancel) policy operation).Asks Request.IsIdle :=
  Retry.asks_executeFrom (fun _ _ => rfl) (fun _ _ _ _ => rfl) (fun _ _ _ => rfl) attempts _ _

theorem idle_lookUp (service : Service) (id : ImageId) :
    (service.lookUp id).Asks Request.IsIdle :=
  idle_execute fun _ => Program.asks_request fun _ _ => rfl

theorem idle_notify (service : Service) (notice : Notice) :
    (service.notify notice).Asks Request.IsIdle := by
  refine .ite ?_ (Program.asks_request fun _ _ => rfl)
  exact (idle_execute fun _ => Program.asks_request fun _ _ => rfl).bind fun _ => trivial

theorem idle_dispatch (policies : Retry.Policies) (id : ConversionId) :
    (dispatch policies (Program.request (.enqueue id))).Asks Request.IsIdle :=
  (idle_execute fun _ => Program.asks_request fun _ _ => rfl).bind fun _ => trivial

end Service

theorem Program.Yields.idle {α : Type} {program : Program α} {log : Log} {result : α}
    (yields : program.Yields log result) (asks : program.Asks Request.IsIdle) :
    ∀ exchange ∈ log, exchange.leavesTrace = false :=
  fun exchange member => yields.asked asks exchange member exchange.moment exchange.answer

theorem Image.isUsableAsTargetBy_eq (image : Image) (user : UserId) :
    image.isUsableAsTargetBy user
      = decide (image.visibility = .shown ∨ image.owner = .vendor ∨ image.owner = .user user) := by
  simp [isUsableAsTargetBy, isOwnedBy, Bool.or_assoc]

namespace Admission

inductive Gate where
  | rateLimit
  | sourceFound
  | sourceOwned
  | targetFound
  | targetUsable
  | distinctImages
  | style
  | quota
  deriving DecidableEq

def Gate.all : List Gate :=
  [.rateLimit, .sourceFound, .sourceOwned, .targetFound, .targetUsable, .distinctImages, .style,
    .quota]

/-- What the limiter, the image service and the store have answered, if they were asked. -/
structure Hearing where
  allowed : Option (Except RateLimited Unit) := none
  source : Option (Except (Retry.Failure ImageError) Image) := none
  target : Option (Except (Retry.Failure ImageError) Image) := none
  reserved : Option (Except StoreError Created) := none

def objection {α ε : Type} (report : ε → Failure) : Option (Except ε α) → Option Failure
  | some (.error failure) => some (report failure)
  | some (.ok _) | none => none

def Gate.objection? (user : UserId) (request : AdmissionRequest) (hearing : Hearing) :
    Gate → Option Failure
  | .rateLimit => objection .ofRateLimited hearing.allowed
  | .sourceFound => objection .ofLookup hearing.source
  | .sourceOwned =>
    match hearing.source with
    | some (.ok image) =>
      if image.owner = .user user then none
      else some (.accessDenied
        ("source image " ++ image.id.text ++ " does not belong to the caller"))
    | _ => none
  | .targetFound => objection .ofLookup hearing.target
  | .targetUsable =>
    match hearing.target with
    | some (.ok image) =>
      if image.visibility = .shown ∨ image.owner = .vendor ∨ image.owner = .user user then none
      else some (.accessDenied ("target image " ++ image.id.text ++ " is private"))
    | _ => none
  | .distinctImages =>
    if request.source = request.target then
      some (.invalidRequest
        (Violation.validation "source and target image must be different").message)
    else none
  | .style => objection .ofViolation (request.style.map Style.check)
  | .quota => objection .ofStore hearing.reserved

section

variable (service : Service) (user : UserId) (request : AdmissionRequest)

inductive Hears : Gate → Hearing → Log → Hearing → Prop
  | limiter (heard : Hearing) (moment : Timestamp) (answer : Except RateLimited Unit) :
    Hears .rateLimit heard [⟨moment, .checkRate user, answer⟩]
      { heard with allowed := some answer }
  | source (heard : Hearing) {log : Log} {looked : Except (Retry.Failure ImageError) Image}
    (yields : (service.lookUp request.source).Yields log looked) :
    Hears .sourceFound heard log { heard with source := some looked }
  | target (heard : Hearing) {log : Log} {looked : Except (Retry.Failure ImageError) Image}
    (yields : (service.lookUp request.target).Yields log looked) :
    Hears .targetFound heard log { heard with target := some looked }
  | store (heard : Hearing) (moment : Timestamp) (answer : Except StoreError Created) :
    Hears .quota heard [⟨moment, .store (.create (request.draft user)), answer⟩]
      { heard with reserved := some answer }
  | nobody {gate : Gate} (heard : Hearing)
    (looks : gate ∈ [.sourceOwned, .targetUsable, .distinctImages, .style]) :
    Hears gate heard [] heard

inductive Passes : List Gate → Hearing → Log → Prop
  | nothing : Passes [] {} []
  | next {gates : List Gate} {gate : Gate} {heard hearing : Hearing} {log more : Log}
    (sofar : Passes gates heard log) (hears : Hears service user request gate heard more hearing)
    (agrees : gate.objection? user request hearing = none) :
    Passes (gates ++ [gate]) hearing (log ++ more)

inductive Objects : Log → Failure → Prop
  | at {passed rest : List Gate} {gate : Gate} {heard hearing : Hearing} {log more : Log}
    {failure : Failure} (order : Gate.all = passed ++ gate :: rest)
    (sofar : Passes service user request passed heard log)
    (hears : Hears service user request gate heard more hearing)
    (objects : gate.objection? user request hearing = some failure) : Objects (log ++ more) failure

end

variable {service : Service} {user : UserId} {request : AdmissionRequest} {log : Log}

theorem Passes.last {gates : List Gate} {gate : Gate} {hearing : Hearing}
    (passes : Passes service user request (gates ++ [gate]) hearing log) :
    ∃ heard before more, log = before ++ more ∧ Passes service user request gates heard before
      ∧ Hears service user request gate heard more hearing
      ∧ gate.objection? user request hearing = none := by
  generalize same : gates ++ [gate] = all at passes
  cases passes with
  | nothing => simp at same
  | next sofar hears agrees =>
    obtain ⟨rfl, equal⟩ := List.append_inj' same rfl
    obtain rfl := List.singleton_inj.1 equal
    exact ⟨_, _, _, rfl, sofar, hears, agrees⟩

/-- How an admission ends: with the objection of the first gate that has one, or else with a hit. -/
def Decides (service : Service) (user : UserId) (request : AdmissionRequest) (log : Log) :
    Except Failure Created → Prop
  | .error failure => Objects service user request log failure
  | .ok created => ∃ hearing before moment, log = before ++ [⟨moment, .recordRate user, ()⟩]
    ∧ Passes service user request Gate.all hearing before
    ∧ hearing.reserved = some (.ok created)

section

variable {gates rest : List Gate} {gate : Gate} {heard : Hearing} {before : Log}
  {result : Except Failure Created}

theorem Passes.look (passes : Passes service user request gates heard log) {gate : Gate}
    (looks : gate ∈ [.sourceOwned, .targetUsable, .distinctImages, .style])
    (agrees : gate.objection? user request heard = none) :
    Passes service user request (gates ++ [gate]) heard log := by
  have further := passes.next (.nobody heard looks) agrees
  rwa [List.append_nil] at further

theorem Objects.look (passes : Passes service user request gates heard log)
    (order : Gate.all = gates ++ gate :: rest)
    (looks : gate ∈ [.sourceOwned, .targetUsable, .distinctImages, .style]) {failure : Failure}
    (objects : gate.objection? user request heard = some failure) :
    Objects service user request log failure := by
  have objects := Objects.at order passes (.nobody heard looks) objects
  rwa [List.append_nil] at objects

theorem decides_resolveImage {id : ImageId} {next : Image → Action Created}
    {told : Except (Retry.Failure ImageError) Image → Hearing}
    (passes : Passes service user request gates heard before)
    (order : Gate.all = gates ++ gate :: rest)
    (hears : ∀ part looked, (service.lookUp id).Yields part looked →
      Hears service user request gate heard part (told looked))
    (judges : ∀ looked, gate.objection? user request (told looked)
      = objection .ofLookup (some looked))
    (goesOn : ∀ part image log,
      Passes service user request (gates ++ [gate]) (told (.ok image)) part →
      (next image).Yields log result → Decides service user request (part ++ log) result)
    (yields : (service.resolveImage id >>= next).Yields log result) :
    Decides service user request (before ++ log) result := by
  unfold Service.resolveImage at yields
  rw [bind_assoc] at yields
  obtain ⟨part, later, looked, rfl, found, afterwards⟩ := yields.lift_bind
  rcases afterwards.orFail_bind with ⟨failure, rfl, rfl, rfl⟩ | ⟨image, rfl, afterwards⟩
  · rw [List.append_nil]
    exact .at order passes (hears part _ found) (judges _)
  · rw [← List.append_assoc]
    exact goesOn _ image later (passes.next (hears part _ found) (judges _)) afterwards

theorem decides_unless {condition : Bool} {wanted : Prop} [Decidable wanted] {failure : Failure}
    {next : Unit → Action Created}
    (passes : Passes service user request gates heard before)
    (order : Gate.all = gates ++ gate :: rest)
    (looks : gate ∈ [.sourceOwned, .targetUsable, .distinctImages, .style])
    (judges : gate.objection? user request heard = if wanted then none else some failure)
    (tests : condition = decide wanted)
    (goesOn : Passes service user request (gates ++ [gate]) heard before →
      (next ()).Yields log result → Decides service user request (before ++ log) result)
    (yields : (if (!condition) = true then throw failure >>= next else next ()).Yields log result) :
    Decides service user request (before ++ log) result := by
  rcases yields.unless with ⟨missing, rfl, rfl⟩ | ⟨met, afterwards⟩
  · rw [List.append_nil]
    exact .look passes order looks
      (judges.trans (if_neg (of_decide_eq_false (tests.symm.trans missing))))
  · exact goesOn (passes.look looks
      (judges.trans (if_pos (of_decide_eq_true (tests.symm.trans met))))) afterwards

end

/-- The form of a request is checked at two gates. -/
theorem check_draft_eq (user : UserId) (request : AdmissionRequest) (heard : Hearing) :
    objection .ofViolation (some (request.draft user).check)
      = (Gate.objection? user request heard .distinctImages).or
          (Gate.objection? user request heard .style) := by
  unfold Draft.check AdmissionRequest.draft Gate.objection?
  dsimp only
  by_cases same : request.source = request.target
  · simp [same, objection, Failure.ofViolation]
  · rw [if_neg same, if_neg same]
    cases request.style <;> rfl

theorem decides_check {next : Unit → Action Created} {heard : Hearing} {before : Log}
    {result : Except Failure Created}
    (passes : Passes service user request
      [.rateLimit, .sourceFound, .sourceOwned, .targetFound, .targetUsable] heard before)
    (goesOn : Passes service user request (Gate.all.dropLast) heard before →
      (next ()).Yields log result → Decides service user request (before ++ log) result)
    (yields : (Action.orFail .ofViolation (request.draft user).check >>= next).Yields log result) :
    Decides service user request (before ++ log) result := by
  -- One check stands for two gates; of two objections it reports the one of the first.
  have form := check_draft_eq user request heard
  rcases yields.orFail_bind with ⟨violation, refused, rfl, rfl⟩ | ⟨⟨⟩, accepted, afterwards⟩
  · rw [List.append_nil]
    rw [refused] at form
    cases distinct : Gate.objection? user request heard .distinctImages with
    | some failure =>
      rw [distinct] at form
      cases form
      exact .look passes rfl (by decide) distinct
    | none =>
      rw [distinct] at form
      exact .look (passes.look (by decide) distinct) rfl (by decide) form.symm
  · rw [accepted] at form
    obtain ⟨distinct, style⟩ := Option.or_eq_none_iff.1 form.symm
    exact goesOn ((passes.look (by decide) distinct).look (by decide) style) afterwards

theorem decides_reserve {heard : Hearing} {before : Log} {result : Except Failure Created}
    (passes : Passes service user request Gate.all.dropLast heard before)
    (yields : (do
      let created ← Service.reserve (request.draft user)
      Action.request (.recordRate user)
      return created : Action Created).Yields log result) :
    Decides service user request (before ++ log) result := by
  unfold Service.reserve Action.store at yields
  rw [bind_assoc] at yields
  obtain ⟨moment, answer, later, rfl, afterwards⟩ := yields.request_bind
  have asked : Hears service user request .quota heard _ _ := .store heard moment answer
  rcases afterwards.orFail_bind with ⟨failure, rfl, rfl, rfl⟩ | ⟨created, rfl, afterwards⟩
  · exact .at rfl passes asked rfl
  · obtain ⟨late, ⟨⟩, rest, rfl, ended⟩ := afterwards.request_bind
    cases ended
    refine ⟨_, _, late, ?_, passes.next asked rfl, rfl⟩
    simp

/-- Admission ends with the objection of the first gate that has one, or else with a hit. -/
theorem decides_admission {result : Except Failure Created}
    (yields : (service.admission user request).Yields log result) :
    Decides service user request log result := by
  unfold Service.admission at yields
  obtain ⟨moment, answer, rest, rfl, afterwards⟩ := yields.request_bind
  have asked : Hears service user request .rateLimit {} _ _ := .limiter {} moment answer
  rcases afterwards.orFail_bind with ⟨failure, rfl, rfl, rfl⟩ | ⟨⟨⟩, rfl, afterwards⟩
  · exact .at rfl .nothing asked rfl
  refine decides_resolveImage (Passes.nothing.next asked rfl) rfl
    (fun part looked found => .source _ found) (fun looked => rfl)
    (fun part image log passes => ?_) afterwards
  refine decides_unless passes rfl (by decide) rfl rfl fun passes => ?_
  refine decides_resolveImage passes rfl (fun part looked found => .target _ found)
    (fun looked => rfl) (fun part image log passes => ?_)
  refine decides_unless passes rfl (by decide) rfl (image.isUsableAsTargetBy_eq user)
    fun passes => ?_
  exact decides_check passes fun passes => decides_reserve passes

theorem Hears.idle {gate : Gate} {heard hearing : Hearing}
    (hears : Hears service user request gate heard log hearing) (other : gate ≠ .quota) :
    ∀ exchange ∈ log, exchange.leavesTrace = false := by
  cases hears with
  | limiter _ _ _ => simp [Exchange.leavesTrace]
  | source _ found | target _ found => exact found.idle (service.idle_lookUp _)
  | store _ _ _ => exact absurd rfl other
  | nobody _ _ => simp

theorem Passes.idle {gates : List Gate} {hearing : Hearing}
    (passes : Passes service user request gates hearing log) (free : Gate.quota ∉ gates) :
    ∀ exchange ∈ log, exchange.leavesTrace = false := by
  induction passes with
  | nothing => simp
  | next sofar hears agrees ih =>
    obtain ⟨early, late⟩ := not_or.1 (mt List.mem_append.2 free)
    refine List.forall_mem_append.2 ⟨ih early, hears.idle fun same => late ?_⟩
    exact List.mem_singleton.2 same.symm

theorem Hears.reserved {heard hearing : Hearing}
    (hears : Hears service user request .quota heard log hearing) :
    ∃ moment answer, log = [⟨moment, .store (.create (request.draft user)), answer⟩]
      ∧ hearing.reserved = some answer := by
  cases hears with
  | store _ moment answer => exact ⟨moment, answer, rfl, rfl⟩
  | nobody _ looks => exact absurd looks (by decide)

/-- A request that is turned away leaves no trace. -/
theorem Objects.idle {failure : Failure} (objects : Objects service user request log failure) :
    ∀ exchange ∈ log, exchange.leavesTrace = false := by
  obtain @⟨passed, rest, gate, heard, hearing, early, late, _, order, sofar, hears, refused⟩ :=
    objects
  -- The quota is the last gate, so none of those passed; and if it objects, nothing was accepted.
  have front : Gate.all.dropLast = passed ++ (gate :: rest).dropLast := by
    rw [order, List.dropLast_append_cons]
  have free : Gate.quota ∉ passed := fun member =>
    absurd (front ▸ List.mem_append_left _ member : Gate.quota ∈ Gate.all.dropLast) (by decide)
  refine List.forall_mem_append.2 ⟨sofar.idle free, ?_⟩
  by_cases last : gate = .quota
  · subst last
    obtain ⟨moment, answer, rfl, reserved⟩ := hears.reserved
    cases answer with
    | error failure => simp [Exchange.leavesTrace, Except.isOk, Except.toBool]
    | ok created => simp [Gate.objection?, reserved, objection] at refused
  · exact hears.idle last

theorem Passes.traces {hearing : Hearing} {created : Created}
    (passes : Passes service user request Gate.all hearing log)
    (reserved : hearing.reserved = some (.ok created)) :
    ∃ moment, log.filter Exchange.leavesTrace
      = [⟨moment, .store (.create (request.draft user)), .ok created⟩] := by
  have passes : Passes service user request (Gate.all.dropLast ++ [.quota]) hearing log := passes
  obtain ⟨heard, before, more, rfl, sofar, hears, -⟩ := passes.last
  obtain ⟨moment, answer, rfl, same⟩ := hears.reserved
  obtain rfl : answer = .ok created := Option.some.inj (same.symm.trans reserved)
  refine ⟨moment, ?_⟩
  have idle : before.filter Exchange.leavesTrace = [] :=
    List.filter_eq_nil_iff.2 fun exchange member => by simp [sofar.idle (by decide) exchange member]
  rw [List.filter_append, idle]
  rfl

theorem yields_rejection {failure : Failure} {result : Except Failure Created}
    (yields : (do
      if failure.isAdmissionRejection then Action.request (.count (.rejected failure.code))
      throw failure : Action Created).Yields log result) :
    result = .error failure
      ∧ ∀ exchange ∈ log, exchange.request = .count (.rejected failure.code) := by
  cases counted : failure.isAdmissionRejection with
  | true =>
    rw [counted] at yields
    obtain ⟨moment, _, rest, rfl, thrown⟩ := Action.Yields.request_bind yields
    cases thrown
    exact ⟨rfl, by simp⟩
  | false =>
    rw [counted] at yields
    cases yields
    exact ⟨rfl, by simp⟩

/-- What is left of a call once its request was decided: to count what was turned away, or else
nothing that leaves a trace. -/
def Rests (after : Log) : Except Failure Created → Prop
  | .error failure => ∀ exchange ∈ after, exchange.request = .count (.rejected failure.code)
  | .ok _ => ∀ exchange ∈ after, exchange.leavesTrace = false

theorem Rests.idle {after : Log} {result : Except Failure Created} (rests : Rests after result) :
    ∀ exchange ∈ after, exchange.leavesTrace = false := by
  cases result with
  | ok created => exact rests
  | error failure =>
    rintro ⟨moment, request, answer⟩ member
    obtain rfl : request = _ := rests _ member
    rfl

theorem decides_create {result : Except Failure Created}
    (yields : (service.create user request).Yields log result) :
    ∃ before after, log = before ++ after ∧ Decides service user request before result
      ∧ Rests after result := by
  unfold Service.create at yields
  rcases yields.bind with ⟨failure, rfl, rejected⟩ | ⟨first, rest, created, rfl, admitted, told⟩
  · rcases rejected.tryCatch with ⟨_, ⟨⟩, -⟩ | ⟨before, after, cause, rfl, refused, handled⟩
    obtain ⟨same, counts⟩ := yields_rejection handled
    cases same
    exact ⟨before, after, rfl, decides_admission refused, counts⟩
  · rcases admitted.tryCatch with ⟨_, ⟨⟩, admitted⟩ | ⟨_, _, _, _, -, handled⟩
    · -- What follows the admission is to count, audit, notify and enqueue.
      obtain ⟨_, _, _, rfl, started⟩ := told.request_bind
      unfold Action.audit at started
      rw [bind_assoc] at started
      obtain ⟨_, _, _, rfl, dated⟩ := Action.Yields.request_bind started
      obtain ⟨_, _, _, rfl, audited⟩ := Action.Yields.request_bind dated
      obtain ⟨notices, _, _, rfl, notified, left⟩ := Action.Yields.lift_bind audited
      obtain ⟨tries, _, _, rfl, dispatched, returned⟩ := Action.Yields.lift_bind left
      cases returned
      refine ⟨first, _, rfl, decides_admission admitted, ?_⟩
      simp only [Rests, List.forall_mem_cons, List.forall_mem_append]
      exact ⟨rfl, rfl, rfl, notified.idle (service.idle_notify _),
        dispatched.idle (Service.idle_dispatch _ _), by simp⟩
    · obtain ⟨same, -⟩ := yields_rejection handled
      cases same

end Admission

end TryOn
