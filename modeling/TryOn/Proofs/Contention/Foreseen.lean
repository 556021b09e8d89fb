import TryOn.Proofs.Contention.Step
import TryOn.Proofs.Interleaving.Trace

/-! What operations fail with while others are at work. A race that was lost shows in the terms of
the operation that lost it, if it shows at all; no text of another failure can be taken for the
text of a race. -/

set_option autoImplicit false

namespace TryOn

open Interleaving (Operation)

namespace Text

theorem digitChar_mem_digitAlphabet (value : Nat) : digitChar value ∈ digitAlphabet := by
  unfold digitChar
  cases found : digitAlphabet[value]? with
  | none =>
    rw [List.getD_eq_getElem?_getD, found]
    decide
  | some digit =>
    rw [List.getD_eq_getElem?_getD, found]
    exact List.mem_of_getElem? found

theorem mem_digitAlphabet_of_mem_fixedDigits {base width value : Nat} {digit : Char}
    (member : digit ∈ fixedDigits base width value) : digit ∈ digitAlphabet := by
  induction width generalizing value with
  | zero => cases member
  | succ width ih =>
    rcases List.mem_append.1 member with early | last
    · exact ih early
    · exact List.mem_singleton.1 last ▸ digitChar_mem_digitAlphabet _

end Text

theorem Uuid.getElem?_text (id : Uuid) {index : Nat} (within : index < 8) :
    ∃ digit ∈ Text.digitAlphabet, id.text.toList[index]? = some digit := by
  have full : id.digits.length = 32 := by simp [digits]
  have all : ∀ digit ∈ id.digits, digit ∈ Text.digitAlphabet := fun _ member =>
    Text.mem_digitAlphabet_of_mem_fixedDigits member
  unfold text
  rw [String.toList_ofList]
  generalize id.digits = digits at full all
  have present : index < digits.length := by omega
  refine ⟨digits[index], all _ (List.getElem_mem present), ?_⟩
  have first : index < (digits.take 8).length := by simp [full, within]
  show (digits.take 8 ++ _)[index]? = some digits[index]
  rw [List.getElem?_append_left first, List.getElem?_take_of_lt within,
    List.getElem?_eq_getElem present]

namespace Failure

/-- A failure that no caller can be told of: an illegal step that nobody asked for, a patch that
fits no record, or a race that was lost and not seen as such. -/
inductive IsUnforeseen : Failure → Prop
  | illegal (source target : Status) : IsUnforeseen (.invalidTransition source target)
  | unfit (reason : String) : IsUnforeseen (.store (.invalidUpdate reason))
  | race (id : ConversionId) (expected actual : Status) :
    IsUnforeseen (.ofStore (.statusConflict id expected actual))

/-- Whether a text is no text of a race, as its beginning shows: that starts with another letter,
or has no digit where the identifier of the conversion would stand. -/
def isApart (start : String) : Bool :=
  12 < start.toList.length
    && (start.toList[0]? != some 'c' || Text.digitAlphabet.all (start.toList[12]? != some ·))

theorem getElem?_race (id : ConversionId) (rest : List Char) :
    ("conversion ".toList ++ (id.text.toList ++ rest))[0]? = some 'c'
      ∧ ∃ digit ∈ Text.digitAlphabet,
        ("conversion ".toList ++ (id.text.toList ++ rest))[12]? = some digit := by
  have lead : "conversion ".toList.length = 11 := by decide
  refine ⟨List.getElem?_append_left (by omega) |>.trans (by decide), ?_⟩
  obtain ⟨digit, member, second⟩ := id.uuid.getElem?_text (show 1 < 8 by decide)
  refine ⟨digit, member, ?_⟩
  rw [List.getElem?_append_right (by omega), lead]
  exact List.getElem?_append_left (List.getElem?_eq_some_iff.1 second).1 |>.trans second

theorem not_isUnforeseen_of_start (start rest : String) (apart : isApart start = true) :
    ¬ IsUnforeseen (.invalidRequest (start ++ rest)) := by
  intro unforeseen
  generalize same : Failure.invalidRequest (start ++ rest) = failure at unforeseen
  cases unforeseen with
  | illegal _ _ | unfit _ => cases same
  | race id expected actual =>
    have letters := congrArg String.toList (Failure.invalidRequest.inj same)
    simp only [String.toList_append, List.append_assoc] at letters
    obtain ⟨long, differs⟩ := Bool.and_eq_true_iff.1 apart
    have early {index : Nat} (within : index ≤ 12) :
        (start.toList ++ rest.toList)[index]? = start.toList[index]? :=
      List.getElem?_append_left (by have := of_decide_eq_true long; omega)
    obtain ⟨first, digit, member, second⟩ := getElem?_race id
      (" changed concurrently and is now ".toList ++ actual.name.toList)
    rw [← letters, early (by decide)] at first second
    rcases Bool.or_eq_true_iff.1 differs with other | none
    · simp [first] at other
    · have absent := List.all_eq_true.1 none digit member
      simp [second] at absent

theorem not_isUnforeseen_of_text (text : String) (apart : isApart text = true) :
    ¬ IsUnforeseen (.invalidRequest text) := by
  simpa using not_isUnforeseen_of_start text "" apart

theorem not_isUnforeseen_notFound (id : ConversionId) : ¬ IsUnforeseen (.notFound id) := by
  intro unforeseen
  cases unforeseen

theorem not_isUnforeseen_ofViolation (violation : Violation) :
    ¬ IsUnforeseen (.ofViolation violation) := by
  cases violation with
  | validation reason => exact not_isUnforeseen_of_start "validation failed: " reason (by decide)
  | invariant reason => exact not_isUnforeseen_of_start "invariant violated: " reason (by decide)
  | identifier reason => exact not_isUnforeseen_of_start "invalid identifier: " reason (by decide)

theorem not_isUnforeseen_onlyPending (verb : String) (status : Status) :
    ¬ IsUnforeseen (Service.onlyPending verb status) := by
  unfold Service.onlyPending
  simp only [String.append_assoc]
  exact not_isUnforeseen_of_start "only pending conversions can be " _ (by decide)

theorem not_isUnforeseen_ofLookup (failure : Retry.Failure ImageError) :
    ¬ IsUnforeseen (.ofLookup failure) := by
  unfold ofLookup
  rcases failure.last? with - | (image | image | reason) <;> exact nofun

end Failure

namespace Contention

open TryOn.Action (keeps_bind keeps_lift keeps_request keeps_orFail keeps_store keeps_ite)

def trusting : Conduct := ⟨fun _ _ => True, Relies⟩

def Fails {α : Type} (ways : Failure → Prop) (action : Action α) : Prop :=
  ∀ log, action.Keeps trusting (fun _ _ => True) (fun _ failure => ways failure) log

variable {α β : Type} {ways : Failure → Prop}

theorem Fails.mono {fewer : Failure → Prop} {action : Action α} (fails : Fails fewer action)
    (includes : ∀ failure, fewer failure → ways failure) : Fails ways action :=
  fun log => (fails log).mono (fun _ _ holds => holds) fun _ failure way => includes failure way

theorem Fails.bind {action : Action α} {next : α → Action β} (first : Fails ways action)
    (later : ∀ value, Fails ways (next value)) : Fails ways (action >>= next) := by
  intro log
  refine keeps_bind.2 ((first log).mono ?_ fun _ _ holds => holds)
  exact fun log value _ => later value log

theorem Fails.ite {condition : Prop} [Decidable condition] {first second : Action α}
    (yes : condition → Fails ways first) (no : ¬ condition → Fails ways second) :
    Fails ways (if condition then first else second) :=
  fun log => keeps_ite (fun holds => yes holds log) fun fails => no fails log

theorem fails_pure (value : α) : Fails ways (pure value) := fun _ => trivial

theorem fails_throw {failure : Failure} (way : ways failure) :
    Fails ways (throw failure : Action α) :=
  fun _ => way

theorem fails_lift (program : Program α) : Fails ways (ExceptT.lift program) := by
  intro log
  refine keeps_lift.2 ?_
  induction program generalizing log with
  | done result => trivial
  | ask request resume ih => exact ⟨trivial, fun moment answer _ => ih answer _⟩

theorem fails_request (request : Request) : Fails ways (Action.request request) :=
  fails_lift (Program.request request)

theorem fails_orFail {ε : Type} {report : ε → Failure} (reports : ∀ failure, ways (report failure))
    (result : Except ε α) : Fails ways (Action.orFail report result) := by
  cases result with
  | ok value => exact fails_pure value
  | error failure => exact fails_throw (reports failure)

theorem fails_asking {call : Store.Call} {report : StoreError → Failure}
    {next : call.Answer → Action β}
    (reports : ∀ failure, call.Refuses failure → ways (report failure))
    (later : ∀ value, Fails ways (next value)) :
    Fails ways (do
      let answer ← Action.request (.store call)
      let value ← Action.orFail report answer
      next value) := by
  intro log
  refine keeps_bind.2 (keeps_request.2 ⟨trivial, fun moment answer relied => ?_⟩)
  rcases answer with failure | value
  · exact reports failure (relied.refused call failure rfl)
  · exact later value _

theorem fails_store {call : Store.Call}
    (reports : ∀ failure, call.Refuses failure → ways (.ofStore failure)) :
    Fails ways (Action.store call) := by
  intro log
  refine keeps_store.2 ⟨trivial, fun moment answer relied => ?_⟩
  rcases answer with failure | value
  · exact reports failure (relied.refused call failure rfl)
  · trivial

theorem fails_tryCatch {action : Action α} {handler : Failure → Action α}
    (first : Fails ways action) (later : ∀ failure, ways failure → Fails ways (handler failure)) :
    Fails ways (tryCatch action handler) := by
  intro log
  unfold Action.Keeps
  rw [ExceptT.run_tryCatch]
  refine Program.keeps_bind.2 (Program.Keeps.mono (first log) fun log result holds => ?_)
  cases result with
  | ok value => trivial
  | error failure => exact later failure holds log

theorem fails_audit (action : AuditAction) (user : UserId) (id : ConversionId) (metadata : Data) :
    Fails ways (Action.audit action user id metadata) :=
  (fails_request .wallClock).bind fun _ => fails_request _

section

variable (service : Service) (id : ConversionId) (user : UserId)

inductive StepFailure (id : ConversionId) : Failure → Prop
  | gone : StepFailure id (.notFound id)
  | illegal (source target : Status) : StepFailure id (.invalidTransition source target)

theorem fails_transition (step : Transition) :
    Fails (StepFailure id) (Service.transition id step) := by
  intro log
  -- The call relies on no more than what it is told itself.
  have after : (Service.transition id step).run.Keeps trusting _ (log ++ []) :=
    keeps_transition.after log (fun _ _ _ => trivial) fun _ _ relied => relied.of_append
  rw [List.append_nil] at after
  refine Program.Keeps.mono after ?_
  rintro whole (failure | updated) ⟨part, -, holds⟩
  · obtain ⟨-, objection⟩ := holds
    cases objection with
    | gone => exact .gone
    | illegal _ _ _ => exact .illegal _ _
  · trivial

theorem fails_process : Fails (StepFailure id) (service.process id) := by
  refine (fails_transition id .start).bind fun conversion => ?_
  refine (fails_request .now).bind fun started => ?_
  refine (fails_lift (service.processing _)).bind fun outcome => ?_
  cases outcome with
  | error failure =>
    refine (fails_transition id _).bind fun conversion => ?_
    refine (fails_request (.count _)).bind fun _ => ?_
    refine (fails_lift (service.notify _)).bind fun _ => ?_
    exact (fails_audit _ _ _ _).bind fun _ => fails_pure conversion
  | ok result =>
    refine (fails_request .now).bind fun finished => ?_
    refine (fails_transition id _).bind fun conversion => ?_
    refine (fails_request (.count _)).bind fun _ => ?_
    refine (fails_lift (service.notify _)).bind fun _ => ?_
    exact (fails_audit _ _ _ _).bind fun _ => fails_pure conversion

abbrev Foresees (action : Action α) : Prop := Fails (fun failure => ¬ failure.IsUnforeseen) action

theorem foresees_get : Foresees (Service.get id user) := by
  refine (fails_store fun failure refuses => ?_).bind fun found => .ite ?_ ?_
  · obtain rfl := refuses.of_get
    exact Failure.not_isUnforeseen_notFound id
  · exact fun _ => fails_pure found
  · exact fun _ => fails_throw (Failure.not_isUnforeseen_notFound id)

theorem foresees_resolveImage (image : ImageId) : Foresees (service.resolveImage image) :=
  (fails_lift _).bind fun looked => fails_orFail Failure.not_isUnforeseen_ofLookup looked

theorem foresees_admission (request : AdmissionRequest) :
    Foresees (service.admission user request) := by
  refine (fails_request (.checkRate user)).bind fun allowed => ?_
  refine (fails_orFail (fun _ => nofun) _).bind fun _ => ?_
  refine (foresees_resolveImage service _).bind fun source => .ite (fun _ => fails_throw nofun) ?_
  intro _
  refine (foresees_resolveImage service _).bind fun target => .ite (fun _ => fails_throw nofun) ?_
  intro _
  refine (fails_orFail Failure.not_isUnforeseen_ofViolation _).bind fun _ => ?_
  refine (fails_store fun failure refuses => ?_).bind fun created => ?_
  · cases refuses with
    | quota _ _ => exact nofun
    | missing subject => cases subject
    | conflict guarded _ => cases guarded
  · exact (fails_request (.recordRate user)).bind fun _ => fails_pure created

theorem foresees_create (request : AdmissionRequest) : Foresees (service.create user request) := by
  refine (fails_tryCatch (foresees_admission service user request) ?_).bind fun created => ?_
  · intro failure foreseen
    exact .ite (fun _ => (fails_request (.count _)).bind fun _ => fails_throw foreseen)
      fun _ => fails_throw foreseen
  · refine (fails_request (.count _)).bind fun _ => ?_
    refine (fails_audit _ _ _ _).bind fun _ => ?_
    refine (fails_lift (service.notify _)).bind fun _ => ?_
    exact (fails_lift (Service.dispatch _ _)).bind fun _ => fails_pure created

/-- A conflict of an operation on pending conversions is told as their not being pending. -/
theorem foresees_ofPendingUpdate (verb : String) {patch : Patch} {failure : StoreError}
    (refuses : (Store.Call.update id patch).Refuses failure) :
    ¬ (Service.ofPendingUpdate verb failure).IsUnforeseen := by
  rcases refuses.of_guarded rfl rfl with rfl | ⟨actual, -, rfl⟩
  · exact Failure.not_isUnforeseen_notFound id
  · exact Failure.not_isUnforeseen_onlyPending verb actual

theorem foresees_update (style : Option String) : Foresees (Service.update id user style) := by
  refine (foresees_get id user).bind fun current => .ite ?_ ?_
  · exact fun _ => fails_throw (Failure.not_isUnforeseen_onlyPending "edited" current.status)
  · intro _
    refine (fails_request .wallClock).bind fun now => ?_
    refine (fails_orFail Failure.not_isUnforeseen_ofViolation _).bind fun patch => ?_
    refine fails_asking (fun _ => foresees_ofPendingUpdate id "edited") fun updated => ?_
    exact (fails_audit _ _ _ _).bind fun _ => fails_pure updated

theorem foresees_cancel : Foresees (service.cancel id user) := by
  refine (foresees_get id user).bind fun current => .ite ?_ ?_
  · exact fun _ => fails_throw (Failure.not_isUnforeseen_onlyPending "cancelled" current.status)
  · intro isPending
    refine (fails_request .wallClock).bind fun now => ?_
    -- Only what is pending gets here, and that can be cancelled.
    have pending : current.status = .pending := Classical.not_not.1 isPending
    cases planned : current.plan .cancel now with
    | error illegal =>
      have possible := (current.plan_isOk_iff .cancel now).2 (by rw [pending]; rfl)
      rw [planned] at possible
      cases possible
    | ok patch =>
      refine fails_asking (fun _ => foresees_ofPendingUpdate id "cancelled") fun updated => ?_
      refine (fails_audit _ _ _ _).bind fun _ => ?_
      exact (fails_lift (service.notify _)).bind fun _ => fails_pure updated

theorem foresees_delete : Foresees (Service.delete id user) := by
  refine (foresees_get id user).bind fun current => .ite ?_ ?_
  · exact fun _ => fails_throw (Failure.not_isUnforeseen_of_text _ (by decide))
  · refine fun _ => fails_asking (fun failure refuses => ?_) fun _ => fails_audit _ _ _ _
    rcases refuses.of_guarded rfl rfl with rfl | ⟨actual, -, rfl⟩
    · exact Failure.not_isUnforeseen_notFound id
    · unfold Service.ofDeletion
      simp only [String.append_assoc]
      exact Failure.not_isUnforeseen_of_start "conversion changed while deleting (status: " _
        (by decide)

theorem foresees_store {call : Store.Call} (makesNone : ∀ draft, call ≠ .create draft)
    (aboutNone : call.subject? = none) (unguarded : call.guard? = none) :
    Foresees (Action.store call) := by
  refine fails_store fun failure refuses => ?_
  cases refuses with
  | quota draft _ => exact absurd rfl (makesNone draft)
  | missing subject => cases aboutNone.symm.trans subject
  | conflict guarded _ => cases unguarded.symm.trans guarded

theorem foresees_grant (credits : Nat) : Foresees (Service.grant user credits) := by
  refine .ite (fun _ => fails_throw (Failure.not_isUnforeseen_of_text _ (by decide))) fun _ => ?_
  exact foresees_store nofun rfl rfl

theorem foresees_setPlan (plan : String) (monthlyLimit : Nat) :
    Foresees (Service.setPlan user plan monthlyLimit) := by
  unfold Service.setPlan
  generalize Text.trim plan = plan
  refine .ite (fun _ => fails_throw (Failure.not_isUnforeseen_of_text _ (by decide))) fun _ => ?_
  exact foresees_store nofun rfl rfl

theorem foresees_lastLook (grace : Duration) (seen : Conversion) :
    Foresees (Service.lastLook grace id seen) := by
  refine (fails_request .now).bind fun now => (fails_request _).bind fun looked => ?_
  rcases looked with - | - | conversion
  · exact fails_pure seen
  · exact fails_pure seen
  · exact fails_pure conversion

theorem foresees_lookFrom (watching : Service.Watching) (looks : Nat) (planned : Instant)
    (seen : Conversion) : Foresees (watching.lookFrom looks planned seen) := by
  induction looks generalizing planned seen with
  | zero => exact foresees_lastLook watching.id watching.grace seen
  | succ looks ih =>
    have next (seen : Conversion) : Foresees (do
        let now ← Action.now
        if ← Action.wait (planned - now) watching.stop then
          let now ← Action.now
          watching.lookFrom looks (Service.nextTick planned now watching.period) seen
        else Service.lastLook watching.grace watching.id seen) := by
      refine (fails_request .now).bind fun now => (fails_request _).bind fun waited => .ite ?_ ?_
      · exact fun _ => (fails_request .now).bind fun now => ih _ seen
      · exact fun _ => foresees_lastLook watching.id watching.grace seen
    unfold Service.Watching.lookFrom
    refine (fails_request _).bind fun looked => ?_
    rcases looked with - | failure | conversion
    · exact foresees_lastLook watching.id watching.grace seen
    · cases failure with
      | notFound _ => exact fails_throw (Failure.not_isUnforeseen_notFound watching.id)
      | _ => exact next seen
    · exact .ite (fun _ => fails_pure conversion) fun _ => next conversion

theorem foresees_watch (timeout poll : Option Nat) :
    Foresees (service.watch id user timeout poll) := by
  unfold Service.watch Service.watchFor
  refine (fails_request .now).bind fun started log => ?_
  refine keeps_bind.2 (keeps_request.2 ⟨trivial, fun moment answer relied => ?_⟩)
  rcases answer with - | failure | conversion
  · exact nofun
  · obtain rfl := Store.Call.Refuses.of_get (relied.refused _ failure rfl)
    exact Failure.not_isUnforeseen_notFound id
  · refine Fails.ite (fun _ => fails_throw (Failure.not_isUnforeseen_notFound id)) ?_ _
    exact fun _ => .ite (fun _ => fails_pure conversion) fun _ => foresees_lookFrom _ _ _ conversion

/-- A run of the worker fails in one way: an illegal step is one that another run has taken. -/
theorem fails_executeOne :
    Fails (fun failure => failure = .notFound id) (service.executeOne id) := by
  intro log
  refine keeps_bind.2 (keeps_request.2 ⟨trivial, fun moment answer relied => ?_⟩)
  rcases answer with failure | conversion
  · obtain rfl := Store.Call.Refuses.of_get (relied.refused _ failure rfl)
    trivial
  · refine keeps_ite (fun _ => trivial) fun _ => ?_
    refine keeps_bind.2 (keeps_lift.2 (Program.Keeps.mono (fails_process service id _) ?_))
    rintro log (failure | done) holds
    · cases holds with
      | gone => exact rfl
      | illegal _ _ => trivial
    · trivial

theorem foresees_executeOne : Foresees (service.executeOne id) := by
  refine (fails_executeOne service id).mono ?_
  rintro _ rfl
  exact Failure.not_isUnforeseen_notFound id

end

/-- Whether an illegal step is for its caller to be told of: it asked for the step itself. -/
def isStepwise : Operation → Bool
  | .transition _ _ | .process _ => true
  | _ => false

theorem foresees_action (service : Service) {operation : Operation}
    (apart : isStepwise operation = false) : Foresees (operation.action service) := by
  cases operation with
  | create user request => exact foresees_create service user request
  | get id user => exact foresees_get id user
  | status id user => exact (foresees_get id user).bind fun found => fails_pure _
  | list filter pagination => exact foresees_store nofun rfl rfl
  | update id user style => exact foresees_update id user style
  | cancel id user => exact foresees_cancel service id user
  | delete id user => exact foresees_delete id user
  | watch id user timeout poll => exact foresees_watch service id user timeout poll
  | quota user => exact foresees_store nofun rfl rfl
  | grant user credits => exact foresees_grant user credits
  | setPlan user plan limit =>
    dsimp only [Operation.action]
    with_reducible exact foresees_setPlan user plan limit
  | executeOne id => exact foresees_executeOne service id
  | transition _ _ | process _ => cases apart

end Contention

end TryOn
