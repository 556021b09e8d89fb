import TryOn.Proofs.Interleaving.Plain
import TryOn.Proofs.Processing.Conduct
import TryOn.Proofs.Record.Sound

/-! What the operations ask of the store, and why it can refuse it. Every patch they hand in fits
every consistent record of the status it expects, so nothing stands in its way but that the record
is gone or has another status by now. -/

set_option autoImplicit false

namespace TryOn

open Interleaving (Operation)
open TryOn.Action (asks_request asks_orFail asks_store)

def Request.IsLawful : Request → Prop
  | .store (.create draft) => draft.check = .ok ()
  | .store (.update _ patch) => patch.IsLawful
  | _ => True

/-- Whether a request is one of a step: a patch is handed in as it was planned, and the processor is
not asked. -/
def Request.IsStep : Request → Prop
  | .store (.create _) | .process _ => False
  | .store (.update _ patch) =>
    ∃ (seen : Conversion) (step : Transition) (now : Timestamp), seen.plan step now = .ok patch
  | _ => True

namespace Request

theorem IsQuiet.step {request : Request} (quiet : request.IsQuiet) : request.IsStep := by
  cases request with
  | store call =>
    cases call with
    | create _ | update _ _ | delete _ _ => exact quiet.elim
    | _ => trivial
  | process _ => exact quiet.elim
  | _ => trivial

theorem IsStep.lawful {request : Request} (step : request.IsStep) : request.IsLawful := by
  cases request with
  | store call =>
    cases call with
    | create _ => exact step.elim
    | update _ _ =>
      obtain ⟨seen, step, now, planned⟩ := step
      exact .planned planned
    | _ => trivial
  | _ => trivial

theorem IsQuiet.lawful {request : Request} (quiet : request.IsQuiet) : request.IsLawful := by
  cases request with
  | store call => cases call <;> trivial
  | _ => trivial

theorem IsFree.lawful {request : Request} (free : request.IsFree) : request.IsLawful := by
  cases free with
  | quiet quiet => exact quiet.lawful
  | create checked => exact checked
  | delete _ => trivial

theorem IsPlain.lawful {request : Request} (plain : request.IsPlain) : request.IsLawful := by
  cases plain with
  | free free => exact free.lawful
  | cancel planned => exact .planned planned
  | restyle valid =>
    obtain ⟨rfl, fits⟩ := Patch.restyle_eq_ok valid
    exact .relabelled fits

theorem Serves.lawful {work : ProcessRequest} {request : Request} (serves : request.Serves work) :
    request.IsLawful := by
  cases request with
  | store _ => exact serves.elim
  | _ => trivial

end Request

theorem Action.Asks.lawful {α : Type} {action : Action α} (quiet : action.Asks Request.IsQuiet) :
    action.Asks Request.IsLawful :=
  Program.Asks.mono quiet fun _ => Request.IsQuiet.lawful

namespace Service

variable (service : Service) (id : ConversionId)

theorem asks_attemptStep (step : Transition) :
    (attemptStep id step).Asks Request.IsStep := by
  refine (asks_store trivial).bind fun seen => ?_
  refine (asks_request trivial).bind fun now => ?_
  exact Action.asks_orFail_bind _ fun patch planned => asks_request ⟨seen, step, now, planned⟩

theorem asks_transition (step : Transition) : (transition id step).Asks Request.IsStep := by
  unfold transition
  generalize maxPlans - 1 = left
  induction left with
  | zero =>
    unfold transitionFrom
    refine (asks_attemptStep id step).bind fun answer => ?_
    rcases answer with failure | updated <;> trivial
  | succ left ih =>
    unfold transitionFrom
    refine (asks_attemptStep id step).bind fun answer => ?_
    rcases answer with failure | updated
    · cases failure with
      | statusConflict _ _ _ => exact ih
      | _ => trivial
    · trivial

theorem lawful_transition (step : Transition) : (transition id step).Asks Request.IsLawful :=
  Program.Asks.mono (asks_transition id step) fun _ => Request.IsStep.lawful

theorem asks_cancel (user : UserId) : (service.cancel id user).Asks Request.IsStep := by
  have quiet {α : Type} {action : Action α} (asks : action.Asks Request.IsQuiet) :
      action.Asks Request.IsStep := Program.Asks.mono asks fun _ => Request.IsQuiet.step
  refine (quiet (silent_get id user).quiet).bind fun seen => .ite trivial ?_
  refine (asks_request trivial).bind fun now => ?_
  refine Action.asks_orFail_bind _ fun patch planned => ?_
  refine (asks_request ⟨seen, .cancel, now, planned⟩).bind fun updated => ?_
  refine (asks_orFail _ _).bind fun conversion => ?_
  refine (quiet (quiet_audit _ _ _ _)).bind fun _ => ?_
  exact (quiet (service.quiet_notify _)).bind fun _ => trivial

theorem lawful_process : (service.process id).Asks Request.IsLawful := by
  refine (lawful_transition id .start).bind fun conversion => ?_
  refine (asks_request trivial).bind fun started => ?_
  refine (Action.asks_lift ((service.asks_processing (processRequest conversion)).mono
    fun _ => Request.Serves.lawful)).bind fun outcome => ?_
  cases outcome with
  | error failure =>
    refine (lawful_transition id _).bind fun conversion => ?_
    refine (asks_request trivial).bind fun _ => ?_
    refine (service.quiet_notify _).lawful.bind fun _ => ?_
    exact (quiet_audit _ _ _ _).lawful.bind fun _ => trivial
  | ok result =>
    refine (asks_request trivial).bind fun finished => ?_
    refine (lawful_transition id _).bind fun conversion => ?_
    refine (asks_request trivial).bind fun _ => ?_
    refine (service.quiet_notify _).lawful.bind fun _ => ?_
    exact (quiet_audit _ _ _ _).lawful.bind fun _ => trivial

theorem lawful_executeOne : (service.executeOne id).Asks Request.IsLawful := by
  refine (asks_request trivial).bind fun answer => ?_
  rcases answer with failure | conversion
  · cases failure <;> trivial
  · refine .ite trivial ?_
    refine (Action.asks_lift (service.lawful_process id)).bind fun result => ?_
    rcases result with failure | done
    · cases failure <;> trivial
    · trivial

end Service

theorem Interleaving.Operation.lawful_action (service : Service) (operation : Operation) :
    (operation.action service).Asks Request.IsLawful := by
  by_cases free : operation.IsFree
  · exact Program.Asks.mono (Operation.free_action service free) fun _ => Request.IsFree.lawful
  · cases operation with
    | update id user style =>
      exact Program.Asks.mono (Service.plain_update id user style) fun _ => Request.IsPlain.lawful
    | cancel id user =>
      exact Program.Asks.mono (service.asks_cancel id user) fun _ => Request.IsStep.lawful
    | transition id step => exact Service.lawful_transition id step
    | process id => exact service.lawful_process id
    | executeOne id => exact service.lawful_executeOne id
    | _ => exact absurd trivial free

theorem Patch.IsLawful.patched {patch : Patch} {stored : Conversion} (lawful : patch.IsLawful)
    (consistent : stored.Consistent) (expected : stored.status = patch.expected) :
    Store.patched stored patch = .ok (stored.apply patch) := by
  cases lawful with
  | planned planned =>
    have same := expected.trans (Conversion.plan_guard planned).1
    exact Store.patched_planned consistent same planned
  | @relabelled style now _ =>
    have after := Conversion.consistent_apply_relabel consistent style now
    exact Store.patched_eq_ok_iff.2 ⟨fun next moves => (by cases moves), after, rfl⟩

namespace Store

def Call.guard? : Call → Option (ConversionId × Status)
  | .update id patch => some (id, patch.expected)
  | .delete id expected => some (id, expected)
  | _ => none

/-- Why a lawful request is refused by a store that is not at fault. -/
inductive Call.Refuses : Call → StoreError → Prop
  | quota (draft : Draft) (balance : Quota.Balance) :
    Refuses (.create draft) (.quotaExceeded balance)
  | missing {call : Call} {id : ConversionId} (subject : call.subject? = some id) :
    Refuses call (.notFound id)
  | conflict {call : Call} {id : ConversionId} {expected actual : Status}
    (guarded : call.guard? = some (id, expected)) (differ : actual ≠ expected) :
    Refuses call (.statusConflict id expected actual)

variable {store : Store} {id : ConversionId} {expected : Status} {failure : StoreError}

theorem Call.Refuses.of_get (refuses : (Call.get id).Refuses failure) :
    failure = .notFound id := by
  cases refuses with
  | missing subject =>
    cases subject
    rfl
  | conflict guarded _ => cases guarded

theorem Call.Refuses.of_guarded {call : Call} (refuses : call.Refuses failure)
    (subject : call.subject? = some id) (guarded : call.guard? = some (id, expected)) :
    failure = .notFound id
      ∨ ∃ actual, actual ≠ expected ∧ failure = .statusConflict id expected actual := by
  cases refuses with
  | quota _ _ => cases guarded
  | missing same =>
    obtain rfl := Option.some.inj (subject.symm.trans same)
    exact .inl rfl
  | @conflict _ _ _ actual same differ =>
    obtain ⟨rfl, rfl⟩ := Prod.mk.inj (Option.some.inj (guarded.symm.trans same))
    exact .inr ⟨actual, differ, rfl⟩

theorem Call.refuses_of_getExpecting {call : Call} (subject : call.subject? = some id)
    (guarded : call.guard? = some (id, expected))
    (refused : store.getExpecting id expected = .error failure) : call.Refuses failure := by
  rcases getExpecting_eq_error_iff.1 refused with ⟨-, rfl⟩ | ⟨stored, -, differ, rfl⟩
  · exact .missing subject
  · exact .conflict guarded differ

theorem get_eq_error (refused : store.get id = .error failure) : failure = .notFound id := by
  unfold get at refused
  split at refused
  · cases refused
  · exact (Except.error.inj refused).symm

theorem delete_eq_error (refused : (store.delete id expected).1 = .error failure) :
    store.getExpecting id expected = .error failure := by
  unfold delete at refused
  split at refused
  · cases refused
  · rename_i found
    cases refused
    exact found

theorem update_eq_error {patch : Patch} (lawful : patch.IsLawful)
    (consistent : ∀ id stored, store.conversions.get? id = some stored → stored.Consistent)
    (refused : (store.update id patch).1 = .error failure) :
    store.getExpecting id patch.expected = .error failure := by
  cases guarded : store.getExpecting id patch.expected with
  | error other =>
    simpa [update, guarded, bind, Except.bind] using refused
  | ok stored =>
    -- Past the guard nothing can be wrong with the patch.
    obtain ⟨present, expected⟩ := getExpecting_eq_ok_iff.1 guarded
    have fits := lawful.patched (consistent id stored present) expected
    simp [update, guarded, fits, bind, Except.bind] at refused

/-- A store of consistent records refuses a lawful request only for the reasons given. -/
theorem refuses_of_perform {call : Call} (lawful : (Request.store call).IsLawful)
    (consistent : ∀ id stored, store.conversions.get? id = some stored → stored.Consistent)
    {moment : Timestamp} {fresh : ConversionId}
    (refused : (store.perform moment fresh call).1 = .error failure) : call.Refuses failure := by
  cases call with
  | create draft =>
    unfold perform create at refused
    dsimp only at refused
    split at refused
    · cases refused
      exact .quota draft _
    · cases refused
  | get id =>
    obtain rfl := get_eq_error refused
    exact .missing rfl
  | update id patch =>
    exact Call.refuses_of_getExpecting rfl rfl (update_eq_error lawful consistent refused)
  | delete id expected => exact Call.refuses_of_getExpecting rfl rfl (delete_eq_error refused)
  | list _ _ | balance _ | grant _ _ | setPlan _ _ _ => cases refused

end Store

end TryOn
