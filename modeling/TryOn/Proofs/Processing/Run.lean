import TryOn.Proofs.Processing.Conduct

/-! Every operation keeps to the conduct of processing: the plain ones by their requests alone, and
a run of the processor because it has a conversion in hand only between its two steps. -/

set_option autoImplicit false

namespace TryOn.Processing

open Interleaving (Operation)
open TryOn.Action (keeps_bind keeps_lift keeps_request keeps_store keeps_orFail)

variable {service : Service} {operation : Operation} {id : ConversionId} {log : Log}

theorem keeps_plain {α : Type} {action : Action α} (plain : action.Asks Request.IsPlain)
    (idle : log.holding = none) :
    action.Keeps (conduct service operation) (fun log _ => log.holding = none)
      (fun log _ => log.holding = none) log := by
  refine Program.Asks.keeps plain (fun _ _ request fits => .inl fits) fun part result fits _ => ?_
  have idle : Log.holding (log ++ part) = none := (holding_append_of_plain fits).trans idle
  cases result with
  | ok value => exact idle
  | error failure => exact idle

/-- One attempt at the first step: with its success the run holds the conversion. -/
theorem keeps_attempt_start (runs : operation.runs? = some id) (idle : log.holding = none) :
    (Service.attemptStep id .start).Keeps (conduct service operation)
      (fun log answer => match answer with
        | .ok started => log.Started id started ∧ started.id = id
        | .error _ => log.holding = none)
      (fun log _ => log.holding = none) log := by
  unfold Service.attemptStep
  rw [keeps_bind, keeps_store]
  refine ⟨.inl (.free (.quiet trivial)), fun moment answer _ => ?_⟩
  have idle : Log.holding (log ++ [⟨moment, .store (.get id), answer⟩]) = none :=
    (Log.holding_concat_of_still rfl).trans idle
  rcases answer with failure | current
  · exact idle
  refine keeps_bind.2 (keeps_request.2 ⟨.inl (.free (.quiet trivial)), fun clock now _ => ?_⟩)
  have idle : Log.holding (_ ++ [⟨clock, .wallClock, now⟩]) = none :=
    (Log.holding_concat_of_still rfl).trans idle
  refine keeps_bind.2 (keeps_orFail.2 ?_)
  cases planned : current.plan .start now with
  | error illegal => exact idle
  | ok patch =>
    refine keeps_request.2 ⟨.inr ⟨id, runs, .start idle planned⟩, fun moment answer expected => ?_⟩
    obtain ⟨-, status, -⟩ := Conversion.plan_guard planned
    rcases answer with failure | started
    · exact (Log.holding_concat _ _).trans idle
    · exact ⟨⟨_, _, patch, rfl, rfl, status⟩, expected.named id patch started rfl⟩

theorem keeps_start (runs : operation.runs? = some id) (idle : log.holding = none) :
    (Service.transition id .start).Keeps (conduct service operation)
      (fun log started => log.Started id started ∧ started.id = id)
      (fun log _ => log.holding = none) log := by
  unfold Service.transition
  generalize Service.maxPlans - 1 = left
  induction left generalizing log with
  | zero =>
    unfold Service.transitionFrom
    refine keeps_bind.2 ((keeps_attempt_start runs idle).mono ?_ fun _ _ idle => idle)
    rintro log (failure | started) holds
    · exact holds
    · exact holds
  | succ left ih =>
    unfold Service.transitionFrom
    refine keeps_bind.2 ((keeps_attempt_start runs idle).mono ?_ fun _ _ idle => idle)
    rintro log (failure | started) holds
    · cases failure with
      | statusConflict _ _ _ => exact ih holds
      | _ => exact holds
    · exact holds

/-- One attempt at the second step succeeds, and nothing is held any more. -/
theorem keeps_attempt_ending {outcome : Service.Outcome} (runs : operation.runs? = some id)
    (held : log.holding = some id) (processed : log.Processed service id outcome) (millis : Nat) :
    (Service.attemptStep id (Service.ending outcome millis)).Keeps (conduct service operation)
      (fun log answer => ∃ ended, answer = .ok ended ∧ log.holding = none)
      (fun _ _ => False) log := by
  unfold Service.attemptStep
  rw [keeps_bind, keeps_store]
  refine ⟨.inl (.free (.quiet trivial)), fun moment answer expected => ?_⟩
  -- The run holds the conversion, so it finds it being processed and its plan cannot fail.
  obtain ⟨current, rfl, status⟩ := expected.found id answer held rfl
  have held : Log.holding (log ++ [⟨moment, .store (.get id), .ok current⟩]) = some id :=
    (Log.holding_concat_of_still rfl).trans held
  have processed := processed.append [⟨moment, .store (.get id), .ok current⟩]
  refine keeps_bind.2 (keeps_request.2 ⟨.inl (.free (.quiet trivial)), fun clock now _ => ?_⟩)
  have held : Log.holding (_ ++ [⟨clock, .wallClock, now⟩]) = some id :=
    (Log.holding_concat_of_still rfl).trans held
  have processed := processed.append [⟨clock, .wallClock, now⟩]
  refine keeps_bind.2 (keeps_orFail.2 ?_)
  have allowed := (Transition.allowedFrom_ending outcome millis current.status).2 status
  cases planned : current.plan (Service.ending outcome millis) now with
  | error illegal =>
    have planning := (current.plan_isOk_iff (Service.ending outcome millis) now).2 allowed
    rw [planned] at planning
    cases planning
  | ok patch =>
    refine keeps_request.2
      ⟨.inr ⟨id, runs, .finish held processed planned⟩, fun moment answer expected => ?_⟩
    obtain ⟨source, target, -⟩ := Conversion.plan_guard planned
    have guarded : patch.expected = .processing := source.trans status
    obtain ⟨result, written⟩ := expected.accepted id patch held rfl guarded
    rcases answer with failure | ended
    · cases written
    · refine ⟨ended, rfl, ?_⟩
      have leaves : patch.status ≠ some .processing :=
        target ▸ Transition.target_ending_ne_processing outcome millis
      rw [Log.holding_concat]
      exact (if_neg leaves).trans (if_pos guarded)

theorem keeps_ending {outcome : Service.Outcome} (runs : operation.runs? = some id)
    (held : log.holding = some id) (processed : log.Processed service id outcome) (millis : Nat) :
    (Service.transition id (Service.ending outcome millis)).Keeps (conduct service operation)
      (fun log _ => log.holding = none) (fun _ _ => False) log := by
  unfold Service.transition
  generalize Service.maxPlans - 1 = left
  unfold Service.transitionFrom
  refine keeps_bind.2 ((keeps_attempt_ending runs held processed millis).mono ?_ ?_)
  · rintro log answer ⟨ended, rfl, released⟩
    exact released
  · exact fun _ _ impossible => impossible

theorem keeps_complete {result : ImageId} (runs : operation.runs? = some id)
    (held : log.holding = some id) (processed : log.Processed service id (.ok result))
    (millis : Nat) :
    (service.complete id result millis).Keeps (conduct service operation)
      (fun log _ => log.holding = none) (fun log _ => log.holding = none) log := by
  refine keeps_bind.2 ((keeps_ending runs held processed millis).mono ?_ fun _ _ => False.elim)
  intro log conversion idle
  refine keeps_plain (.bind (Action.asks_request (.free (.quiet trivial))) fun _ => ?_) idle
  refine .bind (service.quiet_notify _).plain fun _ => ?_
  exact (Service.quiet_audit _ _ _ _).plain.bind fun _ => trivial

theorem keeps_fail {failure : Retry.Failure ProcessorError} (runs : operation.runs? = some id)
    (held : log.holding = some id) (processed : log.Processed service id (.error failure)) :
    (service.fail id failure).Keeps (conduct service operation)
      (fun log _ => log.holding = none) (fun log _ => log.holding = none) log := by
  refine keeps_bind.2 ((keeps_ending runs held processed 0).mono ?_ fun _ _ => False.elim)
  intro log conversion idle
  refine keeps_plain (.bind (Action.asks_request (.free (.quiet trivial))) fun _ => ?_) idle
  refine .bind (service.quiet_notify _).plain fun _ => ?_
  exact (Service.quiet_audit _ _ _ _).plain.bind fun _ => trivial

theorem keeps_processing {work : ProcessRequest} {post : Log → Service.Outcome → Prop}
    (runs : operation.runs? = some id) (held : log.holding = some id) (own : work.conversion = id)
    (ends : ∀ part outcome, Log.holding (log ++ part) = some id →
      (service.processing work).Yields part outcome → post (log ++ part) outcome) :
    (service.processing work).Keeps (conduct service operation) post log := by
  have holds : ∀ part : Log, (∀ exchange ∈ part, Request.Serves work exchange.request) →
      Log.holding (log ++ part) = some id := fun part fits =>
    (Log.holding_append_of_still fun exchange member =>
      Exchange.write?_eq_none_of_serves (fits exchange member)).trans held
  refine Program.Asks.keeps (service.asks_processing work) ?_ fun part outcome fits yields =>
    ends part outcome (holds part fits) yields
  intro part fits request serves
  cases request with
  | process asked =>
    obtain rfl : asked = work := serves
    exact .inr ⟨id, runs, .process (holds part fits) own⟩
  | isCancelled | wait _ _ | draw _ => exact .inl (.free (.quiet trivial))
  | _ => exact serves.elim

theorem keeps_process (runs : operation.runs? = some id) (idle : log.holding = none) :
    (service.process id).Keeps (conduct service operation) (fun log _ => log.holding = none)
      (fun log _ => log.holding = none) log := by
  refine keeps_bind.2 ((keeps_start runs idle).mono ?_ fun _ _ idle => idle)
  rintro log started ⟨start, named⟩
  refine keeps_bind.2 (keeps_request.2 ⟨.inl (.free (.quiet trivial)), fun moment instant _ => ?_⟩)
  have held : Log.holding (log ++ [⟨moment, .now, instant⟩]) = some id :=
    (Log.holding_concat_of_still rfl).trans start.holding
  refine keeps_bind.2 (keeps_lift.2 (keeps_processing runs held named ?_))
  intro part outcome held yields
  have processed : Log.Processed service id outcome (log ++ [⟨moment, .now, instant⟩] ++ part) :=
    ⟨log, ⟨moment, .now, instant⟩, part, [], started, by simp, start, yields⟩
  cases outcome with
  | error failure => exact keeps_fail runs held processed
  | ok result =>
    refine keeps_bind.2 (keeps_request.2 ⟨.inl (.free (.quiet trivial)), ?_⟩)
    intro clock finished _
    exact keeps_complete runs ((Log.holding_concat_of_still rfl).trans held)
      (processed.append [⟨clock, .now, finished⟩]) _

theorem keeps_executeOne (runs : operation.runs? = some id) (idle : log.holding = none) :
    (service.executeOne id).Keeps (conduct service operation) (fun log _ => log.holding = none)
      (fun log _ => log.holding = none) log := by
  refine keeps_bind.2 (keeps_request.2 ⟨.inl (.free (.quiet trivial)), fun moment answer _ => ?_⟩)
  have idle : Log.holding (log ++ [⟨moment, .store (.get id), answer⟩]) = none :=
    (Log.holding_concat_of_still rfl).trans idle
  rcases answer with failure | conversion
  · cases failure <;> exact idle
  refine Action.keeps_ite (fun _ => idle) fun _ => keeps_bind.2 (keeps_lift.2 ?_)
  refine Program.Keeps.mono (keeps_process runs idle) fun log result settled => ?_
  rcases result with failure | done
  · cases failure <;> exact settled
  · exact settled

/-- Whatever an operation is, it ends with nothing in hand. -/
theorem keeps_action (service : Service) {operation : Operation}
    (offered : operation.isTransition = false) :
    (operation.action service).Keeps (conduct service operation) (fun log _ => log.holding = none)
      (fun log _ => log.holding = none) [] := by
  by_cases free : operation.IsFree
  · exact keeps_plain ((Operation.free_action service free).mono fun _ => .free) rfl
  · cases operation with
    | update id user style => exact keeps_plain (Service.plain_update id user style) rfl
    | cancel id user => exact keeps_plain (service.plain_cancel id user) rfl
    | process id => exact keeps_process rfl rfl
    | executeOne id => exact keeps_executeOne rfl rfl
    | transition _ _ => cases offered
    | _ =>
      exfalso
      exact free trivial

end TryOn.Processing
