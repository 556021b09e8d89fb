import TryOn.Proofs.Interleaving.Attempts
import TryOn.Proofs.Processing.Conduct

/-! The stages of a run of the processor: the first step, the attempts of the processor between two
looks at the clock, the second step, and word of it. -/

set_option autoImplicit false

namespace TryOn.Service

/-- What is told of the outcome of a run besides the record itself. -/
structure Tidings where
  event : MetricEvent
  kind : NoticeKind
  action : AuditAction
  metadata : Data

def tidings (outcome : Outcome) (millis : Nat) : Tidings :=
  match outcome with
  | .ok _ =>
    ⟨.completed millis, .completed, .completed, .ofFields [("processing_time_ms", .ofNat millis)]⟩
  | .error failure =>
    ⟨.failed, .failed, .failed, .ofFields [("attempts", .ofNat failure.attempts),
      ("error", .text (processingFailureText failure))]⟩

variable (service : Service) (id : ConversionId)

def tell (outcome : Outcome) (millis : Nat) (ended : Conversion) : Action Conversion := do
  Action.request (.count (tidings outcome millis).event)
  service.notify (noticeOf ended (tidings outcome millis).kind)
  Action.audit (tidings outcome millis).action ended.user id (tidings outcome millis).metadata
  return ended

theorem outward_tell (outcome : Outcome) (millis : Nat) (ended : Conversion) :
    (service.tell id outcome millis ended).Asks Request.IsOutward :=
  (Action.asks_request trivial).bind fun _ => (service.outward_notify _).bind fun _ =>
    (outward_audit _ _ _ _).bind fun _ => trivial

def conclude (outcome : Outcome) (millis : Nat) : Action Conversion := do
  let ended ← transition id (ending outcome millis)
  service.tell id outcome millis ended

theorem conclude_ok (image : ImageId) (millis : Nat) :
    service.conclude id (.ok image) millis = service.complete id image millis := rfl

theorem conclude_error (failure : Retry.Failure ProcessorError) (millis : Nat) :
    service.conclude id (.error failure) millis = service.fail id failure := rfl

inductive Concludes (outcome : Outcome) (millis : Nat) : Log → Except Failure Conversion → Prop
  | vain {log : Log} {failure : Failure}
    (step : (transition id (ending outcome millis)).Yields log (.error failure)) :
    Concludes outcome millis log (.error failure)
  | told {first words : Log} {ended : Conversion}
    (step : (transition id (ending outcome millis)).Yields first (.ok ended))
    (telling : (service.tell id outcome millis ended).Yields words (.ok ended)) :
    Concludes outcome millis (first ++ words) (.ok ended)

/-- What is exchanged in a run. Between the two steps only the processor and the clock are asked. -/
inductive Stages : Log → Except Failure Conversion → Prop
  | unstarted {log : Log} {failure : Failure}
    (step : (transition id .start).Yields log (.error failure)) : Stages log (.error failure)
  | begun {first middle last : Log} {started : Conversion} {outcome : Outcome} {millis : Nat}
    {result : Except Failure Conversion} (step : (transition id .start).Yields first (.ok started))
    (between : ∀ exchange ∈ middle,
      exchange.request = .now ∨ Request.Serves (processRequest started) exchange.request)
    (concludes : service.Concludes id outcome millis last result) :
    Stages (first ++ (middle ++ last)) result

variable {service} {id} {log : Log}

theorem words_of_tell {outcome : Outcome} {millis : Nat} {ended : Conversion}
    {result : Except Failure Conversion}
    (yields : (service.tell id outcome millis ended).Yields log result) :
    result = .ok ended ∧ ∃ counted notes dated date entered,
      log = ⟨counted, .count (tidings outcome millis).event, ()⟩ :: (notes
        ++ [⟨dated, .wallClock, date⟩,
          ⟨entered, .audit ⟨(tidings outcome millis).action, ended.user, id,
            (tidings outcome millis).metadata, date⟩, ()⟩])
      ∧ (service.notify (noticeOf ended (tidings outcome millis).kind)).Yields notes () := by
  unfold tell at yields
  obtain ⟨counted, ⟨⟩, _, rfl, counting⟩ := yields.request_bind
  obtain ⟨notes, _, ⟨⟩, rfl, noted, told⟩ := counting.lift_bind
  unfold Action.audit at told
  rw [bind_assoc] at told
  obtain ⟨dated, date, _, rfl, entering⟩ := told.request_bind
  obtain ⟨entered, ⟨⟩, _, rfl, returned⟩ := entering.request_bind
  cases returned
  exact ⟨rfl, counted, notes, dated, date, entered, rfl, noted⟩

theorem concludes_conclude {outcome : Outcome} {millis : Nat} {result : Except Failure Conversion}
    (yields : (service.conclude id outcome millis).Yields log result) :
    service.Concludes id outcome millis log result := by
  unfold conclude at yields
  rcases yields.bind with ⟨failure, rfl, missed⟩ | ⟨first, words, ended, rfl, taken, telling⟩
  · exact .vain missed
  · obtain ⟨rfl, -⟩ := words_of_tell telling
    exact .told taken telling

/-- The parts of a run: the first step, the attempts of the processor between looks at the clock,
and what comes of their outcome. -/
theorem parts_of_process {result : Except Failure Conversion}
    (yields : (service.process id).Yields log result) :
    (∃ failure, result = .error failure ∧ (transition id .start).Yields log (.error failure))
      ∨ ∃ first clock asked clocks last started outcome millis,
        log = first ++ (clock :: (asked ++ clocks) ++ last)
        ∧ (transition id .start).Yields first (.ok started)
        ∧ (∀ exchange ∈ clock :: (asked ++ clocks), exchange.request = .now
          ∨ Request.Serves (processRequest started) exchange.request)
        ∧ (service.processing (processRequest started)).Yields asked outcome
        ∧ (service.conclude id outcome millis).Yields last result := by
  unfold process at yields
  rcases yields.bind with ⟨failure, rfl, missed⟩ | ⟨first, rest, started, rfl, began, later⟩
  · exact .inl ⟨failure, rfl, missed⟩
  obtain ⟨clock, instant, _, rfl, worked⟩ := later.request_bind
  obtain ⟨asked, last, outcome, rfl, served, ended⟩ := worked.lift_bind
  have serves := served.asked (service.asks_processing (processRequest started))
  have between {clocks : Log} (looks : ∀ exchange ∈ clocks, exchange.request = .now) :
      ∀ exchange ∈ ⟨clock, .now, instant⟩ :: (asked ++ clocks), exchange.request = .now
        ∨ Request.Serves (processRequest started) exchange.request := by
    refine List.forall_mem_cons.2 ⟨.inl rfl, List.forall_mem_append.2 ⟨?_, ?_⟩⟩
    · exact fun exchange member => .inr (serves exchange member)
    · exact fun exchange member => .inl (looks exchange member)
  -- Only a result is followed by another look at the clock, for the time that it took.
  cases outcome with
  | error failure =>
    exact .inr ⟨first, _, asked, [], last, started, .error failure, 0, by simp, began,
      between (List.forall_mem_nil _), served, ended⟩
  | ok image =>
    obtain ⟨late, finished, last, rfl, finishing⟩ := ended.request_bind
    exact .inr ⟨first, _, asked, [⟨late, .now, finished⟩], last, started, .ok image, _, by simp,
      began, between (List.forall_mem_singleton.2 rfl), served, finishing⟩

theorem stages_process {result : Except Failure Conversion}
    (yields : (service.process id).Yields log result) : service.Stages id log result := by
  obtain ⟨failure, rfl, missed⟩ | ⟨first, clock, asked, clocks, last, started, outcome, millis, rfl,
    began, between, -, ended⟩ := parts_of_process yields
  · exact .unstarted missed
  · exact .begun began between (concludes_conclude ended)

def reported : Except Failure Conversion → Except Failure WorkOutcome
  | .ok done => .ok (if done.status = .completed then .succeeded else .failed)
  | .error (.invalidTransition _ _) => .ok .skipped
  | .error failure => .error failure

variable (service) (id)

/-- What a task of the worker exchanges: a look at its conversion and, if that waits, a run. -/
inductive Visits : Log → Except Failure WorkOutcome → Prop
  | absent {moment : Timestamp} {named : ConversionId} :
    Visits [⟨moment, .store (.get id), .error (.notFound named)⟩] (.ok .skipped)
  | unread {moment : Timestamp} {failure : StoreError}
    (other : ∀ named, failure ≠ .notFound named) :
    Visits [⟨moment, .store (.get id), .error failure⟩] (.error (.ofStore failure))
  | taken {moment : Timestamp} {seen : Conversion} (apart : seen.status ≠ .pending) :
    Visits [⟨moment, .store (.get id), .ok seen⟩] (.ok .skipped)
  | worked {moment : Timestamp} {seen : Conversion} {run : Log}
    {outcome : Except Failure Conversion} (waiting : seen.status = .pending)
    (ran : (service.process id).Yields run outcome) :
    Visits (⟨moment, .store (.get id), .ok seen⟩ :: run) (reported outcome)

variable {service} {id}

theorem visits_executeOne {result : Except Failure WorkOutcome}
    (yields : (service.executeOne id).Yields log result) : service.Visits id log result := by
  unfold executeOne at yields
  obtain ⟨moment, answer, rest, rfl, looked⟩ := yields.request_bind
  rcases answer with failure | seen
  · cases failure with
    | notFound _ =>
      cases looked
      exact .absent
    | _ =>
      cases looked
      exact .unread nofun
  dsimp only at looked
  by_cases apart : seen.status ≠ .pending
  · rw [if_pos apart] at looked
    cases looked
    exact .taken apart
  rw [if_neg apart] at looked
  obtain ⟨run, last, outcome, rfl, ran, told⟩ := looked.lift_bind
  -- What the run comes to is reported without asking anything more.
  have ended : last = [] ∧ result = reported outcome := by
    rcases outcome with failure | done
    · cases failure <;> (cases told; exact ⟨rfl, rfl⟩)
    · cases told
      exact ⟨rfl, rfl⟩
  obtain ⟨rfl, rfl⟩ := ended
  rw [List.append_nil]
  exact .worked (not_not.1 apart) ran

end TryOn.Service
