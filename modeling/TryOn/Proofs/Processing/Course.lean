import TryOn.Proofs.Processing.Stages

/-! The course of one task of the worker, told by what it has exchanged: the changes it made,
whether it was told that its conversion is not there, and what it comes to with either. -/

set_option autoImplicit false

namespace TryOn

namespace Exchange

def subject? : Exchange → Option ConversionId
  | ⟨_, .store call, _⟩ => call.subject?
  | _ => none

def misses (id : ConversionId) : Exchange → Bool
  | ⟨_, .store _, (.error failure : Except StoreError _)⟩ => failure = .notFound id
  | _ => false

theorem still_of_isOutward {exchange : Exchange} (outward : exchange.request.IsOutward)
    (id : ConversionId) : exchange.write? = none ∧ exchange.misses id = false := by
  obtain ⟨moment, request, answer⟩ := exchange
  cases request with
  | store _ | poll _ _ | process _ => exact outward.elim
  | _ => exact ⟨rfl, rfl⟩

theorem still_of_serves {work : ProcessRequest} {exchange : Exchange}
    (serves : Request.Serves work exchange.request) (id : ConversionId) :
    exchange.write? = none ∧ exchange.misses id = false := by
  obtain ⟨moment, request, answer⟩ := exchange
  cases request with
  | process _ | isCancelled | wait _ _ | draw _ => exact ⟨rfl, rfl⟩
  | _ => exact serves.elim

end Exchange

namespace Log

variable {log : Log} {id : ConversionId}

def writes (log : Log) : List Write :=
  log.filterMap (·.write?)

def misses (log : Log) (id : ConversionId) : Bool :=
  log.any (·.misses id)

theorem writes_append (first rest : Log) : writes (first ++ rest) = first.writes ++ writes rest :=
  List.filterMap_append

theorem misses_append (first rest : Log) (id : ConversionId) :
    misses (first ++ rest) id = (first.misses id || misses rest id) :=
  List.any_append

theorem misses_eq_true_iff : log.misses id = true ↔ ∃ exchange ∈ log, exchange.misses id = true :=
  List.any_eq_true

structure IsStill (log : Log) (id : ConversionId) : Prop where
  writes : log.writes = []
  found : log.misses id = false

theorem isStill_of_forall
    (still : ∀ exchange ∈ log, exchange.write? = none ∧ exchange.misses id = false) :
    log.IsStill id where
  writes := List.filterMap_eq_nil_iff.2 fun exchange member => (still exchange member).1
  found := List.any_eq_false.2 fun exchange member => by simp [(still exchange member).2]

theorem IsStill.writes_append_left (still : log.IsStill id) (rest : Log) :
    Log.writes (log ++ rest) = Log.writes rest := by
  rw [Log.writes_append, still.writes, List.nil_append]

theorem IsStill.misses_append_left (still : log.IsStill id) (rest : Log) :
    Log.misses (log ++ rest) id = Log.misses rest id := by
  rw [Log.misses_append, still.found, Bool.false_or]

end Log

theorem Interleaving.History.mem_writes_log_iff {history : Interleaving.History} {task : Nat}
    {write : Write} : write ∈ (history.log task).writes
      ↔ ∃ event ∈ history, event.task = task ∧ event.exchange.write? = some write := by
  constructor
  · intro member
    obtain ⟨exchange, inside, written⟩ := List.mem_filterMap.1 member
    exact ⟨⟨task, exchange⟩, mem_log_iff.1 inside, rfl, written⟩
  · rintro ⟨event, member, rfl, written⟩
    exact List.mem_filterMap.2 ⟨event.exchange, mem_log_iff.2 member, written⟩

theorem Program.Yields.isStill {α : Type} {program : Program α} {log : Log} {result : α}
    (yields : program.Yields log result) (outward : program.Asks Request.IsOutward)
    (id : ConversionId) : log.IsStill id :=
  Log.isStill_of_forall fun exchange member =>
    exchange.still_of_isOutward (yields.asked outward exchange member) id

namespace Processing

variable {service : Service} {id : ConversionId} {log : Log}

section Steps

/-- A step that was taken made one change, planned for it. One that was not made none, and was
reported as missing exactly if the conversion was. -/
def Steps (id : ConversionId) (step : Transition) (log : Log) : Except Failure Conversion → Prop
  | .error failure => log.writes = [] ∧ (log.misses id = true ↔ failure = .notFound id)
  | .ok updated => log.misses id = false ∧ ∃ (seen : Conversion) (now : Timestamp) (patch : Patch),
    seen.plan step now = .ok patch ∧ log.writes = [.commit id patch updated]

theorem ofStore_eq_notFound_iff (failure : StoreError) :
    Failure.ofStore failure = .notFound id ↔ failure = .notFound id := by
  cases failure <;> simp [Failure.ofStore]

theorem Steps.append {step : Transition} {rest : Log} {result : Except Failure Conversion}
    (still : log.IsStill id) (steps : Steps id step rest result) :
    Steps id step (log ++ rest) result := by
  cases result with
  | error failure =>
    rw [Steps, still.writes_append_left, still.misses_append_left]
    exact steps
  | ok updated =>
    rw [Steps, still.writes_append_left, still.misses_append_left]
    exact steps

theorem steps_of_tries {step : Transition} {left : Nat} {result : Except Failure Conversion}
    (tries : Service.Tries id step left log result) : Steps id step log result := by
  induction tries with
  | failed attempt =>
    cases attempt with
    | unread =>
      refine ⟨rfl, ?_⟩
      simp [Log.misses, Exchange.misses, ofStore_eq_notFound_iff]
    | illegal _ =>
      refine ⟨rfl, ?_⟩
      simp [Log.misses, Exchange.misses, Failure.ofIllegalTransition]
  | taken attempt =>
    obtain _ | _ | legal := attempt
    exact ⟨rfl, _, _, _, legal, rfl⟩
  | refused attempt =>
    obtain _ | _ | legal := attempt
    refine ⟨rfl, ?_⟩
    simp [Log.misses, Exchange.misses, ofStore_eq_notFound_iff]
  | again attempt more ih =>
    -- Another attempt is made after one in which nothing was changed or missed.
    obtain _ | _ | legal := attempt
    exact .append ⟨rfl, rfl⟩ ih

theorem steps_transition {step : Transition} {result : Except Failure Conversion}
    (yields : (Service.transition id step).Yields log result) : Steps id step log result :=
  steps_of_tries (Service.tries_transition yields)

theorem Steps.append_still {step : Transition} {rest : Log} {updated : Conversion}
    (steps : Steps id step log (.ok updated)) (still : rest.IsStill id) :
    Steps id step (log ++ rest) (.ok updated) := by
  rw [Steps, Log.writes_append, Log.misses_append, still.writes, still.found, List.append_nil,
    Bool.or_false]
  exact steps

theorem steps_of_concludes {outcome : Service.Outcome} {millis : Nat}
    {result : Except Failure Conversion}
    (concludes : service.Concludes id outcome millis log result) :
    Steps id (Service.ending outcome millis) log result := by
  cases concludes with
  | vain step => exact steps_transition step
  | told step telling =>
    exact (steps_transition step).append_still
      (Program.Yields.isStill telling (service.outward_tell id outcome millis _) id)

end Steps

section Tasks

inductive Processes (id : ConversionId) (log : Log) : Except Failure Conversion → Prop
  | unstarted {failure : Failure} (steps : Steps id .start log (.error failure)) :
    Processes id log (.error failure)
  | halfway {seen : Conversion} {now : Timestamp} {patch : Patch} {failure : Failure}
    (started : Conversion) (begins : seen.plan .start now = .ok patch)
    (writes : log.writes = [.commit id patch started]) : Processes id log (.error failure)
  | ended {seen second : Conversion} {now later : Timestamp} {start finish : Patch}
    {outcome : Service.Outcome} {millis : Nat} (started ended : Conversion)
    (begins : seen.plan .start now = .ok start)
    (ends : second.plan (Service.ending outcome millis) later = .ok finish)
    (found : log.misses id = false)
    (writes : log.writes = [.commit id start started, .commit id finish ended]) :
    Processes id log (.ok ended)

theorem processes_of_steps {first middle last : Log} {started : Conversion}
    {outcome : Service.Outcome} {millis : Nat} {result : Except Failure Conversion}
    (began : Steps id .start first (.ok started)) (still : middle.IsStill id)
    (ended : Steps id (Service.ending outcome millis) last result) :
    Processes id (first ++ (middle ++ last)) result := by
  obtain ⟨found, seen, now, start, begins, writes⟩ := began
  cases result with
  | error failure =>
    refine .halfway started begins ?_
    rw [Log.writes_append, still.writes_append_left, writes, ended.1, List.append_nil]
  | ok conversion =>
    obtain ⟨foundLast, second, later, finish, ends, writesLast⟩ := ended
    refine .ended started conversion begins ends ?_ ?_
    · rw [Log.misses_append, still.misses_append_left, found, foundLast, Bool.false_or]
    · rw [Log.writes_append, still.writes_append_left, writes, writesLast]
      rfl

/-- Between the two steps of a run only the clock and the processor are asked. -/
theorem isStill_of_between {work : ProcessRequest}
    (between : ∀ exchange ∈ log,
      exchange.request = .now ∨ Request.Serves work exchange.request) : log.IsStill id := by
  refine Log.isStill_of_forall fun exchange member => ?_
  rcases between exchange member with look | serves
  · obtain ⟨moment, request, answer⟩ := exchange
    cases look
    exact ⟨rfl, rfl⟩
  · exact exchange.still_of_serves serves id

theorem processes_process {result : Except Failure Conversion}
    (yields : (service.process id).Yields log result) : Processes id log result := by
  cases Service.stages_process yields with
  | unstarted step => exact .unstarted (steps_transition step)
  | @begun first middle last _ _ _ _ step between concludes =>
    exact processes_of_steps (steps_transition step) (isStill_of_between between)
      (steps_of_concludes concludes)

/-- What a task of the worker has exchanged since it first asked for its conversion, and what it
comes to. -/
inductive Works (id : ConversionId) (rest : Log) : Except Failure Service.WorkOutcome → Prop
  | skipped (still : rest.IsStill id) : Works id rest (.ok .skipped)
  | stopped {failure : Failure} (idle : rest.writes = [])
    (missed : rest.misses id = true ↔ failure = .notFound id) : Works id rest (.error failure)
  | halfway {seen : Conversion} {now : Timestamp} {patch : Patch}
    {result : Except Failure Service.WorkOutcome} (started : Conversion)
    (begins : seen.plan .start now = .ok patch)
    (writes : rest.writes = [.commit id patch started]) : Works id rest result
  | ended {seen second : Conversion} {now later : Timestamp} {start finish : Patch}
    {outcome : Service.Outcome} {millis : Nat} (started ended : Conversion)
    (begins : seen.plan .start now = .ok start)
    (ends : second.plan (Service.ending outcome millis) later = .ok finish)
    (found : rest.misses id = false)
    (writes : rest.writes = [.commit id start started, .commit id finish ended]) :
    Works id rest (.ok (if ended.status = .completed then .succeeded else .failed))

theorem works_executeOne {result : Except Failure Service.WorkOutcome}
    (yields : (service.executeOne id).Yields log result) :
    ∃ (moment : Timestamp) (answer : Except StoreError Conversion) (rest : Log),
      log = ⟨moment, .store (.get id), answer⟩ :: rest
      ∧ (rest ≠ [] → ∃ seen, answer = .ok seen) ∧ Works id rest result := by
  have silent : Log.IsStill [] id := ⟨rfl, rfl⟩
  cases Service.visits_executeOne yields with
  | absent => exact ⟨_, _, [], rfl, fun some => absurd rfl some, .skipped silent⟩
  | unread other =>
    refine ⟨_, _, [], rfl, fun some => absurd rfl some, .stopped rfl ?_⟩
    exact iff_of_false Bool.false_ne_true fun same => other id ((ofStore_eq_notFound_iff _).1 same)
  | taken _ => exact ⟨_, _, [], rfl, fun _ => ⟨_, rfl⟩, .skipped silent⟩
  | worked _ ran =>
    refine ⟨_, _, _, rfl, fun _ => ⟨_, rfl⟩, ?_⟩
    cases processes_process ran with
    | @unstarted failure steps =>
      obtain ⟨idle, missed⟩ := steps
      -- An illegal step is skipped, and then nothing was missed, or that would have been reported.
      cases failure with
      | invalidTransition _ _ => exact .skipped ⟨idle, by simpa using missed⟩
      | _ => exact .stopped idle missed
    | halfway started begins writes => exact .halfway started begins writes
    | ended started ended begins ends found writes =>
      exact .ended started ended begins ends found writes

end Tasks

end Processing

end TryOn
