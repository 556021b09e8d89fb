import Mathlib.Algebra.BigOperators.Ring.Finset
import TryOn.Proofs.Processing.Move
import TryOn.Proofs.Processing.Script
import TryOn.Proofs.Processing.Stages
import TryOn.Proofs.Record.Sound
import TryOn.Proofs.Store.Patches

/-! A run of the processor from its first read to its result, with the store to itself and on a
clock. -/

set_option autoImplicit false

namespace TryOn

open Retry (Clockwork Policy)
open Service (attemptStep conclude ending maxPlans processRequest tidings transition
  transitionFrom)

namespace Script

variable (script : Script) (began : Instant) {id : ConversionId} {solo : Solo}
  {stored : Conversion} {step : Transition}

section Steps

def planning (id : ConversionId) (solo : Solo) : Solo :=
  let around := script.around began
  around.after (around.after solo (.store (.get id))) .wallClock

theorem run_read (around : Circumstances) (found : solo.store.get id = .ok stored) :
    around.run (Action.store (.get id)).run solo
      = (.ok stored, around.after solo (.store (.get id))) := by
  have answered : (around.run (Program.request (.store (.get id))) solo).1 = .ok stored := found
  unfold Action.store Action.request
  rw [Circumstances.run_lift_bind, answered]
  rfl

theorem run_attemptStep (step : Transition) (found : solo.store.get id = .ok stored) :
    ∃ now, (script.around began).run (attemptStep id step).run solo
      = match stored.plan step now with
        | .error refusal => (.error (.ofIllegalTransition refusal), script.planning began id solo)
        | .ok patch => (.ok (solo.store.update id patch).1,
          (script.around began).after (script.planning began id solo)
            (.store (.update id patch))) := by
  have dated : ((script.around began).run (Program.request .wallClock)
        ((script.around began).after solo (.store (.get id)))).1
      = script.date ((script.around began).after solo (.store (.get id))).log := rfl
  refine ⟨script.date ((script.around began).after solo (.store (.get id))).log, ?_⟩
  unfold attemptStep Action.wallClock Action.request
  rw [Circumstances.run_bind_of_ok (run_read _ found), Circumstances.run_lift_bind, dated]
  cases stored.plan step _ with
  | error refusal => rfl
  | ok patch => rfl

theorem run_transition_refused (found : solo.store.get id = .ok stored)
    (refused : step.allowedFrom stored.status = false) :
    (script.around began).run (transition id step).run solo
      = (.error (.invalidTransition stored.status step.target), script.planning began id solo) := by
  obtain ⟨now, attempted⟩ := script.run_attemptStep began step found
  rw [Conversion.plan_eq_error now refused] at attempted
  unfold transition transitionFrom
  exact Circumstances.run_bind_of_error attempted

structure Moves (id : ConversionId) (step : Transition)
    (stored : Conversion) (patch : Patch) (solo later : Solo) : Prop where
  planned : ∃ now, stored.plan step now = .ok patch
  ran : (script.around began).run (transition id step).run solo
    = (.ok (stored.apply patch), later)
  stands : later.store.get id = .ok (stored.apply patch)
  now : later.now = solo.now
  calls : later.log.calls = solo.log.calls
  handed : ∃ before moment, later.log = before ++ [⟨moment, .store (.update id patch),
    (.ok (stored.apply patch) : Except StoreError Conversion)⟩]

theorem moves_of_allowedFrom (found : solo.store.get id = .ok stored)
    (consistent : stored.Consistent) (allowed : step.allowedFrom stored.status = true) :
    ∃ patch later, script.Moves began id step stored patch solo later := by
  obtain ⟨now, attempted⟩ := script.run_attemptStep began step found
  obtain ⟨patch, planned⟩ : ∃ patch, stored.plan step now = .ok patch := by
    cases planned : stored.plan step now with
    | error refusal =>
      have isOk := (Conversion.plan_isOk_iff stored step now).2 allowed
      rw [planned] at isOk
      cases isOk
    | ok patch => exact ⟨patch, rfl⟩
  have accepted := Store.update_planned (Store.get_eq_ok_iff.1 found) consistent rfl planned
  rw [planned] at attempted
  dsimp only at attempted
  rw [accepted] at attempted
  refine ⟨patch, (script.around began).after (script.planning began id solo)
    (.store (.update id patch)), ⟨now, planned⟩, ?ran, ?stands, ?now, ?calls, ?handed⟩
  case ran =>
    unfold transition transitionFrom
    exact Circumstances.run_bind_of_ok attempted
  case stands => exact Store.get_update_of_ok accepted
  case now => rfl
  case calls => exact (calls_after rfl).trans ((calls_after rfl).trans (calls_after rfl))
  case handed =>
    refine ⟨(script.planning began id solo).log,
      script.date (script.planning began id solo).log, ?_⟩
    show _ ++ [(⟨_, .store (.update id patch), (solo.store.update id patch).1⟩ : Exchange)] = _
    rw [accepted]
    rfl

end Steps

section Runs

variable {store : Store} {service : Service}

structure Stays (solo later : Solo) : Prop where
  store : later.store = solo.store
  calls : later.log.calls = solo.log.calls

theorem Stays.after {script : Script} {began : Instant} {later : Solo} {request : Request}
    (stays : Stays solo later) (outward : request.IsOutward) :
    Stays solo ((script.around began).after later request) := by
  cases request with
  | store _ | poll _ _ | process _ => exact outward.elim
  | _ => exact ⟨stays.store, (calls_after rfl).trans stays.calls⟩

theorem run_tell (service : Service) (id : ConversionId) (outcome : Service.Outcome)
    (millis : Nat) (ended : Conversion) (solo : Solo) :
    ∃ told, (script.around began).run (service.tell id outcome millis ended).run solo
        = (.ok ended, told)
      ∧ Stays solo told := by
  have result : ((script.around began).run (service.tell id outcome millis ended).run solo).1
      = .ok ended := by
    unfold Service.tell Action.request
    rw [Circumstances.run_lift_bind]
    exact congrArg Prod.fst (Circumstances.run_lift_bind (service.notify _) _)
  have stays : Stays solo
      ((script.around began).run (service.tell id outcome millis ended).run solo).2 :=
    (script.around began).run_keeps (fun _ _ outward stays => stays.after outward)
      (service.outward_tell id outcome millis ended) ⟨rfl, rfl⟩
  exact ⟨_, Prod.ext result rfl, stays⟩

structure Ended (id : ConversionId) (outcome : Service.Outcome) (millis : Nat)
    (stored ended : Conversion) (last : Solo) : Prop where
  stands : last.store.get id = .ok ended
  same : ended.SameIdentity stored
  fits : ended.Shows outcome
  millis : ∀ image, outcome = .ok image → ended.processingMillis = some millis

theorem run_conclude (service : Service) {outcome : Service.Outcome} {millis : Nat}
    {started : Conversion} (found : solo.store.get id = .ok started)
    (consistent : started.Consistent) (running : started.status = .processing) :
    ∃ ended last, (script.around began).run (service.conclude id outcome millis).run solo
        = (.ok ended, last)
      ∧ Ended id outcome millis started ended last ∧ last.log.calls = solo.log.calls := by
  have allowed : (ending outcome millis).allowedFrom started.status = true := by
    rw [running]
    cases outcome <;> rfl
  obtain ⟨finish, later, moves⟩ := script.moves_of_allowedFrom began found consistent allowed
  obtain ⟨late, planned⟩ := moves.planned
  obtain ⟨last, told, stays⟩ := script.run_tell began service id outcome millis
    (started.apply finish) later
  refine ⟨started.apply finish, last, ?ran, ⟨?stands, started.sameIdentity_apply finish,
    Conversion.shows_apply_ending consistent running planned, ?millis⟩,
    stays.calls.trans moves.calls⟩
  case ran =>
    unfold Service.conclude
    rw [Circumstances.run_bind_of_ok moves.ran, told]
  case stands =>
    rw [stays.store]
    exact moves.stands
  case millis =>
    rintro image rfl
    rw [Conversion.apply, Conversion.millis_of_plan_complete planned]
    rfl

theorem simulates_processing (service : Service) (work : ProcessRequest) :
    script.Simulates began work store 0 (service.processing work)
      (Retry.execute script.clockwork.means (service.policies.get Service.processorPolicy)
        script.clockwork.operation) :=
  simulates_executeFrom _ _ 0

/-- Between its two steps a run of the processor comes to what is done on the clock, at the time
that it takes there. -/
theorem run_processing (service : Service) (started : Conversion) (solo : Solo)
    (idle : solo.log.calls = []) (prompt : solo.now = began) :
    let clocked := script.clockwork.run (service.policies.get Service.processorPolicy)
    let ran := (script.around began).run (service.processing (processRequest started)) solo
    ran.1 = clocked.1 ∧ ran.2.now = began + clocked.2.now ∧ ran.2.store = solo.store
      ∧ ran.2.log.calls = List.replicate clocked.2.calls.length (processRequest started) := by
  intro clocked ran
  have tracks : Tracks began (processRequest started) solo.store solo ⟨0, []⟩ :=
    ⟨prompt, idle, rfl⟩
  obtain ⟨same, tracked⟩ := script.simulates_processing began service (processRequest started) solo
    ⟨0, []⟩ tracks rfl
  exact ⟨same, tracked.now, tracked.store, tracked.calls⟩

theorem run_process_refused (service : Service) (found : solo.store.get id = .ok stored)
    (busy : stored.status ≠ .pending) :
    (script.around began).run (service.process id).run solo
      = (.error (.invalidTransition stored.status .processing),
        script.planning began id solo) := by
  have refused : Transition.start.allowedFrom stored.status = false := by
    cases status : stored.status with
    | pending => exact absurd status busy
    | _ => rfl
  unfold Service.process
  exact Circumstances.run_bind_of_error (script.run_transition_refused began found refused)

def rest (service : Service) (id : ConversionId) (began : Instant) :
    Service.Outcome → Action Conversion
  | .ok image => do
    let finished ← Action.now
    service.complete id image (Duration.millis (finished - began))
  | .error failure => service.fail id failure

theorem processRequest_of_plan {stored : Conversion} {transition : Transition} {now : Timestamp}
    {patch : Patch} (planned : stored.plan transition now = .ok patch) :
    processRequest (stored.apply patch) = processRequest stored := by
  cases Conversion.plans_of_plan planned <;> rfl

theorem run_worked (service : Service) (found : store.get id = .ok stored)
    (consistent : stored.Consistent) (pending : stored.status = .pending) :
    let clocked := script.clockwork.run (service.policies.get Service.processorPolicy)
    ∃ now start worked, stored.plan .start now = .ok start
      ∧ (script.around began).run (service.process id).run ⟨store, began, []⟩
        = (script.around began).run (rest service id began clocked.1).run worked
      ∧ worked.store.get id = .ok (stored.apply start) ∧ worked.now = began + clocked.2.now
      ∧ worked.log.calls
        = List.replicate clocked.2.calls.length (processRequest stored)
      ∧ worked.log.Processed service id clocked.1 := by
  intro clocked
  have allowed : Transition.start.allowedFrom stored.status = true := by
    rw [pending]
    rfl
  have found : (Solo.mk store began []).store.get id = .ok stored := found
  obtain ⟨start, first, moves⟩ := script.moves_of_allowedFrom began found consistent allowed
  obtain ⟨now, planned⟩ := moves.planned
  let clock := (script.around began).after first .now
  let work := service.processing (processRequest (stored.apply start))
  obtain ⟨same, time, kept, calls⟩ := script.run_processing began service
    (stored.apply start) clock ((calls_after rfl).trans moves.calls) moves.now
  refine ⟨now, start, ((script.around began).run work clock).2, planned, ?ran, ?stands, time,
    calls.trans (congrArg (List.replicate _) (processRequest_of_plan planned)), ?processed⟩
  case ran =>
    have prompt : ((script.around began).run (Program.request .now) first).1 = began := moves.now
    unfold Service.process Action.now Action.request
    rw [Circumstances.run_bind_of_ok moves.ran, Circumstances.run_lift_bind, prompt]
    refine (Circumstances.run_lift_bind work clock).trans ?_
    rw [same]
    rfl
  case stands =>
    rw [kept]
    exact moves.stands
  -- The log of the run is that of the first step, a look at the clock, and the work.
  case processed =>
    obtain ⟨part, whole, yields, -⟩ := (script.around began).yields_run work clock
    obtain ⟨before, moment, handed⟩ := moves.handed
    obtain ⟨looked, dated⟩ : ∃ exchange, clock.log = first.log ++ [exchange] := ⟨_, rfl⟩
    rw [same] at yields
    refine ⟨first.log, looked, part, [], stored.apply start, ?_,
      ⟨before, _, start, handed, rfl, (Conversion.plan_guard planned).2.1⟩, yields⟩
    rw [whole, dated]
    simp

/-- After the work there is at most another look at the clock before the second step. -/
theorem run_rest (service : Service) (id : ConversionId) (outcome : Service.Outcome)
    (worked : Solo) :
    ∃ next : Solo, Stays worked next ∧ worked.log <+: next.log
      ∧ (script.around began).run (rest service id began outcome).run worked
        = (script.around began).run
          (service.conclude id outcome (Duration.millis (worked.now - began))).run next := by
  cases outcome with
  | error failure =>
    rw [Service.conclude_error]
    exact ⟨worked, ⟨rfl, rfl⟩, List.prefix_rfl, rfl⟩
  | ok image =>
    rw [Service.conclude_ok]
    refine ⟨(script.around began).after worked .now, ⟨rfl, calls_after rfl⟩, ⟨_, rfl⟩, ?_⟩
    unfold rest Action.now Action.request
    rw [Circumstances.run_lift_bind]
    rfl

theorem run_process (service : Service) (found : store.get id = .ok stored)
    (consistent : stored.Consistent) (pending : stored.status = .pending) :
    let clocked := script.clockwork.run (service.policies.get Service.processorPolicy)
    ∃ ended last, (script.around began).run (service.process id).run ⟨store, began, []⟩
        = (.ok ended, last)
      ∧ Ended id clocked.1 (Duration.millis clocked.2.now) stored ended last
      ∧ last.log.calls = List.replicate clocked.2.calls.length (processRequest stored)
      ∧ last.log.Processed service id clocked.1 := by
  intro clocked
  obtain ⟨now, start, worked, planned, ran, stands, time, calls, processed⟩ :=
    script.run_worked began service found consistent pending
  obtain ⟨next, stays, onward, told⟩ := script.run_rest began service id clocked.1 worked
  have running : (stored.apply start).status = .processing := by
    simp [Conversion.apply, (Conversion.plan_guard planned).2.1, Transition.target]
  have span : worked.now - began = clocked.2.now := by
    rw [time]
    exact Nat.add_sub_cancel_left began _
  rw [span] at told
  rw [← stays.store] at stands
  obtain ⟨ended, last, concluded, closed, unasked⟩ := script.run_conclude began service stands
    (Conversion.consistent_apply_plan consistent planned) running
  -- What was exchanged up to the work is a beginning of all that is exchanged.
  have onto : next.log <+: last.log := by
    have runs := (script.around began).log_prefix_run
      (service.conclude id clocked.1 (Duration.millis clocked.2.now)).run next
    rwa [concluded] at runs
  obtain ⟨after, split⟩ := onward.trans onto
  have closed : Ended id clocked.1 (Duration.millis clocked.2.now) stored ended last :=
    { closed with same := closed.same.trans (stored.sameIdentity_apply start) }
  exact ⟨ended, last, ran.trans (told.trans concluded), closed,
    unasked.trans (stays.calls.trans calls), split ▸ processed.append after⟩

end Runs

section Records

/-- What becomes of a record when the given attempt was the last: a result and how long it took, or
the text of the failure. -/
def Fits (policy : Policy) (last : Nat) (ended : Conversion) : Prop :=
  match script.clockwork.results last with
  | .ok image => ended.status = .completed ∧ ended.result = some image ∧ ended.failure = none
    ∧ ended.processingMillis = some (Duration.millis
      (∑ attempt ∈ Finset.range (last + 1), script.clockwork.takes attempt
        + ∑ attempt ∈ Finset.range last,
          script.clockwork.lasts (script.clockwork.delay policy attempt)))
  | .error failure => ended.ShowsError failure

variable {script}

theorem fits_of_report {policy : Policy} {last : Nat} {ended : Conversion}
    (shows' : ended.Shows (script.clockwork.report policy last))
    (span : ∀ image, script.clockwork.report policy last = .ok image →
      ended.processingMillis = some (Duration.millis (script.clockwork.finish policy last))) :
    script.Fits policy last ended := by
  unfold Fits
  unfold Clockwork.report at shows' span
  cases result : script.clockwork.results last with
  | ok image =>
    rw [result] at shows' span
    rw [Clockwork.finish_eq_sum] at span
    exact ⟨shows'.1, shows'.2.1, shows'.2.2, span image rfl⟩
  | error failure =>
    rw [result] at shows'
    dsimp only at shows'
    -- Given up for good or exhausted, it is the last error that is shown.
    cases judged : policy.judge failure <;> (rw [judged] at shows'; exact shows')

theorem Fits.millis {policy : Policy} {last : Nat} {ended : Conversion} {image : ImageId}
    {latency : Nat → Nat} (fits : script.Fits policy last ended)
    (succeeds : script.clockwork.results last = .ok image)
    (takes : ∀ attempt, script.clockwork.takes attempt = Duration.ofMillis (latency attempt))
    (lasts : ∀ millis, script.clockwork.lasts millis = Duration.ofMillis millis) :
    ended.processingMillis = some (∑ attempt ∈ Finset.range (last + 1), latency attempt
      + ∑ attempt ∈ Finset.range last, script.clockwork.delay policy attempt) := by
  unfold Fits at fits
  rw [succeeds] at fits
  obtain ⟨-, -, -, span⟩ := fits
  rw [span]
  simp only [takes, lasts, Duration.ofMillis, ← Finset.sum_mul, ← Nat.add_mul]
  exact congrArg some (Duration.millis_ofMillis _)

end Records

/-- Let a record that waits and passes its check be processed, with the store to itself, and let
`last` be the first attempt that succeeds, or fails for good, or is the last one allowed. The run
does not fail. It leaves the record done, and that is what it answers and what is read from then on.
Unless it was called off, the processor was called `last + 1` times for the record, and the record
fits the outcome of the attempt `last`. If it was called off, after fewer calls, the record says so
whatever the failures before. A run for a record that does not wait, such as the same one again,
is refused without a call. -/
theorem processed_to_the_end (service : Service) (script : Script) (began : Instant)
    (id : ConversionId) :
    let policy := (service.policies.table.get? "processor").getD service.policies.fallback
    let clocked := (script.clockwork.run policy).1
    (∀ (store : Store) (stored : Conversion), store.get id = .ok stored →
      stored.status = .pending → stored.check = .ok () →
      let ran := (script.around began).run (service.process id).run ⟨store, began, []⟩
      ∃ last ended, IsLeast {attempt | script.clockwork.EndsAt policy attempt} last
        ∧ ran.1 = .ok ended ∧ ended.isTerminal = true ∧ ran.2.store.get id = .ok ended
        ∧ ended.SameIdentity stored ∧ ran.2.log.Processed service id clocked
        ∧ (script.clockwork.cancelledAt = none → clocked = script.clockwork.report policy last)
        ∧ ((∀ made failure, clocked ≠ .error (.cancelled made failure)) →
          ran.2.log.calls = List.replicate (last + 1)
              ⟨stored.id, stored.source, stored.target, stored.style⟩
            ∧ script.Fits policy last ended
            ∧ ∀ image (latency : Nat → Nat), script.clockwork.results last = .ok image →
              (∀ attempt, script.clockwork.takes attempt = Duration.ofMillis (latency attempt)) →
              (∀ millis, script.clockwork.lasts millis = Duration.ofMillis millis) →
              ended.processingMillis = some (∑ attempt ∈ Finset.range (last + 1), latency attempt
                + ∑ attempt ∈ Finset.range last, script.clockwork.delay policy attempt))
        ∧ ∀ made failure, clocked = .error (.cancelled made failure) →
          made ≤ last
            ∧ ran.2.log.calls = List.replicate made
              ⟨stored.id, stored.source, stored.target, stored.style⟩
            ∧ ended.status = .failed ∧ ended.result = none
            ∧ ended.failure = some "processing cancelled")
    ∧ ∀ (solo : Solo) (stored : Conversion), solo.store.get id = .ok stored →
      stored.status ≠ .pending →
      let ran := (script.around began).run (service.process id).run solo
      ran.1 = .error (.invalidTransition stored.status .processing)
        ∧ ran.2.store = solo.store ∧ ran.2.log.calls = solo.log.calls := by
  intro policy clocked
  refine ⟨?ends, ?refused⟩
  case ends =>
    intro store stored found pending checked ran
    have consistent := (Conversion.check_eq_ok_iff stored).1 checked
    obtain ⟨ended, after, done, closed, calls, processed⟩ :=
      script.run_process began service found consistent pending
    have registered : service.policies.get Service.processorPolicy = policy := rfl
    rw [registered] at closed calls processed
    -- What comes of the work is read off the clock, where the last attempt is known in advance.
    obtain ⟨last, least, -⟩ := Clockwork.exists_isLeast_endsAt script.clockwork policy
    obtain ⟨made, conforms⟩ := Clockwork.conforms_run script.clockwork least
    have count : (script.clockwork.run policy).2.calls.length = made := by
      simp [conforms.calls, Clockwork.calls]
    rw [count] at calls
    have answer : ran = (.ok ended, after) := done
    have fitting := closed.fits
    have span := closed.millis
    rw [answer]
    refine ⟨last, ended, least, rfl, fitting.isTerminal, closed.stands, closed.same, processed,
      fun never => congrArg Prod.fst (conforms.uncancelled never), ?through, ?calledOff⟩
    case through =>
      intro on
      obtain ⟨rfl, reported, time⟩ | ⟨-, failure, off⟩ := conforms.result
      · rw [reported] at fitting span
        rw [time] at span
        have fits := fits_of_report fitting span
        exact ⟨calls, fits, fun image latency => fits.millis⟩
      · exact absurd off (on made failure)
    case calledOff =>
      intro attempts failure off
      obtain ⟨-, reported, -⟩ | ⟨early, _, reported⟩ := conforms.result
      · exact absurd (reported.symm.trans off) (Clockwork.report_ne_cancelled last)
      · cases reported.symm.trans off
        rw [reported] at fitting
        exact ⟨early, calls, fitting⟩
  case refused =>
    intro solo stored found busy ran
    have vain : ran = (.error (.invalidTransition stored.status .processing),
      script.planning began id solo) := script.run_process_refused began service found busy
    rw [vain]
    exact ⟨rfl, rfl, (calls_after rfl).trans (calls_after rfl)⟩

section

def thrice : Service :=
  let policy : Policy := { Policy.fixed 3 10 with
    terminalPatterns := []
    retryablePatterns := [] }
  ⟨.ofFallback policy, {}, false⟩

/-- A processor that is busy at first. Each attempt takes five milliseconds, and a pause ten. -/
def recovering : Script where
  clockwork :=
    { results := fun attempt => if attempt < 1 then .error (.transient "busy") else .ok ⟨.ofNat 9⟩
      takes := fun _ => Duration.ofMillis 5
      lasts := fun _ => Duration.ofMillis 10
      draws := fun _ _ => 0
      cancelledAt := none
      outlasts := fun _ => true }
  bounded _ _ := Nat.zero_le _
  date log := ⟨log.length, 0⟩
  fresh _ := ⟨.ofNat 0⟩
  answers _ _ request :=
    Interleaving.obliging ⟨⟨.ofNat 0⟩, .vendor, .shown⟩ ⟨.ofNat 0⟩ request

theorem processed_to_the_end_of_recovering :
    let ran := (recovering.around 0).run (thrice.process ⟨.ofNat 1⟩).run ⟨.oneWaiting, 0, []⟩
    ran.2.log.calls.length = 2
      ∧ ∃ ended, ran.1 = .ok ended ∧ ran.2.store.get ⟨.ofNat 1⟩ = .ok ended
        ∧ ended.status = .completed ∧ ended.result = some ⟨.ofNat 9⟩
        ∧ ended.processingMillis = some 20 := by
  intro ran
  have twice : ran.2.log.calls.length = 2 := by decide +kernel
  obtain ⟨stored, found⟩ : ∃ stored, Store.oneWaiting.get ⟨.ofNat 1⟩ = .ok stored := ⟨_, rfl⟩
  obtain ⟨last, ended, -, answered, -, stands, -, -, never, through, -⟩ :=
    (processed_to_the_end thrice recovering 0 ⟨.ofNat 1⟩).1 .oneWaiting stored found
      (by cases found; rfl) (by cases found; rfl)
  obtain ⟨calls, fits, -⟩ := through fun made failure off =>
    Clockwork.report_ne_cancelled last ((never rfl).symm.trans off)
  have one : last = 1 := by
    have count := congrArg List.length calls
    rw [List.length_replicate] at count
    exact Nat.succ.inj (count.symm.trans twice)
  subst one
  exact ⟨twice, ended, answered, stands, fits.1, fits.2.1, fits.2.2.2⟩

def ontoItself : Store :=
  let draft : Draft := ⟨⟨.ofNat 2⟩, ⟨.ofNat 3⟩, ⟨.ofNat 3⟩, none⟩
  { Store.opened ⟨"free", 1⟩ with
    conversions := Table.empty.insert ⟨.ofNat 1⟩ (.ofDraft ⟨.ofNat 1⟩ draft ⟨0, 0⟩) }

/-- A record that waits but does not pass its check is not processed. -/
theorem not_processed_of_ontoItself :
    let ran := (recovering.around 0).run (thrice.process ⟨.ofNat 1⟩).run ⟨ontoItself, 0, []⟩
    (ontoItself.get ⟨.ofNat 1⟩).map (·.status) = .ok .pending
      ∧ recovering.clockwork.cancelledAt = none
      ∧ ran.1 = .error (.store (.invalidUpdate
        "invariant violated: source image equals target image"))
      ∧ ran.2.store.get ⟨.ofNat 1⟩ = ontoItself.get ⟨.ofNat 1⟩ ∧ ran.2.log.calls = [] := by
  intro ran
  refine ⟨rfl, rfl, ?answered, ?stands, ?uncalled⟩
  case answered => decide +kernel
  case stands => decide +kernel
  case uncalled => decide +kernel

end

end Script

end TryOn
