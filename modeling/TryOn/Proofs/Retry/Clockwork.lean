import Mathlib.Algebra.BigOperators.Ring.Finset
import Mathlib.Order.Monotone.Basic
import Mathlib.Order.Nat
import TryOn.Retry.Policies
import TryOn.Retry.Timeline

/-! Retried operations on a clock. How the attempts turn out and how long they take, how long a
pause lasts, what chance draws and when the operation is called off: with these everything is
settled, which attempts are made, when each of them starts, and what is reported in the end. -/

set_option autoImplicit false

namespace TryOn.Retry

/-- The surroundings of an operation, from the start of the clock on. -/
structure Clockwork (α ε : Type) where
  results : Nat → Except ε α
  /-- How long each attempt takes. -/
  takes : Nat → Nat
  /-- How long a pause lasts that is to last for so many milliseconds. -/
  lasts : Nat → Nat
  /-- What chance draws at a time, below a bound. -/
  draws : Nat → Nat → Nat
  cancelledAt : Option Nat
  /-- Whether a pause that is over just when the operation is called off has been waited out. -/
  outlasts : Nat → Bool

namespace Clockwork

variable {α ε ν : Type} (clockwork : Clockwork α ε)

def isCancelledBy (time : Nat) : Bool :=
  clockwork.cancelledAt.any (· ≤ time)

/-- When a pause is broken off, if it is. -/
def brokenOff? (now ending : Nat) : Option Nat :=
  ((clockwork.cancelledAt.filter (· ≤ ending)).map (max now)).filter fun stop =>
    !(stop = ending && clockwork.outlasts ending)

def means : Means (StateM Timeline) where
  isCancelled := do return clockwork.isCancelledBy (← get).now
  pause millis := do
    let now := (← get).now
    let ending := now + clockwork.lasts millis
    match clockwork.brokenOff? now ending with
    | some stop =>
      modify fun timeline => { timeline with now := stop }
      return false
    | none =>
      modify fun timeline => { timeline with now := ending }
      return true
  draw bound := do return clockwork.draws (← get).now bound

def operation (attempt : Nat) : StateM Timeline (Except ε α) := do
  modify fun timeline =>
    { now := timeline.now + clockwork.takes attempt
      calls := timeline.calls ++ [(attempt, timeline.now)] }
  return clockwork.results attempt

section

variable [Arithmetic ν]

def run [Failing ε] (policy : Policy ν) : Except (Failure ε) α × Timeline :=
  (execute clockwork.means policy clockwork.operation).run ⟨0, []⟩

theorem run_pause (millis : Nat) (timeline : Timeline) :
    (clockwork.means.pause millis).run timeline
      = match clockwork.brokenOff? timeline.now (timeline.now + clockwork.lasts millis) with
        | some stop => (false, { timeline with now := stop })
        | none => (true, { timeline with now := timeline.now + clockwork.lasts millis }) := by
  unfold means
  cases broken : clockwork.brokenOff? timeline.now (timeline.now + clockwork.lasts millis) with
  | none | some stop =>
    simp [broken]
    rfl

def start (policy : Policy ν) : Nat → Nat
  | 0 => 0
  | attempt + 1 =>
    let finish := start policy attempt + clockwork.takes attempt
    let draw := clockwork.draws finish (policy.spread attempt)
    finish + clockwork.lasts (policy.backoff attempt draw)

def finish (policy : Policy ν) (attempt : Nat) : Nat :=
  clockwork.start policy attempt + clockwork.takes attempt

def calls (policy : Policy ν) (count : Nat) : List (Nat × Nat) :=
  (List.range count).map fun attempt => (attempt, clockwork.start policy attempt)

/-- For how many milliseconds to wait after an attempt, with what chance has drawn. -/
def delay (policy : Policy ν) (attempt : Nat) : Nat :=
  policy.backoff attempt
    (clockwork.draws (clockwork.finish policy attempt) (policy.spread attempt))

theorem finish_eq_sum (policy : Policy ν) (attempt : Nat) :
    clockwork.finish policy attempt
      = ∑ made ∈ Finset.range (attempt + 1), clockwork.takes made
        + ∑ made ∈ Finset.range attempt, clockwork.lasts (clockwork.delay policy made) := by
  induction attempt with
  | zero => simp [finish, start]
  | succ attempt ih =>
    have onward : clockwork.finish policy (attempt + 1)
        = clockwork.finish policy attempt + clockwork.lasts (clockwork.delay policy attempt)
          + clockwork.takes (attempt + 1) := rfl
    rw [onward, ih, Finset.sum_range_succ clockwork.takes (attempt + 1),
      Finset.sum_range_succ _ attempt, Finset.sum_range_succ _ attempt]
    omega

variable {clockwork} {policy : Policy ν}

theorem isCancelledBy_mono {time later : Nat} (onward : time ≤ later)
    (cancelled : clockwork.isCancelledBy time = true) : clockwork.isCancelledBy later = true := by
  unfold isCancelledBy at cancelled ⊢
  cases off : clockwork.cancelledAt with
  | none => simp [off] at cancelled
  | some moment =>
    simp only [off, Option.any_some, decide_eq_true_eq] at cancelled ⊢
    exact cancelled.trans onward

theorem brokenOff?_spec {now ending stop : Nat}
    (broken : clockwork.brokenOff? now ending = some stop) :
    now ≤ stop ∧ clockwork.isCancelledBy ending = true := by
  obtain ⟨stopped, -⟩ := Option.filter_eq_some_iff.1 broken
  obtain ⟨moment, cancelled, rfl⟩ := Option.map_eq_some_iff.1 stopped
  obtain ⟨off, before⟩ := Option.filter_eq_some_iff.1 cancelled
  exact ⟨Nat.le_max_left now moment, by simpa [isCancelledBy, off] using before⟩

theorem brokenOff?_eq (lasting : ∀ time, clockwork.outlasts time = true) {now ending : Nat}
    (onward : now ≤ ending) :
    clockwork.brokenOff? now ending
      = (clockwork.cancelledAt.map (max now)).filter (· < ending) := by
  unfold brokenOff?
  simp only [lasting, Bool.and_true]
  cases clockwork.cancelledAt with
  | none => rfl
  | some moment =>
    by_cases before : moment ≤ ending
    · have least : max now moment ≤ ending := max_le onward before
      have early : max now moment < ending ↔ max now moment ≠ ending := least.lt_iff_ne
      simp only [Option.filter_some, decide_eq_true before, if_true, Option.map_some, early]
      by_cases same : max now moment = ending <;> simp [same]
    · have late : ¬ max now moment < ending := fun early =>
        before ((Nat.le_max_right now moment).trans early.le)
      simp only [Option.filter_some, Option.map_some, decide_eq_false before, decide_eq_false late]
      rfl

theorem start_mono : Monotone (clockwork.start policy) :=
  monotone_nat_of_le_succ fun _ => (Nat.le_add_right _ _).trans (Nat.le_add_right _ _)

theorem finish_le_start {first second : Nat} (before : first < second) :
    clockwork.finish policy first ≤ clockwork.start policy second :=
  (Nat.le_add_right _ _).trans (start_mono before)

theorem finish_mono : Monotone (clockwork.finish policy) :=
  monotone_nat_of_le_succ fun attempt =>
    (finish_le_start (Nat.lt_succ_self attempt)).trans (Nat.le_add_right _ _)

theorem calls_succ (count : Nat) :
    clockwork.calls policy (count + 1)
      = clockwork.calls policy count ++ [(count, clockwork.start policy count)] := by
  simp [calls, List.range_succ]

/-- The times are those at which attempts would start if nobody called the operation off. -/
theorem calls_uncancelled (count : Nat) :
    calls { clockwork with cancelledAt := none } policy count = clockwork.calls policy count := by
  have same (attempt : Nat) : start { clockwork with cancelledAt := none } policy attempt
      = clockwork.start policy attempt := by
    induction attempt with
    | zero => rfl
    | succ attempt ih => simp only [start, ih]
  simp only [calls, same]

theorem calls_prefix {first second : Nat} (within : first ≤ second) :
    clockwork.calls policy first <+: clockwork.calls policy second := by
  obtain ⟨more, rfl⟩ := Nat.exists_eq_add_of_le within
  rw [calls, calls, List.range_add, List.map_append]
  exact List.prefix_append _ _

end

/-- Whether no attempt follows one: it succeeds, or its failure is terminal, or it is the last that
the policy allows. -/
def EndsAt [Failing ε] (policy : Policy ν) (attempt : Nat) : Prop :=
  match clockwork.results attempt with
  | .ok _ => True
  | .error failure => policy.judge failure = .terminal ∨ policy.maxAttempts ≤ attempt + 1

def report [Failing ε] (policy : Policy ν) (attempt : Nat) : Except (Failure ε) α :=
  match clockwork.results attempt with
  | .ok value => .ok value
  | .error failure =>
    match policy.judge failure with
    | .terminal => .error (.terminal (attempt + 1) failure)
    | .retryable => .error (.exhausted (attempt + 1) failure)

end Clockwork

def Course.clockwork {α ε : Type} (course : Course α ε) : Clockwork α ε where
  results attempt := (course.outcomes attempt).result
  takes attempt := waited (course.outcomes attempt).wait
  lasts := waited
  draws := course.draws
  cancelledAt := course.cancelledAt
  outlasts _ := true

theorem Course.run_pause {α ε : Type} (course : Course α ε) (millis : Nat) (timeline : Timeline) :
    (course.means.pause millis).run timeline
      = (course.clockwork.means.pause millis).run timeline := by
  -- For any span: that of a course is too long a number to be looked into.
  have paused (cancelled? : Option Nat) (span : Nat) :
      (do
        let now := (← get).now
        let ending := now + span
        match (cancelled?.map (max now)).filter (· < ending) with
        | some stop =>
          modify fun timeline => { timeline with now := stop }
          return false
        | none =>
          modify fun timeline => { timeline with now := ending }
          return true : StateM Timeline Bool).run timeline
        = match (cancelled?.map (max timeline.now)).filter (· < timeline.now + span) with
          | some stop => (false, { timeline with now := stop })
          | none => (true, { timeline with now := timeline.now + span }) := by
    cases broken : (cancelled?.map (max timeline.now)).filter (· < timeline.now + span) with
    | none | some stop =>
      simp [broken]
      rfl
  rw [Clockwork.run_pause, Clockwork.brokenOff?_eq (fun _ => rfl) (Nat.le_add_right _ _)]
  exact paused course.cancelledAt (waited millis)

theorem Course.run_eq {α ε : Type} [Failing ε] (course : Course α ε) (policy : Policy) :
    course.run policy = course.clockwork.run policy := by
  have means : course.means = course.clockwork.means := by
    have pause : course.means.pause = course.clockwork.means.pause :=
      funext fun millis => funext fun timeline => course.run_pause millis timeline
    exact congrArg (Means.mk _ · _) pause
  rw [Course.run, Clockwork.run, means]
  rfl

namespace Clockwork

variable {α ε ν : Type} [Failing ε] {clockwork : Clockwork α ε} {policy : Policy ν}

theorem endsAt_of_maxAttempts_le {attempt : Nat} (enough : policy.maxAttempts ≤ attempt + 1) :
    clockwork.EndsAt policy attempt := by
  unfold EndsAt
  cases clockwork.results attempt with
  | ok _ => trivial
  | error _ => exact .inr enough

/-- Some attempt is the last in any case, and no later than the policy allows. -/
theorem exists_isLeast_endsAt (clockwork : Clockwork α ε) (policy : Policy ν) :
    ∃ last, IsLeast {attempt | clockwork.EndsAt policy attempt} last
      ∧ last + 1 ≤ max 1 policy.maxAttempts := by
  classical
  have allowed : clockwork.EndsAt policy (policy.maxAttempts - 1) :=
    endsAt_of_maxAttempts_le (by omega)
  have least := Nat.isLeast_find ⟨_, allowed⟩
  have first := least.2 allowed
  exact ⟨_, least, by omega⟩

theorem exists_of_not_endsAt {attempt : Nat} (goesOn : ¬ clockwork.EndsAt policy attempt) :
    ∃ failure, clockwork.results attempt = .error failure
      ∧ policy.judge failure = .retryable := by
  unfold EndsAt at goesOn
  cases ended : clockwork.results attempt with
  | ok value => simp [ended] at goesOn
  | error failure =>
    refine ⟨failure, rfl, ?_⟩
    cases judged : policy.judge failure with
    | terminal => simp [ended, judged] at goesOn
    | retryable => rfl

theorem report_ne_cancelled (attempt : Nat) {attempts : Nat} {failure : Option ε} :
    clockwork.report policy attempt ≠ .error (.cancelled attempts failure) := by
  unfold report
  cases clockwork.results attempt with
  | ok value => simp
  | error last => cases judged : policy.judge last <;> simp [judged]

variable [Arithmetic ν]

theorem run_bind {β γ : Type} (first : StateM Timeline β) (next : β → StateM Timeline γ)
    (timeline : Timeline) :
    (first >>= next).run timeline = (next (first.run timeline).1).run (first.run timeline).2 :=
  rfl

theorem run_executeFrom (left attempt : Nat) (timeline : Timeline) :
    let attempted : Timeline :=
      ⟨timeline.now + clockwork.takes attempt, timeline.calls ++ [(attempt, timeline.now)]⟩
    (executeFrom clockwork.means policy clockwork.operation left attempt).run timeline
      = if clockwork.isCancelledBy timeline.now then (.error (.cancelled attempt none), timeline)
        else match clockwork.results attempt with
          | .ok value => (.ok value, attempted)
          | .error failure =>
            match policy.judge failure, left with
            | .terminal, _ => (.error (.terminal (attempt + 1) failure), attempted)
            | .retryable, 0 => (.error (.exhausted (attempt + 1) failure), attempted)
            | .retryable, left + 1 =>
              let draw := clockwork.draws attempted.now (policy.spread attempt)
              let ending := attempted.now + clockwork.lasts (policy.backoff attempt draw)
              match clockwork.brokenOff? attempted.now ending with
              | some stop =>
                (.error (.cancelled (attempt + 1) (some failure)), { attempted with now := stop })
              | none =>
                (executeFrom clockwork.means policy clockwork.operation left (attempt + 1)).run
                  { attempted with now := ending } := by
  intro attempted
  have asked : clockwork.means.isCancelled.run timeline
      = (clockwork.isCancelledBy timeline.now, timeline) := rfl
  have tried : (clockwork.operation attempt).run timeline
      = (clockwork.results attempt, attempted) := rfl
  have drawn (bound : Nat) : (clockwork.means.draw bound).run attempted
      = (clockwork.draws attempted.now bound, attempted) := rfl
  conv_lhs => unfold executeFrom
  rw [run_bind, asked]
  cases idle : clockwork.isCancelledBy timeline.now with
  | true => rfl
  | false =>
    rw [if_neg Bool.false_ne_true, if_neg Bool.false_ne_true, run_bind, tried]
    cases ended : clockwork.results attempt with
    | ok value => rfl
    | error failure =>
      dsimp only
      cases judged : policy.judge failure with
      | terminal => rfl
      | retryable =>
        cases left with
        | zero => rfl
        | succ left =>
          dsimp only
          rw [run_bind, drawn, run_bind, run_pause]
          dsimp only
          generalize clockwork.brokenOff? _ _ = broken
          cases broken <;> rfl

/-- The outcome of a run in which so many attempts were made, when no attempt can follow the
`last`. Attempts were made as long as the operation was not called off. -/
structure Conforms (clockwork : Clockwork α ε) (policy : Policy ν) (last made : Nat)
    (outcome : Except (Failure ε) α × Timeline) : Prop where
  calls : outcome.2.calls = clockwork.calls policy made
  made_iff : ∀ attempt ≤ last,
    attempt < made ↔ clockwork.isCancelledBy (clockwork.start policy attempt) = false
  finished : ∀ attempt < made, clockwork.finish policy attempt ≤ outcome.2.now
  result : (made = last + 1 ∧ outcome.1 = clockwork.report policy last
      ∧ outcome.2.now = clockwork.finish policy last)
    ∨ (made ≤ last ∧ ∃ failure, outcome.1 = .error (.cancelled made failure))

theorem conforms_of_cancelled {last made now : Nat} {failure : Option ε} (early : made ≤ last)
    (idle : ∀ attempt < made, clockwork.isCancelledBy (clockwork.start policy attempt) = false)
    (cancelled : clockwork.isCancelledBy (clockwork.start policy made) = true)
    (finished : ∀ attempt < made, clockwork.finish policy attempt ≤ now) :
    clockwork.Conforms policy last made
      (.error (.cancelled made failure), ⟨now, clockwork.calls policy made⟩) where
  calls := rfl
  made_iff attempt _ := by
    refine ⟨idle attempt, fun free => ?_⟩
    by_contra late
    have off := isCancelledBy_mono (start_mono (Nat.not_lt.1 late)) cancelled
    exact Bool.false_ne_true (free.symm.trans off)
  finished := finished
  result := .inr ⟨early, failure, rfl⟩

theorem conforms_of_report {last : Nat}
    (idle : ∀ attempt < last + 1,
      clockwork.isCancelledBy (clockwork.start policy attempt) = false) :
    clockwork.Conforms policy last (last + 1)
      (clockwork.report policy last,
        ⟨clockwork.finish policy last, clockwork.calls policy (last + 1)⟩) where
  calls := rfl
  made_iff attempt within := ⟨idle attempt, fun _ => Nat.lt_succ_of_le within⟩
  finished _ before := finish_mono (Nat.le_of_lt_succ before)
  result := .inl ⟨rfl, rfl, rfl⟩

theorem run_of_endsAt {left attempt : Nat} {timeline : Timeline}
    (allowed : max 1 policy.maxAttempts = attempt + left + 1)
    (idle : clockwork.isCancelledBy timeline.now = false)
    (ends : clockwork.EndsAt policy attempt) :
    (executeFrom clockwork.means policy clockwork.operation left attempt).run timeline
      = (clockwork.report policy attempt, ⟨timeline.now + clockwork.takes attempt,
          timeline.calls ++ [(attempt, timeline.now)]⟩) := by
  rw [run_executeFrom, idle, if_neg Bool.false_ne_true, report]
  unfold EndsAt at ends
  cases ended : clockwork.results attempt with
  | ok value => rfl
  | error failure =>
    dsimp only
    cases judged : policy.judge failure with
    | terminal => rfl
    | retryable =>
      have enough : policy.maxAttempts ≤ attempt + 1 := by simpa [ended, judged] using ends
      obtain rfl : left = 0 := by omega
      rfl

theorem conforms_of_stops {last left attempt : Nat}
    (least : IsLeast {attempt | clockwork.EndsAt policy attempt} last)
    (allowed : max 1 policy.maxAttempts = attempt + left + 1) (reached : attempt ≤ last)
    (idle : ∀ earlier < attempt,
      clockwork.isCancelledBy (clockwork.start policy earlier) = false)
    (stops : clockwork.isCancelledBy (clockwork.start policy attempt) = true
      ∨ clockwork.EndsAt policy attempt) :
    ∃ made, clockwork.Conforms policy last made
      ((executeFrom clockwork.means policy clockwork.operation left attempt).run
        ⟨clockwork.start policy attempt, clockwork.calls policy attempt⟩) := by
  cases off : clockwork.isCancelledBy (clockwork.start policy attempt) with
  | true =>
    rw [run_executeFrom, if_pos off]
    exact ⟨attempt, conforms_of_cancelled reached idle off fun _ before => finish_le_start before⟩
  | false =>
    have ends : clockwork.EndsAt policy attempt := by simpa [off] using stops
    obtain rfl : last = attempt := Nat.le_antisymm (least.2 ends) reached
    rw [run_of_endsAt allowed off ends, ← calls_succ]
    refine ⟨last + 1, conforms_of_report fun earlier before => ?_⟩
    rcases Nat.lt_succ_iff_lt_or_eq.1 before with earlier | rfl
    · exact idle _ earlier
    · exact off

/-- Whatever attempt it has come to without being called off, the rest of the run conforms. -/
theorem conforms_executeFrom {last left attempt : Nat}
    (least : IsLeast {attempt | clockwork.EndsAt policy attempt} last)
    (allowed : max 1 policy.maxAttempts = attempt + left + 1) (reached : attempt ≤ last)
    (idle : ∀ earlier < attempt,
      clockwork.isCancelledBy (clockwork.start policy earlier) = false) :
    ∃ made, clockwork.Conforms policy last made
      ((executeFrom clockwork.means policy clockwork.operation left attempt).run
        ⟨clockwork.start policy attempt, clockwork.calls policy attempt⟩) := by
  -- On how many attempts are left: the run has come to the start of one, at its time.
  induction left generalizing attempt with
  | zero =>
    exact conforms_of_stops least allowed reached idle (.inr (endsAt_of_maxAttempts_le (by omega)))
  | succ left ih =>
    by_cases stops : clockwork.isCancelledBy (clockwork.start policy attempt) = true
      ∨ clockwork.EndsAt policy attempt
    · exact conforms_of_stops least allowed reached idle stops
    obtain ⟨on, goesOn⟩ := not_or.1 stops
    rw [Bool.not_eq_true] at on
    obtain ⟨failure, ended, judged⟩ := exists_of_not_endsAt goesOn
    have onward : attempt + 1 ≤ last := by
      refine Nat.lt_of_le_of_ne reached fun same => goesOn ?_
      exact same ▸ least.1
    have idle : ∀ earlier < attempt + 1,
        clockwork.isCancelledBy (clockwork.start policy earlier) = false := by
      intro earlier before
      rcases Nat.lt_succ_iff_lt_or_eq.1 before with earlier | rfl
      · exact idle _ earlier
      · exact on
    rw [run_executeFrom, on, if_neg Bool.false_ne_true, ended]
    dsimp only
    rw [judged]
    dsimp only
    rw [← calls_succ]
    split
    · -- The pause is broken off, so the next attempt would have started too late.
      rename_i stop broken
      obtain ⟨late, off⟩ := brokenOff?_spec broken
      exact ⟨attempt + 1, conforms_of_cancelled onward idle off fun earlier before =>
        (finish_mono (Nat.le_of_lt_succ before)).trans late⟩
    · exact ih (by omega) onward idle

theorem conforms_run (clockwork : Clockwork α ε) {last : Nat}
    (least : IsLeast {attempt | clockwork.EndsAt policy attempt} last) :
    ∃ made, clockwork.Conforms policy last made (clockwork.run policy) :=
  conforms_executeFrom least (by omega) (Nat.zero_le last)
    fun _ before => absurd before (Nat.not_lt_zero _)

theorem Conforms.uncancelled {last made : Nat} {outcome : Except (Failure ε) α × Timeline}
    (conforms : clockwork.Conforms policy last made outcome)
    (never : clockwork.cancelledAt = none) :
    outcome = (clockwork.report policy last,
      ⟨clockwork.finish policy last, clockwork.calls policy (last + 1)⟩) := by
  have idle : clockwork.isCancelledBy (clockwork.start policy last) = false := by
    simp [isCancelledBy, never]
  have reached : last < made := (conforms.made_iff last (Nat.le_refl last)).2 idle
  obtain ⟨rfl, reported, time⟩ | ⟨early, -⟩ := conforms.result
  · obtain ⟨result, now, calls⟩ := outcome
    exact Prod.ext reported (Timeline.mk.injEq .. ▸ ⟨time, conforms.calls⟩)
  · exact absurd early (Nat.not_le.2 reached)

/-- The policy is the one that the table has for the key, and the fallback if it has none. Let
`last` be the first attempt that succeeds, or fails for good, or is the last one allowed. Attempts
are made one after the other up to it, each a pause after the one before it, until the operation is
called off: never while an attempt is being made. What is reported is told by the attempt `last`,
unless the operation was called off before it, and then with how many attempts were made. Chance
moves the times of attempts, but nothing else. -/
theorem execute_conforms (clockwork : Clockwork α ε) (policies : Policies) (key : String) :
    let policy := (policies.table.get? key).getD policies.fallback
    let outcome := clockwork.run (policies.get key)
    ∃ last made, IsLeast {attempt | clockwork.EndsAt policy attempt} last
      ∧ clockwork.Conforms policy last made outcome
      ∧ outcome.2.calls.length = made ∧ made ≤ max 1 policy.maxAttempts
      ∧ (∀ attempt < made, ∀ value, clockwork.results attempt = .ok value → outcome.1 = .ok value)
      ∧ (∀ attempts failure, outcome.1 = .error (.cancelled attempts failure) → attempts = made)
      ∧ outcome.2.calls <+: ({ clockwork with cancelledAt := none }.run (policies.get key)).2.calls
      ∧ (clockwork.cancelledAt = none →
        outcome = (clockwork.report policy last,
            ⟨clockwork.finish policy last, clockwork.calls policy (last + 1)⟩)
          ∧ ∀ draws, ({ clockwork with draws }.run (policies.get key)).1 = outcome.1
            ∧ ({ clockwork with draws }.run (policies.get key)).2.calls.map Prod.fst
              = outcome.2.calls.map Prod.fst) := by
  intro policy outcome
  obtain ⟨last, least, allowed⟩ := exists_isLeast_endsAt clockwork policy
  obtain ⟨made, conforms⟩ : ∃ made, clockwork.Conforms policy last made outcome :=
    conforms_run clockwork least
  have count : outcome.2.calls.length = made := by simp [conforms.calls, calls]
  have made_le : made ≤ last + 1 := by
    rcases conforms.result with ⟨rfl, -⟩ | ⟨early, -⟩ <;> omega
  refine ⟨last, made, least, conforms, count, by omega, fun attempt before value good => ?_,
    fun attempts failure cancelled => ?_, ?_, fun never => ⟨conforms.uncancelled never, ?_⟩⟩
  · have ends : clockwork.EndsAt policy attempt := by simp [EndsAt, good]
    obtain rfl : attempt = last := Nat.le_antisymm (by omega) (least.2 ends)
    obtain ⟨-, reported, -⟩ | ⟨early, -⟩ := conforms.result
    · rw [reported, report, good]
    · omega
  · obtain ⟨-, reported, -⟩ | ⟨-, _, reported⟩ := conforms.result
    · exact absurd (reported.symm.trans cancelled) (report_ne_cancelled last)
    · cases reported.symm.trans cancelled
      rfl
  · obtain ⟨_, free⟩ := conforms_run { clockwork with cancelledAt := none } least
    show outcome.2.calls <+: ({ clockwork with cancelledAt := none }.run policy).2.calls
    rw [conforms.calls, free.uncancelled rfl, calls_uncancelled]
    exact calls_prefix made_le
  · intro draws
    obtain ⟨_, other⟩ := conforms_run { clockwork with draws } least
    show ({ clockwork with draws }.run policy).1 = outcome.1
      ∧ ({ clockwork with draws }.run policy).2.calls.map Prod.fst = outcome.2.calls.map Prod.fst
    rw [other.uncancelled never, show outcome = _ from conforms.uncancelled never]
    exact ⟨rfl, by simp [calls]⟩

section

/-- Attempts that take five, of which the third would succeed, and pauses of ten. The operation is
called off while the second attempt is being made. -/
def hasty : Clockwork Nat Judged where
  results attempt := if attempt < 2 then .error ⟨"busy", some .retryable⟩ else .ok attempt
  takes _ := 5
  lasts _ := 10
  draws _ _ := 0
  cancelledAt := some 17
  outlasts _ := false

def imagesFourTimes : Policies :=
  (Policies.ofFallback .once).insert "images" (.fixed 4 10)

theorem execute_conforms_called_off :
    hasty.run (imagesFourTimes.get "images")
        = (.error (.cancelled 2 (some ⟨"busy", some .retryable⟩)), ⟨20, [(0, 0), (1, 15)]⟩)
      ∧ (∃ last, IsLeast {attempt | hasty.EndsAt (.fixed 4 10) attempt} last
        ∧ hasty.Conforms (.fixed 4 10) last 2 (hasty.run (imagesFourTimes.get "images")))
      ∧ (hasty.run (imagesFourTimes.get "queue")).2.calls.length ≤ 1 := by
  have ran : hasty.run (imagesFourTimes.get "images")
      = (.error (.cancelled 2 (some ⟨"busy", some .retryable⟩)), ⟨20, [(0, 0), (1, 15)]⟩) := by
    decide +kernel
  obtain ⟨last, made, least, conforms, count, -⟩ := execute_conforms hasty imagesFourTimes "images"
  have two : made = 2 := by
    rw [← count, ran]
    rfl
  obtain ⟨_, _, -, -, calls, few, -⟩ := execute_conforms hasty imagesFourTimes "queue"
  exact ⟨ran, ⟨last, least, two ▸ conforms⟩, calls.trans_le few⟩

end

end Clockwork

end TryOn.Retry
