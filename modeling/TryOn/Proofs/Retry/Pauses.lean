import Mathlib
import TryOn.Proofs.Retry.Clockwork
import TryOn.Proofs.Retry.Exact

/-! How long one waits between the attempts of an operation, attempt by attempt and altogether. -/

set_option autoImplicit false

namespace TryOn.Retry

namespace Clockwork

variable {α ε ν : Type} [Arithmetic ν] (clockwork : Clockwork α ε)

def waiting (policy : Policy ν) (retries : Nat) : Nat :=
  ∑ attempt ∈ Finset.range retries, clockwork.delay policy attempt

/-- How long one has waited: a pause may last less long than it is to. -/
def waited (policy : Policy ν) (retries : Nat) : Nat :=
  ∑ attempt ∈ Finset.range retries, clockwork.lasts (clockwork.delay policy attempt)

variable {clockwork}

theorem finish_eq_waited (policy : Policy ν) (attempt : Nat) :
    clockwork.finish policy attempt
      = ∑ made ∈ Finset.range (attempt + 1), clockwork.takes made
        + clockwork.waited policy attempt :=
  clockwork.finish_eq_sum policy attempt

theorem start_eq_waited (policy : Policy ν) (attempt : Nat) :
    clockwork.start policy attempt
      = ∑ made ∈ Finset.range attempt, clockwork.takes made + clockwork.waited policy attempt := by
  have finished := clockwork.finish_eq_waited policy attempt
  rw [Finset.sum_range_succ, finish] at finished
  omega

theorem getElem?_calls {policy : Policy ν} {attempt count : Nat} (made : attempt < count) :
    (clockwork.calls policy count)[attempt]? = some (attempt, clockwork.start policy attempt) := by
  simp [calls, List.getElem?_range made]

theorem sum_bounds {term : Nat → Nat} {least greatest : Nat}
    (bounded : ∀ attempt, least ≤ term attempt ∧ term attempt ≤ greatest) (retries : Nat) :
    retries * least ≤ ∑ attempt ∈ Finset.range retries, term attempt
      ∧ ∑ attempt ∈ Finset.range retries, term attempt ≤ retries * greatest := by
  constructor
  · simpa using
      Finset.card_nsmul_le_sum (Finset.range retries) _ least fun attempt _ => (bounded attempt).1
  · simpa using
      Finset.sum_le_card_nsmul (Finset.range retries) _ greatest fun attempt _ =>
        (bounded attempt).2

section

variable {policy : Policy Rat} {least : Nat} (bounded : ∀ attempt, least ≤ policy.delay attempt)

include bounded

theorem delay_bounds (attempt : Nat) :
    least ≤ clockwork.delay policy attempt ∧ clockwork.delay policy attempt ≤ policy.maxDelay :=
  ⟨(bounded attempt).trans (Policy.delay_le_backoff attempt _),
    Policy.backoff_le_maxDelay attempt _⟩

theorem waiting_bounds (retries : Nat) :
    retries * least ≤ clockwork.waiting policy retries
      ∧ clockwork.waiting policy retries ≤ retries * policy.maxDelay :=
  sum_bounds (delay_bounds bounded) retries

/-- Where no pause lasts longer than a longest one, the bounds are cut off there. -/
theorem waited_bounds {longest : Nat}
    (lasting : ∀ millis, clockwork.lasts millis = min millis longest) (retries : Nat) :
    retries * min least longest ≤ clockwork.waited policy retries
      ∧ clockwork.waited policy retries ≤ retries * min policy.maxDelay longest := by
  refine sum_bounds (fun attempt => ?_) retries
  obtain ⟨lower, upper⟩ := clockwork.delay_bounds bounded attempt
  rw [lasting]
  exact ⟨min_le_min_right _ lower, min_le_min_right _ upper⟩

end

/-- What comes of an operation that nobody calls off, and after how many attempts, is not due to the
arithmetic. -/
theorem run_exact_of_uncancelled [Failing ε] (policy : Policy)
    (never : clockwork.cancelledAt = none) :
    let outcome := clockwork.run policy.exact
    outcome.1 = (clockwork.run policy).1
      ∧ outcome.2.calls.length = (clockwork.run policy).2.calls.length := by
  intro outcome
  obtain ⟨last, least, -⟩ := exists_isLeast_endsAt clockwork policy
  -- Which attempt is the last is up to the results and the verdicts, not to the pauses.
  have least' : IsLeast {attempt | clockwork.EndsAt policy.exact attempt} last := least
  obtain ⟨_, floating⟩ := conforms_run clockwork least
  obtain ⟨_, precise⟩ := conforms_run clockwork least'
  rw [floating.uncancelled never, show outcome = _ from precise.uncancelled never]
  exact ⟨rfl, by simp [calls]⟩

end Clockwork

theorem Course.lasts_eq {α ε : Type} (course : Course α ε) (millis : Nat) :
    course.clockwork.lasts millis = min millis 946080000000 := by
  simp only [clockwork, Course.waited, Duration.millis, Duration.waited, Duration.ofMillis,
    Duration.longestWait, Duration.nanosPerMilli, Duration.nanosPerSecond]
  omega

/-- The pauses of a policy that is in order, in exact arithmetic. They never get shorter from
attempt to attempt: each is what the base delay has grown to, up to the greatest delay, rounded
down. Chance prolongs one by a tenth at most, and not beyond the greatest delay. Before so many
retries of an operation one waits for as many pauses, none shorter than the base delay and none
longer than the greatest; what comes of it in the end is not due to the arithmetic. Milliseconds are
counted in 64 bits, which is no bound for delays that are themselves counted so, as those of every
policy that is read. Nobody waits for more than thirty years at once: where a pause may be longer,
both bounds are cut off there. -/
theorem pauses_bounded (policy : Policy) (accepted : policy.check = .ok ()) :
    let exact := policy.exact
    let least := min policy.baseDelay maxMillis
    (∀ first second, first ≤ second → least ≤ exact.delay first
      ∧ exact.delay first ≤ exact.delay second ∧ exact.delay second ≤ policy.maxDelay)
    ∧ (∀ attempt, exact.delay attempt
      = min ⌊min (exact.unbounded attempt) policy.maxDelay⌋₊ maxMillis)
    ∧ (policy.maxDelay ≤ maxMillis → least = policy.baseDelay
      ∧ ∀ attempt, exact.delay attempt = ⌊min (exact.unbounded attempt) policy.maxDelay⌋₊)
    ∧ (∀ excess data, Policy.decode? excess data = some policy → policy.maxDelay ≤ maxMillis)
    ∧ (∀ {α ε : Type} (course : Course α ε) (millis : Nat),
      course.clockwork.lasts millis = min millis 946080000000)
    ∧ (∀ attempt, exact.spread attempt
      = if policy.jitter then exact.delay attempt / 10 else 0)
    ∧ (∀ attempt draw, draw ≤ exact.spread attempt →
      exact.delay attempt ≤ exact.backoff attempt draw
        ∧ exact.backoff attempt draw
          ≤ min (exact.delay attempt + exact.delay attempt / 10) policy.maxDelay
        ∧ (policy.jitter = false → exact.backoff attempt draw = exact.delay attempt))
    ∧ ∀ {α ε : Type} [Failing ε] (clockwork : Clockwork α ε),
      let outcome := clockwork.run exact
      (∀ retries < outcome.2.calls.length,
        outcome.2.calls[retries]? = some (retries,
            ∑ attempt ∈ Finset.range retries, clockwork.takes attempt
              + clockwork.waited exact retries)
          ∧ retries * least ≤ clockwork.waiting exact retries
          ∧ clockwork.waiting exact retries ≤ retries * policy.maxDelay
          ∧ ∀ longest, (∀ millis, clockwork.lasts millis = min millis longest) →
            retries * min least longest ≤ clockwork.waited exact retries
              ∧ clockwork.waited exact retries ≤ retries * min policy.maxDelay longest)
      ∧ ((∀ made failure, outcome.1 ≠ .error (.cancelled made failure)) → outcome.2.now
        = ∑ attempt ∈ Finset.range outcome.2.calls.length, clockwork.takes attempt
          + clockwork.waited exact (outcome.2.calls.length - 1))
      ∧ (clockwork.cancelledAt = none → outcome.1 = (clockwork.run policy).1
        ∧ outcome.2.calls.length = (clockwork.run policy).2.calls.length) := by
  intro exact least
  obtain ⟨-, ordered, grows⟩ := Policy.check_eq_ok_iff.1 (policy.check_exact.trans accepted)
  have bounded (attempt : Nat) : least ≤ exact.delay attempt :=
    Policy.baseDelay_le_delay grows ordered attempt
  refine ⟨fun first second onward => ?monotone, Policy.delay_exact, fun fits => ?fits,
    fun excess data => Policy.maxDelay_le_of_decode?, Course.lasts_eq, Policy.spread_exact,
    fun attempt draw drawn => ?prolonged, fun clockwork => ?run⟩
  case monotone =>
    exact ⟨bounded first, Policy.delay_mono grows onward, Policy.delay_le_maxDelay second⟩
  case fits =>
    exact ⟨min_eq_left (ordered.trans fits), Policy.delay_exact_of_fits fits⟩
  case prolonged =>
    exact ⟨Policy.delay_le_backoff attempt draw,
      le_min (Policy.backoff_le_of_drawn drawn) (Policy.backoff_le_maxDelay attempt draw),
      fun steady => Policy.backoff_of_not_jitter steady attempt draw⟩
  case run =>
    intro outcome
    obtain ⟨last, least', -⟩ := Clockwork.exists_isLeast_endsAt clockwork exact
    obtain ⟨made, conforms⟩ := Clockwork.conforms_run clockwork least'
    have count : outcome.2.calls.length = made := by simp [outcome, conforms.calls, Clockwork.calls]
    refine ⟨fun retries more => ?retried, fun on => ?ended,
      clockwork.run_exact_of_uncancelled policy⟩
    case retried =>
      obtain ⟨lower, upper⟩ := clockwork.waiting_bounds bounded retries
      refine ⟨?_, lower, upper, fun longest lasting =>
        Clockwork.waited_bounds bounded lasting retries⟩
      rw [conforms.calls, Clockwork.getElem?_calls (count ▸ more), Clockwork.start_eq_waited]
    case ended =>
      obtain ⟨rfl, -, time⟩ | ⟨-, failure, off⟩ := conforms.result
      · rw [time, count, Clockwork.finish_eq_waited, Nat.add_sub_cancel]
      · exact absurd off (on made failure)

section

def halfMore : Policy :=
  { Policy.exponential 5 101 303 with multiplier := 1.5 }

/-- An operation that always fails, with the longest pauses that chance can make. -/
def unlucky : Clockwork Nat Judged where
  results _ := .error ⟨"busy", some .retryable⟩
  takes _ := 7
  lasts millis := millis
  draws _ bound := bound
  cancelledAt := none
  outlasts _ := true

/-- Four retries, the last pause bounded and not prolonged. -/
theorem pauses_bounded_of_halfMore :
    halfMore.check = .ok ()
      ∧ (List.range 5).map halfMore.exact.delay = [101, 151, 227, 303, 303]
      ∧ (unlucky.run halfMore.exact).2.calls = [(0, 0), (1, 118), (2, 291), (3, 547), (4, 857)]
      ∧ 4 * 101 ≤ unlucky.waiting halfMore.exact 4
      ∧ unlucky.waiting halfMore.exact 4 ≤ 4 * 303 := by
  have accepted : halfMore.check = .ok () := by decide +kernel
  have ran : (unlucky.run halfMore.exact).2.calls
      = [(0, 0), (1, 118), (2, 291), (3, 547), (4, 857)] := by decide +kernel
  obtain ⟨-, -, fits, -, -, -, -, run⟩ := pauses_bounded halfMore accepted
  have least := (fits (by decide)).1
  have more : 4 < (unlucky.run halfMore.exact).2.calls.length := by simp [ran]
  obtain ⟨-, lower, upper, -⟩ := (run unlucky).1 4 more
  rw [least] at lower
  exact ⟨accepted, by decide +kernel, ran, lower, upper⟩

def secondTry : Course Unit Judged where
  outcomes attempt := ⟨0, if attempt = 0 then .error ⟨"busy", some .retryable⟩ else .ok ()⟩
  cancelAfter := none
  draws _ _ := 0

/-- Delays that are too long to be counted in 64 bits are cut short, and so is a pause of more than
thirty years: these are waited, and no more. -/
theorem pauses_short_of_base :
    let endless := Policy.fixed 3 (2 ^ 64)
    let patient := Policy.fixed 2 10000000000000
    let outcome := secondTry.clockwork.run patient.exact
    endless.check = .ok () ∧ endless.exact.delay 0 = 2 ^ 64 - 1
      ∧ ¬ endless.baseDelay ≤ endless.exact.delay 0
      ∧ patient.check = .ok () ∧ secondTry.run patient = outcome
      ∧ outcome = (.ok (), ⟨946080000000, [(0, 0), (1, 946080000000)]⟩)
      ∧ ¬ 1 * patient.baseDelay ≤ outcome.2.now := by
  decide +kernel

end

end TryOn.Retry
