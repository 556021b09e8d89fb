import Mathlib
import TryOn.Proofs.Data.Table
import TryOn.Proofs.Decimal.Rational
import TryOn.Retry.Policy

/-! Pauses in exact arithmetic: what they grow to, and the bounds that they keep, whatever their
growth and however chance prolongs them. A policy is read so by taking its growth factor, a
floating-point number, for the rational number that it is. -/

set_option autoImplicit false

namespace TryOn.Retry

namespace Arithmetic

theorem pow_eq_halves (base : Rat) (exponent : Nat) :
    base ^ exponent = base ^ (exponent % 2) * (base * base) ^ (exponent / 2) := by
  rw [← pow_two, ← pow_mul, ← pow_add, Nat.mod_add_div]

theorem powerOnto_exact (base result : Rat) (exponent : Nat) :
    exact.powerOnto base result exponent = result * base ^ exponent := by
  have taken (result base : Rat) (exponent : Nat) :
      (if exponent % 2 = 1 then result * base else result) = result * base ^ (exponent % 2) := by
    rcases Nat.mod_two_eq_zero_or_one exponent with even | odd
    · simp [even]
    · simp [odd]
  fun_induction powerOnto exact base result exponent with
  | case1 base result exponent next last =>
    have small : exponent % 2 = exponent := by omega
    exact (taken result base exponent).trans (by rw [small])
  -- One round moves the lowest bit of the exponent from the base to the result.
  | case2 base result exponent next more ih =>
    have halves := pow_eq_halves base exponent
    rw [ih, halves, ← mul_assoc]
    exact congrArg (· * (base * base) ^ (exponent / 2)) (taken result base exponent)

theorem power_exact (base : Rat) (exponent : Nat) : exact.power base exponent = base ^ exponent :=
  (powerOnto_exact base 1 exponent).trans (one_mul _)

theorem whole_exact (value : Rat) : exact.whole value = min ⌊value⌋₊ maxMillis :=
  rfl

theorem spread_exact (delay : Nat) : exact.spread delay = min (delay / 10) maxMillis := by
  have tenth : ⌊(delay : Rat) / (10 : Nat)⌋₊ = delay / 10 := Nat.floor_div_eq_div delay 10
  exact congrArg (min · maxMillis) tenth

end Arithmetic

namespace Policy

open Data (yields_bind yields_bind_of_forall)

def exact (policy : Policy) : Policy Rat :=
  { policy with multiplier := Decimal.rational policy.multiplier }

theorem check_exact (policy : Policy) : policy.exact.check = policy.check := by
  have same : Arithmetic.exact.isFactor (Decimal.rational policy.multiplier)
      = Arithmetic.float.isFactor policy.multiplier := by
    rw [Bool.eq_iff_iff]
    simp [Arithmetic.isFactor, Decimal.one_le_rational_iff]
  simp only [check, exact, same]

theorem maxDelay_le_of_decode? {excess : Data.Excess} {data : Data} {policy : Policy}
    (read : decode? excess data = some policy) : policy.maxDelay ≤ maxMillis := by
  have counted : Data.Yields (Data.required (Data.asNat? 64)) (· ≤ maxMillis) :=
    Data.yields_required fun data maxDelay read => Nat.le_sub_one_of_lt (Data.lt_of_asNat? read)
  refine Data.closedRecord_of_yields (fun policy : Policy => policy.maxDelay ≤ maxMillis) ?_ read
  refine yields_bind_of_forall fun maxAttempts => ?_
  refine yields_bind_of_forall fun baseDelay => ?_
  refine yields_bind counted fun maxDelay fits => ?_
  refine yields_bind_of_forall fun multiplier => ?_
  refine yields_bind_of_forall fun growth => ?_
  refine yields_bind_of_forall fun jitter => ?_
  refine yields_bind_of_forall fun retryablePatterns => ?_
  refine yields_bind_of_forall fun terminalPatterns => ?_
  exact yields_bind_of_forall fun retryUnmatched => Data.yields_pure fits

/-- How long a policy has one wait after an attempt, before any bound and any rounding. -/
def unbounded (policy : Policy Rat) (attempt : Nat) : Rat :=
  match policy.growth with
  | .fixed => policy.baseDelay
  | .exponential => policy.baseDelay * policy.multiplier ^ min attempt (2 ^ 31 - 1)
  | .linear => policy.baseDelay * (attempt + 1)

variable {policy : Policy Rat}

theorem check_eq_ok_iff :
    policy.check = .ok () ↔ 0 < policy.maxAttempts ∧ policy.baseDelay ≤ policy.maxDelay
      ∧ 1 ≤ policy.multiplier := by
  unfold check
  split_ifs with none inverted grows
  · simp [none]
  · simp [inverted]
  · exact iff_of_true rfl ⟨Nat.pos_of_ne_zero none, not_lt.1 inverted, of_decide_eq_true grows⟩
  · exact iff_of_false (by simp) fun inOrder => grows (decide_eq_true inOrder.2.2)

theorem shape_exact (attempt : Nat) :
    Arithmetic.exact.shape policy.growth policy.multiplier policy.baseDelay attempt
      = policy.unbounded attempt := by
  unfold Arithmetic.shape unbounded
  cases policy.growth with
  | fixed => rfl
  | linear => rfl
  | exponential =>
    dsimp only
    rw [Arithmetic.power_exact]
    rfl

theorem delay_exact (attempt : Nat) :
    policy.delay attempt
      = min ⌊min (policy.unbounded attempt) policy.maxDelay⌋₊ maxMillis := by
  unfold delay Arithmetic.delay
  rw [shape_exact, Arithmetic.whole_exact]
  -- Rounding down to a natural number takes what is below zero for zero anyway.
  have atLeastZero (value : Rat) : ⌊max value 0⌋₊ = ⌊value⌋₊ := by
    rcases le_total 0 value with up | down
    · rw [max_eq_left up]
    · rw [max_eq_right down, Nat.floor_zero, Nat.floor_of_nonpos down]
  exact congrArg (min · maxMillis) (atLeastZero _)

theorem delay_le_maxMillis (attempt : Nat) : policy.delay attempt ≤ maxMillis := by
  rw [delay_exact]
  exact min_le_right _ _

theorem floor_le_maxDelay (attempt : Nat) :
    ⌊min (policy.unbounded attempt) policy.maxDelay⌋₊ ≤ policy.maxDelay := calc
  ⌊min (policy.unbounded attempt) policy.maxDelay⌋₊ ≤ ⌊(policy.maxDelay : Rat)⌋₊ :=
    Nat.floor_le_floor (min_le_right _ _)
  _ = policy.maxDelay := Nat.floor_natCast _

theorem delay_le_maxDelay (attempt : Nat) : policy.delay attempt ≤ policy.maxDelay := by
  rw [delay_exact]
  exact (min_le_left _ _).trans (floor_le_maxDelay attempt)

theorem delay_exact_of_fits (fits : policy.maxDelay ≤ maxMillis) (attempt : Nat) :
    policy.delay attempt = ⌊min (policy.unbounded attempt) policy.maxDelay⌋₊ :=
  (delay_exact attempt).trans (min_eq_left ((floor_le_maxDelay attempt).trans fits))

theorem spread_exact (attempt : Nat) :
    policy.spread attempt = if policy.jitter then policy.delay attempt / 10 else 0 := by
  unfold spread
  rw [Arithmetic.spread_exact]
  have counted : policy.delay attempt / 10 ≤ maxMillis :=
    (Nat.div_le_self _ _).trans (delay_le_maxMillis attempt)
  rw [min_eq_left counted]

theorem spread_le (attempt : Nat) : policy.spread attempt ≤ policy.delay attempt / 10 := by
  rw [spread_exact]
  split_ifs
  · exact le_rfl
  · exact Nat.zero_le _

theorem delay_le_backoff (attempt draw : Nat) :
    policy.delay attempt ≤ policy.backoff attempt draw := by
  have bounded : policy.delay attempt ≤ policy.maxDelay := delay_le_maxDelay attempt
  simp only [backoff]
  split_ifs
  · exact le_rfl
  · exact le_min (Nat.le_add_right _ _) bounded

theorem backoff_le_maxDelay (attempt draw : Nat) :
    policy.backoff attempt draw ≤ policy.maxDelay := by
  have bounded : policy.delay attempt ≤ policy.maxDelay := delay_le_maxDelay attempt
  simp only [backoff]
  split_ifs
  · exact bounded
  · exact min_le_right _ _

theorem backoff_le_delay_add (attempt draw : Nat) :
    policy.backoff attempt draw ≤ policy.delay attempt + draw := by
  simp only [backoff]
  split_ifs
  · exact Nat.le_add_right _ _
  · exact min_le_left _ _

theorem backoff_le_of_drawn {attempt draw : Nat} (drawn : draw ≤ policy.spread attempt) :
    policy.backoff attempt draw ≤ policy.delay attempt + policy.delay attempt / 10 :=
  (backoff_le_delay_add attempt draw).trans
    (Nat.add_le_add_left (drawn.trans (spread_le attempt)) _)

theorem backoff_of_not_jitter (steady : policy.jitter = false) (attempt draw : Nat) :
    policy.backoff attempt draw = policy.delay attempt := by
  simp [backoff, steady]

section

variable (grows : 1 ≤ policy.multiplier)

include grows

theorem unbounded_mono : Monotone policy.unbounded := by
  intro first second onward
  unfold unbounded
  have counted : (first : Rat) ≤ second := Nat.cast_le.2 onward
  cases policy.growth with
  | fixed => exact le_rfl
  | linear => exact mul_le_mul_of_nonneg_left (add_le_add_left counted 1) (Nat.cast_nonneg _)
  | exponential =>
    have powers : policy.multiplier ^ min first (2 ^ 31 - 1)
        ≤ policy.multiplier ^ min second (2 ^ 31 - 1) :=
      pow_le_pow_right₀ grows (min_le_min_right _ onward)
    exact mul_le_mul_of_nonneg_left powers (Nat.cast_nonneg _)

theorem baseDelay_le_unbounded (attempt : Nat) : policy.baseDelay ≤ policy.unbounded attempt := by
  have first : (policy.baseDelay : Rat) ≤ policy.unbounded 0 := by
    unfold unbounded
    cases policy.growth <;> simp
  exact first.trans (unbounded_mono grows (Nat.zero_le attempt))

theorem delay_mono : Monotone policy.delay := by
  intro first second onward
  rw [delay_exact, delay_exact]
  have grown := min_le_min_right (policy.maxDelay : Rat) (unbounded_mono grows onward)
  exact min_le_min_right _ (Nat.floor_le_floor grown)

theorem baseDelay_le_delay (ordered : policy.baseDelay ≤ policy.maxDelay) (attempt : Nat) :
    min policy.baseDelay maxMillis ≤ policy.delay attempt := by
  rw [delay_exact]
  have least : (policy.baseDelay : Rat) ≤ min (policy.unbounded attempt) policy.maxDelay :=
    le_min (baseDelay_le_unbounded grows attempt) (Nat.cast_le.2 ordered)
  exact min_le_min_right _ (Nat.le_floor least)

end

end Policy

end TryOn.Retry
