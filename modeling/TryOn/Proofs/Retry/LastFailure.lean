import TryOn.Proofs.Retry.Clockwork

/-! What a run that was called off still knows of its attempts. While it pauses it holds the failure
of the last one; before an attempt it no longer does. It comes to an attempt called off, other than
the first, only through a pause that was waited out though it was over no earlier than the operation
was called off. -/

set_option autoImplicit false

namespace TryOn.Retry

namespace Clockwork

variable {α ε : Type} {clockwork : Clockwork α ε} {policy : Policy}

/-- Whether the pause before an attempt is waited out though the operation is called off by its end:
it is so just then, or was so during the attempt before it, and the pause takes no time. -/
def TiedBefore (clockwork : Clockwork α ε) (policy : Policy) : Nat → Prop
  | 0 => False
  | attempt + 1 => ∃ moment, clockwork.cancelledAt = some moment
      ∧ max (clockwork.finish policy attempt) moment = clockwork.start policy (attempt + 1)
      ∧ clockwork.outlasts (clockwork.start policy (attempt + 1)) = true

theorem tiedBefore_succ_iff (attempt : Nat) :
    clockwork.TiedBefore policy (attempt + 1)
      ↔ clockwork.brokenOff? (clockwork.finish policy attempt)
            (clockwork.start policy (attempt + 1)) = none
          ∧ clockwork.isCancelledBy (clockwork.start policy (attempt + 1)) = true := by
  have onward : clockwork.finish policy attempt ≤ clockwork.start policy (attempt + 1) :=
    finish_le_start (Nat.lt_succ_self attempt)
  unfold TiedBefore brokenOff? isCancelledBy
  cases clockwork.cancelledAt with
  | none => simp
  | some moment =>
    by_cases before : moment ≤ clockwork.start policy (attempt + 1)
    · simp [Option.filter, before]
    · have apart : max (clockwork.finish policy attempt) moment
          ≠ clockwork.start policy (attempt + 1) :=
        fun same => before (same ▸ Nat.le_max_right _ _)
      simp [before, apart]

inductive CalledOff (clockwork : Clockwork α ε) (policy : Policy) : Nat → Option ε → Prop
  /-- An attempt was due, and the pause before it waited out if it is not the first. -/
  | before {attempt : Nat} (off : clockwork.isCancelledBy (clockwork.start policy attempt) = true)
      (due : ∀ earlier, attempt = earlier + 1 →
        clockwork.brokenOff? (clockwork.finish policy earlier)
          (clockwork.start policy (earlier + 1)) = none) :
      CalledOff clockwork policy attempt none
  /-- The pause after an attempt that failed was broken off. -/
  | between {attempt stop : Nat} {failure : ε} (failed : clockwork.results attempt = .error failure)
      (broken : clockwork.brokenOff? (clockwork.finish policy attempt)
        (clockwork.start policy (attempt + 1)) = some stop) :
      CalledOff clockwork policy (attempt + 1) (some failure)

theorem CalledOff.isSome_iff {attempts : Nat} {failure : Option ε}
    (calledOff : clockwork.CalledOff policy attempts failure) :
    (failure.isSome ↔ 0 < attempts) ↔ ¬ clockwork.TiedBefore policy attempts := by
  cases calledOff with
  | before off due =>
    cases attempts with
    | zero => exact iff_of_true (by simp) id
    | succ attempt =>
      have tied := (tiedBefore_succ_iff attempt).2 ⟨due attempt rfl, off⟩
      exact iff_of_false (by simp) (not_not_intro tied)
  | between _ broken =>
    refine iff_of_true (by simp) fun tied => ?_
    have done := ((tiedBefore_succ_iff _).1 tied).1
    cases done.symm.trans broken

theorem CalledOff.of_last {attempts : Nat} {failure : ε}
    (calledOff : clockwork.CalledOff policy attempts (some failure)) :
    0 < attempts ∧ clockwork.results (attempts - 1) = .error failure := by
  cases calledOff with
  | between failed _ => exact ⟨Nat.succ_pos _, failed⟩

variable [Failing ε]

/-- A run that comes to an attempt and ends called off has come to its end, or it comes to the next
attempt after a pause that was waited out. -/
theorem executeFrom_cancelled {left attempt attempts : Nat} {failure : Option ε}
    {calls : List (Nat × Nat)}
    (due : ∀ earlier, attempt = earlier + 1 →
      clockwork.brokenOff? (clockwork.finish policy earlier)
        (clockwork.start policy (earlier + 1)) = none)
    (ended : ((executeFrom clockwork.means policy clockwork.operation left attempt).run
      ⟨clockwork.start policy attempt, calls⟩).1 = .error (.cancelled attempts failure)) :
    clockwork.CalledOff policy attempts failure
      ∨ ∃ rest calls, left = rest + 1
        ∧ clockwork.brokenOff? (clockwork.finish policy attempt)
          (clockwork.start policy (attempt + 1)) = none
        ∧ ((executeFrom clockwork.means policy clockwork.operation rest (attempt + 1)).run
          ⟨clockwork.start policy (attempt + 1), calls⟩).1
            = .error (.cancelled attempts failure) := by
  rw [run_executeFrom] at ended
  cases off : clockwork.isCancelledBy (clockwork.start policy attempt) with
  | true =>
    rw [off, if_pos rfl] at ended
    cases ended
    exact .inl (.before off due)
  | false =>
    rw [off, if_neg Bool.false_ne_true] at ended
    cases failed : clockwork.results attempt with
    | ok value => simp [failed] at ended
    | error last =>
      rw [failed] at ended
      dsimp only at ended
      cases judged : policy.judge last with
      | terminal => simp [judged] at ended
      | retryable =>
        rw [judged] at ended
        cases left with
        | zero => simp at ended
        | succ rest =>
          dsimp only at ended
          split at ended
          · rename_i stop broken
            cases ended
            exact .inl (.between failed broken)
          · rename_i waited
            exact .inr ⟨rest, _, rfl, waited, ended⟩

theorem calledOff_executeFrom {left attempt attempts : Nat} {failure : Option ε}
    {calls : List (Nat × Nat)}
    (due : ∀ earlier, attempt = earlier + 1 →
      clockwork.brokenOff? (clockwork.finish policy earlier)
        (clockwork.start policy (earlier + 1)) = none)
    (ended : ((executeFrom clockwork.means policy clockwork.operation left attempt).run
      ⟨clockwork.start policy attempt, calls⟩).1 = .error (.cancelled attempts failure)) :
    clockwork.CalledOff policy attempts failure := by
  -- On how many attempts are left: the run has come to the start of one, at its time.
  induction left generalizing attempt calls with
  | zero =>
    obtain calledOff | ⟨_, _, more, -⟩ := executeFrom_cancelled due ended
    · exact calledOff
    · cases more
  | succ left ih =>
    obtain calledOff | ⟨rest, calls, more, waited, ended⟩ := executeFrom_cancelled due ended
    · exact calledOff
    · cases more
      refine ih (fun earlier same => ?_) ended
      cases same
      exact waited

/-- A run that ends called off knows the failure of its last attempt, and that it does if there was
any attempt, unless it ended before an attempt to which it came through a tie. -/
theorem last_known_iff_not_tied (clockwork : Clockwork α ε) (policy : Policy) {failure : Failure ε}
    (ended : (clockwork.run policy).1 = .error failure) (cancelled : failure.isCancelled = true) :
    (∀ last, failure.last? = some last →
        0 < failure.attempts ∧ clockwork.results (failure.attempts - 1) = .error last)
      ∧ ((failure.last?.isSome ↔ 0 < failure.attempts)
        ↔ ¬ clockwork.TiedBefore policy failure.attempts) := by
  cases failure with
  | terminal _ _ | exhausted _ _ => cases cancelled
  | cancelled attempts last =>
    have ended : ((executeFrom clockwork.means policy clockwork.operation (policy.maxAttempts - 1)
        0).run ⟨clockwork.start policy 0, []⟩).1 = .error (.cancelled attempts last) := ended
    have calledOff : clockwork.CalledOff policy attempts last := by
      refine calledOff_executeFrom (fun earlier never => ?_) ended
      cases never
    refine ⟨fun known same => ?_, calledOff.isSome_iff⟩
    obtain rfl : last = some known := same
    exact calledOff.of_last

section

/-- Attempts that take five and fail, and pauses that take no time. The operation is called off
while the first attempt is being made. -/
def impatient (outlasts : Bool) : Clockwork Nat Judged where
  results _ := .error ⟨"busy", some .retryable⟩
  takes _ := 5
  lasts _ := 0
  draws _ _ := 0
  cancelledAt := some 3
  outlasts _ := outlasts

theorem last_known_of_pause_broken_off :
    ((impatient false).run (.fixed 3 0)).1 = .error (.cancelled 1 (some ⟨"busy", some .retryable⟩))
      ∧ ¬ (impatient false).TiedBefore (.fixed 3 0) 1 := by
  have ended : ((impatient false).run (.fixed 3 0)).1
      = .error (.cancelled 1 (some ⟨"busy", some .retryable⟩)) := by
    decide +kernel
  exact ⟨ended, (last_known_iff_not_tied (impatient false) _ ended rfl).2.1 (by decide)⟩

/-- If the pause that takes no time is waited out all the same, the failure is forgotten. -/
theorem last_forgotten_in_tie :
    ((impatient true).run (.fixed 3 0)).1 = .error (.cancelled 1 none) := by
  decide +kernel

end

end Clockwork

end TryOn.Retry
