import TryOn.Proofs.Interleaving.Yields
import TryOn.Service.Lifecycle

/-! What a step exchanges, whatever it is told: the attempts that it makes, one after another, and
what it comes to with the last of them. -/

set_option autoImplicit false

namespace TryOn.Service

/-- One attempt at a step: the record is read, the step is planned for it as it was read, and the
plan is handed in. -/
inductive Attempts (id : ConversionId) (step : Transition) :
    Log → Except Failure (Except StoreError Conversion) → Prop
  | unread {moment : Timestamp} {failure : StoreError} :
    Attempts id step [⟨moment, .store (.get id), (.error failure : Except StoreError Conversion)⟩]
      (.error (.ofStore failure))
  | illegal {moment clock now : Timestamp} {seen : Conversion} {refusal : IllegalTransition}
    (refused : seen.plan step now = .error refusal) :
    Attempts id step
      [⟨moment, .store (.get id), (.ok seen : Except StoreError Conversion)⟩,
        ⟨clock, .wallClock, now⟩]
      (.error (.ofIllegalTransition refusal))
  | handed {moment clock now late : Timestamp} {seen : Conversion} {patch : Patch}
    {answer : Except StoreError Conversion} (planned : seen.plan step now = .ok patch) :
    Attempts id step
      [⟨moment, .store (.get id), (.ok seen : Except StoreError Conversion)⟩,
        ⟨clock, .wallClock, now⟩, ⟨late, .store (.update id patch), answer⟩]
      (.ok answer)

inductive Tries (id : ConversionId) (step : Transition) :
    Nat → Log → Except Failure Conversion → Prop
  | failed {left : Nat} {log : Log} {failure : Failure}
    (attempt : Attempts id step log (.error failure)) : Tries id step left log (.error failure)
  | taken {left : Nat} {log : Log} {updated : Conversion}
    (attempt : Attempts id step log (.ok (.ok updated))) : Tries id step left log (.ok updated)
  | refused {left : Nat} {log : Log} {failure : StoreError}
    (attempt : Attempts id step log (.ok (.error failure))) :
    Tries id step left log (.error (.ofStore failure))
  | again {left : Nat} {first rest : Log} {other : ConversionId} {expected actual : Status}
    {result : Except Failure Conversion}
    (attempt : Attempts id step first (.ok (.error (.statusConflict other expected actual))))
    (more : Tries id step left rest result) : Tries id step (left + 1) (first ++ rest) result

variable {id : ConversionId} {step : Transition}

theorem attempts_attemptStep {log : Log} {result : Except Failure (Except StoreError Conversion)}
    (yields : (attemptStep id step).Yields log result) : Attempts id step log result := by
  unfold attemptStep Action.store at yields
  rw [bind_assoc] at yields
  obtain ⟨moment, answer, _, rfl, looked⟩ := yields.request_bind
  rcases looked.orFail_bind with ⟨failure, rfl, rfl, rfl⟩ | ⟨seen, rfl, dated⟩
  · exact .unread
  obtain ⟨clock, now, _, rfl, planned⟩ := dated.request_bind
  rcases planned.orFail_bind with ⟨refusal, refused, rfl, rfl⟩ | ⟨patch, legal, asked⟩
  · exact .illegal refused
  obtain ⟨answer, rfl, asked⟩ := asked.lift
  obtain _ | ⟨late, ⟨⟩⟩ := asked
  exact .handed legal

theorem tries_transitionFrom (left : Nat) {log : Log} {result : Except Failure Conversion}
    (yields : (transitionFrom id step left).Yields log result) : Tries id step left log result := by
  unfold transitionFrom at yields
  rcases yields.bind with ⟨failure, rfl, missed⟩ | ⟨first, rest, answer, rfl, tried, later⟩
  · exact .failed (attempts_attemptStep missed)
  have attempt := attempts_attemptStep tried
  cases answer with
  | ok updated =>
    cases later
    rw [List.append_nil]
    exact .taken attempt
  | error failure =>
    have ended {reported : Except Failure Conversion}
        (thrown : (throw (.ofStore failure) : Action Conversion).Yields rest reported) :
        Tries id step left (first ++ rest) reported := by
      cases thrown
      rw [List.append_nil]
      exact .refused attempt
    cases left with
    | zero => exact ended later
    | succ left =>
      -- Only a change of the status in between leads to another attempt.
      cases failure with
      | statusConflict _ _ _ => exact .again attempt (tries_transitionFrom left later)
      | _ => exact ended later

theorem tries_transition {log : Log} {result : Except Failure Conversion}
    (yields : (transition id step).Yields log result) :
    Tries id step (maxPlans - 1) log result :=
  tries_transitionFrom _ yields

end TryOn.Service
