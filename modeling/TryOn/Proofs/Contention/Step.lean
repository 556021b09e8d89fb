import TryOn.Proofs.Contention.Forward

/-! One call of a step while others are at work. It plans for the status it has read, and if that
is not the stored one any more, the conversion has gone past the only status that the step can be
taken from; so a call hands in one patch at most, and planning again can only tell why not. -/

set_option autoImplicit false

namespace TryOn

open TryOn.Action (keeps_bind keeps_request keeps_orFail keeps_store)

theorem Transition.eq_of_allowedFrom {step : Transition} {first second : Status}
    (left : step.allowedFrom first = true) (right : step.allowedFrom second = true) :
    first = second := by
  cases step <;> cases first <;> cases second <;> first | rfl | contradiction

def Request.isUpdate : Request → Bool
  | .store (.update _ _) => true
  | _ => false

namespace Contention

def once : Conduct where
  may log request := request.isUpdate = true → ∀ earlier ∈ log, earlier.request.isUpdate = false
  expects := Relies

/-- The last exchange of a call is the commit of a patch that was planned for the step, and nothing
else was changed. -/
def Commits (id : ConversionId) (step : Transition) (log : Log) (updated : Conversion) : Prop :=
  ∃ (before : Log) (exchange : Exchange) (seen : Conversion) (now : Timestamp) (patch : Patch),
    log = before ++ [exchange]
    ∧ (∀ earlier ∈ before, earlier.write? = none)
    ∧ seen.plan step now = .ok patch ∧ exchange.write? = some (.commit id patch updated)

/-- Why a call comes to nothing: the conversion is gone, or a status was read that the step cannot
be taken from. -/
inductive Objection (id : ConversionId) (step : Transition) (log : Log) : Failure → Prop
  | gone : Objection id step log (.notFound id)
  | illegal {exchange : Exchange} {seen : Conversion} (member : exchange ∈ log)
    (read : exchange.read? = some (id, .ok seen))
    (illegal : step.allowedFrom seen.status = false) :
    Objection id step log (.invalidTransition seen.status step.target)

def Objects (id : ConversionId) (step : Transition) (log : Log) (failure : Failure) : Prop :=
  (∀ exchange ∈ log, exchange.write? = none) ∧ Objection id step log failure

/-- A status was told that the step cannot be taken from any more. -/
def IsLate (id : ConversionId) (step : Transition) (log : Log) : Prop :=
  ∃ exchange ∈ log, ∃ status, exchange.told? = some (id, status)
    ∧ ∀ later, status.ComesTo later → step.allowedFrom later = false

variable {id : ConversionId} {step : Transition} {log : Log}

theorem may_of_not_isUpdate {request : Request} (other : request.isUpdate = false) :
    once.may log request := by
  intro update
  rw [other] at update
  cases update

theorem still_concat {exchange : Exchange} (idle : ∀ earlier ∈ log, earlier.write? = none)
    (still : exchange.write? = none) :
    ∀ earlier ∈ log ++ [exchange], earlier.write? = none := by
  intro earlier member
  rcases List.mem_append.1 member with old | new
  · exact idle earlier old
  · exact List.mem_singleton.1 new ▸ still

/-- Up to a look at the clock an attempt reads a record, or has an objection. -/
theorem keeps_attempt {ok : Log → Except StoreError Conversion → Prop}
    (idle : ∀ earlier ∈ log, earlier.write? = none)
    (planned : ∀ moment seen clock now patch, Relies log ⟨moment, .store (.get id), .ok seen⟩ →
      seen.plan step now = .ok patch →
      Action.Keeps once ok (Objects id step) (Action.request (.store (.update id patch)))
        (log ++ [⟨moment, .store (.get id), .ok seen⟩] ++ [⟨clock, .wallClock, now⟩])) :
    (Service.attemptStep id step).Keeps once ok (Objects id step) log := by
  refine keeps_bind.2 (keeps_store.2 ⟨may_of_not_isUpdate rfl, ?_⟩)
  intro moment answer relied
  rcases answer with failure | seen
  · obtain rfl := Store.Call.Refuses.of_get (relied.refused _ _ rfl)
    exact ⟨still_concat idle rfl, .gone⟩
  · refine keeps_bind.2 (keeps_request.2 ⟨may_of_not_isUpdate rfl, ?_⟩)
    intro clock now _
    refine keeps_bind.2 (keeps_orFail.2 ?_)
    cases allowed : step.allowedFrom seen.status with
    | false =>
      rw [Conversion.plan_eq_error now allowed]
      let read : Exchange := ⟨moment, .store (.get id), .ok seen⟩
      let clocked : Exchange := ⟨clock, .wallClock, now⟩
      have still : ∀ earlier ∈ log ++ [read], earlier.write? = none := still_concat idle rfl
      have member : read ∈ log ++ [read] ++ [clocked] := by simp
      exact ⟨still_concat still rfl, .illegal member rfl allowed⟩
    | true =>
      cases plan : seen.plan step now with
      | error illegal =>
        have possible := (seen.plan_isOk_iff step now).2 allowed
        rw [plan] at possible
        cases possible
      | ok patch => exact planned moment seen clock now patch relied plan

theorem keeps_attempt_late (idle : ∀ earlier ∈ log, earlier.write? = none)
    (late : IsLate id step log) :
    (Service.attemptStep id step).Keeps once (fun _ _ => False) (Objects id step) log := by
  refine keeps_attempt idle fun moment seen clock now patch relied plan => ?_
  -- What is read now is a status that the told one has come to.
  obtain ⟨exchange, member, status, told, never⟩ := late
  have comes := relied.forward exchange member id status seen.status told rfl
  have allowed := (Conversion.plan_guard plan).2.2
  rw [never _ comes] at allowed
  cases allowed

theorem keeps_transitionFrom_late (left : Nat) (idle : ∀ earlier ∈ log, earlier.write? = none)
    (late : IsLate id step log) :
    (Service.transitionFrom id step left).Keeps once (Commits id step) (Objects id step) log := by
  cases left <;> unfold Service.transitionFrom <;>
    exact keeps_bind.2 ((keeps_attempt_late idle late).mono (fun _ _ => False.elim)
      fun _ _ objects => objects)

/-- The first attempt of a call: its patch is committed, or it is late. -/
theorem keeps_attempt_first :
    (Service.attemptStep id step).Keeps once
      (fun log answer => match answer with
        | .ok updated => Commits id step log updated
        | .error failure => (∀ exchange ∈ log, exchange.write? = none)
          ∧ (failure = .notFound id
            ∨ ∃ expected actual, failure = .statusConflict id expected actual
              ∧ IsLate id step log))
      (Objects id step) [] := by
  have fresh : ∀ earlier ∈ ([] : Log), earlier.write? = none := by simp
  refine keeps_attempt fresh fun moment seen clock now patch _ plan => ?_
  refine keeps_request.2 ⟨fun _ => by simp [Request.isUpdate], fun asked answer relied => ?_⟩
  obtain ⟨expected, -, allowed⟩ := Conversion.plan_guard plan
  rcases answer with failure | updated
  · refine ⟨by simp [Exchange.write?], ?_⟩
    rcases (relied.refused _ _ rfl).of_guarded rfl rfl with rfl | ⟨actual, differ, rfl⟩
    · exact .inl rfl
    · -- The status has risen since it was read, above the only one that would do.
      refine .inr ⟨_, actual, rfl, ?_⟩
      have comes : seen.status.ComesTo actual :=
        relied.forward ⟨moment, .store (.get id), .ok seen⟩ (by simp) id _ _ rfl rfl
      have risen := comes.rank_lt (expected ▸ differ)
      refine ⟨_, List.mem_append_right _ List.mem_cons_self, actual, rfl, ?_⟩
      intro later goesOn
      have above := goesOn.rank_le
      cases possible : step.allowedFrom later with
      | false => rfl
      | true =>
        obtain rfl := Transition.eq_of_allowedFrom allowed possible
        omega
  · exact ⟨_, _, seen, now, patch, rfl, by simp [Exchange.write?], plan, rfl⟩

/-- What a call of a step does, whatever the others do meanwhile. -/
theorem keeps_transition :
    (Service.transition id step).Keeps once (Commits id step) (Objects id step) [] := by
  show (Service.transitionFrom id step (1 + 1)).Keeps _ _ _ _
  unfold Service.transitionFrom
  refine keeps_bind.2 (keeps_attempt_first.mono ?_ fun _ _ objects => objects)
  intro log answer holds
  -- A second plan is made only after a conflict, and then it is too late for the step for good.
  rcases answer with failure | updated
  · obtain ⟨idle, rfl | ⟨expected, actual, rfl, late⟩⟩ := holds
    · exact ⟨idle, .gone⟩
    · exact keeps_transitionFrom_late 1 idle late
  · exact holds

end Contention

end TryOn
