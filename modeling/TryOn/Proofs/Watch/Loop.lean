import TryOn.Proofs.Watch.Course

/-! The looks of a watch, one after another. Each is over before the limit, by which the deadline
has come or the caller has called it off; the last one begins at the limit and not before, unless
the watch has come to its end already. -/

set_option autoImplicit false

namespace TryOn

open TryOn.Action (outcome?_now outcome?_poll outcome?_wait outcome?_pure outcome?_throw)

namespace Course

def stopTime (course : Course) (deadline : Instant) : Instant :=
  course.cancelled?.elim deadline (min · deadline)

/-- When a watch stops looking, which is not before it has begun. -/
def limit (course : Course) (started deadline : Instant) : Instant :=
  max started (course.stopTime deadline)

theorem time?_eq (course : Course) (deadline : Instant) :
    course.time? ⟨true, some deadline⟩ = some (course.stopTime deadline) := by
  unfold time? stopTime
  cases course.cancelled? <;> rfl

theorem stopTime_le (course : Course) (deadline : Instant) :
    course.stopTime deadline ≤ deadline := by
  unfold stopTime
  cases course.cancelled? with
  | none => exact Nat.le_refl deadline
  | some cancelled => exact Nat.min_le_right cancelled deadline

end Course

/-- A look that leaves open how the watch ends: it neither shows a record that is done nor tells
that there is none. -/
structure Look.IsOpen (look : Look) : Prop where
  unfinished : ∀ conversion, look.shown? = some conversion → conversion.isTerminal = false
  present : ∀ other, look.answer ≠ some (.error (.notFound other))

namespace Service.Watching

/-- How a watch goes on that has seen a record, by the looks it takes. -/
inductive Ending (watching : Watching) (limit : Instant) :
    Conversion → List Look → Except Failure Conversion → Prop
  /-- The record is done. -/
  | done {seen conversion : Conversion} {look : Look} (stop : look.stop = watching.stop)
    (answer : look.answer = some (.ok conversion)) (terminal : conversion.isTerminal = true) :
    Ending watching limit seen [look] (.ok conversion)
  /-- There is no such record any more. -/
  | gone {seen : Conversion} {look : Look} {other : ConversionId} (stop : look.stop = watching.stop)
    (answer : look.answer = some (.error (.notFound other))) :
    Ending watching limit seen [look] (.error (.notFound watching.id))
  /-- The limit has come, and nothing better than what was seen is seen within the grace. -/
  | last {seen : Conversion} {look : Look}
    (stop : look.stop = ⟨false, some (limit + watching.grace)⟩) (start : look.start = limit) :
    Ending watching limit seen [look] (.ok (look.shown?.getD seen))
  | onward {seen : Conversion} {look : Look} {rest : List Look}
    {result : Except Failure Conversion} (stop : look.stop = watching.stop) (isOpen : look.IsOpen)
    (later : Ending watching limit (look.shown?.getD seen) rest result) :
    Ending watching limit seen (look :: rest) result

/-- An action ends in time, and as a watch may end that has seen a record. -/
def Closes (watching : Watching) (course : Course) (limit : Instant) (seen : Conversion)
    (now : Instant) (looks : List Look) (action : Action Conversion) : Prop :=
  ∃ outcome more, action.outcome? course now looks = some outcome
    ∧ outcome.looks = looks ++ more ∧ outcome.finish ≤ limit + watching.grace
    ∧ watching.Ending limit seen more outcome.result

variable {watching : Watching} {course : Course} {limit now : Instant} {seen : Conversion}
  {looks : List Look}

theorem Closes.onward {last : Conversion} {look : Look} {action : Action Conversion}
    (closes : watching.Closes course limit last look.finish (looks ++ [look]) action)
    (stop : look.stop = watching.stop) (isOpen : look.IsOpen)
    (sees : look.shown?.getD seen = last) :
    ∃ outcome more, action.outcome? course look.finish (looks ++ [look]) = some outcome
      ∧ outcome.looks = looks ++ more ∧ outcome.finish ≤ limit + watching.grace
      ∧ watching.Ending limit seen more outcome.result := by
  subst sees
  obtain ⟨outcome, rest, came, whole, finish, ending⟩ := closes
  exact ⟨outcome, look :: rest, came, by simpa using whole, finish, .onward stop isOpen ending⟩

theorem closes_lastLook (atLimit : now = limit) :
    watching.Closes course limit seen now looks (lastLook watching.grace watching.id seen) := by
  subst atLimit
  unfold Closes lastLook
  have ends : course.time? ⟨false, some (now + watching.grace)⟩ = some (now + watching.grace) := by
    simp [Course.time?]
  obtain ⟨look, looked, stop, start, outcome⟩ := course.look?_of_time? ends looks.length now
  rw [Nat.max_eq_right (Nat.le_add_right now watching.grace)] at outcome
  have finish : look.finish ≤ now + watching.grace := by
    rcases outcome with ⟨span, answer, -, soon, -, finish⟩ | ⟨-, -, finish⟩
    · exact finish ▸ soon
    · exact Nat.le_of_eq finish
  simp only [outcome?_now, outcome?_poll, looked, Option.bind_some]
  have ending : watching.Ending now seen [look] (.ok (look.shown?.getD seen)) := .last stop start
  refine ⟨⟨.ok (look.shown?.getD seen), look.finish, looks ++ [look]⟩, [look], ?_, rfl, finish,
    ending⟩
  unfold Look.shown?
  rcases look.answer with - | failure | conversion <;> rfl

theorem max_eq_limit {started now time : Nat} (after : started ≤ now)
    (before : now ≤ max started time) : max now time = max started time := by
  omega

theorem nextTick_ge {planned now period : Nat} (waited : planned ≤ now) :
    planned + period ≤ nextTick planned now period := by
  unfold nextTick
  split <;> omega

section

variable {started time : Nat} (ends : course.time? watching.stop = some time)
  (limited : max started time = limit) (after : started ≤ now) (before : now ≤ limit)

include ends limited after before

/-- After a look that was not the last one a watch waits for the next tick and looks again, as far
as there is time. -/
theorem closes_next {planned : Nat} (again : Instant → Action Conversion)
    (goesOn : ∀ later : Nat, planned ≤ later → now ≤ later → later < time →
      watching.Closes course limit seen later looks (again later)) :
    watching.Closes course limit seen now looks (do
      let now ← Action.now
      if ← Action.wait (planned - now) watching.stop then
        let now ← Action.now
        again now
      else lastLook watching.grace watching.id seen) := by
  have passes : course.pass (planned - now) watching.stop now
      = if time ≤ now + (planned - now) then (false, max now time)
        else (true, now + (planned - now)) := by
    unfold Course.pass
    rw [ends]
  unfold Closes
  simp only [outcome?_now, outcome?_wait, passes]
  split
  · -- It is time to stop, which is at the limit.
    have atLimit : max now time = limit := (max_eq_limit after (limited ▸ before)).trans limited
    exact closes_lastLook atLimit
  · rename_i early
    simp only [if_true, outcome?_now]
    exact goesOn _ (Nat.sub_le_iff_le_add'.1 (Nat.le_refl _)) (Nat.le_add_right _ _)
      (Nat.lt_of_not_le early)

theorem closes_look {planned more : Nat}
    (goesOn : ∀ (seen : Conversion) (looks : List Look) (later : Nat), planned ≤ later →
      now ≤ later → later < time →
      watching.Closes course limit seen later looks
        (watching.lookFrom more (nextTick planned later watching.period) seen)) :
    watching.Closes course limit seen now looks (watching.lookFrom (more + 1) planned seen) := by
  obtain ⟨look, looked, stop, start, outcome⟩ := course.look?_of_time? ends looks.length now
  rw [max_eq_limit after (limited ▸ before), limited] at outcome
  unfold Closes lookFrom
  simp only [outcome?_poll, looked, Option.bind_some]
  rcases outcome with ⟨span, answer, -, soon, answered, finish⟩ | ⟨-, unanswered, finish⟩
  · have later : now ≤ look.finish := finish ▸ Nat.le_add_right now span
    have before : look.finish ≤ limit := finish ▸ soon
    have grace := Nat.le_trans before (Nat.le_add_right limit watching.grace)
    have next (seen : Conversion) := closes_next ends limited (Nat.le_trans after later) before
      (fun instant => watching.lookFrom more (nextTick planned instant watching.period) seen)
      fun instant waited passed => goesOn seen (looks ++ [look]) instant waited
        (Nat.le_trans later passed)
    simp only [answered]
    rcases answer with failure | conversion
    · have shown : look.shown? = none := by simp [Look.shown?, answered]
      cases failure with
      | notFound other => exact ⟨_, [look], rfl, rfl, grace, .gone stop answered⟩
      | _ =>
        have isOpen : look.IsOpen := ⟨by simp [shown], by simp [answered]⟩
        exact (next seen).onward stop isOpen (by rw [shown, Option.getD_none])
    · have shown : look.shown? = some conversion := by simp [Look.shown?, answered]
      cases terminal : conversion.isTerminal with
      | true =>
        have ending : watching.Ending limit seen [look] (.ok conversion) :=
          .done stop answered terminal
        exact ⟨⟨.ok conversion, look.finish, looks ++ [look]⟩, [look], by simp [terminal], rfl,
          grace, ending⟩
      | false =>
        simp only [terminal, Bool.false_eq_true, if_false]
        have isOpen : look.IsOpen := ⟨by simp [shown, terminal], by simp [answered]⟩
        exact (next conversion).onward stop isOpen (by rw [shown, Option.getD_some])
  · -- It is time to stop, and nothing new was seen.
    have shown : look.shown? = none := by simp [Look.shown?, unanswered]
    have isOpen : look.IsOpen := ⟨by simp [shown], by simp [unanswered]⟩
    simp only [unanswered]
    exact (closes_lastLook finish).onward stop isOpen (by rw [shown, Option.getD_none])

end

/-- Looks are a period apart at least, so as many as fit into the time there is are enough. -/
theorem closes_lookFrom {started time : Nat} (ends : course.time? watching.stop = some time)
    (limited : max started time = limit) (due : time ≤ watching.deadline) (more : Nat)
    {planned : Nat} (enough : watching.deadline < planned + more * watching.period)
    (after : started ≤ now) (before : now ≤ limit) :
    watching.Closes course limit seen now looks (watching.lookFrom (more + 1) planned seen) := by
  induction more generalizing planned now seen looks with
  | zero =>
    refine closes_look ends limited after before fun _ _ later waited _ early => ?_
    -- No tick comes before the deadline any more.
    rw [Nat.zero_mul, Nat.add_zero] at enough
    have := Nat.lt_of_lt_of_le early due
    have := Nat.lt_of_lt_of_le enough waited
    omega
  | succ more ih =>
    refine closes_look ends limited after before fun seen looks later waited passed early => ?_
    have tick : planned + watching.period ≤ nextTick planned later watching.period :=
      nextTick_ge waited
    refine ih ?_ (Nat.le_trans after passed) ?_
    · calc watching.deadline < planned + (more + 1) * watching.period := enough
        _ = planned + watching.period + more * watching.period := by
          rw [Nat.succ_mul, Nat.add_assoc, Nat.add_comm watching.period]
        _ ≤ nextTick planned later watching.period + more * watching.period :=
          Nat.add_le_add_right tick _
    · exact limited ▸ Nat.le_trans (Nat.le_of_lt early) (Nat.le_max_right started time)

end Service.Watching

end TryOn
