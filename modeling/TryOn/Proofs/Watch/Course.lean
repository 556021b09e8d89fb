import TryOn.Service.Watch

/-! Time as a program passes it. A course of things says how long each read of the store takes, if
it ever ends, and when the caller calls the program off; with it, everything that a program does
that only reads, waits and looks at the clock is settled, to the instant.

It is assumed that timers are exact and that every instant which comes up can be represented. With
timers that go by milliseconds this is so as long as all spans are of whole milliseconds, and none
ends beyond the last instant of the clock. -/

set_option autoImplicit false

namespace TryOn

/-- How the reads turn out, one after another, and when the caller calls all off. -/
structure Course where
  read? : Nat → Option (Duration × Except StoreError Conversion)
  cancelled? : Option Instant

/-- A read as it was made, until when it was waited for at most, and what came of it. -/
structure Look where
  stop : Stop
  start : Instant
  finish : Instant
  answer : Option (Except StoreError Conversion)

structure Outcome (α : Type) where
  result : α
  finish : Instant
  looks : List Look

def Look.shown? (look : Look) : Option Conversion :=
  match look.answer with
  | some (.ok conversion) => some conversion
  | _ => none

theorem Look.shown?_eq_some_iff {look : Look} {conversion : Conversion} :
    look.shown? = some conversion ↔ look.answer = some (.ok conversion) := by
  unfold shown?
  rcases look.answer with - | failure | found <;> simp

namespace Course

variable (course : Course)

def time? (stop : Stop) : Option Instant :=
  Option.merge min (if stop.onCancel then course.cancelled? else none) stop.deadline

/-- The next read, after so many others. One that is over when it is time to stop is answered, and
so is one that takes no time at all. -/
def look? (count : Nat) (stop : Stop) (start : Instant) : Option Look :=
  match course.read? count, course.time? stop with
  | none, none => none
  | none, some time => some ⟨stop, start, max start time, none⟩
  | some (span, answer), none => some ⟨stop, start, start + span, some answer⟩
  | some (span, answer), some time =>
    if start + span ≤ max start time then some ⟨stop, start, start + span, some answer⟩
    else some ⟨stop, start, max start time, none⟩

/-- Whether a wait is waited out, and when it is over. If both come at once it is not. -/
def pass (span : Duration) (stop : Stop) (start : Instant) : Bool × Instant :=
  match course.time? stop with
  | none => (true, start + span)
  | some time => if time ≤ start + span then (false, max start time) else (true, start + span)

theorem look?_of_time? {stop : Stop} {time : Instant} (ends : course.time? stop = some time)
    (count : Nat) (start : Instant) :
    ∃ look, course.look? count stop start = some look ∧ look.stop = stop ∧ look.start = start
      ∧ ((∃ span answer, course.read? count = some (span, answer)
          ∧ start + span ≤ max start time ∧ look.answer = some answer ∧ look.finish = start + span)
        ∨ ((∀ span answer, course.read? count = some (span, answer) →
            max start time < start + span)
          ∧ look.answer = none ∧ look.finish = max start time)) := by
  unfold look?
  rw [ends]
  cases read : course.read? count with
  | none => exact ⟨_, rfl, rfl, rfl, .inr ⟨nofun, rfl, rfl⟩⟩
  | some outcome =>
    obtain ⟨span, answer⟩ := outcome
    dsimp only
    split
    · rename_i soon
      exact ⟨_, rfl, rfl, rfl, .inl ⟨span, answer, rfl, soon, rfl, rfl⟩⟩
    · rename_i late
      refine ⟨_, rfl, rfl, rfl, .inr ⟨fun other found same => ?_, rfl, rfl⟩⟩
      cases same
      exact Nat.lt_of_not_le late

theorem read?_of_look? {count : Nat} {stop : Stop} {start : Instant} {look : Look}
    {answer : Except StoreError Conversion} (looked : course.look? count stop start = some look)
    (answered : look.answer = some answer) : ∃ span, course.read? count = some (span, answer) := by
  unfold look? at looked
  cases read : course.read? count with
  | none => cases ends : course.time? stop <;> grind
  | some outcome => cases ends : course.time? stop <;> grind

end Course

namespace Program

variable {α β : Type}

/-- What comes of a program that is begun at an instant, after some looks. Nothing comes of one
that reads without end, or asks for anything but reads, waits and the clock. -/
def outcome? (course : Course) : Program α → Instant → List Look → Option (Outcome α)
  | .done result, now, looks => some ⟨result, now, looks⟩
  | .ask .now resume, now, looks => (resume now).outcome? course now looks
  | .ask (.poll _ stop) resume, now, looks =>
    (course.look? looks.length stop now).bind fun look =>
      (resume look.answer).outcome? course look.finish (looks ++ [look])
  | .ask (.wait span stop) resume, now, looks =>
    (resume (course.pass span stop now).1).outcome? course (course.pass span stop now).2 looks
  | .ask _ _, _, _ => none

end Program

namespace Action

variable {α : Type} (course : Course) (now : Instant) (looks : List Look)

def outcome? (action : Action α) : Option (Outcome (Except Failure α)) :=
  action.run.outcome? course now looks

@[simp] theorem outcome?_pure (value : α) :
    outcome? course now looks (pure value) = some ⟨.ok value, now, looks⟩ := rfl

@[simp] theorem outcome?_throw (failure : Failure) :
    outcome? course now looks (throw failure : Action α) = some ⟨.error failure, now, looks⟩ := rfl

theorem outcome?_now (next : Instant → Action α) :
    outcome? course now looks (Action.now >>= next) = outcome? course now looks (next now) := rfl

theorem outcome?_poll (id : ConversionId) (stop : Stop)
    (next : Option (Except StoreError Conversion) → Action α) :
    outcome? course now looks (Action.poll id stop >>= next)
      = (course.look? looks.length stop now).bind fun look =>
          outcome? course look.finish (looks ++ [look]) (next look.answer) := rfl

theorem outcome?_wait (span : Duration) (stop : Stop) (next : Bool → Action α) :
    outcome? course now looks (Action.wait span stop >>= next)
      = outcome? course (course.pass span stop now).2 looks (next (course.pass span stop now).1) :=
  rfl

end Action

end TryOn
