import TryOn.Proofs.Interleaving.Solo
import TryOn.Proofs.Processing.Conduct
import TryOn.Proofs.Retry.Clockwork

/-! The processor on a clock. A script says how its attempts turn out, how long each takes, what
chance draws and when the work is called off. Whoever asks the processor then does what retries do
on that clock. -/

set_option autoImplicit false

namespace TryOn

open Retry (Clockwork Policy Timeline)

def Request.work? : Request → Option ProcessRequest
  | .process work => some work
  | _ => none

def Log.calls (log : Log) : List ProcessRequest :=
  log.filterMap (·.request.work?)

theorem Log.calls_append (first rest : Log) : calls (first ++ rest) = first.calls ++ calls rest :=
  List.filterMap_append

structure Script where
  clockwork : Clockwork ImageId ProcessorError
  bounded : ∀ time bound, clockwork.draws time bound ≤ bound
  date : Log → Timestamp
  fresh : Log → ConversionId
  /-- The answers to all that does not concern the processor. -/
  answers : Log → Instant → (request : Request) → request.Answer

namespace Script

/-- What a program finds around it when the clock is started at the given instant. Only calls of the
processor and pauses take time. -/
def around (script : Script) (began : Instant) : Circumstances where
  date := script.date
  fresh := script.fresh
  respond log now
    | .process _ =>
      (script.clockwork.results log.calls.length, now + script.clockwork.takes log.calls.length)
    | .now => (now, now)
    | .isCancelled => (script.clockwork.isCancelledBy (now - began), now)
    | .draw bound => (script.clockwork.draws (now - began) bound, now)
    | .wait span stop =>
      let ending := now + script.clockwork.lasts (Duration.millis span)
      match script.clockwork.brokenOff? (now - began) (ending - began) with
      | some moment => if stop.onCancel then (false, began + moment) else (true, ending)
      | none => (true, ending)
    | request => (script.answers log now request, now)

/-- A program stands where the clock has come to, with a call for the work for each on the clock,
and the store is still the given one. -/
structure Tracks (began : Instant) (work : ProcessRequest) (store : Store) (solo : Solo)
    (timeline : Timeline) : Prop where
  now : solo.now = began + timeline.now
  calls : solo.log.calls = List.replicate timeline.calls.length work
  store : solo.store = store

variable {α β : Type} {script : Script} {began : Instant} {work : ProcessRequest} {store : Store}
  {made total : Nat}

/-- After so many calls, a program does what is done on the clock. -/
def Simulates (script : Script) (began : Instant) (work : ProcessRequest) (store : Store)
    (made : Nat) (program : Program α) (timed : StateM Timeline α) : Prop :=
  ∀ solo timeline, Tracks began work store solo timeline → timeline.calls.length = made →
    ((script.around began).run program solo).1 = (timed.run timeline).1
      ∧ Tracks began work store ((script.around began).run program solo).2 (timed.run timeline).2

theorem simulates_pure (result : α) :
    script.Simulates began work store made (pure result) (pure result) :=
  fun _ _ tracks _ => ⟨rfl, tracks⟩

theorem Simulates.bind {program : Program α} {timed : StateM Timeline α} {next : α → Program β}
    {timedNext : α → StateM Timeline β}
    (first : script.Simulates began work store made program timed)
    (counts : ∀ timeline, timeline.calls.length = made →
      (timed.run timeline).2.calls.length = total)
    (later : ∀ value, script.Simulates began work store total (next value) (timedNext value)) :
    script.Simulates began work store made (program >>= next) (timed >>= timedNext) := by
  intro solo timeline tracks count
  obtain ⟨same, tracked⟩ := first solo timeline tracks count
  rw [Circumstances.run_bind, Clockwork.run_bind, same]
  exact later _ _ _ tracked (counts timeline count)

theorem calls_after {solo : Solo} {request : Request} (idle : request.work? = none) :
    ((script.around began).after solo request).log.calls = solo.log.calls := by
  show Log.calls (solo.log ++ [_]) = _
  rw [Log.calls_append]
  simp [Log.calls, idle]

theorem Tracks.after {solo : Solo} {timeline ended : Timeline} {request : Request}
    (tracks : Tracks began work store solo timeline) (idle : request.work? = none)
    (stays : ((script.around began).react solo request).2 = solo.store)
    (time : ((script.around began).respond solo.log solo.now request).2 = began + ended.now)
    (calls : ended.calls = timeline.calls) :
    Tracks began work store ((script.around began).after solo request) ended where
  now := time
  calls := by rw [calls_after idle, tracks.calls, calls]
  store := stays.trans tracks.store

theorem simulates_isCancelled :
    script.Simulates began work store made (Retry.Means.ofProgram true).isCancelled
      script.clockwork.means.isCancelled := by
  intro solo timeline tracks _
  refine ⟨?_, tracks.after rfl rfl tracks.now rfl⟩
  show script.clockwork.isCancelledBy (solo.now - began) = _
  rw [tracks.now, Nat.add_sub_cancel_left]
  rfl

theorem simulates_draw (bound : Nat) :
    script.Simulates began work store made ((Retry.Means.ofProgram true).draw bound)
      (script.clockwork.means.draw bound) := by
  intro solo timeline tracks _
  have drawn : (script.clockwork.means.draw bound).run timeline
      = (script.clockwork.draws timeline.now bound, timeline) := rfl
  rw [drawn]
  unfold Retry.Means.ofProgram
  dsimp only
  split
  · -- Nothing can be drawn but zero, so nobody is asked for it.
    rename_i none
    rw [none]
    exact ⟨(Nat.le_zero.1 (script.bounded timeline.now 0)).symm, tracks⟩
  · refine ⟨?_, tracks.after rfl rfl tracks.now rfl⟩
    show script.clockwork.draws (solo.now - began) bound = _
    rw [tracks.now, Nat.add_sub_cancel_left]

theorem simulates_pause (millis : Nat) :
    script.Simulates began work store made ((Retry.Means.ofProgram true).pause millis)
      (script.clockwork.means.pause millis) := by
  intro solo timeline tracks _
  have answered (log : Log) :
      (script.around began).respond log solo.now (.wait (Duration.ofMillis millis) ⟨true, none⟩)
        = match script.clockwork.brokenOff? timeline.now
            (timeline.now + script.clockwork.lasts millis) with
          | some moment => (false, began + moment)
          | none => (true, began + (timeline.now + script.clockwork.lasts millis)) := by
    simp only [around, Duration.millis_ofMillis, tracks.now, Nat.add_assoc,
      Nat.add_sub_cancel_left, if_true]
  refine ⟨?_, tracks.after rfl rfl ?_ ?_⟩
  · show ((script.around began).respond solo.log solo.now _).1 = _
    rw [answered, Clockwork.run_pause]
    generalize script.clockwork.brokenOff? _ _ = broken
    cases broken <;> rfl
  · rw [answered, Clockwork.run_pause]
    generalize script.clockwork.brokenOff? _ _ = broken
    cases broken <;> rfl
  · rw [Clockwork.run_pause]
    split <;> rfl

theorem simulates_call (attempt : Nat) :
    script.Simulates began work store attempt (Program.request (.process work))
      (script.clockwork.operation attempt) := by
  intro solo timeline tracks count
  have asked : solo.log.calls.length = attempt := by
    rw [tracks.calls, List.length_replicate, count]
  refine ⟨?_, ?_, ?_, tracks.store⟩
  · show script.clockwork.results solo.log.calls.length = _
    rw [asked]
    rfl
  · show solo.now + script.clockwork.takes solo.log.calls.length = _
    rw [asked, tracks.now, Nat.add_assoc]
    rfl
  · show Log.calls (solo.log ++ [_]) = List.replicate (timeline.calls ++ [_]).length work
    rw [Log.calls_append, tracks.calls, List.length_append, ← List.replicate_append_replicate]
    rfl

theorem length_operation (attempt : Nat) (timeline : Timeline)
    (count : timeline.calls.length = attempt) :
    ((script.clockwork.operation attempt).run timeline).2.calls.length = attempt + 1 := by
  show (timeline.calls ++ [_]).length = attempt + 1
  rw [List.length_append, count]
  rfl

theorem length_pause (millis : Nat) (timeline : Timeline) (count : timeline.calls.length = made) :
    ((script.clockwork.means.pause millis).run timeline).2.calls.length = made := by
  rw [Clockwork.run_pause]
  split <;> exact count

theorem simulates_executeFrom (policy : Policy) (left attempt : Nat) :
    script.Simulates began work store attempt
      (Retry.executeFrom (.ofProgram true) policy (fun _ => Program.request (.process work)) left
        attempt)
      (Retry.executeFrom script.clockwork.means policy script.clockwork.operation left
        attempt) := by
  unfold Retry.executeFrom
  refine simulates_isCancelled.bind (fun _ count => count) fun cancelled => ?_
  cases cancelled with
  | true => exact simulates_pure _
  | false =>
    refine (simulates_call attempt).bind (length_operation attempt) fun result => ?_
    cases result with
    | ok value => exact simulates_pure _
    | error failure =>
      dsimp only
      cases policy.judge failure with
      | terminal => exact simulates_pure _
      | retryable =>
        cases left with
        | zero => exact simulates_pure _
        -- Only a pause that was waited out leads to another attempt.
        | succ left =>
          refine (simulates_draw _).bind (fun _ count => count) fun draw => ?_
          refine (simulates_pause _).bind (length_pause _) fun goesOn => ?_
          cases goesOn with
          | false => exact simulates_pure _
          | true => exact simulates_executeFrom policy left (attempt + 1)

end Script

end TryOn
