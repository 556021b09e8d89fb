import TryOn.Proofs.Interleaving.Play
import TryOn.Proofs.Interleaving.Yields

/-! A program that has a store to itself, run from its first request to its result. Everything
that is not asked of the store or the wall clock is up to its surroundings, and so is the time
that passes. -/

set_option autoImplicit false

namespace TryOn

structure Solo where
  store : Store
  now : Instant
  log : Log

/-- A store can come to give the answers of a log, one after another. -/
inductive Store.Replies : Store → Log → Store → Prop
  | here (store : Store) : Replies store [] store
  | step {store next last : Store} {exchange : Exchange} {rest : Log}
    (reacts : store.Reacts exchange next) (later : Replies next rest last) :
    Replies store (exchange :: rest) last

/-- What a program finds around it, in view of what it has asked: the date, new identifiers, and how
and when it is answered. -/
structure Circumstances where
  date : Log → Timestamp
  fresh : Log → ConversionId
  respond : Log → Instant → (request : Request) → request.Answer × Instant

namespace Circumstances

variable {α β : Type} (around : Circumstances)

def react (solo : Solo) (request : Request) : request.Answer × Store :=
  solo.store.react (fun request => (around.respond solo.log solo.now request).1)
    (around.date solo.log) (around.fresh solo.log) request

def after (solo : Solo) (request : Request) : Solo where
  store := (around.react solo request).2
  now := (around.respond solo.log solo.now request).2
  log := solo.log ++ [⟨around.date solo.log, request, (around.react solo request).1⟩]

def run : Program α → Solo → α × Solo
  | .done result, solo => (result, solo)
  | .ask request resume, solo =>
    run (resume (around.react solo request).1) (around.after solo request)

theorem run_bind (program : Program α) (next : α → Program β) (solo : Solo) :
    around.run (program >>= next) solo
      = around.run (next (around.run program solo).1) (around.run program solo).2 := by
  induction program generalizing solo with
  | done result => rfl
  | ask request resume ih => exact ih _ _

theorem run_keeps {allowed : Request → Prop} {invariant : Solo → Prop}
    (kept : ∀ solo request, allowed request → invariant solo →
      invariant (around.after solo request))
    {program : Program α} (asks : program.Asks allowed) {solo : Solo} (holds : invariant solo) :
    invariant (around.run program solo).2 := by
  induction program generalizing solo with
  | done result => exact holds
  | ask request resume ih => exact ih _ (asks.2 _) (kept solo request asks.1 holds)

section Actions

variable {around} {action : Action α} {next : α → Action β} {solo later : Solo}

theorem run_bind_of_ok {value : α} (ran : around.run action.run solo = (.ok value, later)) :
    around.run (action >>= next).run solo = around.run (next value).run later := by
  rw [ExceptT.run_bind, run_bind, ran]

theorem run_bind_of_error {failure : Failure}
    (ran : around.run action.run solo = (.error failure, later)) :
    around.run (action >>= next).run solo = (.error failure, later) := by
  rw [ExceptT.run_bind, run_bind, ran]
  rfl

theorem run_lift (program : Program α) (solo : Solo) :
    around.run (ExceptT.lift program : Action α).run solo
      = (.ok (around.run program solo).1, (around.run program solo).2) := by
  show around.run (Except.ok <$> program) solo = _
  rw [map_eq_pure_bind, run_bind]
  rfl

theorem run_lift_bind (program : Program α) (solo : Solo) :
    around.run (ExceptT.lift program >>= next : Action β).run solo
      = around.run (next (around.run program solo).1).run (around.run program solo).2 :=
  run_bind_of_ok (run_lift program solo)

end Actions

/-- What is asked in a run is what its program yields, and what the store can answer. -/
theorem yields_run (program : Program α) (solo : Solo) :
    ∃ log, (around.run program solo).2.log = solo.log ++ log
      ∧ program.Yields log (around.run program solo).1
      ∧ solo.store.Replies log (around.run program solo).2.store := by
  induction program generalizing solo with
  | done result => exact ⟨[], (List.append_nil _).symm, .done result, .here solo.store⟩
  | ask request resume ih =>
    obtain ⟨log, whole, yields, replies⟩ := ih _ (around.after solo request)
    have reacts := solo.store.reacts_react
      (fun request => (around.respond solo.log solo.now request).1) (around.date solo.log)
      (around.fresh solo.log) request
    refine ⟨_ :: log, ?_, .ask (around.date solo.log) yields, .step reacts replies⟩
    exact whole.trans (List.append_assoc _ [_] _)

theorem log_prefix_run (program : Program α) (solo : Solo) :
    solo.log <+: (around.run program solo).2.log := by
  obtain ⟨log, whole, -, -⟩ := around.yields_run program solo
  exact ⟨log, whole.symm⟩

end Circumstances

end TryOn
