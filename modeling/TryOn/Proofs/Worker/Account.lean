import TryOn.Proofs.Counting
import TryOn.Proofs.Interleaving.Trace
import TryOn.Proofs.Interleaving.Yields
import TryOn.Proofs.Worker.Shift

/-! The accounts of a worker: its slots are shared between itself and the conversions that it has
taken, and its statistics count these by what has become of them. -/

set_option autoImplicit false

namespace TryOn

namespace Worker

inductive Moves (worker : Worker) (queue : WorkQueue) : Move → Prop
  | breaks (phase : worker.phase = .awaitingSlot) (many : maxSlots < worker.slots) :
    Moves worker queue (.proceed { worker with phase := .stopped } queue.dropReceiver)
  | leaves (phase : worker.phase = .awaitingSlot) (few : worker.slots ≤ maxSlots)
    (told : worker.intakeStopped = true) :
    Moves worker queue (.proceed { worker with phase := .draining } queue.close)
  | acquires (phase : worker.phase = .awaitingSlot) (few : worker.slots ≤ maxSlots)
    (free : 0 < worker.free) :
    Moves worker queue
      (.proceed { worker with phase := .awaitingWork, free := worker.free - 1 } queue)
  | receives {id : ConversionId} {rest : List ConversionId} (phase : worker.phase = .awaitingWork)
    (first : queue.waiting = id :: rest) :
    Moves worker queue
      (.proceed { worker with phase := .holding id } { queue with waiting := rest })
  | gives (phase : worker.phase = .awaitingWork)
    (last : worker.intakeStopped = true
      ∨ worker.intakeStopped = false ∧ queue.waiting = []
        ∧ (queue.closed = true ∨ queue.senders = 0)) :
    Moves worker queue
      (.proceed { worker with phase := .draining, free := worker.free + 1 } queue.close)
  | takes {id : ConversionId} (phase : worker.phase = .holding id) :
    Moves worker queue
      (.take id
        { worker with
          phase := .awaitingSlot
          stats := worker.stats.began
          underWay := worker.underWay + 1 } queue)
  | stops (phase : worker.phase = .draining) (idle : worker.underWay = 0) :
    Moves worker queue (.proceed { worker with phase := .stopped } queue.dropReceiver)

theorem moves_of_move? {worker : Worker} {queue : WorkQueue} {move : Move}
    (next : worker.move? queue = some move) : worker.Moves queue move := by
  unfold move? at next
  cases phase : worker.phase with
  | awaitingSlot =>
    simp only [phase] at next
    split at next
    · rename_i many
      obtain rfl := Option.some.inj next
      exact .breaks phase many
    · rename_i few
      split at next
      · rename_i told
        obtain rfl := Option.some.inj next
        exact .leaves phase (Nat.not_lt.1 few) told
      · split at next
        · cases next
        · rename_i free
          obtain rfl := Option.some.inj next
          exact .acquires phase (Nat.not_lt.1 few) (Nat.pos_of_ne_zero free)
  | awaitingWork =>
    simp only [phase] at next
    split at next
    · rename_i told
      obtain rfl := Option.some.inj next
      exact .gives phase (.inl told)
    · rename_i going
      cases waiting : queue.waiting with
      | cons id rest =>
        simp only [WorkQueue.receive, waiting] at next
        obtain rfl := Option.some.inj next
        exact .receives phase waiting
      | nil =>
        -- Nothing waits, so the worker goes on only if nothing can come any more.
        cases last : queue.closed || queue.senders = 0 with
        | false => simp [WorkQueue.receive, waiting, last] at next
        | true =>
          simp only [WorkQueue.receive, waiting, last, if_true] at next
          obtain rfl := Option.some.inj next
          exact .gives phase (.inr ⟨Bool.eq_false_iff.2 going, waiting, by simpa using last⟩)
  | holding id =>
    simp only [phase] at next
    obtain rfl := Option.some.inj next
    exact .takes phase
  | draining =>
    simp only [phase] at next
    split at next
    · rename_i idle
      obtain rfl := Option.some.inj next
      exact .stops phase idle
    · cases next
  | stopped =>
    simp only [phase] at next
    cases next

end Worker

namespace Working

variable {service : Service} {limit capacity : Nat} {shift next : Shift}

def own : WorkerPhase → Nat
  | .awaitingWork | .holding _ => 1
  | .awaitingSlot | .draining | .stopped => 0

def isTaking : WorkerPhase → Bool
  | .awaitingSlot | .awaitingWork | .holding _ => true
  | .draining | .stopped => false

section Slots

/-- Every slot is free, or held by the worker or by one of the conversions it has taken. -/
structure Slotted (limit : Nat) (shift : Shift) : Prop where
  slots : shift.worker.slots = max limit 1
  shared : shift.worker.free + own shift.worker.phase + shift.jobs.countP Job.hasSlot
    = max limit 1
  underWay : shift.worker.underWay = shift.jobs.countP Job.hasSlot

theorem slotted_opened : Slotted limit (.opened limit capacity) where
  slots := rfl
  shared := rfl
  underWay := rfl

theorem Slotted.step (slotted : Slotted limit shift) (step : Step service shift next) :
    Slotted limit next := by
  obtain ⟨slots, shared, underWay⟩ := slotted
  cases step with
  | enqueues id sender | dispatches id | hands sender present | goesOn answer present apart
  | stops | abandons | clones sender | drops sender =>
    exact ⟨slots, shared, underWay⟩
  | proceeds move =>
    cases Worker.moves_of_move? move with
    | breaks phase many | leaves phase few told =>
      rw [phase] at shared
      exact ⟨slots, shared, underWay⟩
    | acquires phase few free =>
      rw [phase] at shared
      refine ⟨slots, ?_, underWay⟩
      simp only [own] at shared ⊢
      omega
    | receives phase first =>
      rw [phase] at shared
      exact ⟨slots, shared, underWay⟩
    | gives phase last =>
      rw [phase] at shared
      refine ⟨slots, ?_, underWay⟩
      simp only [own] at shared ⊢
      omega
    | stops phase idle =>
      rw [phase] at shared
      exact ⟨slots, shared, underWay⟩
  | takes move =>
    cases Worker.moves_of_move? move with
    | takes phase =>
      rw [phase] at shared
      -- The slot goes over from the worker to the conversion.
      refine ⟨slots, ?_, ?_⟩
      · simp only [own, List.countP_append, List.countP_singleton, Job.hasSlot, Stage.hasSlot]
          at shared ⊢
        simp only [if_true]
        omega
      · simp [List.countP_append, underWay, Job.hasSlot, Stage.hasSlot]
  | @executes index id request resume answer present =>
    have count := countP_set_of_eq (p := Job.hasSlot) present
      ⟨id, .executing (resume answer)⟩ rfl
    exact ⟨slots, count ▸ shared, count ▸ underWay⟩
  | @finishes index id outcome present =>
    have count := countP_set_of_eq (p := Job.hasSlot) present ⟨id, .counted outcome⟩ rfl
    exact ⟨slots, count ▸ shared, count ▸ underWay⟩
  | @releases index id outcome present =>
    have count : (shift.jobs.set index ⟨id, .released outcome⟩).countP Job.hasSlot + 1
        = shift.jobs.countP Job.hasSlot :=
      countP_set_add Job.hasSlot present ⟨id, .released outcome⟩
    refine ⟨slots, ?_, ?_⟩
    · dsimp only [Worker.release]
      omega
    · dsimp only [Worker.release]
      omega

end Slots

section Statistics

def tally (jobs : List Job) : WorkerStats where
  succeeded := jobs.countP (Job.endedAs fun outcome => outcome matches .ok .succeeded)
  failed := jobs.countP (Job.endedAs fun outcome => outcome matches .ok .failed)
  skipped := jobs.countP (Job.endedAs fun outcome => outcome matches .ok .skipped)
  errors := jobs.countP (Job.endedAs fun outcome => outcome matches .error _)
  processed := jobs.countP fun job => !job.isExecuting
  running := jobs.countP Job.isExecuting

theorem tally_concat (jobs : List Job) (id : ConversionId) (rest : Program Outcome) :
    tally (jobs ++ [⟨id, .executing rest⟩]) = (tally jobs).began := by
  simp [tally, WorkerStats.began, List.countP_append, Job.endedAs, Job.isExecuting, Stage.outcome?]

theorem tally_set {jobs : List Job} {index : Nat} {id : ConversionId} {old : Stage}
    (present : jobs[index]? = some ⟨id, old⟩) (new : Stage) (same : old.outcome? = new.outcome?) :
    tally (jobs.set index ⟨id, new⟩) = tally jobs := by
  have executing : Job.isExecuting ⟨id, old⟩ = Job.isExecuting ⟨id, new⟩ :=
    congrArg Option.isNone same
  have ended (kind : Outcome → Bool) : (jobs.set index ⟨id, new⟩).countP (Job.endedAs kind)
      = jobs.countP (Job.endedAs kind) :=
    countP_set_of_eq present _ (congrArg (Option.any kind) same)
  have running := countP_set_of_eq (p := Job.isExecuting) present ⟨id, new⟩ executing
  have processed := countP_set_of_eq (p := fun job => !job.isExecuting) present ⟨id, new⟩
    (congrArg not executing)
  simp only [tally, ended, running, processed]

theorem tally_set_counted {jobs : List Job} {index : Nat} {id : ConversionId} {outcome : Outcome}
    (present : jobs[index]? = some ⟨id, .executing (.done outcome)⟩) :
    tally (jobs.set index ⟨id, .counted outcome⟩) = (tally jobs).finished outcome := by
  have count (p : Job → Bool) := countP_set_add p present ⟨id, .counted outcome⟩
  have running : (jobs.set index ⟨id, .counted outcome⟩).countP Job.isExecuting
      = jobs.countP Job.isExecuting - 1 :=
    Nat.eq_sub_of_add_eq (count Job.isExecuting)
  have processed : (jobs.set index ⟨id, .counted outcome⟩).countP (fun job => !job.isExecuting)
      = jobs.countP (fun job => !job.isExecuting) + 1 := count fun job => !job.isExecuting
  have ended (kind : Outcome → Bool) :
      (jobs.set index ⟨id, .counted outcome⟩).countP (Job.endedAs kind)
        = jobs.countP (Job.endedAs kind) + if kind outcome then 1 else 0 :=
    count (Job.endedAs kind)
  simp only [tally, running, processed, ended]
  rcases outcome with failure | (_ | _ | _) <;> rfl

/-- Every conversion that is not being executed has ended in exactly one way. -/
theorem processed_tally (jobs : List Job) :
    (tally jobs).processed = (tally jobs).succeeded + (tally jobs).failed + (tally jobs).skipped
      + (tally jobs).errors := by
  induction jobs with
  | nil => rfl
  | cons job jobs ih =>
    simp only [tally, List.countP_cons] at ih ⊢
    rw [ih]
    obtain ⟨id, rest | outcome | outcome⟩ := job
    · simp [Job.isExecuting, Job.endedAs, Stage.outcome?]
    · rcases outcome with failure | (_ | _ | _) <;>
        simp [Job.isExecuting, Job.endedAs, Stage.outcome?] <;> omega
    · rcases outcome with failure | (_ | _ | _) <;>
        simp [Job.isExecuting, Job.endedAs, Stage.outcome?] <;> omega

theorem processed_add_running_tally (jobs : List Job) :
    (tally jobs).processed + (tally jobs).running = jobs.length := by
  rw [List.length_eq_countP_add_countP Job.isExecuting, Nat.add_comm]
  simp [tally]

def Counted (shift : Shift) : Prop :=
  shift.worker.stats = tally shift.jobs

theorem Counted.step (counted : Counted shift) (step : Step service shift next) :
    Counted next := by
  cases step with
  | enqueues | dispatches | hands | goesOn | stops | abandons | clones | drops => exact counted
  | proceeds move => cases Worker.moves_of_move? move <;> exact counted
  | takes move =>
    cases Worker.moves_of_move? move with
    | takes phase => exact (congrArg WorkerStats.began counted).trans (tally_concat _ _ _).symm
  | @executes index id request resume answer present =>
    exact Eq.trans counted (tally_set present (.executing (resume answer)) rfl).symm
  | @finishes index id outcome present =>
    exact (congrArg (WorkerStats.finished · outcome) counted).trans (tally_set_counted present).symm
  | @releases index id outcome present =>
    exact Eq.trans counted (tally_set present (.released outcome) rfl).symm

end Statistics

section Executions

/-- What is told of a conversion that the worker has taken is the course of one execution of it. -/
def Job.Executed (service : Service) (job : Job) : Prop :=
  match job.stage with
  | .executing rest => ∃ log, (service.executeOne job.id).run.Comes log rest
  | .counted outcome | .released outcome => ∃ log, (service.executeOne job.id).Yields log outcome

theorem executed_set {jobs : List Job} {index : Nat} {new : Job}
    (executed : ∀ job ∈ jobs, job.Executed service) (holds : new.Executed service) :
    ∀ job ∈ jobs.set index new, job.Executed service := by
  intro job member
  rcases List.mem_or_eq_of_mem_set member with old | rfl
  · exact executed job old
  · exact holds

theorem executed_step (executed : ∀ job ∈ shift.jobs, job.Executed service)
    (step : Step service shift next) : ∀ job ∈ next.jobs, job.Executed service := by
  cases step with
  | enqueues | dispatches | hands | goesOn | stops | abandons | clones | drops | proceeds =>
    exact executed
  | takes move =>
    intro job member
    rcases List.mem_append.1 member with old | new
    · exact executed job old
    · obtain rfl := List.mem_singleton.1 new
      exact ⟨[], .here _⟩
  | executes answer present =>
    obtain ⟨log, comes⟩ := executed _ (List.mem_of_getElem? present)
    exact executed_set executed ⟨_, comes.concat ⟨0, 0⟩ answer⟩
  | finishes present =>
    obtain ⟨log, comes⟩ := executed _ (List.mem_of_getElem? present)
    exact executed_set executed ⟨log, comes.yields⟩
  | releases present =>
    obtain ⟨log, yields⟩ := executed _ (List.mem_of_getElem? present)
    exact executed_set executed ⟨log, yields⟩

end Executions

end Working

end TryOn
