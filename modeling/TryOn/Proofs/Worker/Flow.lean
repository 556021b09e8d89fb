import TryOn.Proofs.Worker.Account
import TryOn.Proofs.Worker.Dispatch

/-! The way of conversions through the queue to the worker. They come in the order in which the
queue has accepted them; what has been received is executed, whatever the worker is told; and
everything accepted has been received when the queue has ended. -/

set_option autoImplicit false

namespace TryOn

namespace Working

variable {service : Service} {limit capacity : Nat} {shift next : Shift}

namespace Shift

theorem push_cases (shift : Shift) (source : Option Nat) (id : ConversionId) :
    ((shift.queue.enqueue id).1 = .ok () ∧ shift.queue.closed = false
        ∧ shift.push source id =
          { shift with
            queue := { shift.queue with waiting := shift.queue.waiting ++ [id] }
            accepted := shift.accepted ++ [(source, id)] })
      ∨ ((∃ failure, (shift.queue.enqueue id).1 = .error failure)
        ∧ shift.push source id = shift) := by
  unfold push WorkQueue.enqueue
  split
  · exact .inr ⟨⟨_, rfl⟩, rfl⟩
  · rename_i isOpen
    split
    · exact .inr ⟨⟨_, rfl⟩, rfl⟩
    · exact .inl ⟨rfl, Bool.eq_false_iff.2 isOpen, rfl⟩

def admitted (shift : Shift) : List ConversionId :=
  shift.accepted.map Prod.snd

def handedBy (shift : Shift) (index : Nat) : List ConversionId :=
  (shift.accepted.filter fun entry => entry.1 = some index).map Prod.snd

end Shift

section Passing

/-- Where the conversions are that the queue has accepted. -/
structure Passed (shift : Shift) : Prop where
  received : shift.received = shift.jobs.map Job.id ++ held shift.worker.phase
  open_iff : shift.queue.closed = false ↔ isTaking shift.worker.phase = true
  inOrder : shift.received <+: shift.admitted
  waiting : shift.worker.phase ≠ .stopped →
    shift.admitted = shift.received ++ shift.queue.waiting
  ended : shift.ended = true →
    shift.queue.closed = true ∧ shift.queue.senders = 0 ∧ shift.received = shift.admitted

theorem ids_set {jobs : List Job} {index : Nat} {id : ConversionId} {old : Stage}
    (present : jobs[index]? = some ⟨id, old⟩) (new : Stage) :
    (jobs.set index ⟨id, new⟩).map Job.id = jobs.map Job.id := by
  have its : (jobs.map Job.id)[index]? = some id := by
    rw [List.getElem?_map, present]
    rfl
  obtain ⟨within, same⟩ := List.getElem?_eq_some_iff.1 its
  rw [List.map_set]
  exact same ▸ List.set_getElem_self within

theorem passed_opened : Passed (.opened limit capacity) where
  received := rfl
  open_iff := ⟨fun _ => rfl, fun _ => rfl⟩
  inOrder := List.prefix_rfl
  waiting _ := rfl
  ended ended := by cases ended

theorem Passed.push (passed : Passed shift) (source : Option Nat) (id : ConversionId) :
    Passed (shift.push source id) := by
  rcases shift.push_cases source id with ⟨-, isOpen, same⟩ | ⟨-, same⟩
  · have grown : (shift.push source id).admitted = shift.admitted ++ [id] := by
      rw [same]
      simp [Shift.admitted]
    obtain ⟨received, open_iff, inOrder, waiting, ended⟩ := passed
    have inOrder := inOrder.trans (List.prefix_append _ [id])
    rw [← grown] at inOrder
    rw [same] at grown inOrder ⊢
    refine ⟨received, open_iff, inOrder, fun going => ?_, fun last => ?_⟩
    · rw [grown, waiting going, List.append_assoc]
    · -- A queue at its end is closed, and would not have accepted anything.
      rw [(ended last).1] at isOpen
      cases isOpen
  · rwa [same]

/-- A worker that finds the queue at its end has received all that the queue has accepted. -/
theorem Passed.foundEnd (passed : Passed shift) (last : shift.foundEnd = true) :
    shift.queue.senders = 0 ∧ shift.received = shift.admitted := by
  simp only [Shift.foundEnd, Bool.and_eq_true, decide_eq_true_eq] at last
  obtain ⟨⟨phase, -⟩, ends⟩ := last
  have isOpen : shift.queue.closed = false := passed.open_iff.2 (by rw [phase]; rfl)
  have same := passed.waiting (by rw [phase]; decide)
  cases first : shift.queue.waiting with
  | cons id rest => simp [WorkQueue.receive, first] at ends
  | nil =>
    rw [first, List.append_nil] at same
    refine ⟨?_, same.symm⟩
    by_contra senders
    simp [WorkQueue.receive, first, isOpen, senders] at ends

theorem Passed.of_last (passed : Passed shift) (last : (shift.ended || shift.foundEnd) = true) :
    shift.queue.senders = 0 ∧ shift.received = shift.admitted := by
  rcases Bool.or_eq_true_iff.1 last with before | now
  · exact (passed.ended before).2
  · exact passed.foundEnd now

theorem Passed.not_over (passed : Passed shift) (taking : isTaking shift.worker.phase = true)
    (more : shift.foundEnd = false) : (shift.ended || shift.foundEnd) = false := by
  rw [more, Bool.or_false]
  refine Bool.eq_false_iff.2 fun ended => ?_
  have isOpen := passed.open_iff.2 taking
  rw [(passed.ended ended).1] at isOpen
  cases isOpen

theorem Passed.quits {worker : Worker} {queue : WorkQueue} (passed : Passed shift)
    (quits : isTaking worker.phase = false) (idle : held shift.worker.phase = [])
    (closed : queue.closed = true) (senders : queue.senders = shift.queue.senders)
    (waiting : worker.phase ≠ .stopped →
      shift.worker.phase ≠ .stopped ∧ queue.waiting = shift.queue.waiting) :
    Passed
      { shift with
        worker := worker
        queue := queue
        received := shift.received ++ held worker.phase
        ended := shift.ended || shift.foundEnd } := by
  have empty : held worker.phase = [] := by
    cases phase : worker.phase <;> simp_all [isTaking, held]
  have received := passed.received
  rw [idle] at received
  simp only [empty, List.append_nil]
  refine ⟨?_, ?_, passed.inOrder, fun going => ?_, fun last => ?_⟩
  · rw [empty]
    exact received
  · simp [closed, quits]
  · obtain ⟨before, same⟩ := waiting going
    rw [same]
    exact passed.waiting before
  · exact ⟨closed, senders.trans (passed.of_last last).1, (passed.of_last last).2⟩

theorem Passed.step (passed : Passed shift) (step : Step service shift next) : Passed next := by
  cases step with
  | enqueues id sender => exact passed.push none id
  | @hands index id asked resume sender present =>
    obtain ⟨received, open_iff, inOrder, waiting, ended⟩ := passed.push (some index) asked
    exact ⟨received, open_iff, inOrder, waiting, ended⟩
  | dispatches | goesOn | stops | abandons =>
    obtain ⟨received, open_iff, inOrder, waiting, ended⟩ := passed
    exact ⟨received, open_iff, inOrder, waiting, ended⟩
  | clones sender | drops sender =>
    obtain ⟨received, open_iff, inOrder, waiting, ended⟩ := passed
    refine ⟨received, open_iff, inOrder, waiting, fun last => ?_⟩
    obtain ⟨closed, nobody, same⟩ := ended last
    -- Nobody sends any more once the queue has ended, so this does not happen.
    omega
  | executes _ present | finishes present | releases present =>
    obtain ⟨received, open_iff, inOrder, waiting, ended⟩ := passed
    exact ⟨received.trans (congrArg (· ++ _) (ids_set present _).symm), open_iff, inOrder, waiting,
      ended⟩
  | takes move =>
    obtain ⟨received, open_iff, inOrder, waiting, ended⟩ := passed
    cases Worker.moves_of_move? move with
    | takes phase =>
      rw [phase] at received open_iff waiting
      refine ⟨?_, open_iff, inOrder, fun _ => waiting WorkerPhase.noConfusion, ended⟩
      simpa [held] using received
  | proceeds move =>
    cases Worker.moves_of_move? move with
    | breaks phase many => exact passed.quits rfl (by rw [phase]; rfl) rfl rfl (absurd rfl)
    | leaves phase few told =>
      exact passed.quits rfl (by rw [phase]; rfl) rfl rfl fun _ => ⟨by rw [phase]; decide, rfl⟩
    | gives phase last =>
      exact passed.quits rfl (by rw [phase]; rfl) rfl rfl fun _ => ⟨by rw [phase]; decide, rfl⟩
    | stops phase idle => exact passed.quits rfl (by rw [phase]; rfl) rfl rfl (absurd rfl)
    | acquires phase few free =>
      have onward := passed.not_over (by rw [phase]; rfl) (by simp [Shift.foundEnd, phase])
      obtain ⟨received, open_iff, inOrder, waiting, ended⟩ := passed
      rw [phase] at received open_iff waiting
      simp only [onward, held, List.append_nil] at received ⊢
      refine ⟨?_, open_iff, inOrder, fun _ => waiting (by decide),
        Bool.noConfusion⟩
      simpa [held] using received
    | @receives id rest phase first =>
      -- Whoever is given a conversion has not found the queue at its end.
      have onward := passed.not_over (by rw [phase]; rfl)
        (by simp [Shift.foundEnd, WorkQueue.receive, first])
      obtain ⟨received, open_iff, inOrder, waiting, ended⟩ := passed
      rw [phase] at received open_iff waiting
      have order : shift.admitted = (shift.received ++ [id]) ++ rest := by
        rw [waiting (by decide), first, List.append_assoc]
        rfl
      simp only [onward, held, List.append_nil] at received ⊢
      exact ⟨congrArg (· ++ _) received, open_iff, ⟨rest, order.symm⟩, fun _ => order,
        Bool.noConfusion⟩

end Passing

section Ending

/-- How a worker comes to stop, and that nothing is under way then. A worker with more slots than
can be kept count of takes nothing at all. -/
structure Ended (shift : Shift) : Prop where
  reason : isTaking shift.worker.phase = false →
    shift.ended = true ∨ shift.worker.intakeStopped = true ∨ Worker.maxSlots < shift.worker.slots
  idle : shift.worker.phase = .stopped → shift.worker.underWay = 0
  broken : Worker.maxSlots < shift.worker.slots →
    shift.worker.underWay = 0
      ∧ (shift.worker.phase = .awaitingSlot ∨ shift.worker.phase = .stopped)

theorem ended_opened : Ended (.opened limit capacity) where
  reason taking := by cases taking
  idle stopped := by cases stopped
  broken _ := ⟨rfl, .inl rfl⟩

theorem Ended.few (ended : Ended shift) (slot : shift.worker.phase ≠ .awaitingSlot)
    (going : shift.worker.phase ≠ .stopped) : ¬ Worker.maxSlots < shift.worker.slots :=
  fun many => (ended.broken many).2.elim slot going

theorem ended_of_taking (taking : isTaking shift.worker.phase = true)
    (few : ¬ Worker.maxSlots < shift.worker.slots) : Ended shift where
  reason quits := by
    rw [taking] at quits
    cases quits
  idle stopped := by
    rw [stopped] at taking
    cases taking
  broken many := absurd many few

theorem ended_of_draining (draining : shift.worker.phase = .draining)
    (few : ¬ Worker.maxSlots < shift.worker.slots)
    (reason : shift.ended = true ∨ shift.worker.intakeStopped = true) : Ended shift where
  reason _ := reason.imp_right .inl
  idle stopped := by
    rw [draining] at stopped
    cases stopped
  broken many := absurd many few

theorem Ended.step (ended : Ended shift) (step : Step service shift next) : Ended next := by
  have few := ended.few
  obtain ⟨reason, idle, broken⟩ := ended
  cases step with
  | enqueues | dispatches | hands | goesOn | executes | finishes | clones | drops =>
    exact ⟨reason, idle, broken⟩
  | stops | abandons => exact ⟨fun _ => .inr (.inl rfl), idle, broken⟩
  | releases present =>
    exact ⟨reason, fun stopped => congrArg (· - 1) (idle stopped),
      fun many => ⟨congrArg (· - 1) (broken many).1, (broken many).2⟩⟩
  | takes move =>
    cases Worker.moves_of_move? move with
    | takes phase =>
      rw [phase] at few
      exact ended_of_taking rfl (few WorkerPhase.noConfusion WorkerPhase.noConfusion)
  | proceeds move =>
    cases Worker.moves_of_move? move with
    | breaks phase many =>
      exact ⟨fun _ => .inr (.inr many), fun _ => (broken many).1,
        fun _ => ⟨(broken many).1, .inr rfl⟩⟩
    | leaves phase few told => exact ended_of_draining rfl (Nat.not_lt.2 few) (.inr told)
    | acquires phase few free => exact ended_of_taking rfl (Nat.not_lt.2 few)
    | receives phase first =>
      rw [phase] at few
      exact ended_of_taking rfl (few (by decide) (by decide))
    | gives phase last =>
      rw [phase] at few
      -- It was told to stop, or finds just now that nobody sends any more.
      refine ended_of_draining rfl (few (by decide) (by decide)) ?_
      rcases last with told | ⟨going, none, final⟩
      · exact .inr told
      · refine .inl ?_
        simp [Shift.foundEnd, WorkQueue.receive, phase, going, none, final]
    | stops phase free =>
      rw [phase] at few reason
      refine ⟨fun _ => ?_, fun _ => free, fun many => absurd many (few (by decide) (by decide))⟩
      exact (reason rfl).imp_left fun before => by simp [before]

end Ending

section Handing

def Told (service : Service) (handings : List Handing) (handedBy : Nat → List ConversionId) :
    Prop :=
  ∀ (index : Nat) (handing : Handing), handings[index]? = some handing →
    ∃ log, (Service.dispatch service.policies (Program.request (.enqueue handing.id))).Comes log
        handing.rest
      ∧ handedBy index = log.filterMap Exchange.accepted?

theorem Told.set {handings : List Handing} {before after : Nat → List ConversionId} {asked : Nat}
    {id : ConversionId} {request : Request} {resume : request.Answer → Program Unit}
    (told : Told service handings before)
    (present : handings[asked]? = some ⟨id, .ask request resume⟩) (answer : request.Answer)
    (its : after asked
      = before asked ++ (Exchange.accepted? ⟨⟨0, 0⟩, request, answer⟩).toList)
    (others : ∀ index, asked ≠ index → after index = before index) :
    Told service (handings.set asked ⟨id, resume answer⟩) after := by
  intro index handing there
  by_cases same : asked = index
  · subst same
    rw [List.getElem?_set_self (List.getElem?_eq_some_iff.1 present).1] at there
    cases there
    obtain ⟨log, comes, handed⟩ := told asked _ present
    exact ⟨_, comes.concat ⟨0, 0⟩ answer, by rw [its, handed, accepted_concat]⟩
  · rw [List.getElem?_set_ne same] at there
    rw [others index same]
    exact told index handing there

structure Handed (service : Service) (shift : Shift) : Prop where
  told : Told service shift.handings shift.handedBy
  known : ∀ entry ∈ shift.accepted, ∀ index, entry.1 = some index → index < shift.handings.length

theorem handed_opened : Handed service (.opened limit capacity) where
  told _ _ present := by cases present
  known := by simp [Shift.opened]

theorem handedBy_push_of_ne (shift : Shift) (source : Option Nat) (id : ConversionId)
    {index : Nat} (other : source ≠ some index) :
    (shift.push source id).handedBy index = shift.handedBy index := by
  rcases shift.push_cases source id with ⟨-, -, same⟩ | ⟨-, same⟩
  · simp [same, Shift.handedBy, List.filter_append, other]
  · rw [same]

theorem handedBy_push_self (shift : Shift) (id : ConversionId) (index : Nat)
    (moment : Timestamp) :
    (shift.push (some index) id).handedBy index = shift.handedBy index
      ++ (Exchange.accepted? ⟨moment, .enqueue id, (shift.queue.enqueue id).1⟩).toList := by
  rcases shift.push_cases (some index) id with ⟨accepted, -, same⟩ | ⟨⟨failure, refused⟩, same⟩
  · rw [accepted, same]
    simp [Shift.handedBy, List.filter_append, Exchange.accepted?]
  · rw [refused, same]
    simp [Exchange.accepted?]

theorem Handed.of_same {later : Shift} (handed : Handed service shift)
    (handings : later.handings = shift.handings) (accepted : later.accepted = shift.accepted) :
    Handed service later := by
  have handedBy : later.handedBy = shift.handedBy := by
    funext index
    rw [Shift.handedBy, accepted, Shift.handedBy]
  obtain ⟨told, known⟩ := handed
  rw [← handings, ← handedBy] at told
  exact ⟨told, by rwa [accepted, handings]⟩

theorem known_push {source : Option Nat} {id : ConversionId} {count : Nat}
    (known : ∀ entry ∈ shift.accepted, ∀ index, entry.1 = some index → index < count)
    (its : ∀ index, source = some index → index < count) :
    ∀ entry ∈ (shift.push source id).accepted, ∀ index, entry.1 = some index →
      index < count := by
  rcases shift.push_cases source id with ⟨-, -, same⟩ | ⟨-, same⟩
  · rw [same]
    intro entry member
    rcases List.mem_append.1 member with old | new
    · exact known entry old
    · exact List.mem_singleton.1 new ▸ its
  · rwa [same]

theorem Handed.step (handed : Handed service shift) (step : Step service shift next) :
    Handed service next := by
  cases step with
  | executes | finishes | releases | stops | abandons | clones | drops | proceeds | takes =>
    exact handed.of_same rfl rfl
  | enqueues id sender =>
    obtain ⟨told, known⟩ := handed
    refine ⟨fun index handing present => ?_, known_push known fun index its => by cases its⟩
    rw [handedBy_push_of_ne shift none id (Option.some_ne_none _).symm]
    exact told index handing present
  | dispatches id =>
    obtain ⟨told, known⟩ := handed
    refine ⟨fun index handing present => ?_, fun entry member index its => ?_⟩
    · rcases Nat.lt_or_ge index shift.handings.length with old | new
      · rw [List.getElem?_append_left old] at present
        exact told index handing present
      · -- What is handed in from now on has had nothing accepted yet.
        rw [List.getElem?_append_right new] at present
        obtain ⟨-, rfl⟩ : _ ∧ _ = handing := by
          simpa [List.getElem?_singleton] using present
        refine ⟨[], .here _, List.map_eq_nil_iff.2 (List.filter_eq_nil_iff.2 ?_)⟩
        intro entry member its
        exact absurd (known entry member index (by simpa using its)) (Nat.not_lt.2 new)
    · rw [List.length_append]
      exact Nat.lt_add_right _ (known entry member index its)
  | @hands index id asked resume sender present =>
    obtain ⟨told, known⟩ := handed
    refine ⟨told.set present _ (handedBy_push_self shift asked index ⟨0, 0⟩) fun other apart => ?_,
      ?_⟩
    · exact handedBy_push_of_ne shift (some index) asked fun same => apart (Option.some.inj same)
    · rw [List.length_set]
      exact known_push known fun other same =>
        Option.some.inj same ▸ (List.getElem?_eq_some_iff.1 present).1
  | goesOn answer present apart =>
    obtain ⟨told, known⟩ := handed
    refine ⟨told.set present answer ?_ fun _ _ => rfl, by rwa [List.length_set]⟩
    rw [Exchange.accepted_eq_none apart]
    exact (List.append_nil _).symm

end Handing

section Accounts

structure Kept (service : Service) (limit : Nat) (shift : Shift) : Prop where
  slotted : Slotted limit shift
  counted : Counted shift
  executed : ∀ job ∈ shift.jobs, job.Executed service
  passed : Passed shift
  ended : Ended shift
  handed : Handed service shift

theorem kept_of_run (run : Run service (.opened limit capacity) shift) :
    Kept service limit shift := by
  induction run with
  | refl =>
    exact ⟨slotted_opened, rfl, by simp [Shift.opened], passed_opened, ended_opened, handed_opened⟩
  | tail _ step ih =>
    obtain ⟨slotted, counted, executed, passed, ended, handed⟩ := ih
    exact ⟨slotted.step step, counted.step step, executed_step executed step, passed.step step,
      ended.step step, handed.step step⟩

structure Accounted (service : Service) (limit : Nat) (shift : Shift) : Prop where
  /-- Each conversion received is executed once, in its turn; one at most is still to be begun. -/
  executed : shift.received = shift.jobs.map Job.id ++ held shift.worker.phase
  course : ∀ job ∈ shift.jobs, job.Executed service
  /-- It is begun whatever the worker has been told. -/
  begins : ∀ id, shift.worker.phase = .holding id →
    ∃ worker, shift.worker.move? shift.queue = some (.take id worker shift.queue)
  stats : shift.worker.stats = tally shift.jobs
  running : shift.worker.stats.running = shift.jobs.countP Job.isExecuting
  within : shift.worker.stats.running ≤ max 1 limit
  processed : shift.worker.stats.processed
    = shift.worker.stats.succeeded + shift.worker.stats.failed + shift.worker.stats.skipped
      + shift.worker.stats.errors
  length : shift.worker.stats.processed + shift.worker.stats.running
      + (held shift.worker.phase).length
    = shift.received.length
  waits : shift.worker.move? shift.queue = none → held shift.worker.phase = []
  stopped : shift.worker.phase = .stopped →
    shift.worker.stats.running = 0 ∧ shift.worker.stats.processed = shift.received.length
      ∧ ∀ job ∈ shift.jobs, ∃ outcome, job.stage = .released outcome
  reason : shift.worker.phase = .stopped →
    shift.ended = true ∨ shift.worker.intakeStopped = true ∨ Worker.maxSlots < max 1 limit
  inOrder : shift.received <+: shift.admitted
  /-- Nothing accepted is lost if the worker has stopped because nobody was left to send. -/
  complete : shift.ended = true →
    shift.queue.senders = 0 ∧ shift.received = shift.admitted
  handed : ∀ (index : Nat) (handing : Handing), shift.handings[index]? = some handing →
    shift.handedBy index = [] ∨ shift.handedBy index = [handing.id]

theorem isExecuting_le_hasSlot (jobs : List Job) :
    jobs.countP Job.isExecuting ≤ jobs.countP Job.hasSlot := by
  refine List.countP_mono_left fun job _ executing => ?_
  obtain ⟨id, rest | outcome | outcome⟩ := job
  · rfl
  · rfl
  · cases executing

/-- The accounts are right wherever a worker stands, whatever has happened beside it. -/
theorem work_accounted (run : Run service (.opened limit capacity) shift) :
    Accounted service limit shift := by
  obtain ⟨slotted, counted, executed, passed, ended, handed⟩ := kept_of_run run
  have running : shift.worker.stats.running = shift.jobs.countP Job.isExecuting :=
    congrArg WorkerStats.running counted
  have few : shift.jobs.countP Job.isExecuting ≤ shift.jobs.countP Job.hasSlot :=
    isExecuting_le_hasSlot shift.jobs
  have length : shift.worker.stats.processed + shift.worker.stats.running
      + (held shift.worker.phase).length = shift.received.length := by
    rw [counted, processed_add_running_tally, passed.received, List.length_append, List.length_map]
  refine
    { executed := passed.received
      course := executed
      begins := fun id phase => ⟨_, by rw [Worker.move?, phase]⟩
      stats := counted
      running := running
      within := ?_
      processed := ?_
      length := length
      waits := fun waits => ?_
      stopped := fun stopped => ?_
      reason := fun stopped => ?_
      inOrder := passed.inOrder
      complete := fun last => (passed.ended last).2
      handed := fun index handing present => ?_ }
  · -- Whoever is executed has a slot, and there are no more slots than these.
    have shared := slotted.shared
    omega
  · rw [counted]
    exact processed_tally shift.jobs
  · cases phase : shift.worker.phase with
    | holding id =>
      rw [Worker.move?, phase] at waits
      cases waits
    | _ => rfl
  · -- With nothing under way every slot has been given back, so every conversion is released.
    have idle : shift.jobs.countP Job.hasSlot = 0 :=
      slotted.underWay.symm.trans (ended.idle stopped)
    rw [stopped] at length
    simp only [held, List.length_nil, Nat.add_zero] at length
    refine ⟨by omega, by omega, fun job member => ?_⟩
    have free := List.countP_eq_zero.1 idle job member
    obtain ⟨id, rest | outcome | outcome⟩ := job
    · exact absurd rfl free
    · exact absurd rfl free
    · exact ⟨outcome, rfl⟩
  · rw [Nat.max_comm, ← slotted.slots]
    exact ended.reason (by rw [stopped]; rfl)
  · obtain ⟨log, comes, same⟩ := handed.told index handing present
    rw [same]
    exact accepted_of_comes comes

def refused : StoreError → Outcome
  | .notFound _ => .ok .skipped
  | failure => .error (.ofStore failure)

theorem run_refused {index : Nat} {id : ConversionId} (failure : StoreError)
    (present : shift.jobs[index]? = some ⟨id, .executing (service.executeOne id).run⟩) :
    Run service shift
      { shift with
        worker := (shift.worker.finish (refused failure)).release
        jobs := shift.jobs.set index ⟨id, .released (refused failure)⟩ } := by
  obtain ⟨within, -⟩ := List.getElem?_eq_some_iff.1 present
  have answered : ∃ resume, (service.executeOne id).run = .ask (.store (.get id)) resume
      ∧ resume (.error failure) = .done (refused failure) := by
    refine ⟨_, rfl, ?_⟩
    cases failure <;> rfl
  obtain ⟨resume, asks, ends⟩ := answered
  rw [asks] at present
  have executed : Run service shift _ :=
    .single (@Step.executes _ _ index id (.store (.get id)) _ (.error failure) present)
  rw [ends] at executed
  have finished := executed.tail (.finishes (List.getElem?_set_self within))
  have released := finished.tail (.releases (List.getElem?_set_self (by simpa using within)))
  simpa only [List.set_set] using released

/-- Two conversions are dispatched and executed at once. The worker ends both, be it told to stop
just when it has received the second, or be it that nobody is left to send. -/
theorem work_accounted_to_the_end :
    let both : List ConversionId := [⟨.ofNat 1⟩, ⟨.ofNat 2⟩]
    ∃ (service : Service) (busy told last : Shift),
      (Run service (.opened 2 2) busy ∧ busy.worker.intakeStopped = true
        ∧ busy.worker.stats.running = 2 ∧ busy.received = both ∧ Accounted service 2 busy)
      ∧ (Run service (.opened 2 2) told ∧ told.worker.phase = .stopped ∧ told.ended = false
        ∧ told.worker.stats = { skipped := 1, errors := 1, processed := 2 }
        ∧ told.received = both ∧ Accounted service 2 told)
      ∧ Run service (.opened 2 2) last ∧ last.worker.phase = .stopped ∧ last.ended = true
        ∧ last.worker.stats = { skipped := 1, errors := 1, processed := 2 }
        ∧ last.received = both ∧ Accounted service 2 last := by
  intro both
  let service : Service := ⟨.ofFallback .standard, {}, false⟩
  let first : ConversionId := ⟨.ofNat 1⟩
  let second : ConversionId := ⟨.ofNat 2⟩
  have asks (id : ConversionId) : ∃ resume, Service.dispatch service.policies
      (Program.request (.enqueue id)) = .ask (.enqueue id) resume := by
    unfold Service.dispatch Retry.execute Retry.executeFrom
    exact ⟨_, rfl⟩
  obtain ⟨_, asksFirst⟩ := asks first
  obtain ⟨_, asksSecond⟩ := asks second
  have begun : Run service (.opened 2 2) _ := .tail .refl (.dispatches first)
  have dispatched := begun.tail (.dispatches second)
  rw [asksFirst, asksSecond] at dispatched
  have handed := dispatched.tail (@Step.hands _ _ 0 _ _ _ Nat.one_pos rfl)
  have waiting := handed.tail (@Step.hands _ _ 1 _ _ _ Nat.one_pos rfl)
  have ready := waiting.tail (.proceeds rfl)
  have received := ready.tail (.proceeds rfl)
  have taken := received.tail (.takes rfl)
  have again := taken.tail (.proceeds rfl)
  have holding := again.tail (.proceeds rfl)
  -- With the second one in hand the worker is told to stop, and still has it executed.
  have busy := (holding.tail .stops).tail (.takes rfl)
  have leaving := busy.tail (.proceeds rfl)
  have gone := leaving.trans (@run_refused service _ 0 first (.notFound first) rfl)
  have ended := gone.trans (@run_refused service _ 1 second (.storage "down") rfl)
  have told := ended.tail (.proceeds rfl)
  -- Or it takes it, and then the last sender goes away.
  have alone := (holding.tail (.takes rfl)).tail (.drops Nat.one_pos)
  have gone := alone.trans (@run_refused service _ 0 first (.notFound first) rfl)
  have leaving := (gone.tail (.proceeds rfl)).tail (.proceeds rfl)
  have ended := leaving.trans (@run_refused service _ 1 second (.storage "down") rfl)
  have last := ended.tail (.proceeds rfl)
  exact ⟨service, _, _, _, ⟨busy, rfl, rfl, rfl, work_accounted busy⟩,
    ⟨told, rfl, rfl, rfl, rfl, work_accounted told⟩, last, rfl, rfl, rfl, rfl,
    work_accounted last⟩

end Accounts

end Working

end TryOn
