import TryOn.Proofs.Interleaving.Conduct
import TryOn.Proofs.Interleaving.Scene

/-! What holds of every scene that a run can reach. Each operation keeps to a conduct, looked at by
itself; an invariant of the store and the history shows that what a conduct relies on does hold. -/

set_option autoImplicit false

namespace TryOn.Interleaving

/-- A conduct for every operation that is offered, and an invariant that justifies them. -/
structure Protocol (setting : Setting) (terms : Quota.Terms) where
  conduct : Operation → Conduct
  settles : (operation : Operation) → Log → Except Failure operation.Result → Prop
  invariant : Store → History → Prop
  kept : ∀ operation, setting.offers operation →
    (operation.action setting.service).run.Keeps (conduct operation) (settles operation) []
  opened : invariant (.opened terms) []
  /-- An exchange that is permitted to a task is as it expects, and keeps the invariant. -/
  preserved : ∀ {store next : Store} {history : History} {operation : Operation} {event : Event},
    invariant store history → setting.offers operation →
    (conduct operation).may (history.log event.task) event.exchange.request →
    setting.Admits history event.exchange → store.Reacts event.exchange next →
    (conduct operation).expects (history.log event.task) event.exchange
      ∧ invariant next (history ++ [event])

namespace Protocol

variable {setting : Setting} {terms : Quota.Terms} (protocol : Protocol setting terms)

def Follows (tasks : List Task) (before : History) (event : Event) : Prop :=
  ∃ task : Task, tasks[event.task]? = some task ∧ setting.offers task.operation
    ∧ (protocol.conduct task.operation).may (before.log event.task) event.exchange.request
    ∧ (protocol.conduct task.operation).expects (before.log event.task) event.exchange

structure Orderly (scene : Scene) : Prop where
  invariant : protocol.invariant scene.store scene.history
  begun : ∀ event ∈ scene.history, event.task < scene.tasks.length
  kept : ∀ (index : Nat) (task : Task), scene.tasks[index]? = some task →
    setting.offers task.operation
      ∧ task.rest.Keeps (protocol.conduct task.operation) (protocol.settles task.operation)
          (scene.history.log index)
  followed : ∀ before event after, scene.history = before ++ event :: after →
    protocol.Follows scene.tasks before event

theorem orderly_opened : protocol.Orderly (.opened terms) where
  invariant := protocol.opened
  begun := by simp [Scene.opened]
  kept := by simp [Scene.opened]
  followed := by simp [Scene.opened]

variable {protocol}

theorem Follows.mono {tasks more : List Task} {before : History} {event : Event}
    (follows : protocol.Follows tasks before event)
    (same : ∀ task, tasks[event.task]? = some task →
      ∃ later : Task, more[event.task]? = some later ∧ later.operation = task.operation) :
    protocol.Follows more before event := by
  obtain ⟨task, present, offered, may, expected⟩ := follows
  obtain ⟨later, there, operation⟩ := same task present
  exact ⟨later, there, operation ▸ offered, operation ▸ may, operation ▸ expected⟩

theorem Orderly.begins {scene : Scene} {operation : Operation} (orderly : protocol.Orderly scene)
    (offered : setting.offers operation) :
    protocol.Orderly { scene with
      tasks := scene.tasks ++ [⟨operation, (operation.action setting.service).run⟩] } where
  invariant := orderly.invariant
  begun event member := by
    have old := orderly.begun event member
    simp only [List.length_append, List.length_singleton]
    omega
  kept index task present := by
    rcases Nat.lt_or_ge index scene.tasks.length with old | new
    · rw [List.getElem?_append_left old] at present
      exact orderly.kept index task present
    · -- The new task has not been answered yet, so nothing is in its log.
      rw [List.getElem?_append_right new] at present
      obtain ⟨-, rfl⟩ : _ ∧ _ = task := by simpa [List.getElem?_singleton] using present
      have silent : scene.history.log index = [] :=
        History.log_eq_nil fun event member same => by
          have := orderly.begun event member
          omega
      rw [silent]
      exact ⟨offered, protocol.kept operation offered⟩
  followed before event after split := by
    refine (orderly.followed before event after split).mono fun task present => ⟨task, ?_, rfl⟩
    rw [List.getElem?_append_left (List.getElem?_eq_some_iff.1 present).1]
    exact present

theorem Orderly.answers {scene : Scene} {index : Nat} {operation : Operation} {request : Request}
    {resume : request.Answer → Program (Except Failure operation.Result)} {moment : Timestamp}
    {answer : request.Answer} {next : Store} (orderly : protocol.Orderly scene)
    (present : scene.tasks[index]? = some ⟨operation, .ask request resume⟩)
    (admitted : setting.Admits scene.history ⟨moment, request, answer⟩)
    (reacts : scene.store.Reacts ⟨moment, request, answer⟩ next) :
    protocol.Orderly ⟨next, scene.tasks.set index ⟨operation, resume answer⟩,
      scene.history ++ [⟨index, moment, request, answer⟩]⟩ := by
  obtain ⟨offered, may, goesOn⟩ := orderly.kept index _ present
  have within : index < scene.tasks.length := (List.getElem?_eq_some_iff.1 present).1
  let event : Event := ⟨index, moment, request, answer⟩
  have reacts : scene.store.Reacts event.exchange next := reacts
  obtain ⟨expected, invariant⟩ :=
    protocol.preserved orderly.invariant offered may admitted reacts
  -- Whatever was permitted to a task before stays so: the tasks remain what they are.
  have sameOperations : ∀ (position : Nat) (task : Task), scene.tasks[position]? = some task →
      ∃ later : Task, (scene.tasks.set index ⟨operation, resume answer⟩)[position]? = some later
        ∧ later.operation = task.operation := by
    intro position task there
    by_cases same : index = position
    · subst same
      obtain rfl : (⟨operation, .ask request resume⟩ : Task) = task :=
        Option.some.inj (present.symm.trans there)
      exact ⟨_, List.getElem?_set_self within, rfl⟩
    · exact ⟨task, (List.getElem?_set_ne same).trans there, rfl⟩
  refine ⟨invariant, fun other member => ?_, fun position task there => ?_,
    fun before other after split => ?_⟩
  · rw [List.length_set]
    rcases List.mem_append.1 member with old | new
    · exact orderly.begun other old
    · exact List.mem_singleton.1 new ▸ within
  · by_cases same : index = position
    · subst same
      rw [List.getElem?_set_self within] at there
      cases there
      rw [History.log_concat_self scene.history event]
      exact ⟨offered, goesOn moment answer expected⟩
    · rw [List.getElem?_set_ne same] at there
      rw [History.log_concat_ne scene.history (same : event.task ≠ position)]
      exact orderly.kept position task there
  · rcases History.split_concat split with ⟨rfl, rfl⟩ | ⟨rest, earlier, -⟩
    · exact ⟨_, List.getElem?_set_self within, offered, may, expected⟩
    · exact (orderly.followed before other rest earlier).mono (sameOperations other.task)

/-- What a step can do in an orderly scene: nothing to the store and the history, or an event that
is permitted to a task. -/
theorem Orderly.step_cases {scene next : Scene} (orderly : protocol.Orderly scene)
    (step : Step setting scene next) :
    (next.store = scene.store ∧ next.history = scene.history)
      ∨ ∃ operation event, next.history = scene.history ++ [event]
        ∧ (protocol.conduct operation).may (scene.history.log event.task) event.exchange.request
        ∧ setting.Admits scene.history event.exchange
        ∧ scene.store.Reacts event.exchange next.store := by
  cases step with
  | begins _ => exact .inl ⟨rfl, rfl⟩
  | @answers index operation request resume moment answer store present admitted reacts =>
    obtain ⟨-, may, -⟩ := orderly.kept index _ present
    exact .inr ⟨operation, ⟨index, moment, request, answer⟩, rfl, may, admitted, reacts⟩

theorem orderly_of_run {scene : Scene} (run : Run setting (.opened terms) scene) :
    protocol.Orderly scene := by
  induction run with
  | refl => exact protocol.orderly_opened
  | tail _ step ih =>
    cases step with
    | begins offered => exact ih.begins offered
    | answers present admitted reacts => exact ih.answers present admitted reacts

end Protocol

end TryOn.Interleaving
