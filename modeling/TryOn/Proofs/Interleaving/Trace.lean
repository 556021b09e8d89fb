import TryOn.Proofs.Interleaving.Protocol

/-! Where things stand in the course of a run: what is left of a program after the first of its
exchanges, and the scene in which an exchange of the history was made. -/

set_option autoImplicit false

namespace TryOn

namespace Program

variable {α : Type} {conduct : Conduct} {post : Log → α → Prop}

/-- After the exchanges of a log, the rest of a program is left of it. -/
inductive Comes : Program α → Log → Program α → Prop
  | here (program : Program α) : Comes program [] program
  | ask {request : Request} {resume : request.Answer → Program α} {answer : request.Answer}
    {log : Log} {rest : Program α} (moment : Timestamp) (later : Comes (resume answer) log rest) :
    Comes (.ask request resume) (⟨moment, request, answer⟩ :: log) rest

theorem Comes.concat {program : Program α} {log : Log} {request : Request}
    {resume : request.Answer → Program α} (comes : program.Comes log (.ask request resume))
    (moment : Timestamp) (answer : request.Answer) :
    program.Comes (log ++ [⟨moment, request, answer⟩]) (resume answer) := by
  generalize rest : Program.ask request resume = last at comes
  induction comes with
  | here program =>
    subst rest
    exact .ask moment (.here _)
  | ask earlier _ ih => exact .ask earlier (ih rest)

theorem Comes.yields {program : Program α} {log : Log} {result : α}
    (comes : program.Comes log (.done result)) : program.Yields log result := by
  generalize rest : Program.done result = last at comes
  induction comes with
  | here program =>
    subst rest
    exact .done result
  | ask moment _ ih => exact .ask moment (ih rest)

/-- A program that keeps to its conduct has done so up to where it stands, and goes on to. -/
theorem Keeps.comes {program rest : Program α} {log part : Log}
    (keeps : program.Keeps conduct post log) (comes : program.Comes part rest)
    (expected : ∀ before exchange after, part = before ++ exchange :: after →
      conduct.expects (log ++ before) exchange) :
    rest.Keeps conduct post (log ++ part)
      ∧ ∀ before exchange after, part = before ++ exchange :: after →
        conduct.may (log ++ before) exchange.request := by
  induction comes generalizing log with
  | here program =>
    refine ⟨by simpa using keeps, fun before exchange after split => ?_⟩
    simp at split
  | @ask request resume answer part rest moment later ih =>
    obtain ⟨may, goesOn⟩ := keeps
    have first := expected [] _ part rfl
    rw [List.append_nil] at first
    obtain ⟨kept, allowed⟩ := ih (goesOn moment answer first) fun before exchange after split => by
      have follows := expected (⟨moment, request, answer⟩ :: before) exchange after
        (congrArg (List.cons _) split)
      rwa [List.append_assoc]
    refine ⟨by rwa [List.append_assoc] at kept, fun before exchange after split => ?_⟩
    cases before with
    | nil =>
      obtain ⟨rfl, -⟩ := List.cons.inj split
      rwa [List.append_nil]
    | cons head before =>
      obtain ⟨rfl, rest⟩ := List.cons.inj split
      have follows := allowed before exchange after rest
      rwa [List.append_assoc] at follows

theorem Keeps.after {program : Program α} {wider : Conduct} {log : Log} (before : Log)
    (keeps : program.Keeps conduct post log)
    (may : ∀ part request, conduct.may part request → wider.may (before ++ part) request)
    (expects : ∀ part exchange, wider.expects (before ++ part) exchange →
      conduct.expects part exchange) :
    program.Keeps wider (fun whole result => ∃ part, whole = before ++ part ∧ post part result)
      (before ++ log) := by
  induction program generalizing log with
  | done result => exact ⟨log, rfl, keeps⟩
  | ask request resume ih =>
    refine ⟨may log request keeps.1, fun moment answer expected => ?_⟩
    rw [List.append_assoc]
    exact ih answer (keeps.2 moment answer (expects log _ expected))

end Program

namespace Interleaving

variable {setting : Setting} {terms : Quota.Terms} {scene : Scene}

theorem History.split_of_log {history : History} {task : Nat} {first last : Log}
    {exchange : Exchange} (split : history.log task = first ++ exchange :: last) :
    ∃ before after, history = before ++ ⟨task, exchange⟩ :: after
      ∧ History.log before task = first := by
  obtain ⟨early, late, rfl, same, rest⟩ := List.filterMap_eq_append_iff.1 split
  obtain ⟨silent, ⟨other, told⟩, after, rfl, none, kept, -⟩ := List.filterMap_eq_cons_iff.1 rest
  split at kept
  · rename_i equal
    cases equal
    cases kept
    refine ⟨early ++ silent, after, (List.append_assoc _ _ _).symm, ?_⟩
    -- Between the two, no event is one of this task.
    rw [log, List.filterMap_append, same, List.filterMap_eq_nil_iff.2 none,
      List.append_nil]
  · cases kept

theorem History.log_append (first rest : History) (task : Nat) :
    log (first ++ rest) task = first.log task ++ log rest task :=
  List.filterMap_append

theorem History.mem_made_append {history : History} {id : ConversionId}
    (member : id ∈ history.made) (more : History) : id ∈ made (history ++ more) := by
  simp only [made, writes, List.filterMap_append, List.mem_append]
  exact .inl member

theorem exists_history_of_run {later : Scene} (run : Run setting scene later) :
    ∃ more, later.history = scene.history ++ more := by
  induction run with
  | refl => exact ⟨[], (List.append_nil _).symm⟩
  | tail _ step ih =>
    obtain ⟨more, extended⟩ := ih
    cases step with
    | begins _ => exact ⟨more, extended⟩
    | answers _ _ _ => exact ⟨_, (congrArg (· ++ _) extended).trans (List.append_assoc _ _ _)⟩

theorem begun_of_run (run : Run setting (.opened terms) scene) :
    ∀ event ∈ scene.history, event.task < scene.tasks.length := by
  induction run with
  | refl => simp [Scene.opened]
  | tail _ step ih =>
    intro event member
    cases step with
    | begins _ =>
      have old := ih event member
      simp only [List.length_append, List.length_singleton]
      omega
    | answers present _ _ =>
      rw [List.length_set]
      rcases List.mem_append.1 member with old | new
      · exact ih event old
      · exact List.mem_singleton.1 new ▸ (List.getElem?_eq_some_iff.1 present).1

/-- Of each task, the log leads from the program of its operation to what is left of it. -/
theorem comes_of_run (run : Run setting (.opened terms) scene) :
    ∀ (index : Nat) (task : Task), scene.tasks[index]? = some task →
      (task.operation.action setting.service).run.Comes (scene.history.log index) task.rest := by
  induction run with
  | refl => simp [Scene.opened]
  | @tail scene next sofar step ih =>
    intro index task present
    cases step with
    | begins _ =>
      rcases Nat.lt_or_ge index scene.tasks.length with old | new
      · rw [List.getElem?_append_left old] at present
        exact ih index task present
      · -- The new task has not been answered yet, so nothing is in its log.
        rw [List.getElem?_append_right new] at present
        obtain ⟨-, rfl⟩ : _ ∧ _ = task := by simpa [List.getElem?_singleton] using present
        have silent : scene.history.log index = [] :=
          History.log_eq_nil fun event member same => by
            have := begun_of_run sofar event member
            omega
        rw [silent]
        exact .here _
    | @answers asked operation request resume moment answer store there _ _ =>
      let event : Event := ⟨asked, moment, request, answer⟩
      by_cases same : asked = index
      · subst same
        rw [List.getElem?_set_self (List.getElem?_eq_some_iff.1 there).1] at present
        cases present
        rw [History.log_concat_self scene.history event]
        exact (ih asked _ there).concat moment answer
      · rw [List.getElem?_set_ne same] at present
        rw [History.log_concat_ne scene.history (same : event.task ≠ index)]
        exact ih index task present

/-- An event of the history was one of the run: there is a scene just before it, in which the store
came to answer so. -/
theorem scene_of_split {before after : History} {event : Event}
    (run : Run setting (.opened terms) scene) (split : scene.history = before ++ event :: after) :
    ∃ earlier later : Scene, Run setting (.opened terms) earlier ∧ Run setting later scene
      ∧ Step setting earlier later ∧ earlier.history = before
      ∧ earlier.store.Reacts event.exchange later.store := by
  induction run generalizing after with
  | refl => simp [Scene.opened] at split
  | @tail scene next sofar step ih =>
    have whole := step
    cases step with
    | begins _ =>
      obtain ⟨earlier, later, start, goesOn, rest⟩ := ih split
      exact ⟨earlier, later, start, goesOn.tail whole, rest⟩
    | answers present admitted reacts =>
      rcases History.split_concat split with ⟨rfl, rfl⟩ | ⟨rest, old, -⟩
      · exact ⟨scene, _, sofar, .refl, whole, rfl, reacts⟩
      · obtain ⟨earlier, later, start, goesOn, found⟩ := ih old
        exact ⟨earlier, later, start, goesOn.tail whole, found⟩

theorem absent_of_made {store next : Store} {history : History} {event : Event}
    {id : ConversionId} (admitted : setting.Admits history event.exchange)
    (reacts : store.Reacts event.exchange next) (made : id ∈ history.made)
    (absent : store.conversions.get? id = none) : next.conversions.get? id = none := by
  rcases reacts.conversions with ⟨-, same⟩ | ⟨write, written, applies⟩
  · exact same ▸ absent
  · refine Option.eq_none_iff_forall_ne_some.2 fun back present => ?_
    rcases applies.came present with
      old | ⟨draft, moment, rfl, -⟩ | ⟨patch, stored, -, found, -, -⟩
    · simp [absent] at old
    · exact admitted.fresh id (by rw [written]; rfl) made
    · simp [absent] at found

theorem absent_of_run {later : Scene} {id : ConversionId} (run : Run setting scene later)
    (made : id ∈ scene.history.made) (absent : scene.store.conversions.get? id = none) :
    later.store.conversions.get? id = none := by
  induction run with
  | refl => exact absent
  | @tail before after sofar step ih =>
    cases step with
    | begins _ => exact ih
    | @answers index _ request _ moment answer _ _ admitted reacts =>
      obtain ⟨more, extended⟩ := exists_history_of_run sofar
      have known : id ∈ before.history.made := extended ▸ History.mem_made_append made more
      let event : Event := ⟨index, moment, request, answer⟩
      have reacts : before.store.Reacts event.exchange _ := reacts
      exact absent_of_made admitted reacts known ih

end Interleaving

end TryOn
