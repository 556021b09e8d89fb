import TryOn.Proofs.Interleaving.Conduct

/-! What a program comes to, taken apart as the program is put together: the exchanges of a sequence
are those of its first part and then those of the rest. -/

set_option autoImplicit false

namespace TryOn

namespace Program

variable {α β : Type} {log : Log}

theorem yields_bind {program : Program α} {next : α → Program β} {result : β} :
    (program >>= next).Yields log result
      ↔ ∃ first rest middle, log = first ++ rest ∧ program.Yields first middle
        ∧ (next middle).Yields rest result := by
  induction program generalizing log with
  | done value =>
    constructor
    · exact fun yields => ⟨[], log, value, rfl, .done value, yields⟩
    · rintro ⟨first, rest, middle, rfl, ⟨⟩, later⟩
      exact later
  | ask request resume ih =>
    constructor
    · intro yields
      rw [ask_bind] at yields
      obtain _ | @⟨_, _, answer, tail, _, moment, later⟩ := yields
      obtain ⟨first, rest, middle, rfl, early, late⟩ := (ih answer).1 later
      exact ⟨_ :: first, rest, middle, rfl, .ask moment early, late⟩
    · rintro ⟨first, rest, middle, rfl, early, late⟩
      obtain _ | @⟨_, _, answer, tail, _, moment, later⟩ := early
      exact .ask moment ((ih answer).2 ⟨tail, rest, middle, rfl, later, late⟩)

theorem Yields.asked {allowed : Request → Prop} {program : Program α} {result : α}
    (yields : program.Yields log result) (asks : program.Asks allowed) :
    ∀ exchange ∈ log, allowed exchange.request := by
  induction yields with
  | done result => simp
  | ask moment _ ih => exact List.forall_mem_cons.2 ⟨asks.1, ih (asks.2 _)⟩

end Program

namespace Action

variable {α β ε : Type} {log : Log}

def Yields (action : Action α) (log : Log) (result : Except Failure α) : Prop :=
  action.run.Yields log result

theorem Yields.bind {action : Action α} {next : α → Action β} {result : Except Failure β}
    (yields : (action >>= next).Yields log result) :
    (∃ failure, result = .error failure ∧ action.Yields log (.error failure))
      ∨ ∃ first rest value, log = first ++ rest ∧ action.Yields first (.ok value)
        ∧ (next value).Yields rest result := by
  unfold Yields at *
  rw [ExceptT.run_bind] at yields
  obtain ⟨first, rest, middle, rfl, early, late⟩ := Program.yields_bind.1 yields
  cases middle with
  | error failure =>
    cases late
    exact .inl ⟨failure, rfl, by rwa [List.append_nil]⟩
  | ok value => exact .inr ⟨first, rest, value, rfl, early, late⟩

theorem Yields.bind_of_ok {action : Action α} {next : α → Action β} {value : α} {rest : Log}
    {result : Except Failure β} (early : action.Yields log (.ok value))
    (late : (next value).Yields rest result) : (action >>= next).Yields (log ++ rest) result := by
  unfold Yields at *
  rw [ExceptT.run_bind]
  exact Program.yields_bind.2 ⟨log, rest, .ok value, rfl, early, late⟩

theorem Yields.bind_of_error {action : Action α} {next : α → Action β} {failure : Failure}
    (early : action.Yields log (.error failure)) :
    (action >>= next).Yields log (.error failure) := by
  unfold Yields at *
  rw [ExceptT.run_bind]
  exact Program.yields_bind.2 ⟨log, [], .error failure, by simp, early, .done _⟩

theorem Yields.of_lift {program : Program α} {value : α} (yields : program.Yields log value) :
    Yields (ExceptT.lift program) log (.ok value) := by
  show (Except.ok <$> program : Program (Except Failure α)).Yields log (.ok value)
  rw [map_eq_pure_bind]
  exact Program.yields_bind.2 ⟨log, [], value, by simp, yields, .done _⟩

theorem Yields.lift {program : Program α} {result : Except Failure α}
    (yields : Yields (ExceptT.lift program) log result) :
    ∃ value, result = .ok value ∧ program.Yields log value := by
  have yields : (Except.ok <$> program : Program (Except Failure α)).Yields log result := yields
  rw [map_eq_pure_bind] at yields
  obtain ⟨first, rest, value, rfl, early, late⟩ := Program.yields_bind.1 yields
  cases late
  exact ⟨value, rfl, by rwa [List.append_nil]⟩

theorem Yields.lift_bind {program : Program α} {next : α → Action β} {result : Except Failure β}
    (yields : (ExceptT.lift program >>= next : Action β).Yields log result) :
    ∃ first rest value, log = first ++ rest ∧ program.Yields first value
      ∧ (next value).Yields rest result := by
  rcases yields.bind with ⟨failure, -, early⟩ | ⟨first, rest, value, split, early, late⟩
  · obtain ⟨value, same, -⟩ := early.lift
    cases same
  · obtain ⟨other, same, early⟩ := early.lift
    cases same
    exact ⟨first, rest, value, split, early, late⟩

theorem Yields.request_bind {request : Request} {next : request.Answer → Action β}
    {result : Except Failure β} (yields : (Action.request request >>= next).Yields log result) :
    ∃ moment answer rest, log = ⟨moment, request, answer⟩ :: rest
      ∧ (next answer).Yields rest result := by
  obtain ⟨first, rest, answer, rfl, early, late⟩ := yields.lift_bind
  obtain _ | ⟨moment, ⟨⟩⟩ := early
  exact ⟨moment, answer, rest, rfl, late⟩

theorem Yields.orFail_bind {report : ε → Failure} {answer : Except ε α} {next : α → Action β}
    {result : Except Failure β} (yields : (orFail report answer >>= next).Yields log result) :
    (∃ failure, answer = .error failure ∧ log = [] ∧ result = .error (report failure))
      ∨ ∃ value, answer = .ok value ∧ (next value).Yields log result := by
  cases answer with
  | error failure =>
    cases yields
    exact .inl ⟨failure, rfl, rfl, rfl⟩
  | ok value => exact .inr ⟨value, rfl, yields⟩

theorem Yields.unless {condition : Bool} {failure : Failure} {next : Unit → Action β}
    {result : Except Failure β}
    (yields : (if (!condition) = true then throw failure >>= next else next ()).Yields log result) :
    (condition = false ∧ log = [] ∧ result = .error failure)
      ∨ (condition = true ∧ (next ()).Yields log result) := by
  cases condition with
  | false =>
    cases yields
    exact .inl ⟨rfl, rfl, rfl⟩
  | true => exact .inr ⟨rfl, yields⟩

theorem Yields.throwIf {condition : Prop} [Decidable condition] {failure : Failure}
    {next : Unit → Action β} {result : Except Failure β}
    (yields : (if condition then throw failure >>= next else next ()).Yields log result) :
    (condition ∧ log = [] ∧ result = .error failure)
      ∨ (¬ condition ∧ (next ()).Yields log result) := by
  by_cases holds : condition
  · rw [if_pos holds] at yields
    cases yields
    exact .inl ⟨holds, rfl, rfl⟩
  · rw [if_neg holds] at yields
    exact .inr ⟨holds, yields⟩

theorem Yields.tryCatch {action : Action α} {handler : Failure → Action α}
    {result : Except Failure α} (yields : (tryCatch action handler).Yields log result) :
    (∃ value, result = .ok value ∧ action.Yields log (.ok value))
      ∨ ∃ first rest failure, log = first ++ rest ∧ action.Yields first (.error failure)
        ∧ (handler failure).Yields rest result := by
  unfold Yields at *
  rw [ExceptT.run_tryCatch] at yields
  obtain ⟨first, rest, middle, rfl, early, late⟩ := Program.yields_bind.1 yields
  cases middle with
  | ok value =>
    cases late
    exact .inl ⟨value, rfl, by rwa [List.append_nil]⟩
  | error failure => exact .inr ⟨first, rest, failure, rfl, early, late⟩

end Action

end TryOn
