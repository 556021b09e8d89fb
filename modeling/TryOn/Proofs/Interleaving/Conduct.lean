import TryOn.Proofs.Interleaving.Exchange
import TryOn.Service.Basic

/-! How a program conducts itself, whatever else goes on: which requests it makes, in view of
what it was told before, as long as it is told what it relies on. -/

set_option autoImplicit false

namespace TryOn

/-- The terms on which a program takes part. -/
structure Conduct where
  may : Log → Request → Prop
  expects : Log → Exchange → Prop

namespace Program

variable {α β : Type} {conduct : Conduct}

def isDone : Program α → Bool
  | .done _ => true
  | .ask _ _ => false

theorem isDone_iff {program : Program α} :
    program.isDone = true ↔ ∃ result, program = .done result := by
  cases program <;> simp [isDone]

/-- The program keeps to its conduct after what is in the log, and ends as `post` says. -/
def Keeps (conduct : Conduct) (post : Log → α → Prop) : Program α → Log → Prop
  | .done result, log => post log result
  | .ask request resume, log =>
    conduct.may log request ∧ ∀ moment answer, conduct.expects log ⟨moment, request, answer⟩ →
      (resume answer).Keeps conduct post (log ++ [⟨moment, request, answer⟩])

theorem Keeps.mono {program : Program α} {post weaker : Log → α → Prop} {log : Log}
    (keeps : program.Keeps conduct post log)
    (implies : ∀ log result, post log result → weaker log result) :
    program.Keeps conduct weaker log := by
  induction program generalizing log with
  | done result => exact implies log result keeps
  | ask request resume ih =>
    exact ⟨keeps.1, fun moment answer expected => ih answer (keeps.2 moment answer expected)⟩

theorem keeps_bind {program : Program α} {next : α → Program β} {post : Log → β → Prop}
    {log : Log} :
    (program >>= next).Keeps conduct post log
      ↔ program.Keeps conduct (fun log result => (next result).Keeps conduct post log) log := by
  induction program generalizing log with
  | done result => rfl
  | ask request resume ih =>
    simp only [ask_bind, Keeps, ih]

theorem keeps_request {request : Request} {post : Log → request.Answer → Prop} {log : Log} :
    (Program.request request).Keeps conduct post log
      ↔ conduct.may log request ∧ ∀ moment answer,
          conduct.expects log ⟨moment, request, answer⟩ →
            post (log ++ [⟨moment, request, answer⟩]) answer := Iff.rfl

/-- All requests of a program, whatever it is told, are of an allowed kind. -/
def Asks (allowed : Request → Prop) : Program α → Prop
  | .done _ => True
  | .ask request resume => allowed request ∧ ∀ answer, (resume answer).Asks allowed

theorem Asks.bind {allowed : Request → Prop} {program : Program α} {next : α → Program β}
    (first : program.Asks allowed) (later : ∀ result, (next result).Asks allowed) :
    (program >>= next).Asks allowed := by
  induction program with
  | done result => exact later result
  | ask request resume ih => exact ⟨first.1, fun answer => ih answer (first.2 answer)⟩

theorem asks_request {allowed : Request → Prop} {request : Request} (fits : allowed request) :
    (Program.request request).Asks allowed :=
  ⟨fits, fun _ => trivial⟩

theorem Asks.ite {allowed : Request → Prop} {condition : Prop} [Decidable condition]
    {first second : Program α} (yes : first.Asks allowed) (no : second.Asks allowed) :
    (if condition then first else second).Asks allowed := by
  by_cases holds : condition
  · rwa [if_pos holds]
  · rwa [if_neg holds]

theorem Asks.mono {allowed wider : Request → Prop} {program : Program α}
    (asks : program.Asks allowed) (implies : ∀ request, allowed request → wider request) :
    program.Asks wider := by
  induction program with
  | done result => trivial
  | ask request resume ih =>
    exact ⟨implies request asks.1, fun answer => ih answer (asks.2 answer)⟩

/-- The program comes to a result by the exchanges of a log. -/
inductive Yields : Program α → Log → α → Prop
  | done (result : α) : Yields (.done result) [] result
  | ask {request : Request} {resume : request.Answer → Program α} {answer : request.Answer}
    {rest : Log} {result : α} (moment : Timestamp) (later : Yields (resume answer) rest result) :
    Yields (.ask request resume) (⟨moment, request, answer⟩ :: rest) result

/-- A program whose requests are of a kind that may always be made keeps to any conduct, and ends
with a result that its own exchanges yield. -/
theorem Asks.keeps {allowed : Request → Prop} {program : Program α} {post : Log → α → Prop}
    {log : Log} (asks : program.Asks allowed)
    (may : ∀ part : Log, (∀ exchange ∈ part, allowed exchange.request) →
      ∀ request, allowed request → conduct.may (log ++ part) request)
    (ends : ∀ part result, (∀ exchange ∈ part, allowed exchange.request) →
      program.Yields part result → post (log ++ part) result) :
    program.Keeps conduct post log := by
  induction program generalizing log with
  | done result =>
    show post log result
    simpa using ends [] result (by simp) (.done result)
  | ask request resume ih =>
    refine ⟨by simpa using may [] (by simp) request asks.1, fun moment answer _ => ?_⟩
    -- The exchange just made becomes the first one of what the rest of the program has asked.
    refine ih answer (asks.2 answer) (fun part fits => ?_) fun part result fits later => ?_
    · rw [List.append_assoc]
      exact may _ (List.forall_mem_cons.2 ⟨asks.1, fits⟩)
    · rw [List.append_assoc]
      exact ends _ result (List.forall_mem_cons.2 ⟨asks.1, fits⟩) (.ask moment later)

end Program

namespace Action

variable {α β : Type} {conduct : Conduct} {ok : Log → α → Prop} {failed : Log → Failure → Prop}
  {log : Log}

def ends {ε : Type} (ok : Log → α → Prop) (failed : Log → ε → Prop) (log : Log) :
    Except ε α → Prop
  | .ok value => ok log value
  | .error failure => failed log failure

def Keeps (conduct : Conduct) (ok : Log → α → Prop) (failed : Log → Failure → Prop)
    (action : Action α) (log : Log) : Prop :=
  action.run.Keeps conduct (ends ok failed) log

theorem Keeps.mono {action : Action α} {wider : Log → α → Prop} {any : Log → Failure → Prop}
    (keeps : action.Keeps conduct ok failed log)
    (okay : ∀ log value, ok log value → wider log value)
    (bad : ∀ log failure, failed log failure → any log failure) :
    action.Keeps conduct wider any log :=
  Program.Keeps.mono keeps fun log result => match result with
    | .ok value => okay log value
    | .error failure => bad log failure

theorem keeps_ite {condition : Prop} [Decidable condition] {first second : Action α}
    (yes : condition → first.Keeps conduct ok failed log)
    (no : ¬ condition → second.Keeps conduct ok failed log) :
    Keeps conduct ok failed (if condition then first else second) log := by
  by_cases holds : condition
  · rw [if_pos holds]
    exact yes holds
  · rw [if_neg holds]
    exact no holds

theorem keeps_bind {action : Action α} {next : α → Action β} {ok : Log → β → Prop} :
    Keeps conduct ok failed (action >>= next) log
      ↔ action.Keeps conduct (fun log value => (next value).Keeps conduct ok failed log)
          failed log := by
  unfold Keeps
  rw [ExceptT.run_bind, Program.keeps_bind]
  constructor <;> intro keeps <;> refine keeps.mono fun log result holds => ?_ <;>
    cases result <;> exact holds

theorem keeps_lift {program : Program α} :
    Keeps conduct ok failed (ExceptT.lift program : Action α) log
      ↔ program.Keeps conduct ok log := by
  show Program.Keeps _ _ (Except.ok <$> program) log ↔ _
  rw [map_eq_pure_bind, Program.keeps_bind]
  rfl

theorem keeps_request {request : Request} {ok : Log → request.Answer → Prop} :
    Keeps conduct ok failed (Action.request request) log
      ↔ conduct.may log request ∧ ∀ moment answer,
          conduct.expects log ⟨moment, request, answer⟩ →
            ok (log ++ [⟨moment, request, answer⟩]) answer :=
  keeps_lift.trans Program.keeps_request

theorem keeps_orFail {ε : Type} {report : ε → Failure} {result : Except ε α} :
    Keeps conduct ok failed (orFail report result) log
      ↔ ends ok (fun log failure => failed log (report failure)) log result := by
  cases result <;> rfl

theorem keeps_store {call : Store.Call} {ok : Log → call.Answer → Prop} :
    Keeps conduct ok failed (Action.store call) log
      ↔ conduct.may log (.store call) ∧ ∀ moment (answer : Except StoreError call.Answer),
          conduct.expects log ⟨moment, .store call, answer⟩ →
            ends ok (fun log failure => failed log (.ofStore failure))
              (log ++ [⟨moment, .store call, answer⟩]) answer := by
  unfold Action.store
  rw [keeps_bind, keeps_request]
  constructor <;> rintro ⟨may, next⟩ <;> refine ⟨may, fun moment answer expected => ?_⟩
  · exact keeps_orFail.1 (next moment answer expected)
  · exact keeps_orFail.2 (next moment answer expected)

end Action

end TryOn
