import Mathlib.Logic.Relation
import TryOn.Proofs.Interleaving.Exchange
import TryOn.Service.Operations

/-! Many operations of a service at work on one store. Each is a program, and a step of the whole
is that one more operation begins or that one of them has its next request answered. -/

set_option autoImplicit false

namespace TryOn.Interleaving

inductive Operation where
  | create (user : UserId) (request : AdmissionRequest)
  | get (id : ConversionId) (user : UserId)
  | status (id : ConversionId) (user : UserId)
  | list (filter : Listing.Filter) (pagination : Listing.Pagination)
  | update (id : ConversionId) (user : UserId) (style : Option String)
  | cancel (id : ConversionId) (user : UserId)
  | delete (id : ConversionId) (user : UserId)
  | watch (id : ConversionId) (user : UserId) (timeout poll : Option Nat)
  | quota (user : UserId)
  | grant (user : UserId) (credits : Nat)
  | setPlan (user : UserId) (plan : String) (monthlyLimit : Nat)
  | transition (id : ConversionId) (step : Transition)
  | process (id : ConversionId)
  | executeOne (id : ConversionId)

namespace Operation

@[reducible] def Result : Operation → Type
  | .create _ _ => Created
  | .get _ _ | .update _ _ _ | .cancel _ _ | .watch _ _ _ _ | .transition _ _ | .process _ =>
    Conversion
  | .status _ _ => StatusView
  | .list _ _ => Listing.Page
  | .delete _ _ => Unit
  | .quota _ | .grant _ _ | .setPlan _ _ _ => Quota.Balance
  | .executeOne _ => Service.WorkOutcome

def action (service : Service) : (operation : Operation) → Action operation.Result
  | .create user request => service.create user request
  | .get id user => Service.get id user
  | .status id user => Service.status id user
  | .list filter pagination => Service.list filter pagination
  | .update id user style => Service.update id user style
  | .cancel id user => service.cancel id user
  | .delete id user => Service.delete id user
  | .watch id user timeout poll => service.watch id user timeout poll
  | .quota user => Service.quota user
  | .grant user credits => Service.grant user credits
  | .setPlan user plan monthlyLimit => Service.setPlan user plan monthlyLimit
  | .transition id step => Service.transition id step
  | .process id => service.process id
  | .executeOne id => service.executeOne id

def isTransition : Operation → Bool
  | .transition _ _ => true
  | _ => false

def runs? : Operation → Option ConversionId
  | .process id | .executeOne id => some id
  | _ => none

end Operation

/-- An operation under way: what it is, and what is left of its program. -/
structure Task where
  operation : Operation
  rest : Program (Except Failure operation.Result)

structure Event where
  task : Nat
  exchange : Exchange

abbrev History := List Event

namespace History

def log (history : History) (task : Nat) : Log :=
  history.filterMap fun event => if event.task = task then some event.exchange else none

def writes (history : History) : List Write :=
  history.filterMap (·.exchange.write?)

def made (history : History) : List ConversionId :=
  history.writes.filterMap Write.made?

theorem log_concat_self (history : History) (event : Event) :
    log (history ++ [event]) event.task = history.log event.task ++ [event.exchange] := by
  simp [log]

theorem log_concat_ne (history : History) {event : Event} {task : Nat}
    (differ : event.task ≠ task) : log (history ++ [event]) task = history.log task := by
  simp [log, differ]

theorem log_eq_nil {history : History} {task : Nat}
    (other : ∀ event ∈ history, event.task ≠ task) : history.log task = [] := by
  refine List.filterMap_eq_nil_iff.2 fun event member => ?_
  exact if_neg (other event member)

theorem mem_log_iff {history : History} {task : Nat} {exchange : Exchange} :
    exchange ∈ history.log task ↔ ⟨task, exchange⟩ ∈ history := by
  constructor
  · intro member
    obtain ⟨⟨other, same⟩, inside, kept⟩ := List.mem_filterMap.1 member
    split at kept
    · rename_i equal
      cases equal
      cases kept
      exact inside
    · cases kept
  · intro member
    exact List.mem_filterMap.2 ⟨_, member, if_pos rfl⟩

theorem split_concat {history before after : History} {event other : Event}
    (split : history ++ [event] = before ++ other :: after) :
    (before = history ∧ other = event)
      ∨ ∃ rest, history = before ++ other :: rest ∧ after = rest ++ [event] := by
  rcases List.eq_nil_or_concat after with rfl | ⟨rest, last, rfl⟩
  · obtain ⟨rfl, same⟩ := List.append_inj' split rfl
    exact .inl ⟨rfl, (List.singleton_inj.1 same).symm⟩
  · rw [List.concat_eq_append, ← List.cons_append, ← List.append_assoc] at split
    obtain ⟨rfl, same⟩ := List.append_inj' split rfl
    exact .inr ⟨rest, rfl, by rw [List.concat_eq_append, same]⟩

theorem writes_concat (history : History) (event : Event) :
    writes (history ++ [event]) = history.writes ++ event.exchange.write?.toList := by
  simp only [writes, List.filterMap_append, List.append_cancel_left_eq]
  cases written : event.exchange.write? <;> simp [written]

theorem made_concat (history : History) (event : Event) :
    made (history ++ [event])
      = history.made ++ (event.exchange.write?.bind Write.made?).toList := by
  rw [made, writes_concat, List.filterMap_append]
  cases event.exchange.write? with
  | none => rfl
  | some write => cases write <;> rfl

end History

/-- The store, the operations begun so far, and what they have exchanged with it. -/
structure Scene where
  store : Store
  tasks : List Task
  history : History

def Scene.opened (terms : Quota.Terms) : Scene := ⟨.opened terms, [], []⟩

/-- What a service is asked, and whether its wall clock never goes back. -/
structure Setting where
  service : Service
  offers : Operation → Prop
  clockForward : Bool

/-- A new conversion has an identifier that no other one ever had, and the clock goes forward if
it has to. -/
structure Setting.Admits (setting : Setting) (history : History) (exchange : Exchange) : Prop where
  fresh : ∀ id, exchange.write?.bind Write.made? = some id → id ∉ history.made
  onward : setting.clockForward = true →
    ∀ event ∈ history, event.exchange.moment ≤ exchange.moment

inductive Step (setting : Setting) (scene : Scene) : Scene → Prop
  | begins {operation : Operation} (offered : setting.offers operation) :
    Step setting scene
      { scene with tasks := scene.tasks ++ [⟨operation, (operation.action setting.service).run⟩] }
  | answers {index : Nat} {operation : Operation} {request : Request}
    {resume : request.Answer → Program (Except Failure operation.Result)} {moment : Timestamp}
    {answer : request.Answer} {next : Store}
    (present : scene.tasks[index]? = some ⟨operation, .ask request resume⟩)
    (admitted : setting.Admits scene.history ⟨moment, request, answer⟩)
    (reacts : scene.store.Reacts ⟨moment, request, answer⟩ next) :
    Step setting scene ⟨next, scene.tasks.set index ⟨operation, resume answer⟩,
      scene.history ++ [⟨index, moment, request, answer⟩]⟩

abbrev Run (setting : Setting) : Scene → Scene → Prop :=
  Relation.ReflTransGen (Step setting)

end TryOn.Interleaving
