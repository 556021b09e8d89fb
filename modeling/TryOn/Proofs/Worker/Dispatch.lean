import Mathlib.Data.List.Induction
import TryOn.Proofs.Interleaving.Trace

/-! A dispatch asks the queue again only as long as the queue has refused: however often that is,
it has its conversion accepted once at most, and no other conversion. -/

set_option autoImplicit false

namespace TryOn

def Exchange.accepted? : Exchange → Option ConversionId
  | ⟨_, .enqueue id, (.ok () : Except QueueError Unit)⟩ => some id
  | _ => none

theorem Exchange.request_of_accepted {exchange : Exchange} {id : ConversionId}
    (accepted : exchange.accepted? = some id) : exchange.request = .enqueue id := by
  obtain ⟨moment, request, answer⟩ := exchange
  cases request with
  | enqueue other =>
    cases answer <;> cases accepted
    rfl
  | _ => cases accepted

theorem Exchange.accepted_eq_none {exchange : Exchange}
    (apart : ∀ id, exchange.request ≠ .enqueue id) : exchange.accepted? = none := by
  cases accepted : exchange.accepted? with
  | none => rfl
  | some id => exact absurd (Exchange.request_of_accepted accepted) (apart id)

namespace Working

/-- To ask the queue for one conversion, and not after it has accepted it. -/
def handsOnce (id : ConversionId) : Conduct where
  may log request := ∀ other, request = .enqueue other →
    other = id ∧ log.filterMap Exchange.accepted? = []
  expects _ _ := True

theorem accepted_concat (log : Log) (exchange : Exchange) :
    (log ++ [exchange]).filterMap Exchange.accepted?
      = log.filterMap Exchange.accepted? ++ exchange.accepted?.toList := by
  rw [List.filterMap_append]
  cases accepted : exchange.accepted? <;> simp [accepted]

theorem keeps_apart {id : ConversionId} {request : Request}
    (apart : ∀ other, request ≠ .enqueue other) {post : Log → request.Answer → Prop} {log : Log}
    (refused : log.filterMap Exchange.accepted? = [])
    (goesOn : ∀ log answer, log.filterMap Exchange.accepted? = [] → post log answer) :
    (Program.request request).Keeps (handsOnce id) post log := by
  refine Program.keeps_request.2
    ⟨fun other same => absurd same (apart other), fun moment answer _ => goesOn _ answer ?_⟩
  rw [accepted_concat, refused, Exchange.accepted_eq_none apart]
  rfl

/-- After a refusal the next attempt may be made, and after an acceptance there is none. -/
theorem keeps_executeFrom (policy : Retry.Policy) (id : ConversionId) (left attempt : Nat)
    {log : Log} (refused : log.filterMap Exchange.accepted? = []) :
    (Retry.executeFrom (.ofProgram false) policy (fun _ => Program.request (.enqueue id)) left
      attempt).Keeps (handsOnce id) (fun _ _ => True) log := by
  unfold Retry.executeFrom
  refine Program.keeps_bind.2 (show _ from ?_)
  refine Program.keeps_bind.2 (Program.keeps_request.2 ⟨?_, fun moment answer _ => ?_⟩)
  · rintro other ⟨⟩
    exact ⟨rfl, refused⟩
  · cases answer with
    -- What was accepted ends the loop: the conduct is not asked for anything more.
    | ok value => trivial
    | error failure =>
      have still : (log ++ [(⟨moment, .enqueue id, (.error failure : Except QueueError Unit)⟩
          : Exchange)]).filterMap Exchange.accepted? = [] := by
        rw [accepted_concat, refused]
        rfl
      dsimp only
      cases policy.judge failure with
      | terminal => trivial
      | retryable =>
        cases left with
        | zero => trivial
        | succ left =>
          have pause (draw : Nat) {log : Log} (refused : log.filterMap Exchange.accepted? = []) :
              ((Retry.Means.ofProgram false).pause (policy.backoff attempt draw) >>= fun goesOn =>
                if goesOn = true then
                  Retry.executeFrom (.ofProgram false) policy
                    (fun _ => Program.request (.enqueue id)) left (attempt + 1)
                else return .error (.cancelled (attempt + 1) (some failure))).Keeps
                  (handsOnce id) (fun _ _ => True) log := by
            refine Program.keeps_bind.2 (keeps_apart (fun _ same => by cases same) refused ?_)
            intro log goesOn refused
            cases goesOn with
            | false => trivial
            | true => exact keeps_executeFrom policy id left (attempt + 1) refused
          -- Where nothing is left to chance no number is drawn, and the pause follows at once.
          refine Program.keeps_bind.2 ?_
          show Program.Keeps _ _ (if policy.spread attempt = 0 then pure 0
            else Program.request (.draw (policy.spread attempt))) _
          split
          · exact pause 0 still
          · refine keeps_apart (fun _ same => by cases same) still fun log draw refused => ?_
            exact pause draw refused

theorem keeps_dispatch (policies : Retry.Policies) (id : ConversionId) :
    (Service.dispatch policies (Program.request (.enqueue id))).Keeps (handsOnce id)
      (fun _ _ => True) [] :=
  Program.keeps_bind.2 ((keeps_executeFrom _ id _ 0 rfl).mono fun _ _ _ => trivial)

/-- However far a dispatch has come, its conversion has been accepted once at most. -/
theorem accepted_of_comes {policies : Retry.Policies} {id : ConversionId} {log : Log}
    {rest : Program Unit}
    (comes : (Service.dispatch policies (Program.request (.enqueue id))).Comes log rest) :
    log.filterMap Exchange.accepted? = [] ∨ log.filterMap Exchange.accepted? = [id] := by
  have allowed := ((keeps_dispatch policies id).comes comes fun _ _ _ _ => trivial).2
  simp only [List.nil_append] at allowed
  -- Every beginning of the log keeps to the conduct, so the induction takes off the last exchange.
  clear comes
  induction log using List.reverseRecOn with
  | nil => exact .inl rfl
  | append_singleton log exchange ih =>
    have earlier := ih fun before other after split =>
      allowed before other (after ++ [exchange]) (by rw [split]; simp)
    rw [accepted_concat]
    cases accepted : exchange.accepted? with
    | none => simpa using earlier
    | some other =>
      obtain ⟨rfl, none⟩ :=
        allowed log exchange [] rfl other (Exchange.request_of_accepted accepted)
      exact .inr (by rw [none]; rfl)

end Working

end TryOn
