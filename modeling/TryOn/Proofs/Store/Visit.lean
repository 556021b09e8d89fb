import TryOn.Proofs.Timestamp.Month
import TryOn.Store.Call

/-! Visits to a store, one after the other, and what they do to the accounts of its users. A visit
touches one account at most: it brings it to the month of the visit and then does what is asked. -/

set_option autoImplicit false

namespace TryOn

/-- A request to a store as it is made: at a moment, and with the identifier for a conversion
that is made by it. -/
structure Visit where
  moment : Timestamp
  fresh : ConversionId
  call : Store.Call

def Visit.InOrder (visits : List Visit) : Prop :=
  visits.Pairwise fun first second => first.moment ≤ second.moment

instance (visits : List Visit) : Decidable (Visit.InOrder visits) :=
  inferInstanceAs (Decidable (visits.Pairwise _))

def Store.Call.payer? : Store.Call → Option UserId
  | .create draft => some draft.user
  | .grant user _ | .setPlan user _ _ => some user
  | .get _ | .update _ _ | .list _ _ | .delete _ _ | .balance _ => none

def Quota.Account.served (account : Quota.Account) : Store.Call → Quota.Account
  | .create _ => (account.consume.map (·.2)).getD account
  | .grant _ credits => account.grant credits
  | .setPlan _ plan monthlyLimit => { account with plan := plan, monthlyLimit := monthlyLimit }
  | .get _ | .update _ _ | .list _ _ | .delete _ _ | .balance _ => account

namespace Store

def visit (store : Store) (visit : Visit) : Except StoreError visit.call.Answer × Store :=
  store.perform visit.moment visit.fresh visit.call

def after (store : Store) (visits : List Visit) : Store :=
  visits.foldl (fun store visit => (store.visit visit).2) store

theorem after_concat (store : Store) (visits : List Visit) (last : Visit) :
    store.after (visits ++ [last]) = ((store.after visits).visit last).2 := by
  simp [after]

theorem create_terms_accounts (store : Store) (draft : Draft) (id : ConversionId)
    (now : Timestamp) :
    (store.create draft id now).2.terms = store.terms
      ∧ (store.create draft id now).2.accounts = store.accounts.insert draft.user
          ((store.account draft.user now).served (.create draft)) := by
  unfold create
  cases charged : (store.account draft.user now).consume <;>
    simp [Quota.Account.served, charged, setAccount]

theorem update_terms_accounts (store : Store) (id : ConversionId) (patch : Patch) :
    (store.update id patch).2.terms = store.terms
      ∧ (store.update id patch).2.accounts = store.accounts := by
  unfold update
  split <;> exact ⟨rfl, rfl⟩

theorem delete_terms_accounts (store : Store) (id : ConversionId) (expected : Status) :
    (store.delete id expected).2.terms = store.terms
      ∧ (store.delete id expected).2.accounts = store.accounts := by
  unfold delete
  split <;> exact ⟨rfl, rfl⟩

theorem perform_terms_accounts (store : Store) (now : Timestamp) (fresh : ConversionId)
    (call : Call) :
    (store.perform now fresh call).2.terms = store.terms
      ∧ (store.perform now fresh call).2.accounts
        = call.payer?.elim store.accounts fun user =>
            store.accounts.insert user ((store.account user now).served call) := by
  cases call with
  | create draft => exact create_terms_accounts store draft fresh now
  | update id patch => exact update_terms_accounts store id patch
  | delete id expected => exact delete_terms_accounts store id expected
  | get _ | list _ _ | balance _ | grant _ _ | setPlan _ _ _ => exact ⟨rfl, rfl⟩

theorem account_visit (store : Store) (visit : Visit) (user : UserId) (now : Timestamp) :
    (store.visit visit).2.account user now
      = if visit.call.payer? = some user then
          ((store.account user visit.moment).served visit.call).roll now
        else store.account user now := by
  obtain ⟨terms, accounts⟩ :=
    perform_terms_accounts store visit.moment visit.fresh visit.call
  unfold Store.visit Store.account
  rw [terms, accounts]
  cases visit.call.payer? with
  | none => rfl
  | some payer =>
    -- The payer's account is stored as it was served in its month; no other one is touched.
    by_cases same : payer = user
    · subst same
      simp [Store.account]
    · have differ : user ≠ payer := fun equal => same equal.symm
      simp [same, Table.get?_insert_ne _ _ differ]

end Store

end TryOn
