import TryOn.Store.Basic

/-! Requests to the store as data, each with the kind of its answer. -/

set_option autoImplicit false

namespace TryOn.Store

inductive Call where
  | create (draft : Draft)
  | get (id : ConversionId)
  | update (id : ConversionId) (patch : Patch)
  | list (filter : Listing.Filter) (pagination : Listing.Pagination)
  | delete (id : ConversionId) (expected : Status)
  | balance (user : UserId)
  | grant (user : UserId) (credits : Nat)
  | setPlan (user : UserId) (plan : String) (monthlyLimit : Nat)
  deriving DecidableEq

@[reducible] def Call.Answer : Call → Type
  | .create _ => Created
  | .get _ | .update _ _ => Conversion
  | .list _ _ => Listing.Page
  | .delete _ _ => Unit
  | .balance _ | .grant _ _ | .setPlan _ _ _ => Quota.Balance

def Call.subject? : Call → Option ConversionId
  | .get id | .update id _ | .delete id _ => some id
  | _ => none

def perform (store : Store) (now : Timestamp) (fresh : ConversionId) :
    (call : Call) → Except StoreError call.Answer × Store
  | .create draft => store.create draft fresh now
  | .get id => (store.get id, store)
  | .update id patch => store.update id patch
  | .list filter pagination => (.ok (store.list filter pagination), store)
  | .delete id expected => store.delete id expected
  | .balance user => (.ok (store.balance user now), store)
  | .grant user credits =>
    let (balance, next) := store.grant user credits now
    (.ok balance, next)
  | .setPlan user plan limit =>
    let (balance, next) := store.setPlan user plan limit now
    (.ok balance, next)

end TryOn.Store
