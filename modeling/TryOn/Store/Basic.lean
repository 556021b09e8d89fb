import TryOn.Listing.Basic
import TryOn.Store.Error
import TryOn.Table

/-! The store: all conversions, and the quota account of every user. A request either succeeds
as a whole or leaves the conversions as they are. -/

set_option autoImplicit false

namespace TryOn

structure Quota.Terms where
  plan : String
  monthlyLimit : Nat
  deriving DecidableEq, Repr

structure Store where
  terms : Quota.Terms
  accounts : Table UserId Quota.Account := .empty
  conversions : Table ConversionId Conversion := .empty

structure Created where
  conversion : Conversion
  charged : Quota.Allowance
  balance : Quota.Balance
  deriving DecidableEq

namespace Store

def opened (terms : Quota.Terms) : Store := { terms }

def setAccount (store : Store) (user : UserId) (account : Quota.Account) : Store :=
  { store with accounts := store.accounts.insert user account }

/-- The account of a user in the month of the given moment. Who has none yet would open one. -/
def account (store : Store) (user : UserId) (now : Timestamp) : Quota.Account :=
  ((store.accounts.get? user).getD
    (.opened store.terms.plan store.terms.monthlyLimit now)).roll now

def create (store : Store) (draft : Draft) (id : ConversionId) (now : Timestamp) :
    Except StoreError Created × Store :=
  let account := store.account draft.user now
  match account.consume with
  | none => (.error (.quotaExceeded account.balance), store.setAccount draft.user account)
  | some (charged, account) =>
    let conversion := Conversion.ofDraft id draft now
    let charged' := store.setAccount draft.user account
    (.ok ⟨conversion, charged, account.balance⟩,
      { charged' with conversions := charged'.conversions.insert id conversion })

def get (store : Store) (id : ConversionId) : Except StoreError Conversion :=
  match store.conversions.get? id with
  | some conversion => .ok conversion
  | none => .error (.notFound id)

def getExpecting (store : Store) (id : ConversionId) (expected : Status) :
    Except StoreError Conversion := do
  let conversion ← store.get id
  if conversion.status = expected then return conversion
  else .error (.statusConflict id expected conversion.status)

/-- What a patch makes of a conversion, if it may be applied: a change of status must be a move
that the life of a conversion has, and the result must be consistent. -/
def patched (conversion : Conversion) (patch : Patch) : Except StoreError Conversion := do
  if let some next := patch.status then
    if !conversion.status.canBecome next then
      .error (.invalidUpdate (IllegalTransition.message ⟨conversion.status, next⟩))
  let next := conversion.apply patch
  (next.check).mapError fun violation => .invalidUpdate violation.message
  return next

def update (store : Store) (id : ConversionId) (patch : Patch) :
    Except StoreError Conversion × Store :=
  match store.getExpecting id patch.expected >>= (patched · patch) with
  | .ok next => (.ok next, { store with conversions := store.conversions.insert id next })
  | .error failure => (.error failure, store)

def list (store : Store) (filter : Listing.Filter) (pagination : Listing.Pagination) :
    Listing.Page :=
  .ofMatching (store.conversions.values.filter filter.accepts) pagination

def delete (store : Store) (id : ConversionId) (expected : Status) :
    Except StoreError Unit × Store :=
  match store.getExpecting id expected with
  | .ok _ => (.ok (), { store with conversions := store.conversions.erase id })
  | .error failure => (.error failure, store)

def balance (store : Store) (user : UserId) (now : Timestamp) : Quota.Balance :=
  (store.account user now).balance

def grant (store : Store) (user : UserId) (credits : Nat) (now : Timestamp) :
    Quota.Balance × Store :=
  let account := (store.account user now).grant credits
  (account.balance, store.setAccount user account)

def setPlan (store : Store) (user : UserId) (plan : String) (monthlyLimit : Nat)
    (now : Timestamp) : Quota.Balance × Store :=
  let account := { store.account user now with plan := plan, monthlyLimit := monthlyLimit }
  (account.balance, store.setAccount user account)

end Store

end TryOn
