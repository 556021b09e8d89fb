import TryOn.Proofs.RateLimit.Recent
import TryOn.Proofs.Store.Visit
import TryOn.Proofs.Store.Acceptance

/-! What in a store is a user's: the account and the records. Stores in which it is the same answer
the user's requests alike, whatever else they hold, and the requests leave whatever else they hold
as it is. -/

set_option autoImplicit false

namespace TryOn

namespace Table

variable {κ ν : Type} [Ord κ] [Std.TransOrd κ] [Std.LawfulEqOrd κ]

theorem eq_of_get?_eq {first second : Table κ ν}
    (same : ∀ key, first.get? key = second.get? key) : first = second := by
  refine ext (List.Perm.eq_of_pairwise ?_ first.ascending second.ascending ?_)
  · intro left right _ _ below above
    have back := Std.OrientedCmp.gt_iff_lt.2 above
    rw [below] at back
    cases back
  · have nodup := (List.perm_ext_iff_of_nodup (.of_map _ first.nodup_keys)
      (.of_map _ second.nodup_keys)).2
    refine nodup ?_
    rintro ⟨key, value⟩
    rw [← get?_eq_some_iff, ← get?_eq_some_iff, same]

end Table

namespace Conversion

theorem isOwnedBy_ofDraft (id : ConversionId) (draft : Draft) (now : Timestamp) :
    (ofDraft id draft now).isOwnedBy draft.user = true := by
  simp [isOwnedBy, ofDraft]

theorem isOwnedBy_of_ne {conversion : Conversion} {user other : UserId}
    (owned : conversion.isOwnedBy user = true) (differ : other ≠ user) :
    conversion.isOwnedBy other = false := by
  rw [isOwnedBy, decide_eq_true_eq] at owned
  exact decide_eq_false fun same => differ (same.symm.trans owned)

end Conversion

/-- Whether a request is about a user, and if about a record then under an identifier that is known
to have none of anybody else. -/
def Store.Call.IsWithin (user : UserId) (known : ConversionId → Prop) (fresh : ConversionId) :
    Store.Call → Prop
  | .create draft => draft.user = user ∧ known fresh
  | .get id | .update id _ | .delete id _ => known id
  | .list filter _ => filter.user = user
  | .balance other | .grant other _ | .setPlan other _ _ => other = user

namespace Store

def record? (store : Store) (user : UserId) (id : ConversionId) : Option Conversion :=
  (store.conversions.get? id).filter (·.isOwnedBy user)

structure AgreesOn (user : UserId) (first second : Store) : Prop where
  terms : first.terms = second.terms
  account : first.accounts.get? user = second.accounts.get? user
  record : ∀ id, first.record? user id = second.record? user id

/-- Under certain identifiers there are no records but the user's. -/
def IsClear (user : UserId) (known : ConversionId → Prop) (store : Store) : Prop :=
  ∀ id, known id → store.conversions.get? id = store.record? user id

/-- What becomes of the records when a request is about a user: one is put or dropped where there
was none of anybody else. -/
inductive Moves (user : UserId) (before after : Store) : Prop
  | rests (same : after.conversions = before.conversions)
  | puts {id : ConversionId} {next : Conversion} (own : next.isOwnedBy user = true)
    (held : before.conversions.get? id = before.record? user id)
    (put : after.conversions = before.conversions.insert id next)
  | drops {id : ConversionId} (held : before.conversions.get? id = before.record? user id)
    (dropped : after.conversions = before.conversions.erase id)

variable {user other : UserId} {known : ConversionId → Prop} {first second before after : Store}

theorem AgreesOn.refl (user : UserId) (store : Store) : AgreesOn user store store :=
  ⟨rfl, rfl, fun _ => rfl⟩

theorem AgreesOn.symm (agrees : AgreesOn user first second) : AgreesOn user second first :=
  ⟨agrees.terms.symm, agrees.account.symm, fun id => (agrees.record id).symm⟩

theorem AgreesOn.trans {third : Store} (left : AgreesOn user first second)
    (right : AgreesOn user second third) : AgreesOn user first third :=
  ⟨left.terms.trans right.terms, left.account.trans right.account,
    fun id => (left.record id).trans (right.record id)⟩

theorem record?_congr (same : after.conversions = before.conversions) (user : UserId)
    (id : ConversionId) : after.record? user id = before.record? user id := by
  rw [record?, record?, same]

theorem record?_insert {id : ConversionId} {next : Conversion}
    (put : after.conversions = before.conversions.insert id next) (user : UserId)
    (target : ConversionId) :
    after.record? user target
      = if target = id then (some next).filter (·.isOwnedBy user)
        else before.record? user target := by
  rw [record?, put]
  by_cases same : target = id
  · rw [same, if_pos rfl, Table.get?_insert_self]
  · rw [if_neg same, Table.get?_insert_ne _ _ same, record?]

theorem record?_erase {id : ConversionId}
    (dropped : after.conversions = before.conversions.erase id) (user : UserId)
    (target : ConversionId) :
    after.record? user target = if target = id then none else before.record? user target := by
  rw [record?, dropped]
  by_cases same : target = id
  · rw [same, if_pos rfl, Table.get?_erase_self, Option.filter_none]
  · rw [if_neg same, Table.get?_erase_ne _ same, record?]

theorem record?_eq_none_of_held {id : ConversionId} (differ : other ≠ user)
    (held : before.conversions.get? id = before.record? user id) :
    before.record? other id = none := by
  rw [record?, held, record?, Option.filter_filter, Option.filter_eq_none_iff]
  intro conversion _ both
  rw [Bool.and_eq_true] at both
  exact Bool.false_ne_true ((Conversion.isOwnedBy_of_ne both.1 differ).symm.trans both.2)

theorem Moves.record?_other (moves : Moves user before after) (differ : other ≠ user)
    (target : ConversionId) : after.record? other target = before.record? other target := by
  cases moves with
  | rests same => exact record?_congr same other target
  | @puts id next own held put =>
    rw [record?_insert put]
    by_cases same : target = id
    · -- Under this identifier the other user had nothing before, and has nothing now.
      rw [if_pos same, same, record?_eq_none_of_held differ held]
      simp [Conversion.isOwnedBy_of_ne own differ]
    · rw [if_neg same]
  | @drops id held dropped =>
    rw [record?_erase dropped]
    by_cases same : target = id
    · rw [if_pos same, same, record?_eq_none_of_held differ held]
    · rw [if_neg same]

theorem Moves.isClear (moves : Moves user before after) (clear : before.IsClear user known) :
    after.IsClear user known := by
  intro target fits
  cases moves with
  | rests same => rw [record?_congr same, same, clear target fits]
  | @puts id next own held put =>
    rw [record?_insert put, put]
    by_cases same : target = id
    · rw [if_pos same, same, Table.get?_insert_self]
      simp [Option.filter, own]
    · rw [if_neg same, Table.get?_insert_ne _ _ same, clear target fits]
  | @drops id held dropped =>
    rw [record?_erase dropped, dropped]
    by_cases same : target = id
    · rw [if_pos same, same, Table.get?_erase_self]
    · rw [if_neg same, Table.get?_erase_ne _ same, clear target fits]

theorem moves_perform (store : Store) (now : Timestamp) {fresh : ConversionId} {call : Call}
    (within : call.IsWithin user known fresh) (clear : store.IsClear user known) :
    Moves user store (store.perform now fresh call).2 := by
  cases call with
  | create draft =>
    obtain ⟨rfl, new⟩ := within
    rcases store.create_cases draft fresh now with ⟨_, -, -, put⟩ | ⟨_, -, same⟩
    · exact .puts (Conversion.isOwnedBy_ofDraft fresh draft now) (clear fresh new) put
    · exact .rests same
  | update id patch =>
    rcases store.update_cases id patch with
      ⟨stored, result, present, -, patched, accepted⟩ | ⟨_, refused⟩
    · obtain ⟨-, -, rfl⟩ := patched_eq_ok_iff.1 patched
      have held := clear id within
      have own : (stored.apply patch).isOwnedBy user = true :=
        (Option.filter_eq_some_iff.1 (held.symm.trans present)).2
      exact .puts own held (congrArg (·.2.conversions) accepted)
    · exact .rests (congrArg (·.2.conversions) refused)
  | delete id expected =>
    rcases store.delete_cases id expected with ⟨_, -, -, accepted⟩ | ⟨_, refused⟩
    · exact .drops (clear id within) (congrArg (·.2.conversions) accepted)
    · exact .rests (congrArg (·.2.conversions) refused)
  | get _ | list _ _ | balance _ | grant _ _ | setPlan _ _ _ => exact .rests rfl

theorem payer_of_isWithin {fresh : ConversionId} {call : Call}
    (within : call.IsWithin user known fresh) (differ : other ≠ user) :
    call.payer? ≠ some other := by
  cases call with
  | create _ => exact fun same => differ ((Option.some.inj same).symm.trans within.1)
  | grant _ _ | setPlan _ _ _ =>
    exact fun same => differ ((Option.some.inj same).symm.trans within)
  | get _ | update _ _ | list _ _ | delete _ _ | balance _ => exact nofun

theorem agreesOn_perform (store : Store) (now : Timestamp) {fresh : ConversionId} {call : Call}
    (within : call.IsWithin user known fresh) (clear : store.IsClear user known)
    (differ : other ≠ user) : AgreesOn other store (store.perform now fresh call).2 := by
  obtain ⟨terms, accounts⟩ := store.perform_terms_accounts now fresh call
  refine ⟨terms.symm, ?_, fun id =>
    ((store.moves_perform now within clear).record?_other differ id).symm⟩
  rw [accounts]
  cases payer : call.payer? with
  | none => rfl
  | some paying =>
    have apart : other ≠ paying := fun same => payer_of_isWithin within differ (same ▸ payer)
    exact (Table.get?_insert_ne _ _ apart).symm

theorem AgreesOn.account_eq (agrees : AgreesOn user first second) (now : Timestamp) :
    first.account user now = second.account user now := by
  rw [Store.account, Store.account, agrees.account, agrees.terms]

theorem AgreesOn.get?_eq (agrees : AgreesOn user first second) (clear : first.IsClear user known)
    (clear' : second.IsClear user known) {id : ConversionId} (fits : known id) :
    first.conversions.get? id = second.conversions.get? id := by
  rw [clear id fits, clear' id fits, agrees.record]

theorem AgreesOn.record_insert (agrees : AgreesOn user first second) {next next' : Store}
    {id : ConversionId} {conversion : Conversion}
    (put : next.conversions = first.conversions.insert id conversion)
    (put' : next'.conversions = second.conversions.insert id conversion) (target : ConversionId) :
    next.record? user target = next'.record? user target := by
  rw [record?_insert put, record?_insert put', agrees.record]

theorem AgreesOn.record_erase (agrees : AgreesOn user first second) {next next' : Store}
    {id : ConversionId} (dropped : next.conversions = first.conversions.erase id)
    (dropped' : next'.conversions = second.conversions.erase id) (target : ConversionId) :
    next.record? user target = next'.record? user target := by
  rw [record?_erase dropped, record?_erase dropped', agrees.record]

theorem AgreesOn.list_eq (agrees : AgreesOn user first second) {filter : Listing.Filter}
    (mine : filter.user = user) (pagination : Listing.Pagination) :
    first.list filter pagination = second.list filter pagination := by
  have accepted (store : Store) (id : ConversionId) :
      (store.conversions.filter filter.accepts).get? id
        = (store.record? user id).filter filter.accepts := by
    rw [Table.get?_filter, record?, Option.filter_filter]
    refine congrArg (Option.filter · _) (funext fun conversion => ?_)
    by_cases owned : conversion.user = user <;>
      simp [Listing.Filter.accepts, mine, Conversion.isOwnedBy, owned]
  -- The filter sees the records of the user alone, and on these the stores agree.
  have same : first.conversions.filter filter.accepts = second.conversions.filter filter.accepts :=
    Table.eq_of_get?_eq fun id => by rw [accepted, accepted, agrees.record]
  have values (store : Store) : store.conversions.values.filter filter.accepts
      = (store.conversions.filter filter.accepts).values := by
    simp [Table.values, Table.filter, List.filter_map, Function.comp_def]
  rw [list, list, values, values, same]

/-- Requests about a user are answered alike by stores that agree on the user. -/
theorem AgreesOn.perform_eq (agrees : AgreesOn user first second) (now : Timestamp)
    {fresh : ConversionId} {call : Call} (within : call.IsWithin user known fresh)
    (clear : first.IsClear user known) (clear' : second.IsClear user known) :
    (first.perform now fresh call).1 = (second.perform now fresh call).1
      ∧ ∀ id, (first.perform now fresh call).2.record? user id
        = (second.perform now fresh call).2.record? user id := by
  have account := agrees.account_eq now
  cases call with
  | create draft =>
    obtain ⟨rfl, -⟩ := within
    simp only [perform, create, account]
    cases (second.account draft.user now).consume with
    | none => exact ⟨rfl, agrees.record⟩
    | some charged =>
      exact ⟨rfl, agrees.record_insert rfl rfl⟩
  | get id =>
    have same := agrees.get?_eq clear clear' within
    exact ⟨by simp only [perform, get, same], agrees.record⟩
  | update id patch =>
    have same := agrees.get?_eq clear clear' within
    simp only [perform, update, getExpecting, get, same]
    split
    · exact ⟨rfl, agrees.record_insert rfl rfl⟩
    · exact ⟨rfl, agrees.record⟩
  | delete id expected =>
    have same := agrees.get?_eq clear clear' within
    simp only [perform, delete, getExpecting, get, same]
    split
    · exact ⟨rfl, agrees.record_erase rfl rfl⟩
    · exact ⟨rfl, agrees.record⟩
  | list filter pagination =>
    exact ⟨congrArg Except.ok (agrees.list_eq within pagination), agrees.record⟩
  | balance _ | grant _ _ | setPlan _ _ _ =>
    obtain rfl := (within : _ = user)
    exact ⟨by simp only [perform, balance, grant, setPlan, account], agrees.record⟩

theorem AgreesOn.perform (agrees : AgreesOn user first second) (now : Timestamp)
    {fresh : ConversionId} {call : Call} (within : call.IsWithin user known fresh)
    (clear : first.IsClear user known) (clear' : second.IsClear user known) :
    AgreesOn user (first.perform now fresh call).2 (second.perform now fresh call).2 := by
  obtain ⟨terms, accounts⟩ := first.perform_terms_accounts now fresh call
  obtain ⟨terms', accounts'⟩ := second.perform_terms_accounts now fresh call
  refine ⟨by rw [terms, terms', agrees.terms], ?_, (agrees.perform_eq now within clear clear').2⟩
  rw [accounts, accounts']
  cases payer : call.payer? with
  | none => exact agrees.account
  | some paying =>
    by_cases mine : paying = user
    · subst mine
      simp [agrees.account_eq now]
    · exact absurd payer (payer_of_isWithin within mine)

end Store

end TryOn
