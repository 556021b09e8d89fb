import TryOn.Proofs.Interleaving.Exchange
import TryOn.Proofs.Quota.Admission

/-! Stores that nobody can tell apart from a moment on. An account that is brought to the month of a
request and then left alone is as it would be had it not been asked for: the next one to ask brings
it to a later month, or finds it in the same. -/

set_option autoImplicit false

namespace TryOn

namespace Quota.Account

variable {account : Account} {earlier moment later : Timestamp}

/-- An account of an earlier month may be rolled on the way to a later moment. -/
theorem roll_roll_of_le (dated : account.period = .containing earlier) (past : earlier ≤ moment)
    (onward : moment ≤ later) : (account.roll moment).roll later = account.roll later := by
  by_cases settled : account.period = .containing moment
  · have same : account.roll moment = account := by rw [roll, inPeriod, if_pos settled]
    rw [same]
  · by_cases month : BillingPeriod.containing moment = .containing later
    · unfold roll
      rw [← month]
      exact account.roll_roll moment
    · -- The later moment is in neither of the two months, or the middle one would be in the first.
      have apart : account.period ≠ .containing later := fun back => by
        have between := BillingPeriod.containing_eq_of_between past onward (dated.symm.trans back)
        exact settled (dated.trans between.symm)
      simp [roll, inPeriod, settled, month, apart]

theorem roll_opened (plan : String) (monthlyLimit : Nat) (moment later : Timestamp) :
    (opened plan monthlyLimit moment).roll later = opened plan monthlyLimit later := by
  by_cases month : BillingPeriod.containing moment = .containing later <;>
    simp [roll, inPeriod, opened, month]

end Quota.Account

namespace Store

variable {first second third store : Store} {user : UserId} {earlier moment later : Timestamp}

/-- Every account is of the month of some moment up to the given one. -/
def DatedBy (store : Store) (moment : Timestamp) : Prop :=
  ∀ (user : UserId) (account : Quota.Account), store.accounts.get? user = some account →
    ∃ earlier, earlier ≤ moment ∧ account.period = .containing earlier

theorem DatedBy.mono (dated : store.DatedBy moment) (onward : moment ≤ later) :
    store.DatedBy later := fun user account found =>
  let ⟨earlier, past, period⟩ := dated user account found
  ⟨earlier, Timestamp.le_trans past onward, period⟩

theorem DatedBy.perform (dated : store.DatedBy moment) (fresh : ConversionId) (call : Call) :
    (store.perform moment fresh call).2.DatedBy moment := by
  intro user account found
  rw [(store.perform_terms_accounts moment fresh call).2] at found
  cases payer : call.payer? with
  | none => exact dated user account (by rwa [payer] at found)
  | some other =>
    rw [payer] at found
    by_cases same : user = other
    · subst same
      obtain rfl := Table.eq_of_get?_insert_self found
      refine ⟨moment, Timestamp.le_refl moment, ?_⟩
      exact (Quota.Account.served_period _ _).trans (Quota.Account.roll_period _ _)
    · exact dated user account (by rwa [Option.elim_some, Table.get?_insert_ne _ _ same] at found)

theorem DatedBy.account_roll (dated : store.DatedBy moment) (user : UserId)
    (onward : moment ≤ later) :
    (store.account user moment).roll later = store.account user later := by
  unfold account
  cases found : store.accounts.get? user with
  | none => simp only [Option.getD_none, Quota.Account.roll_opened]
  | some account =>
    obtain ⟨earlier, past, period⟩ := dated user account found
    exact Quota.Account.roll_roll_of_le period past onward

theorem account_perform (store : Store) (moment : Timestamp) (fresh : ConversionId) (call : Call)
    (user : UserId) (later : Timestamp) :
    (store.perform moment fresh call).2.account user later
      = if call.payer? = some user then ((store.account user moment).served call).roll later
        else store.account user later :=
  store.account_visit ⟨moment, fresh, call⟩ user later

structure AlikeFrom (first second : Store) (moment : Timestamp) : Prop where
  terms : first.terms = second.terms
  conversions : first.conversions = second.conversions
  account : ∀ (user : UserId) (later : Timestamp), moment ≤ later →
    first.account user later = second.account user later

theorem get_congr (same : first.conversions = second.conversions) (id : ConversionId) :
    first.get id = second.get id := by
  rw [get, get, same]

theorem getExpecting_congr (same : first.conversions = second.conversions) (id : ConversionId)
    (expected : Status) : first.getExpecting id expected = second.getExpecting id expected := by
  rw [getExpecting, getExpecting, get_congr same]

namespace AlikeFrom

theorem refl (store : Store) (moment : Timestamp) : store.AlikeFrom store moment :=
  ⟨rfl, rfl, fun _ _ _ => rfl⟩

theorem symm (alike : first.AlikeFrom second moment) : second.AlikeFrom first moment :=
  ⟨alike.terms.symm, alike.conversions.symm,
    fun user later onward => (alike.account user later onward).symm⟩

theorem trans (left : first.AlikeFrom second moment) (right : second.AlikeFrom third moment) :
    first.AlikeFrom third moment :=
  ⟨left.terms.trans right.terms, left.conversions.trans right.conversions,
    fun user later onward =>
      (left.account user later onward).trans (right.account user later onward)⟩

theorem mono (alike : first.AlikeFrom second moment) (onward : moment ≤ later) :
    first.AlikeFrom second later :=
  ⟨alike.terms, alike.conversions,
    fun user last after => alike.account user last (Timestamp.le_trans onward after)⟩

theorem perform_eq (alike : first.AlikeFrom second moment) (fresh : ConversionId) (call : Call) :
    (first.perform moment fresh call).1 = (second.perform moment fresh call).1
      ∧ (first.perform moment fresh call).2.conversions
        = (second.perform moment fresh call).2.conversions := by
  have account (user : UserId) := alike.account user moment (Timestamp.le_refl moment)
  have guarded := getExpecting_congr alike.conversions
  cases call with
  | create draft =>
    simp only [perform, create, account]
    cases (second.account draft.user moment).consume <;>
      simp [setAccount, alike.conversions]
  | get id => exact ⟨get_congr alike.conversions id, alike.conversions⟩
  | update id patch =>
    simp only [perform, update, guarded]
    cases second.getExpecting id patch.expected >>= (patched · patch) <;>
      simp [alike.conversions]
  | list filter pagination =>
    exact ⟨by simp only [perform, list, alike.conversions], alike.conversions⟩
  | delete id expected =>
    simp only [perform, delete, guarded]
    cases second.getExpecting id expected <;> simp [alike.conversions]
  | balance user | grant user _ | setPlan user _ _ =>
    exact ⟨by simp only [perform, balance, grant, setPlan, account], alike.conversions⟩

/-- Stores that are alike answer a request alike, and stay so. -/
theorem perform (alike : first.AlikeFrom second moment) (fresh : ConversionId) (call : Call) :
    (first.perform moment fresh call).2.AlikeFrom (second.perform moment fresh call).2 moment where
  terms := by
    rw [(first.perform_terms_accounts moment fresh call).1,
      (second.perform_terms_accounts moment fresh call).1, alike.terms]
  conversions := (alike.perform_eq fresh call).2
  account user later onward := by
    rw [account_perform, account_perform, alike.account user moment (Timestamp.le_refl moment),
      alike.account user later onward]

/-- A draft that was refused has changed nothing that can be seen later. -/
theorem of_refused (dated : store.DatedBy moment) {draft : Draft} {id : ConversionId}
    {failure : StoreError} (refused : (store.create draft id moment).1 = .error failure) :
    store.AlikeFrom (store.create draft id moment).2 moment where
  terms := (store.create_terms_accounts draft id moment).1.symm
  conversions := by
    rcases store.create_cases draft id moment with ⟨created, accepted, -⟩ | ⟨_, -, kept⟩
    · rw [accepted] at refused
      cases refused
    · exact kept.symm
  account user later onward := by
    have after := store.account_perform moment id (.create draft) user later
    refine .trans ?_ after.symm
    by_cases payer : draft.user = user
    · subst payer
      rw [create_eq] at refused
      cases spent : (store.account draft.user moment).nextCharge with
      | some allowance => simp [spent] at refused
      | none =>
        -- The account was opened or rolled for the draft, and then nothing was taken from it.
        simp only [Call.payer?, if_true, Quota.Account.served, Quota.Account.consume, spent]
        exact (dated.account_roll draft.user onward).symm
    · simp [Call.payer?, payer]

end AlikeFrom

end Store

end TryOn
