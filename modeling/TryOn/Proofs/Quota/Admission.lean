import TryOn.Proofs.Store.Visit

/-! Reading a balance and charging a unit agree. A draft is accepted exactly while the balance shows
a unit, and of the drafts that a user hands in within a month exactly as many are accepted as the
balance showed, the free ones first. -/

set_option autoImplicit false

namespace TryOn

namespace Quota

def Balance.spend (balance : Balance) : Allowance → Balance
  | .free =>
    { balance with
      freeUsed := balance.freeUsed + 1
      remainingFree := balance.remainingFree - 1 }
  | .paid =>
    { balance with
      paidUsed := balance.paidUsed + 1
      remainingPaid := balance.remainingPaid - 1 }

/-- What so many drafts get out of a balance, one after the other. -/
def Balance.allotment (balance : Balance) (drafts : Nat) : List (Option Allowance) :=
  List.replicate (min balance.remainingFree drafts) (some .free)
    ++ List.replicate (min balance.remainingPaid (drafts - balance.remainingFree)) (some .paid)
    ++ List.replicate (drafts - (balance.remainingFree + balance.remainingPaid)) none

namespace Balance

variable {balance : Balance}

theorem allotment_of_le {drafts : Nat}
    (enough : balance.remainingFree + balance.remainingPaid ≤ drafts) :
    balance.allotment drafts
      = List.replicate balance.remainingFree (some .free)
        ++ List.replicate balance.remainingPaid (some .paid)
        ++ List.replicate (drafts - (balance.remainingFree + balance.remainingPaid)) none := by
  have free : min balance.remainingFree drafts = balance.remainingFree := by omega
  have paid : min balance.remainingPaid (drafts - balance.remainingFree)
      = balance.remainingPaid := by omega
  rw [allotment, free, paid]

theorem allotment_succ_of_free (free : 0 < balance.remainingFree) (drafts : Nat) :
    balance.allotment (drafts + 1) = some .free :: (balance.spend .free).allotment drafts := by
  obtain ⟨left, same⟩ := Nat.exists_eq_add_of_lt free
  simp [allotment, spend, same, List.replicate_succ, Nat.add_right_comm]

theorem allotment_succ_of_paid (free : balance.remainingFree = 0)
    (paid : 0 < balance.remainingPaid) (drafts : Nat) :
    balance.allotment (drafts + 1) = some .paid :: (balance.spend .paid).allotment drafts := by
  obtain ⟨left, same⟩ := Nat.exists_eq_add_of_lt paid
  simp [allotment, spend, free, same, List.replicate_succ]

theorem allotment_succ_of_nothing (free : balance.remainingFree = 0)
    (paid : balance.remainingPaid = 0) (drafts : Nat) :
    balance.allotment (drafts + 1) = none :: balance.allotment drafts := by
  simp [allotment, free, paid, List.replicate_succ]

end Balance

namespace Account

theorem balance_charge (account : Account) (allowance : Allowance) :
    (account.charge allowance).balance = account.balance.spend allowance := by
  cases allowance <;> simp [charge, balance, Balance.spend, Nat.sub_sub]

theorem nextCharge_eq_free_iff (account : Account) :
    account.nextCharge = some .free ↔ 0 < account.balance.remainingFree := by
  unfold nextCharge balance
  by_cases free : account.freeUsed < account.monthlyLimit
  · simp [free]
  · rw [if_neg free]
    split <;> simp [free]

theorem nextCharge_eq_none_iff (account : Account) :
    account.nextCharge = none
      ↔ account.balance.remainingFree = 0 ∧ account.balance.remainingPaid = 0 := by
  rw [← Option.not_isSome_iff_eq_none, nextCharge_isSome_iff]
  simp [Balance.hasRemaining]

theorem served_period (account : Account) (call : Store.Call) :
    (account.served call).period = account.period := by
  cases call with
  | create draft =>
    unfold served consume
    cases account.nextCharge with
    | none => rfl
    | some allowance => cases allowance <;> rfl
  | _ => rfl

theorem allotment_succ (account : Account) (draft : Draft) (drafts : Nat) :
    account.balance.allotment (drafts + 1)
      = account.nextCharge :: (account.served (.create draft)).balance.allotment drafts := by
  have free := account.nextCharge_eq_free_iff
  have nothing := account.nextCharge_eq_none_iff
  cases next : account.nextCharge with
  | none =>
    obtain ⟨noFree, noPaid⟩ := nothing.1 next
    have same : account.served (.create draft) = account := by simp [served, consume, next]
    rw [same]
    exact Balance.allotment_succ_of_nothing noFree noPaid drafts
  | some allowance =>
    have taken : account.served (.create draft) = account.charge allowance := by
      simp [served, consume, next]
    rw [taken, balance_charge]
    cases allowance with
    | free => exact Balance.allotment_succ_of_free (free.1 next) drafts
    | paid =>
      -- A paid unit is charged only when no free one is left.
      have noFree : account.balance.remainingFree = 0 := by
        refine Nat.eq_zero_of_not_pos fun left => ?_
        rw [free.2 left] at next
        cases next
      have paid : 0 < account.balance.remainingPaid := by
        refine Nat.pos_of_ne_zero fun spent => ?_
        rw [nothing.2 ⟨noFree, spent⟩] at next
        cases next
      exact Balance.allotment_succ_of_paid noFree paid drafts

end Account

end Quota

namespace Store

variable {store : Store} {user : UserId} {now : Timestamp}

theorem create_eq (store : Store) (draft : Draft) (id : ConversionId) (now : Timestamp) :
    (store.create draft id now).1
      = match (store.account draft.user now).nextCharge with
        | none => .error (.quotaExceeded (store.balance draft.user now))
        | some allowance =>
          .ok ⟨.ofDraft id draft now, allowance,
            (store.balance draft.user now).spend allowance⟩ := by
  unfold create Quota.Account.consume
  cases next : (store.account draft.user now).nextCharge with
  | none => simp [next, balance]
  | some allowance => simp [next, balance, Quota.Account.balance_charge]

theorem account_of_month {moment : Timestamp}
    (month : BillingPeriod.containing moment = .containing now) (store : Store) (user : UserId) :
    store.account user moment = store.account user now := by
  simp only [account, Quota.Account.opened, Quota.Account.roll, month]

theorem account_visit_of_month (store : Store) (visit : Visit)
    (payer : visit.call.payer? = some user)
    (month : BillingPeriod.containing visit.moment = .containing now) :
    (store.visit visit).2.account user now = (store.account user now).served visit.call := by
  have settled : ((store.account user now).served visit.call).period = .containing now :=
    (Quota.Account.served_period _ _).trans (Quota.Account.roll_period _ _)
  rw [account_visit, if_pos payer, account_of_month month, Quota.Account.roll,
    Quota.Account.inPeriod, if_pos settled]

/-- What comes of a visit if it is a draft of a user: what the draft is charged to, or nothing if it
is refused. -/
def outcomeOf (store : Store) (user : UserId) (visit : Visit) : List (Option Quota.Allowance) :=
  match visit.call with
  | .create draft =>
    if draft.user = user then
      [(store.create draft visit.fresh visit.moment).1.toOption.map (·.charged)]
    else []
  | _ => []

def outcomes (store : Store) (user : UserId) : List Visit → List (Option Quota.Allowance)
  | [] => []
  | visit :: rest => store.outcomeOf user visit ++ (store.visit visit).2.outcomes user rest

theorem outcomeOf_draft (store : Store) (draft : Draft) (fresh : ConversionId)
    (moment : Timestamp) :
    store.outcomeOf draft.user ⟨moment, fresh, .create draft⟩
      = [(store.account draft.user moment).nextCharge] := by
  simp only [outcomeOf, if_pos, create_eq]
  cases (store.account draft.user moment).nextCharge <;> rfl

theorem outcomeOf_other (store : Store) {user : UserId} {visit : Visit}
    (other : visit.call.payer? ≠ some user) : store.outcomeOf user visit = [] := by
  unfold outcomeOf
  split
  · rename_i draft same
    rw [same] at other
    exact if_neg fun equal => other (congrArg some equal)
  · rfl

end Store

/-- All that a visit asks of the account of a user, if anything, is a unit for a draft, and that in
the given month. -/
def Visit.OnlyDrafts (user : UserId) (month : BillingPeriod) (visit : Visit) : Prop :=
  visit.call.payer? = some user →
    (∃ draft, visit.call = .create draft) ∧ .containing visit.moment = month

namespace Store

variable {store : Store} {user : UserId} {now : Timestamp}

theorem outcomes_eq_allotment {visits : List Visit}
    (drafts : ∀ visit ∈ visits, visit.OnlyDrafts user (.containing now)) :
    store.outcomes user visits
      = (store.balance user now).allotment (store.outcomes user visits).length := by
  -- By induction on the visits: one that is not a draft of the user leaves the account alone, and
  -- a draft gets the next unit of it.
  induction visits generalizing store with
  | nil => simp [outcomes, Quota.Balance.allotment]
  | cons visit rest ih =>
    obtain ⟨first, later⟩ := List.forall_mem_cons.1 drafts
    have others := @ih (store.visit visit).2 later
    by_cases payer : visit.call.payer? = some user
    · obtain ⟨⟨draft, asked⟩, month⟩ := first payer
      have after : (store.visit visit).2.balance user now
          = ((store.account user now).served visit.call).balance :=
        congrArg Quota.Account.balance (store.account_visit_of_month visit payer month)
      obtain ⟨moment, fresh, call⟩ := visit
      obtain rfl : call = .create draft := asked
      obtain rfl : draft.user = user := Option.some.inj payer
      rw [outcomes, outcomeOf_draft, account_of_month month, List.singleton_append,
        List.length_cons, balance, Quota.Account.allotment_succ _ draft, ← after, ← others]
    · have same : (store.visit visit).2.balance user now = store.balance user now := by
        rw [balance, account_visit, if_neg payer, balance]
      rw [outcomes, outcomeOf_other store payer, List.nil_append, ← same]
      exact others

structure Answers (balance : Quota.Balance) (user : UserId) (now : Timestamp)
    (answer : Except StoreError Created) (next : Store) : Prop where
  accepted_iff : (∃ created, answer = .ok created)
    ↔ 0 < balance.remainingFree ∨ 0 < balance.remainingPaid
  charged : ∀ created, answer = .ok created →
    (created.charged = .free ↔ 0 < balance.remainingFree)
      ∧ created.balance = balance.spend created.charged
      ∧ created.balance = next.balance user now
  refused : ∀ failure, answer = .error failure →
    failure = .quotaExceeded balance ∧ balance.remainingFree = 0 ∧ balance.remainingPaid = 0

theorem answers_create (store : Store) (draft : Draft) (id : ConversionId) (now : Timestamp) :
    Answers (store.balance draft.user now) draft.user now (store.create draft id now).1
      (store.create draft id now).2 := by
  have free := (store.account draft.user now).nextCharge_eq_free_iff
  have nothing := (store.account draft.user now).nextCharge_eq_none_iff
  have after : (store.create draft id now).2.balance draft.user now
      = ((store.account draft.user now).served (.create draft)).balance :=
    congrArg Quota.Account.balance
      (store.account_visit_of_month ⟨now, id, .create draft⟩ rfl rfl)
  have answer := store.create_eq draft id now
  have read : (store.account draft.user now).balance = store.balance draft.user now := rfl
  rw [read] at free nothing
  unfold Quota.Account.served Quota.Account.consume at after
  cases next : (store.account draft.user now).nextCharge with
  | none =>
    obtain ⟨noFree, noPaid⟩ := nothing.1 next
    rw [next] at answer
    refine ⟨?_, fun created accepted => ?_, fun failure refused => ?_⟩
    · simp [answer, noFree, noPaid]
    · rw [answer] at accepted
      cases accepted
    · rw [answer] at refused
      cases refused
      exact ⟨rfl, noFree, noPaid⟩
  | some allowance =>
    rw [next] at answer free nothing
    have left : 0 < (store.balance draft.user now).remainingFree
        ∨ 0 < (store.balance draft.user now).remainingPaid := by
      by_contra spent
      obtain ⟨noFree, noPaid⟩ := not_or.1 spent
      exact absurd (nothing.2 ⟨Nat.eq_zero_of_not_pos noFree, Nat.eq_zero_of_not_pos noPaid⟩)
        (Option.some_ne_none allowance)
    refine ⟨?_, fun created accepted => ?_, fun failure refused => ?_⟩
    · exact ⟨fun _ => left, fun _ => ⟨_, answer⟩⟩
    · rw [answer] at accepted
      cases accepted
      rw [next, Option.map_some, Option.map_some, Option.getD_some,
        Quota.Account.balance_charge, read] at after
      exact ⟨(Option.some_inj).symm.trans free, rfl, after.symm⟩
    · rw [answer] at refused
      cases refused

/-- A draft is accepted exactly while the balance shows a unit, and a refusal carries the balance
that was read. So as many drafts of a user within a month are accepted as the balance showed, the
first ones, and free units are charged before any paid one. -/
theorem admission_exact (store : Store) (user : UserId) (now : Timestamp) :
    let balance := store.balance user now
    (∀ (draft : Draft) (id : ConversionId), draft.user = user →
        Answers balance user now (store.create draft id now).1 (store.create draft id now).2)
      ∧ ∀ visits : List Visit, (∀ visit ∈ visits, visit.OnlyDrafts user (.containing now)) →
          let drafts := (store.outcomes user visits).length
          balance.remainingFree + balance.remainingPaid ≤ drafts →
          store.outcomes user visits
            = List.replicate balance.remainingFree (some .free)
              ++ List.replicate balance.remainingPaid (some .paid)
              ++ List.replicate (drafts - (balance.remainingFree + balance.remainingPaid))
                none := by
  intro balance
  refine ⟨fun draft id own => ?_, fun visits only => ?_⟩
  · subst own
    exact store.answers_create draft id now
  · intro drafts enough
    exact (outcomes_eq_allotment only).trans (Quota.Balance.allotment_of_le enough)

/-- Four drafts of a user in a new month, with two free units and a paid one left, and beside them
a draft of another user, a new style for the first conversion, and its end. -/
def busyMonth : List Visit :=
  let user : UserId := ⟨.ofNat 1⟩
  let first : ConversionId := ⟨.ofNat 11⟩
  let draft : Draft := ⟨user, ⟨.ofNat 3⟩, ⟨.ofNat 4⟩, none⟩
  [⟨⟨1769904007, 0⟩, first, .create draft⟩,
    ⟨⟨1769904002, 0⟩, ⟨.ofNat 12⟩, .create { draft with user := ⟨.ofNat 2⟩ }⟩,
    ⟨⟨1769904003, 0⟩, ⟨.ofNat 13⟩, .update first (.relabel (some "ink") ⟨1769904003, 0⟩)⟩,
    ⟨⟨1769904001, 0⟩, ⟨.ofNat 14⟩, .create draft⟩, ⟨⟨1769904004, 0⟩, ⟨.ofNat 15⟩, .create draft⟩,
    ⟨⟨1769904005, 0⟩, ⟨.ofNat 16⟩, .delete first .pending⟩,
    ⟨⟨1769904006, 0⟩, ⟨.ofNat 17⟩, .create draft⟩]

theorem admission_exact_in_busy_month :
    let user : UserId := ⟨.ofNat 1⟩
    let draft : Draft := ⟨user, ⟨.ofNat 3⟩, ⟨.ofNat 4⟩, none⟩
    let store := (opened ⟨"free", 2⟩).after
      [⟨⟨1769903000, 0⟩, ⟨.ofNat 9⟩, .create draft⟩, ⟨⟨1769903001, 0⟩, ⟨.ofNat 10⟩, .grant user 1⟩]
    (∀ visit ∈ busyMonth, visit.OnlyDrafts user ⟨2026, 2⟩)
      ∧ store.outcomes user busyMonth = [some .free, some .free, some .paid, none] := by
  intro user draft store
  have only : ∀ visit ∈ busyMonth, visit.OnlyDrafts user ⟨2026, 2⟩ := by
    intro visit member payer
    simp only [busyMonth, List.mem_cons, List.not_mem_nil, or_false] at member
    rcases member with rfl | rfl | rfl | rfl | rfl | rfl | rfl <;>
      first
        | exact ⟨⟨_, rfl⟩, by decide⟩
        | exact absurd payer (by decide)
  have balance : (store.balance user ⟨1769904000, 0⟩).remainingFree = 2
      ∧ (store.balance user ⟨1769904000, 0⟩).remainingPaid = 1 := by decide
  have length : (store.outcomes user busyMonth).length = 4 := by decide
  have exact := (store.admission_exact user ⟨1769904000, 0⟩).2 busyMonth only
  rw [balance.1, balance.2, length] at exact
  exact ⟨only, exact (by decide)⟩

end Store

end TryOn
