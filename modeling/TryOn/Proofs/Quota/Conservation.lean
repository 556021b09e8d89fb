import Mathlib.Data.List.Induction
import TryOn.Proofs.Store.Visit

/-! The accounts of a store are a summary of its history. What an account shows at any moment is
what the units charged so far and the credits granted so far add up to, although an account is
opened and brought to a new month only when it is touched. -/

set_option autoImplicit false

namespace TryOn

structure Charge where
  user : UserId
  allowance : Quota.Allowance
  createdAt : Timestamp
  deriving DecidableEq

namespace Charge

def paidUnits (user : UserId) (charges : List Charge) : Nat :=
  charges.countP fun charge => charge.user = user ∧ charge.allowance = .paid

def freeUnits (user : UserId) (month : BillingPeriod) (charges : List Charge) : Nat :=
  charges.countP fun charge =>
    charge.user = user ∧ charge.allowance = .free ∧ .containing charge.createdAt = month

theorem paidUnits_concat (user : UserId) (charges : List Charge) (last : Charge) :
    paidUnits user (charges ++ [last])
      = paidUnits user charges + if last.user = user ∧ last.allowance = .paid then 1 else 0 := by
  simp [paidUnits]

theorem freeUnits_concat (user : UserId) (month : BillingPeriod) (charges : List Charge)
    (last : Charge) :
    freeUnits user month (charges ++ [last])
      = freeUnits user month charges
        + if last.user = user ∧ last.allowance = .free ∧ .containing last.createdAt = month
          then 1 else 0 := by
  simp [freeUnits]

end Charge

theorem Quota.Account.freeUsed_lt_of_consume {account after : Quota.Account}
    (taken : account.consume = some (.free, after)) : account.freeUsed < account.monthlyLimit := by
  unfold consume nextCharge at taken
  by_cases left : account.freeUsed < account.monthlyLimit
  · exact left
  · rw [if_neg left] at taken
    split at taken <;> cases taken

namespace Store

def chargeOf (store : Store) (visit : Visit) : Option Charge :=
  match visit.call with
  | .create draft =>
    match (store.create draft visit.fresh visit.moment).1 with
    | .ok created =>
      some ⟨created.conversion.user, created.charged, created.conversion.createdAt⟩
    | .error _ => none
  | _ => none

def charges (store : Store) : List Visit → List Charge
  | [] => []
  | visit :: rest => (store.chargeOf visit).toList ++ charges (store.visit visit).2 rest

end Store

namespace Visit

def credits (user : UserId) (visit : Visit) : Nat :=
  match visit.call with
  | .grant grantee credits => if grantee = user then credits else 0
  | _ => 0

def limit (user : UserId) (before : Nat) (visit : Visit) : Nat :=
  match visit.call with
  | .setPlan subscriber _ monthlyLimit => if subscriber = user then monthlyLimit else before
  | _ => before

def granted (user : UserId) (visits : List Visit) : Nat :=
  (visits.map (credits user)).sum

def limitAfter (user : UserId) (first : Nat) (visits : List Visit) : Nat :=
  visits.foldl (limit user) first

/-- The monthly limits of a user that are in force in a month, as visits find them. -/
def limitsDuring (user : UserId) (month : BillingPeriod) (first : Nat) : List Visit → List Nat
  | [] => []
  | visit :: rest =>
    (if .containing visit.moment = month then [first] else [])
      ++ limitsDuring user month (visit.limit user first) rest

def largestLimit (user : UserId) (month : BillingPeriod) (first : Nat)
    (visits : List Visit) : Nat :=
  (limitsDuring user month first visits).foldr max 0

/-- A visit of a kind that charges and grants nothing: anything but a grant, a change of plan, and
a creation that succeeds. -/
def IsIdle (store : Store) (visit : Visit) : Prop :=
  match visit.call with
  | .create draft => ∃ failure, (store.create draft visit.fresh visit.moment).1 = .error failure
  | .grant _ _ | .setPlan _ _ _ => False
  | .get _ | .update _ _ | .list _ _ | .delete _ _ | .balance _ => True

theorem limitAfter_concat (user : UserId) (first : Nat) (visits : List Visit) (last : Visit) :
    limitAfter user first (visits ++ [last]) = last.limit user (limitAfter user first visits) := by
  simp [limitAfter]

theorem granted_concat (user : UserId) (visits : List Visit) (last : Visit) :
    granted user (visits ++ [last]) = granted user visits + last.credits user := by
  simp [granted]

theorem limitsDuring_concat (user : UserId) (month : BillingPeriod) (first : Nat)
    (visits : List Visit) (last : Visit) :
    limitsDuring user month first (visits ++ [last]) = limitsDuring user month first visits
      ++ if .containing last.moment = month then [limitAfter user first visits] else [] := by
  induction visits generalizing first with
  | nil => simp [limitsDuring, limitAfter]
  | cons visit rest ih =>
    simp only [List.cons_append, limitsDuring, ih, List.append_assoc]
    rfl

theorem largestLimit_concat (user : UserId) (month : BillingPeriod) (first : Nat)
    (visits : List Visit) (last : Visit) :
    largestLimit user month first (visits ++ [last])
      = max (largestLimit user month first visits)
          (if .containing last.moment = month then limitAfter user first visits else 0) := by
  have foldr_max (limits more : List Nat) :
      (limits ++ more).foldr max 0 = max (limits.foldr max 0) (more.foldr max 0) := by
    induction limits with
    | nil => simp
    | cons limit rest ih => simp only [List.cons_append, List.foldr_cons, ih, Nat.max_assoc]
  rw [largestLimit, limitsDuring_concat, foldr_max]
  split <;> simp [largestLimit]

theorem credits_of_not_payer {user : UserId} {visit : Visit}
    (other : visit.call.payer? ≠ some user) : visit.credits user = 0 := by
  unfold credits
  split
  · rename_i same
    rw [same] at other
    exact if_neg fun equal => other (congrArg some equal)
  · rfl

theorem limit_of_not_payer {user : UserId} {visit : Visit}
    (other : visit.call.payer? ≠ some user) (before : Nat) : visit.limit user before = before := by
  unfold limit
  split
  · rename_i same
    rw [same] at other
    exact if_neg fun equal => other (congrArg some equal)
  · rfl

theorem credits_of_idle {store : Store} {visit : Visit} (idle : visit.IsIdle store)
    (user : UserId) : visit.credits user = 0 := by
  obtain ⟨moment, fresh, call⟩ := visit
  cases call with
  | grant _ _ => exact idle.elim
  | _ => rfl

end Visit

namespace Store

theorem charges_concat (store : Store) (visits : List Visit) (last : Visit) :
    store.charges (visits ++ [last])
      = store.charges visits ++ ((store.after visits).chargeOf last).toList := by
  induction visits generalizing store with
  | nil => simp [charges, after]
  | cons visit rest ih =>
    simp only [List.cons_append, charges, ih, List.append_assoc]
    rfl

theorem chargeOf_create (store : Store) (draft : Draft) (fresh : ConversionId)
    (moment : Timestamp) :
    store.chargeOf ⟨moment, fresh, .create draft⟩
      = (store.account draft.user moment).consume.map fun (allowance, _) =>
          ⟨draft.user, allowance, moment⟩ := by
  unfold chargeOf create
  cases charged : (store.account draft.user moment).consume <;> simp [charged, Conversion.ofDraft]

theorem chargeOf_user {store : Store} {visit : Visit} {charge : Charge}
    (charged : store.chargeOf visit = some charge) :
    visit.call.payer? = some charge.user ∧ charge.createdAt = visit.moment := by
  obtain ⟨moment, fresh, call⟩ := visit
  cases call with
  | create draft =>
    rw [chargeOf_create] at charged
    obtain ⟨taken, -, rfl⟩ := Option.map_eq_some_iff.1 charged
    exact ⟨rfl, rfl⟩
  | _ => cases charged

theorem createdAt_le {store : Store} {visits : List Visit} {now : Timestamp}
    (late : ∀ visit ∈ visits, visit.moment ≤ now) :
    ∀ charge ∈ store.charges visits, charge.createdAt ≤ now := by
  induction visits generalizing store with
  | nil => simp [charges]
  | cons visit rest ih =>
    intro charge member
    rcases List.mem_append.1 member with first | later
    · rw [(chargeOf_user (Option.mem_toList.1 first)).2]
      exact late visit List.mem_cons_self
    · exact ih (fun other inside => late other (List.mem_cons_of_mem _ inside)) charge later

end Store

/-- What an account of a user shows at a moment, in terms of what came before. -/
structure Tally (user : UserId) (limit granted : Nat) (charges : List Charge) (now : Timestamp)
    (account : Quota.Account) : Prop where
  period : account.period = .containing now
  monthlyLimit : account.monthlyLimit = limit
  paidUsed : account.paidUsed = Charge.paidUnits user charges
  paidCredits : account.paidCredits = min Quota.maxCount granted
  paidUsed_le : account.paidUsed ≤ account.paidCredits
  freeUsed : account.freeUsed = Charge.freeUnits user (.containing now) charges

namespace Tally

variable {user : UserId} {limit granted : Nat} {charges : List Charge} {now : Timestamp}
  {account : Quota.Account}

theorem roll {moment : Timestamp} (tally : Tally user limit granted charges moment account)
    (past : ∀ charge ∈ charges, charge.createdAt ≤ moment) (later : moment ≤ now) :
    Tally user limit granted charges now (account.roll now) := by
  unfold Quota.Account.roll Quota.Account.inPeriod
  by_cases same : BillingPeriod.containing moment = .containing now
  · rw [if_pos (tally.period.trans same)]
    exact { tally with
      period := tally.period.trans same
      freeUsed := same ▸ tally.freeUsed }
  · rw [if_neg fun stays => same (tally.period.symm.trans stays)]
    -- A unit charged in the month of a later moment would put the moment between into that month.
    have none : Charge.freeUnits user (.containing now) charges = 0 := by
      refine List.countP_eq_zero.2 fun charge member free => ?_
      obtain ⟨-, -, month⟩ := of_decide_eq_true free
      have between := BillingPeriod.containing_eq_of_between (past charge member) later month
      exact same (between.trans month)
    exact { tally with
      period := rfl
      freeUsed := none.symm }

theorem charge {allowance : Quota.Allowance} (tally : Tally user limit granted charges now account)
    (next : account.nextCharge = some allowance) :
    Tally user limit granted (charges ++ [⟨user, allowance, now⟩]) now
      (account.charge allowance) := by
  have left := tally.paidUsed_le
  have paid := tally.paidUsed
  have free := tally.freeUsed
  unfold Quota.Account.nextCharge at next
  cases allowance with
  | free =>
    exact { tally with
      paidUsed := by simpa [Charge.paidUnits_concat, Quota.Account.charge] using paid
      freeUsed := by simp [Charge.freeUnits_concat, Quota.Account.charge, free] }
  | paid =>
    have more : account.paidUsed < account.paidCredits := by
      split at next
      · cases next
      · split at next
        · assumption
        · cases next
    exact { tally with
      paidUsed := by simp [Charge.paidUnits_concat, Quota.Account.charge, paid]
      paidUsed_le := more
      freeUsed := by simpa [Charge.freeUnits_concat, Quota.Account.charge] using free }

theorem grant (tally : Tally user limit granted charges now account) (credits : Nat) :
    Tally user limit (granted + credits) charges now (account.grant credits) := by
  have capped : account.paidCredits = min Quota.maxCount granted := tally.paidCredits
  have left := tally.paidUsed_le
  -- To cap the credits at every grant comes to capping their sum.
  exact { tally with
    paidCredits := by
      show min (account.paidCredits + credits) Quota.maxCount = _
      omega
    paidUsed_le := by
      show account.paidUsed ≤ min (account.paidCredits + credits) Quota.maxCount
      omega }

theorem create {store : Store} {draft : Draft}
    (tally : Tally draft.user limit granted charges now (store.account draft.user now))
    (fresh : ConversionId) :
    Tally draft.user limit granted
      (charges ++ (store.chargeOf ⟨now, fresh, .create draft⟩).toList) now
      ((store.account draft.user now).served (.create draft)) := by
  rw [Store.chargeOf_create]
  unfold Quota.Account.served Quota.Account.consume
  cases next : (store.account draft.user now).nextCharge with
  | none => simpa using tally
  | some allowance => exact tally.charge next

theorem serve {store : Store} {visit : Visit}
    (tally : Tally user limit granted charges visit.moment (store.account user visit.moment))
    (payer : visit.call.payer? = some user) :
    Tally user (visit.limit user limit) (granted + visit.credits user)
      (charges ++ (store.chargeOf visit).toList) visit.moment
      ((store.account user visit.moment).served visit.call) := by
  obtain ⟨moment, fresh, call⟩ := visit
  cases call with
  | create draft =>
    obtain rfl : draft.user = user := Option.some.inj payer
    exact tally.create fresh
  | grant grantee credits =>
    obtain rfl : grantee = user := Option.some.inj payer
    simpa [Visit.limit, Visit.credits, Store.chargeOf, Quota.Account.served]
      using tally.grant credits
  | setPlan subscriber plan monthlyLimit =>
    obtain rfl : subscriber = user := Option.some.inj payer
    simpa [Visit.limit, Visit.credits, Store.chargeOf] using
      { tally with monthlyLimit := rfl }
  | _ => cases payer

end Tally

namespace Charge

theorem paidUnits_append_of_other {user : UserId} {charges more : List Charge}
    (others : ∀ charge ∈ more, charge.user ≠ user) :
    paidUnits user (charges ++ more) = paidUnits user charges := by
  have none : paidUnits user more = 0 := by
    refine List.countP_eq_zero.2 fun charge member paid => ?_
    exact others charge member (of_decide_eq_true paid).1
  rw [paidUnits, List.countP_append, ← paidUnits, ← paidUnits, none, Nat.add_zero]

theorem freeUnits_append_of_other {user : UserId} {month : BillingPeriod}
    {charges more : List Charge} (others : ∀ charge ∈ more, charge.user ≠ user) :
    freeUnits user month (charges ++ more) = freeUnits user month charges := by
  have none : freeUnits user month more = 0 := by
    refine List.countP_eq_zero.2 fun charge member free => ?_
    exact others charge member (of_decide_eq_true free).1
  rw [freeUnits, List.countP_append, ← freeUnits, ← freeUnits, none, Nat.add_zero]

end Charge

theorem Visit.InOrder.of_concat {visits : List Visit} {last : Visit}
    (inOrder : InOrder (visits ++ [last])) :
    InOrder visits ∧ ∀ visit ∈ visits, visit.moment ≤ last.moment := by
  obtain ⟨before, -, between⟩ := List.pairwise_append.1 inOrder
  exact ⟨before, fun visit member => between visit member last List.mem_cons_self⟩

theorem Visit.InOrder.concat {visits : List Visit} {last : Visit} (inOrder : InOrder visits)
    (earlier : ∀ visit ∈ visits, visit.moment ≤ last.moment) : InOrder (visits ++ [last]) := by
  refine List.pairwise_append.2 ⟨inOrder, List.pairwise_singleton _ _, ?_⟩
  intro visit member other single
  exact List.mem_singleton.1 single ▸ earlier visit member

namespace Store

variable {terms : Quota.Terms} {visits : List Visit}

theorem chargeOf_other (store : Store) {visit : Visit} {user : UserId}
    (other : visit.call.payer? ≠ some user) :
    ∀ charge ∈ (store.chargeOf visit).toList, charge.user ≠ user := by
  intro charge member same
  have payer := (chargeOf_user (Option.mem_toList.1 member)).1
  exact other (payer.trans (congrArg some same))

theorem tally_opened (terms : Quota.Terms) (user : UserId) (now : Timestamp) :
    Tally user terms.monthlyLimit 0 [] now ((opened terms).account user now) := by
  have fresh : (opened terms).account user now = .opened terms.plan terms.monthlyLimit now :=
    if_pos rfl
  rw [fresh]
  exact ⟨rfl, rfl, rfl, (Nat.min_zero _).symm, Nat.le_refl 0, rfl⟩

/-- The account of a user after visits, as it is seen at any later moment. -/
theorem tally_after (terms : Quota.Terms) (inOrder : Visit.InOrder visits) (user : UserId)
    {now : Timestamp} (late : ∀ visit ∈ visits, visit.moment ≤ now) :
    Tally user (Visit.limitAfter user terms.monthlyLimit visits) (Visit.granted user visits)
      ((opened terms).charges visits) now (((opened terms).after visits).account user now) := by
  -- By induction on the last visit: one of the user brings the account to its month and serves it,
  -- any other one leaves it alone.
  induction visits using List.reverseRecOn generalizing now with
  | nil => exact tally_opened terms user now
  | append_singleton visits last ih =>
    obtain ⟨before, earlier⟩ := inOrder.of_concat
    have lastLate : last.moment ≤ now := late last (by simp)
    rw [after_concat, charges_concat, Visit.granted_concat, Visit.limitAfter_concat, account_visit]
    by_cases payer : last.call.payer? = some user
    · rw [if_pos payer]
      refine ((ih before earlier).serve payer).roll ?_ lastLate
      intro charge member
      rcases List.mem_append.1 member with old | new
      · exact createdAt_le earlier charge old
      · rw [(chargeOf_user (Option.mem_toList.1 new)).2]
        exact Timestamp.le_refl _
    · have others := chargeOf_other ((opened terms).after visits) payer
      have unchanged := ih before fun visit member =>
        Timestamp.le_trans (earlier visit member) lastLate
      rw [if_neg payer, Visit.credits_of_not_payer payer, Visit.limit_of_not_payer payer,
        Nat.add_zero]
      exact { unchanged with
        paidUsed := (Charge.paidUnits_append_of_other others).symm ▸ unchanged.paidUsed
        freeUsed := (Charge.freeUnits_append_of_other others).symm ▸ unchanged.freeUsed }

theorem freeUnits_lt_limitAfter {last : Visit} {charge : Charge}
    (inOrder : Visit.InOrder visits) (earlier : ∀ visit ∈ visits, visit.moment ≤ last.moment)
    (charged : ((opened terms).after visits).chargeOf last = some charge)
    (free : charge.allowance = .free) :
    Charge.freeUnits charge.user (.containing charge.createdAt) ((opened terms).charges visits)
      < Visit.limitAfter charge.user terms.monthlyLimit visits := by
  obtain ⟨moment, fresh, call⟩ := last
  cases call with
  | create draft =>
    rw [chargeOf_create] at charged
    obtain ⟨⟨allowance, after⟩, taken, rfl⟩ := Option.map_eq_some_iff.1 charged
    obtain rfl : allowance = .free := free
    have tally := tally_after terms inOrder draft.user earlier
    rw [← tally.freeUsed, ← tally.monthlyLimit]
    exact Quota.Account.freeUsed_lt_of_consume taken
  | _ => cases charged

theorem freeUnits_le_largestLimit (inOrder : Visit.InOrder visits) (user : UserId)
    (month : BillingPeriod) :
    Charge.freeUnits user month ((opened terms).charges visits)
      ≤ Visit.largestLimit user month terms.monthlyLimit visits := by
  -- By induction on the last visit: if it charges a free unit it found the limit above all that
  -- were charged before, so this limit bounds them together with its own.
  induction visits using List.reverseRecOn with
  | nil => exact Nat.zero_le _
  | append_singleton visits last ih =>
    obtain ⟨before, earlier⟩ := inOrder.of_concat
    have grows := Visit.largestLimit_concat user month terms.monthlyLimit visits last
    have bounded := ih before
    rw [charges_concat]
    cases charged : ((opened terms).after visits).chargeOf last with
    | none =>
      rw [Option.toList_none, List.append_nil]
      omega
    | some charge =>
      rw [Option.toList_some, Charge.freeUnits_concat]
      split
      · rename_i counts
        obtain ⟨same, free, inMonth⟩ := counts
        have room := freeUnits_lt_limitAfter before earlier charged free
        rw [same, inMonth] at room
        rw [(chargeOf_user charged).2] at inMonth
        rw [if_pos inMonth] at grows
        omega
      · omega

theorem chargeOf_of_idle {store : Store} {visit : Visit} (idle : visit.IsIdle store) :
    store.chargeOf visit = none := by
  obtain ⟨moment, fresh, call⟩ := visit
  cases call with
  | create draft =>
    obtain ⟨failure, refused⟩ := idle
    simp [chargeOf, refused]
  | _ => rfl

/-- The counts of an account at any moment tell what was charged and granted before, no month has
more free units than a limit of the month allows, and an idle visit leaves the counts alone. -/
theorem quota_conserved (terms : Quota.Terms) (inOrder : Visit.InOrder visits) (user : UserId) :
    let store := (opened terms).after visits
    let charges := (opened terms).charges visits
    (∀ now, (∀ visit ∈ visits, visit.moment ≤ now) →
        (store.account user now).paidUsed = Charge.paidUnits user charges
          ∧ (store.account user now).paidCredits
              = min Quota.maxCount (Visit.granted user visits)
          ∧ (store.account user now).paidUsed ≤ (store.account user now).paidCredits
          ∧ (store.balance user now).freeUsed = Charge.freeUnits user (.containing now) charges)
      ∧ (∀ month, Charge.freeUnits user month charges
          ≤ Visit.largestLimit user month terms.monthlyLimit visits)
      ∧ ∀ idle : Visit, (∀ visit ∈ visits, visit.moment ≤ idle.moment) → idle.IsIdle store →
          ∀ now, idle.moment ≤ now →
            let before := store.account user now
            let after := (store.visit idle).2.account user now
            after.paidUsed = before.paidUsed ∧ after.paidCredits = before.paidCredits
              ∧ after.freeUsed = before.freeUsed := by
  intro store charges
  refine ⟨fun now late => ?_, freeUnits_le_largestLimit inOrder user, ?_⟩
  · have tally := tally_after terms inOrder user late
    exact ⟨tally.paidUsed, tally.paidCredits, tally.paidUsed_le, tally.freeUsed⟩
  · intro idle earlier harmless now later before after
    have late : ∀ visit ∈ visits, visit.moment ≤ now := fun visit member =>
      Timestamp.le_trans (earlier visit member) later
    have tally := tally_after terms inOrder user late
    have allLate : ∀ visit ∈ visits ++ [idle], visit.moment ≤ now := by
      intro visit member
      rcases List.mem_append.1 member with old | new
      · exact late visit old
      · exact List.mem_singleton.1 new ▸ later
    have next := tally_after terms (inOrder.concat earlier) user allLate
    -- An idle visit adds nothing to the history, so both accounts tell the same.
    rw [charges_concat, chargeOf_of_idle harmless, Option.toList_none, List.append_nil,
      Visit.granted_concat, Visit.credits_of_idle harmless user, Nat.add_zero,
      after_concat] at next
    exact ⟨next.paidUsed.trans tally.paidUsed.symm,
      next.paidCredits.trans tally.paidCredits.symm, next.freeUsed.trans tally.freeUsed.symm⟩

/-- Visits of two users around a new month: a free unit, a refusal, a paid unit out of two credits,
and two free units under the limit of a new plan. -/
def newMonthVisits : List Visit :=
  let user : UserId := ⟨.ofNat 1⟩
  let other : UserId := ⟨.ofNat 2⟩
  let draft : Draft := ⟨user, ⟨.ofNat 3⟩, ⟨.ofNat 4⟩, none⟩
  [⟨⟨1769903000, 0⟩, ⟨.ofNat 10⟩, .create draft⟩, ⟨⟨1769903001, 0⟩, ⟨.ofNat 11⟩, .create draft⟩,
    ⟨⟨1769903002, 0⟩, ⟨.ofNat 12⟩, .grant user 2⟩, ⟨⟨1769903003, 0⟩, ⟨.ofNat 13⟩, .create draft⟩,
    ⟨⟨1769904000, 0⟩, ⟨.ofNat 14⟩, .setPlan user "pro" 2⟩,
    ⟨⟨1769904001, 0⟩, ⟨.ofNat 15⟩, .create draft⟩,
    ⟨⟨1769904002, 0⟩, ⟨.ofNat 16⟩, .create { draft with user := other }⟩,
    ⟨⟨1769904003, 0⟩, ⟨.ofNat 17⟩, .create draft⟩]

theorem quota_conserved_over_new_month :
    let user : UserId := ⟨.ofNat 1⟩
    let store := (opened ⟨"free", 1⟩).after newMonthVisits
    let now : Timestamp := ⟨1769904003, 0⟩
    (store.account user now).paidUsed = 1 ∧ (store.account user now).paidCredits = 2
      ∧ (store.balance user now).freeUsed = 2
      ∧ Charge.freeUnits user ⟨2026, 1⟩ ((opened ⟨"free", 1⟩).charges newMonthVisits)
          ≤ Visit.largestLimit user ⟨2026, 1⟩ 1 newMonthVisits := by
  have inOrder : Visit.InOrder newMonthVisits := by decide
  obtain ⟨counts, bounded, -⟩ := quota_conserved ⟨"free", 1⟩ inOrder ⟨.ofNat 1⟩
  obtain ⟨paidUsed, paidCredits, -, freeUsed⟩ := counts ⟨1769904003, 0⟩ (by decide)
  exact ⟨paidUsed.trans (by decide), paidCredits.trans (by decide), freeUsed.trans (by decide),
    bounded ⟨2026, 1⟩⟩

end Store

end TryOn
