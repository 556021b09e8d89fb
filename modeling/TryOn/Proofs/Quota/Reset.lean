import TryOn.Proofs.Timestamp.Month

/-! When a free allowance comes back. An account is brought to the month of every moment at which a
unit is asked for, also to a month that was over already: it follows a clock that goes forward, and
a monthly limit holds exactly if no month that is come back to has more moments than that. -/

set_option autoImplicit false

namespace TryOn

namespace BillingPeriod

def Before (first second : BillingPeriod) : Prop :=
  first.year < second.year ∨ (first.year = second.year ∧ first.month < second.month)

instance (first second : BillingPeriod) : Decidable (Before first second) :=
  inferInstanceAs (Decidable (_ ∨ _))

def Revisits (month : BillingPeriod) (periods : List BillingPeriod) : Prop :=
  ∃ other, other ≠ month ∧ List.Sublist [month, other, month] periods

theorem before_or_eq_or_before (first second : BillingPeriod) :
    first.Before second ∨ first = second ∨ second.Before first := by
  cases first
  cases second
  simp only [Before, mk.injEq]
  omega

theorem not_before_self (period : BillingPeriod) : ¬ period.Before period := by
  unfold Before
  omega

theorem Before.asymm {first second : BillingPeriod} (before : first.Before second) :
    ¬ second.Before first := by
  unfold Before at *
  omega

theorem Revisits.split {month : BillingPeriod} {moments : List Timestamp}
    (again : Revisits month (moments.map .containing)) :
    ∃ first away last, moments = first ++ away :: last ∧ containing away ≠ month
      ∧ month ∈ first.map containing ∧ month ∈ last.map containing := by
  obtain ⟨other, differ, inside⟩ := again
  obtain ⟨early, late, split, member, rest⟩ := List.cons_sublist_iff.1 inside
  obtain ⟨first, second, rfl, rfl, rfl⟩ := List.map_eq_append_iff.1 split
  obtain ⟨between, last, split, left, back⟩ := List.cons_sublist_iff.1 rest
  obtain ⟨middle, final, rfl, rfl, rfl⟩ := List.map_eq_append_iff.1 split
  obtain ⟨away, awayMember, rfl⟩ := List.mem_map.1 left
  obtain ⟨before, after, rfl⟩ := List.append_of_mem awayMember
  refine ⟨first ++ before, away, after ++ final, by simp, differ, ?_, ?_⟩
  · rw [List.map_append]
    exact List.mem_append_left _ member
  · rw [List.map_append]
    exact List.mem_append_right _ (List.singleton_sublist.1 back)

end BillingPeriod

namespace Quota.Account

/-- The account in the month of a moment, if that is a later month than its own. -/
def rollForward (account : Account) (now : Timestamp) : Account :=
  if account.period.Before (.containing now) then
    { account with freeUsed := 0, period := .containing now }
  else account

/-- A unit is asked for at a moment: the one that is charged if any is left, and the account
after that. -/
def chargeAt (account : Account) (now : Timestamp) : Option Allowance × Account :=
  match (account.roll now).consume with
  | some (allowance, charged) => (some allowance, charged)
  | none => (none, account.roll now)

def chargedAt (account : Account) (moments : List Timestamp) : Account :=
  moments.foldl (fun account now => (account.chargeAt now).2) account

def freeCharges (month : BillingPeriod) (account : Account) : List Timestamp → Nat
  | [] => 0
  | now :: rest =>
    (if .containing now = month ∧ (account.chargeAt now).1 = some .free then 1 else 0)
      + freeCharges month (account.chargeAt now).2 rest

theorem roll_eq_rollForward_iff (account : Account) (now : Timestamp) :
    account.roll now = account.rollForward now
      ↔ ¬ (BillingPeriod.containing now).Before account.period := by
  unfold roll inPeriod rollForward
  rcases BillingPeriod.before_or_eq_or_before account.period (.containing now) with
    later | same | earlier
  · have differ : account.period ≠ .containing now := fun same =>
      BillingPeriod.not_before_self _ (same ▸ later)
    rw [if_neg differ, if_pos later]
    exact iff_of_true rfl later.asymm
  · rw [if_pos same, if_neg (same ▸ BillingPeriod.not_before_self _)]
    exact iff_of_true rfl (same ▸ BillingPeriod.not_before_self _)
  · have differ : account.period ≠ .containing now := fun same =>
      BillingPeriod.not_before_self _ (same ▸ earlier)
    rw [if_neg differ, if_neg earlier.asymm]
    exact iff_of_false (fun reset => differ (congrArg period reset).symm) (fun not => not earlier)

theorem roll_freeUsed (account : Account) (now : Timestamp) :
    (account.roll now).freeUsed
      = if account.period = .containing now then account.freeUsed else 0 := by
  unfold roll inPeriod
  split <;> rfl

@[simp] theorem roll_monthlyLimit (account : Account) (now : Timestamp) :
    (account.roll now).monthlyLimit = account.monthlyLimit := by
  unfold roll inPeriod
  split <;> rfl

@[simp] theorem chargeAt_period (account : Account) (now : Timestamp) :
    (account.chargeAt now).2.period = .containing now := by
  unfold chargeAt consume nextCharge
  split <;> rename_i charged
  · split at charged
    · cases charged
      exact roll_period account now
    · split at charged
      · cases charged
        exact roll_period account now
      · cases charged
  · exact roll_period account now

@[simp] theorem chargeAt_monthlyLimit (account : Account) (now : Timestamp) :
    (account.chargeAt now).2.monthlyLimit = account.monthlyLimit := by
  unfold chargeAt consume nextCharge
  split <;> rename_i charged
  · split at charged
    · cases charged
      exact roll_monthlyLimit account now
    · split at charged
      · cases charged
        exact roll_monthlyLimit account now
      · cases charged
  · exact roll_monthlyLimit account now

theorem chargeAt_of_lt {account : Account} {now : Timestamp}
    (left : (account.roll now).freeUsed < account.monthlyLimit) :
    (account.chargeAt now).1 = some .free
      ∧ (account.chargeAt now).2.freeUsed = (account.roll now).freeUsed + 1 := by
  simp [chargeAt, consume, nextCharge, left, charge]

theorem chargeAt_of_le {account : Account} {now : Timestamp}
    (spent : account.monthlyLimit ≤ (account.roll now).freeUsed) :
    (account.chargeAt now).1 ≠ some .free
      ∧ (account.chargeAt now).2.freeUsed = (account.roll now).freeUsed := by
  unfold chargeAt consume nextCharge
  by_cases paid : (account.roll now).paidUsed < (account.roll now).paidCredits <;>
    simp [Nat.not_lt.2 spent, paid, charge]

theorem freeCharges_append (month : BillingPeriod) (account : Account)
    (first rest : List Timestamp) :
    account.freeCharges month (first ++ rest)
      = account.freeCharges month first + (account.chargedAt first).freeCharges month rest := by
  induction first generalizing account with
  | nil => simp [freeCharges, chargedAt]
  | cons now first ih =>
    simp only [List.cons_append, freeCharges, ih, Nat.add_assoc]
    rfl

theorem chargedAt_monthlyLimit (account : Account) (moments : List Timestamp) :
    (account.chargedAt moments).monthlyLimit = account.monthlyLimit := by
  induction moments generalizing account with
  | nil => rfl
  | cons now rest ih => exact (ih _).trans (chargeAt_monthlyLimit account now)

theorem freeCharges_le_count (month : BillingPeriod) (account : Account)
    (moments : List Timestamp) :
    account.freeCharges month moments ≤ (moments.map .containing).count month := by
  induction moments generalizing account with
  | nil => exact Nat.zero_le _
  | cons now rest ih =>
    have later := ih (account.chargeAt now).2
    rw [freeCharges, List.map_cons, List.count_cons]
    by_cases same : BillingPeriod.containing now = month
    · rw [if_pos (beq_iff_eq.2 same)]
      split <;> omega
    · rw [if_neg fun both => same both.1, if_neg (mt beq_iff_eq.1 same)]
      omega

theorem freeCharges_eq_zero {account : Account} (nothing : account.monthlyLimit = 0)
    (month : BillingPeriod) (moments : List Timestamp) :
    account.freeCharges month moments = 0 := by
  induction moments generalizing account with
  | nil => rfl
  | cons now rest ih =>
    obtain ⟨notFree, -⟩ := chargeAt_of_le (nothing ▸ Nat.zero_le (account.roll now).freeUsed)
    rw [freeCharges, if_neg fun both => notFree both.2, Nat.zero_add]
    exact ih ((chargeAt_monthlyLimit account now).trans nothing)

/-- An account in a month that the moments do not come back to after another one: what is used
already counts against the limit of that month. -/
theorem freeCharges_le_left {account : Account} {moments : List Timestamp}
    (once : ¬ BillingPeriod.Revisits account.period
      (account.period :: moments.map .containing)) :
    account.freeCharges account.period moments ≤ account.monthlyLimit - account.freeUsed := by
  induction moments generalizing account with
  | nil => exact Nat.zero_le _
  | cons now rest ih =>
    -- In the same month what is charged now is no longer left for the rest.
    by_cases same : account.period = .containing now
    · have onceLater : ¬ BillingPeriod.Revisits (account.chargeAt now).2.period
          ((account.chargeAt now).2.period :: rest.map .containing) := by
        rw [chargeAt_period, ← same]
        rintro ⟨other, differ, inside⟩
        exact once ⟨other, differ, by rw [List.map_cons, ← same]; exact inside.cons _⟩
      have later := ih onceLater
      have used := roll_freeUsed account now
      rw [if_pos same] at used
      rw [chargeAt_period, chargeAt_monthlyLimit, ← same] at later
      rw [freeCharges]
      rcases Nat.lt_or_ge (account.roll now).freeUsed account.monthlyLimit with left | spent
      · obtain ⟨-, counted⟩ := chargeAt_of_lt left
        split <;> omega
      · obtain ⟨notFree, kept⟩ := chargeAt_of_le spent
        rw [if_neg fun both => notFree both.2]
        omega
    · -- The month is left here, so none of the moments falls in it.
      have never : account.period ∉ (now :: rest).map BillingPeriod.containing := by
        intro member
        rcases List.mem_cons.1 member with first | later
        · exact same first
        · refine once ⟨.containing now, fun back => same back.symm, ?_⟩
          exact ((List.singleton_sublist.2 later).cons_cons _).cons_cons _
      have none := freeCharges_le_count account.period account (now :: rest)
      rw [List.count_eq_zero.2 never] at none
      omega

theorem freeCharges_le_of_not_revisits {month : BillingPeriod} {moments : List Timestamp}
    (once : ¬ BillingPeriod.Revisits month (moments.map .containing)) (account : Account) :
    account.freeCharges month moments ≤ account.monthlyLimit := by
  induction moments generalizing account with
  | nil => exact Nat.zero_le _
  | cons now rest ih =>
    have later := chargeAt_monthlyLimit account now
    rw [freeCharges]
    by_cases same : BillingPeriod.containing now = month
    · have staysOnce : ¬ BillingPeriod.Revisits (account.chargeAt now).2.period
          ((account.chargeAt now).2.period :: rest.map .containing) := by
        rwa [chargeAt_period, same, ← same, ← List.map_cons, same]
      have left := freeCharges_le_left staysOnce
      rw [chargeAt_period, same] at left
      rcases Nat.lt_or_ge (account.roll now).freeUsed account.monthlyLimit with unspent | spent
      · obtain ⟨-, counted⟩ := chargeAt_of_lt unspent
        split <;> omega
      · obtain ⟨notFree, -⟩ := chargeAt_of_le spent
        rw [if_neg fun both => notFree both.2]
        omega
    · rw [if_neg fun both => same both.1, Nat.zero_add, ← later]
      refine ih ?_ _
      rintro ⟨other, differ, inside⟩
      exact once ⟨other, differ, inside.cons _⟩

theorem min_le_freeCharges (month : BillingPeriod) (account : Account)
    (moments : List Timestamp) :
    min (account.monthlyLimit - (account.inPeriod month).freeUsed)
        ((moments.map .containing).count month)
      ≤ account.freeCharges month moments := by
  induction moments generalizing account with
  | nil => simp
  | cons now rest ih =>
    have later := ih (account.chargeAt now).2
    rw [chargeAt_monthlyLimit] at later
    -- A moment of the month uses up one unit that it charges; any other moment uses up nothing,
    -- and what was used in the month before does not count when it is back.
    rw [List.map_cons, List.count_cons, freeCharges]
    by_cases same : BillingPeriod.containing now = month
    · have current : (account.chargeAt now).2.inPeriod month = (account.chargeAt now).2 :=
        if_pos ((chargeAt_period account now).trans same)
      have rolled : account.roll now = account.inPeriod month := congrArg account.inPeriod same
      rw [current] at later
      rw [if_pos (beq_iff_eq.2 same), ← rolled]
      rcases Nat.lt_or_ge (account.roll now).freeUsed account.monthlyLimit with unspent | spent
      · obtain ⟨free, counted⟩ := chargeAt_of_lt unspent
        rw [if_pos ⟨same, free⟩]
        omega
      · omega
    · have fresh : ((account.chargeAt now).2.inPeriod month).freeUsed = 0 := by
        rw [inPeriod, if_neg (by rwa [chargeAt_period])]
      rw [fresh] at later
      rw [if_neg (mt beq_iff_eq.1 same), if_neg fun both => same both.1]
      omega

def unspent (limit : Nat) : Account where
  plan := "free"
  monthlyLimit := limit
  freeUsed := 0
  paidCredits := 0
  paidUsed := 0
  period := ⟨0, 0⟩

theorem unspent_inPeriod (limit : Nat) (month : BillingPeriod) :
    ((unspent limit).inPeriod month).freeUsed = 0 := by
  unfold inPeriod
  split <;> rfl

/-- A month that is come back to allows for the limit once more. -/
theorem lt_freeCharges_of_revisits {month : BillingPeriod} {moments : List Timestamp} {limit : Nat}
    (again : BillingPeriod.Revisits month (moments.map .containing)) (some : 0 < limit)
    (many : limit < (moments.map .containing).count month) :
    limit < (unspent limit).freeCharges month moments := by
  obtain ⟨first, away, last, rfl, differ, early, late⟩ := again.split
  have before := min_le_freeCharges month (unspent limit) first
  have after := min_le_freeCharges month (((unspent limit).chargedAt first).chargeAt away).2 last
  -- Away from the month the account is in another one, so that nothing counts when it is back.
  have reset :
      ((((unspent limit).chargedAt first).chargeAt away).2.inPeriod month).freeUsed = 0 := by
    rw [inPeriod, if_neg (by rwa [chargeAt_period])]
  rw [unspent_inPeriod] at before
  rw [reset, chargeAt_monthlyLimit, chargedAt_monthlyLimit] at after
  -- Each side charges what it asks for or the whole limit, and the sides ask for more together.
  have here := List.count_pos_iff.2 early
  have again := List.count_pos_iff.2 late
  rw [List.map_append, List.map_cons, List.count_append,
    List.count_cons_of_ne differ] at many
  rw [freeCharges_append, freeCharges, if_neg fun both => differ both.1]
  simp only [unspent] at before after ⊢
  omega

/-- An account goes forward only, exactly at a moment of no earlier month than its own. And the
accounts with a monthly limit all keep it, exactly for the moments of which no month that is come
back to has more than the limit. -/
theorem allowance_kept_iff (account : Account) (now : Timestamp) (limit : Nat)
    (moments : List Timestamp) :
    (account.roll now = account.rollForward now
        ↔ ¬ (BillingPeriod.containing now).Before account.period)
      ∧ ((∀ other : Account, other.monthlyLimit = limit →
            ∀ month, other.freeCharges month moments ≤ limit)
          ↔ ∀ month, BillingPeriod.Revisits month (moments.map .containing) →
            limit = 0 ∨ (moments.map .containing).count month ≤ limit) := by
  refine ⟨roll_eq_rollForward_iff account now, ?_, ?_⟩
  · intro bounded month again
    by_contra exceeds
    rw [not_or, Nat.not_le] at exceeds
    have more := lt_freeCharges_of_revisits again (Nat.pos_of_ne_zero exceeds.1) exceeds.2
    exact absurd (bounded (unspent limit) rfl month) (Nat.not_le.2 more)
  · rintro few account rfl month
    by_cases again : BillingPeriod.Revisits month (moments.map .containing)
    · rcases few month again with nothing | few
      · exact (freeCharges_eq_zero nothing month moments).le.trans (Nat.zero_le _)
      · exact (freeCharges_le_count month account moments).trans few
    · exact freeCharges_le_of_not_revisits again account

/-- The last second of January resets an account of February, and February resets it again. -/
theorem freeCharges_around_new_month :
    let january : Timestamp := ⟨1769903999, 0⟩
    let february : Timestamp := ⟨1769904000, 0⟩
    let account := Account.opened "free" 1 february
    (BillingPeriod.containing january).Before (.containing february)
      ∧ (account.chargeAt february).2.roll january ≠ (account.chargeAt february).2
      ∧ ¬ account.freeCharges (.containing february) [february, january, february]
          ≤ account.monthlyLimit := by
  decide

end Quota.Account

end TryOn
