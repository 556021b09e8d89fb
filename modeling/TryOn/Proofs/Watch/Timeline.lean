import Mathlib.Order.Bounds.Basic
import TryOn.Proofs.Store.Acceptance
import TryOn.Proofs.Watch.Course

/-! A watch against the history of its record. Where reads take no time and nobody calls it off, a
watch looks at every tick before its deadline and once more at the deadline; so the history alone
tells what it ends with, and when. -/

set_option autoImplicit false

namespace TryOn

/-- Time that passes without reads that last and without anybody to call a program off. -/
def Course.undisturbed : Course := ⟨fun _ => none, none⟩

/-- What a program comes to that is begun at an instant, and when, if each read is answered at once
by the store of that moment. Nothing comes of one that asks for anything but reads, waits and the
clock. -/
def Program.against? {α : Type} (stores : Instant → Store) :
    Program α → Instant → Option (α × Instant)
  | .done result, now => some (result, now)
  | .ask .now resume, now => (resume now).against? stores now
  | .ask (.poll id _) resume, now => (resume (some ((stores now).get id))).against? stores now
  | .ask (.wait span stop) resume, now =>
    let (waited, later) := Course.undisturbed.pass span stop now
    (resume waited).against? stores later
  | .ask _ _, _ => none

namespace Action

variable {α : Type} (stores : Instant → Store) (now : Instant)

def against? (action : Action α) : Option (Except Failure α × Instant) :=
  action.run.against? stores now

@[simp] theorem against?_pure (value : α) :
    against? stores now (pure value) = some (.ok value, now) := rfl

@[simp] theorem against?_now (next : Instant → Action α) :
    against? stores now (Action.now >>= next) = against? stores now (next now) := rfl

@[simp] theorem against?_poll (id : ConversionId) (stop : Stop)
    (next : Option (Except StoreError Conversion) → Action α) :
    against? stores now (Action.poll id stop >>= next)
      = against? stores now (next (some ((stores now).get id))) := rfl

@[simp] theorem against?_wait (span : Duration) (stop : Stop) (next : Bool → Action α) :
    against? stores now (Action.wait span stop >>= next)
      = against? stores (Course.undisturbed.pass span stop now).2
          (next (Course.undisturbed.pass span stop now).1) := rfl

end Action

namespace Watch

def Settled (history : Instant → Option Conversion) (now : Instant) : Prop :=
  ∀ conversion, history now = some conversion → conversion.isTerminal = true

def settledTicks (history : Instant → Option Conversion) (timeout period : Duration) : Set Nat :=
  {tick | tick * period < timeout ∧ Settled history (tick * period)}

inductive Comes (history : Instant → Option Conversion) (id : ConversionId)
    (timeout period : Duration) : Except Failure Conversion × Instant → Prop
  /-- At the first tick at which the record is settled it is done. -/
  | done {tick : Nat} {conversion : Conversion}
    (first : IsLeast (settledTicks history timeout period) tick)
    (shown : history (tick * period) = some conversion) :
    Comes history id timeout period (.ok conversion, tick * period)
  /-- At the first tick at which the record is settled it has been removed. -/
  | gone {tick : Nat} (first : IsLeast (settledTicks history timeout period) tick)
    (none : history (tick * period) = none) :
    Comes history id timeout period (.error (.notFound id), tick * period)
  /-- The record is not settled at any tick, and is there at the deadline. -/
  | last {conversion : Conversion} (never : settledTicks history timeout period = ∅)
    (shown : history timeout = some conversion) :
    Comes history id timeout period (.ok conversion, timeout)
  /-- The record is not settled at any tick, and has been removed by the deadline. -/
  | stale {snapshot : Conversion} (never : settledTicks history timeout period = ∅)
    (none : history timeout = none)
    (shown : history ((timeout - 1) / period * period) = some snapshot) :
    Comes history id timeout period (.ok snapshot, timeout)

variable {history : Instant → Option Conversion} {id : ConversionId} {timeout period : Duration}
  {ended : Except Failure Conversion × Instant}

theorem lastTick_lt (some : 0 < timeout) :
    (timeout - 1) / period * period < timeout :=
  Nat.lt_of_le_of_lt (Nat.div_mul_le_self _ _) (Nat.sub_one_lt (Nat.pos_iff_ne_zero.1 some))

theorem le_lastTick_add (positive : 0 < period) :
    timeout ≤ (timeout - 1) / period * period + period := by
  have := Nat.lt_mul_of_div_lt (Nat.lt_succ_self ((timeout - 1) / period)) positive
  exact Nat.le_of_pred_lt (Nat.succ_mul _ _ ▸ this)

theorem lastTick_eq {tick : Nat} (after : tick * period < timeout)
    (due : timeout ≤ (tick + 1) * period) : (timeout - 1) / period = tick :=
  Nat.div_eq_of_lt_le (Nat.le_sub_one_of_lt after)
    (Nat.lt_of_lt_of_le (Nat.sub_one_lt (Nat.ne_zero_of_lt after)) due)

theorem settledTicks_eq_empty {tick : Nat} (due : timeout ≤ (tick + 1) * period)
    (unmet : tick ∉ settledTicks history timeout period)
    (before : ∀ earlier < tick, earlier ∉ settledTicks history timeout period) :
    settledTicks history timeout period = ∅ := by
  refine Set.eq_empty_of_forall_notMem fun other met => ?_
  have inTime : other ≤ tick :=
    Nat.lt_succ_iff.1 (Nat.lt_of_mul_lt_mul_right (Nat.lt_of_lt_of_le met.1 due))
  rcases Nat.lt_or_eq_of_le inTime with sooner | rfl
  · exact before other sooner met
  · exact unmet met

/-- A record that stays is reported as done if it is so by the deadline, and a period later at
most. -/
theorem Comes.reports (comes : Comes history id timeout period ended) (positive : 0 < period)
    {since : Instant} (inTime : since ≤ timeout) (stays : ∀ now ≤ timeout, history now ≠ none)
    (settles : ∀ now, since ≤ now → Settled history now) :
    ∃ conversion, ended.1 = .ok conversion ∧ history ended.2 = some conversion
      ∧ conversion.isTerminal = true ∧ ended.2 ≤ min (since + period) timeout := by
  -- A tick before the deadline that found nothing settled was before the record was done.
  have open_lt {tick : Nat} (early : tick * period < timeout)
      (unmet : tick ∉ settledTicks history timeout period) : tick * period < since :=
    Nat.lt_of_not_le fun late => unmet ⟨early, settles _ late⟩
  cases comes with
  | @done tick conversion first shown =>
    obtain ⟨⟨early, settled⟩, least⟩ := first
    refine ⟨conversion, rfl, shown, settled conversion shown, Nat.le_min.2 ⟨?_, early.le⟩⟩
    cases tick with
    | zero => simp
    | succ tick =>
      rw [Nat.succ_mul] at early ⊢
      have before := open_lt (Nat.lt_of_le_of_lt (Nat.le_add_right _ _) early) fun met =>
        Nat.not_succ_le_self tick (least met)
      exact Nat.add_le_add_right before.le period
  | gone first none => exact absurd none (stays _ first.1.1.le)
  | @last conversion never shown =>
    have settled := settles timeout inTime
    refine ⟨conversion, rfl, shown, settled conversion shown, Nat.le_min.2 ⟨?_, Nat.le_refl _⟩⟩
    rcases Nat.eq_zero_or_pos timeout with rfl | some
    · exact Nat.zero_le _
    · have before := open_lt (lastTick_lt some) (never ▸ Set.notMem_empty _)
      exact Nat.le_trans (le_lastTick_add positive) (Nat.add_le_add_right before.le period)
  | stale never none shown => exact absurd none (stays _ (Nat.le_refl _))

def historyOf (stores : Instant → Store) (id : ConversionId) (now : Instant) : Option Conversion :=
  (stores now).conversions.get? id

section Looking

variable {stores : Instant → Store} {grace : Duration} {tick : Nat}

theorem get_of_history_some {now : Instant} {conversion : Conversion}
    (shown : historyOf stores id now = some conversion) : (stores now).get id = .ok conversion :=
  Store.get_eq_ok_iff.2 shown

theorem get_of_history_none {now : Instant} (none : historyOf stores id now = none) :
    (stores now).get id = .error (.notFound id) := by
  unfold historyOf at none
  rw [Store.get, none]

theorem pass_tick (id : ConversionId) (tick : Nat) :
    Course.undisturbed.pass ((tick + 1) * period - tick * period)
        (Service.Watching.stop ⟨id, grace, period, timeout⟩) (tick * period)
      = if timeout ≤ (tick + 1) * period then (false, max (tick * period) timeout)
        else (true, (tick + 1) * period) := by
  have upTo : tick * period + ((tick + 1) * period - tick * period) = (tick + 1) * period :=
    Nat.add_sub_of_le (Nat.mul_le_mul_right period (Nat.le_succ tick))
  simp only [Course.pass, Course.time?, Course.undisturbed, Service.Watching.stop, upTo]
  rfl

theorem against_lastLook {snapshot : Conversion}
    (never : settledTicks (historyOf stores id) timeout period = ∅)
    (shown : historyOf stores id timeout = none →
      historyOf stores id ((timeout - 1) / period * period) = some snapshot) :
    ∃ ended, (Service.lastLook grace id snapshot).against? stores timeout = some ended
      ∧ Comes (historyOf stores id) id timeout period ended := by
  unfold Service.lastLook
  rw [Action.against?_now, Action.against?_poll]
  cases atDeadline : historyOf stores id timeout with
  | none =>
    rw [get_of_history_none atDeadline]
    exact ⟨_, rfl, .stale never atDeadline (shown atDeadline)⟩
  | some conversion =>
    rw [get_of_history_some atDeadline]
    exact ⟨_, rfl, .last never atDeadline⟩

def ComesAt (stores : Instant → Store) (grace : Duration) (id : ConversionId)
    (timeout period : Duration) (more tick : Nat) (seen : Conversion) : Prop :=
  ∃ ended, (Service.Watching.lookFrom ⟨id, grace, period, timeout⟩ more ((tick + 1) * period)
      seen).against? stores (tick * period) = some ended
    ∧ Comes (historyOf stores id) id timeout period ended

section

variable {more : Nat} {seen : Conversion} (inTime : tick * period ≤ timeout)
  (early : Settled (historyOf stores id) (tick * period) → tick * period < timeout)
  (before : ∀ earlier < tick, earlier ∉ settledTicks (historyOf stores id) timeout period)

include inTime early before

theorem comesAt_look
    (goesOn : ∀ seen, (tick + 1) * period < timeout →
      tick ∉ settledTicks (historyOf stores id) timeout period →
      ComesAt stores grace id timeout period more (tick + 1) seen) :
    ComesAt stores grace id timeout period (more + 1) tick seen := by
  have first (settled : Settled (historyOf stores id) (tick * period)) :
      IsLeast (settledTicks (historyOf stores id) timeout period) tick :=
    ⟨⟨early settled, settled⟩, fun other met => Nat.le_of_not_lt fun sooner =>
      before other sooner met⟩
  unfold ComesAt Service.Watching.lookFrom
  rw [Action.against?_poll]
  cases shown : historyOf stores id (tick * period) with
  | none =>
    rw [get_of_history_none shown]
    exact ⟨_, rfl, .gone (first fun _ found => by simp [shown] at found) shown⟩
  | some conversion =>
    rw [get_of_history_some shown]
    cases terminal : conversion.isTerminal with
    | true =>
      have settled : Settled (historyOf stores id) (tick * period) := by
        intro other found
        rw [shown] at found
        cases found
        exact terminal
      refine ⟨(.ok conversion, tick * period), ?_, .done (first settled) shown⟩
      simp [terminal]
    | false =>
      have unmet : tick ∉ settledTicks (historyOf stores id) timeout period := by
        rintro ⟨-, settled⟩
        rw [settled conversion shown] at terminal
        cases terminal
      simp only [terminal, Bool.false_eq_true, if_false, Action.against?_now,
        Action.against?_wait, pass_tick]
      split
      · rename_i due
        rw [Nat.max_eq_right inTime]
        refine against_lastLook (settledTicks_eq_empty due unmet before) fun none => ?_
        have after : tick * period < timeout := by
          refine Nat.lt_of_le_of_ne inTime fun same => ?_
          rw [same, none] at shown
          cases shown
        rw [lastTick_eq after due]
        exact shown
      · rename_i sooner
        have next := goesOn conversion (Nat.lt_of_not_le sooner) unmet
        have tickOn : Service.nextTick ((tick + 1) * period) ((tick + 1) * period) period
            = (tick + 1 + 1) * period := by
          simp [Service.nextTick, Nat.succ_mul]
        simp only [if_true, Action.against?_now, tickOn]
        exact next

end

/-- From a tick on, a watch that has found nothing settled comes to what the history tells. -/
theorem comesAt (more : Nat) (seen : Conversion)
    (enough : timeout < (tick + 1 + more) * period) (inTime : tick * period ≤ timeout)
    (early : Settled (historyOf stores id) (tick * period) → tick * period < timeout)
    (before : ∀ earlier < tick, earlier ∉ settledTicks (historyOf stores id) timeout period) :
    ComesAt stores grace id timeout period (more + 1) tick seen := by
  -- As many looks are left as it takes to get past the deadline.
  induction more generalizing tick seen with
  | zero =>
    refine comesAt_look inTime early before fun _ sooner _ => ?_
    exact absurd enough (Nat.lt_asymm sooner)
  | succ more ih =>
    refine comesAt_look inTime early before fun seen sooner unmet => ?_
    refine ih seen ?_ sooner.le (fun _ => sooner) fun earlier within => ?_
    · rwa [Nat.add_right_comm (tick + 1)]
    · rcases Nat.lt_succ_iff_lt_or_eq.1 within with old | rfl
      · exact before earlier old
      · exact unmet

end Looking

/-- A watch that the owner of a record begins at time zero comes to what the record's history tells:
at the first tick before the deadline at which the record is done or gone it ends with that, and
else at the deadline with what is there or was there last. So a record that is done by the deadline
and stays is always reported as done, a period later at most and no later than the deadline. -/
theorem watch_told_by_history (stores : Instant → Store) (grace : Duration) {id : ConversionId}
    {user : UserId} {record : Conversion} {timeout period : Duration}
    (shortest : WatchOptions.minPollInterval ≤ period)
    (present : historyOf stores id 0 = some record) (owned : record.isOwnedBy user = true) :
    ∃ ended, (Service.watchFor grace id user ⟨timeout, period⟩).against? stores 0 = some ended
      ∧ Comes (historyOf stores id) id timeout period ended
      ∧ ∀ since ≤ timeout, (∀ now ≤ timeout, historyOf stores id now ≠ none) →
          (∀ now, since ≤ now → Settled (historyOf stores id) now) →
          ∃ conversion, ended.1 = .ok conversion
            ∧ historyOf stores id ended.2 = some conversion
            ∧ conversion.isTerminal = true ∧ ended.2 ≤ min (since + period) timeout := by
  have positive : 0 < period := Nat.lt_of_lt_of_le (by decide) shortest
  suffices comes : ∃ ended,
      (Service.watchFor grace id user ⟨timeout, period⟩).against? stores 0 = some ended
        ∧ Comes (historyOf stores id) id timeout period ended by
    obtain ⟨ended, ran, comes⟩ := comes
    exact ⟨ended, ran, comes, fun since inTime => comes.reports positive inTime⟩
  unfold Service.watchFor
  simp only [Action.against?_now, Action.against?_poll, get_of_history_some present, owned,
    Nat.max_eq_left shortest, Nat.zero_add, Bool.not_true, Bool.false_eq_true, if_false]
  cases terminal : record.isTerminal with
  | true =>
    have settled : Settled (historyOf stores id) 0 := by
      intro other found
      rw [present] at found
      cases found
      exact terminal
    refine ⟨(.ok record, 0), rfl, ?_⟩
    rcases Nat.eq_zero_or_pos timeout with rfl | some
    · exact .last (Set.eq_empty_of_forall_notMem fun _ met => Nat.not_lt_zero _ met.1) present
    · have first : IsLeast (settledTicks (historyOf stores id) timeout period) 0 :=
        ⟨by simpa [settledTicks] using ⟨some, settled⟩, fun _ _ => Nat.zero_le _⟩
      rw [← Nat.zero_mul period] at present
      simpa using Comes.done first present
  | false =>
    have unsettled : ¬ Settled (historyOf stores id) (0 * period) := by
      intro settled
      rw [Nat.zero_mul] at settled
      rw [settled record present] at terminal
      cases terminal
    have enough : timeout < (0 + 1 + (timeout / period + 1)) * period :=
      calc timeout < (timeout / period + 1) * period :=
            (Nat.div_lt_iff_lt_mul positive).1 (Nat.lt_succ_self _)
        _ ≤ (0 + 1 + (timeout / period + 1)) * period :=
            Nat.mul_le_mul_right period (Nat.le_add_left _ _)
    simpa [ComesAt] using comesAt (timeout / period + 1) record enough (by simp)
      (absurd · unsettled) (by simp)

def failedBy (since now : Instant) : Conversion :=
  let waiting := Conversion.ofDraft ⟨.ofNat 2⟩ ⟨⟨.ofNat 1⟩, ⟨.ofNat 3⟩, ⟨.ofNat 4⟩, none⟩ ⟨0, 0⟩
  if now < since then waiting
  else { waiting with status := .failed, failure := some "no face", completedAt := some ⟨0, 250⟩ }

def storeFailedBy (since now : Instant) : Store :=
  let store := Store.opened ⟨"free", 3⟩
  { store with conversions := store.conversions.insert ⟨.ofNat 2⟩ (failedBy since now) }

theorem historyOf_storeFailedBy (since now : Instant) :
    historyOf (storeFailedBy since) ⟨.ofNat 2⟩ now = some (failedBy since now) :=
  Table.get?_insert_self _ _ _

/-- Between its third and its fourth look the record fails. -/
theorem watch_told_by_history_of_failing :
    let stores := storeFailedBy (Duration.ofMillis 250)
    ∃ ended, (Service.watchFor (Duration.ofMillis 300) ⟨.ofNat 2⟩ ⟨.ofNat 1⟩
        ⟨Duration.ofMillis 1000, Duration.ofMillis 100⟩).against? stores 0 = some ended
      ∧ Comes (historyOf stores ⟨.ofNat 2⟩) ⟨.ofNat 2⟩ (Duration.ofMillis 1000)
          (Duration.ofMillis 100) ended
      ∧ ended.2 = Duration.ofMillis 300
      ∧ ∃ conversion, ended.1 = .ok conversion ∧ conversion.isTerminal = true := by
  intro stores
  have told : ((Service.watchFor (Duration.ofMillis 300) ⟨.ofNat 2⟩ ⟨.ofNat 1⟩
      ⟨Duration.ofMillis 1000, Duration.ofMillis 100⟩).against? stores 0).map Prod.snd
      = some (Duration.ofMillis 300) := by decide +kernel
  have owned : (failedBy (Duration.ofMillis 250) 0).isOwnedBy ⟨.ofNat 1⟩ = true := by decide
  obtain ⟨ended, came, comes, reports⟩ := watch_told_by_history stores (Duration.ofMillis 300)
    (by decide : WatchOptions.minPollInterval ≤ Duration.ofMillis 100)
    (historyOf_storeFailedBy _ 0) owned
  rw [came, Option.map_some, Option.some.injEq] at told
  have stays (now : Instant) : historyOf stores ⟨.ofNat 2⟩ now ≠ none := by
    simp [stores, historyOf_storeFailedBy]
  have settles (now : Instant) (passed : Duration.ofMillis 250 ≤ now) :
      Settled (historyOf stores ⟨.ofNat 2⟩) now := by
    intro conversion found
    rw [historyOf_storeFailedBy, failedBy, if_neg (Nat.not_lt.2 passed)] at found
    cases found
    rfl
  obtain ⟨conversion, shown, -, terminal, -⟩ :=
    reports (Duration.ofMillis 250) (by decide) (fun now _ => stays now) settles
  exact ⟨ended, came, comes, told, conversion, shown, terminal⟩

end Watch

end TryOn
