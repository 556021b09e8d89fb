import TryOn.Proofs.Interleaving.Attempts
import TryOn.Proofs.Interleaving.Solo
import TryOn.Proofs.Processing.Course

/-! A step in a store that may fail a read or an update at any time and for any reason. The step is
tried a few times at most, each time with a new plan, and it is taken once or not at all. -/

set_option autoImplicit false

namespace TryOn

namespace Exchange

def IsFault : Exchange → Prop
  | ⟨_, .store (.get _), (.error _ : Except StoreError Conversion)⟩
  | ⟨_, .store (.update _ _), (.error _ : Except StoreError Conversion)⟩ => True
  | _ => False

def fault? (id : ConversionId) : Exchange → Option StoreError
  | ⟨_, .store (.get other), (.error failure : Except StoreError Conversion)⟩
  | ⟨_, .store (.update other _), (.error failure : Except StoreError Conversion)⟩ =>
    if other = id then some failure else none
  | _ => none

def isUpdate : Exchange → Bool
  | ⟨_, .store (.update _ _), _⟩ => true
  | _ => false

theorem IsFault.write? {exchange : Exchange} (fault : exchange.IsFault) :
    exchange.write? = none := by
  obtain ⟨moment, request, answer⟩ := exchange
  cases request with
  | store call =>
    cases call with
    | get _ => rfl
    | update _ _ =>
      cases answer with
      | error _ => rfl
      | ok _ => exact fault.elim
    | _ => exact fault.elim
  | _ => exact fault.elim

end Exchange

namespace Store

/-- Whether a store that may fail can come to give an answer and be another one afterwards. A read
or an update that it fails has no effect. -/
def Falters (store : Store) (exchange : Exchange) (next : Store) : Prop :=
  store.Reacts exchange next ∨ (exchange.IsFault ∧ next = store)

/-- How a log comes about in a store that may fail. Between two exchanges others may do anything
that leaves the record alone. -/
inductive Serves (id : ConversionId) : Store → Log → Store → Prop
  | idle (store : Store) : Serves id store [] store
  | answers {store next last : Store} {exchange : Exchange} {rest : Log}
    (falters : store.Falters exchange next) (later : Serves id next rest last) :
    Serves id store (exchange :: rest) last
  | elsewhere {store next last : Store} {log : Log}
    (apart : next.conversions.get? id = store.conversions.get? id)
    (later : Serves id next log last) : Serves id store log last

variable {store next last : Store} {id : ConversionId} {exchange : Exchange} {log : Log}

theorem Falters.conversions (falters : store.Falters exchange next) :
    (exchange.write? = none ∧ next.conversions = store.conversions)
      ∨ ∃ write, exchange.write? = some write
        ∧ write.Applies store.conversions next.conversions := by
  rcases falters with reacts | ⟨fault, rfl⟩
  · exact reacts.conversions
  · exact .inl ⟨fault.write?, rfl⟩

namespace Serves

theorem of_replies (replies : store.Replies log last) : Serves id store log last := by
  induction replies with
  | here store => exact .idle store
  | step reacts later ih => exact .answers (.inl reacts) ih

theorem append {first rest : Log} (serves : Serves id store (first ++ rest) last) :
    ∃ between, Serves id store first between ∧ Serves id between rest last := by
  generalize whole : first ++ rest = log at serves
  induction serves generalizing first with
  | idle store =>
    obtain ⟨rfl, rfl⟩ := List.append_eq_nil_iff.1 whole
    exact ⟨store, .idle store, .idle store⟩
  | answers falters later ih =>
    cases first with
    | nil =>
      cases whole
      exact ⟨_, .idle _, .answers falters later⟩
    | cons _ first =>
      cases whole
      obtain ⟨between, early, late⟩ := ih rfl
      exact ⟨between, .answers falters early, late⟩
  | elsewhere apart later ih =>
    obtain ⟨between, early, late⟩ := ih whole
    exact ⟨between, .elsewhere apart early, late⟩

theorem untouched (serves : Serves id store log last) (writes : log.writes = []) :
    last.conversions.get? id = store.conversions.get? id := by
  induction serves with
  | idle store => rfl
  | answers falters later ih =>
    have silent := List.filterMap_eq_nil_iff.1 writes
    rw [ih (List.filterMap_eq_nil_iff.2 fun exchange member => silent exchange (.tail _ member))]
    rcases falters.conversions with ⟨-, same⟩ | ⟨write, written, -⟩
    · rw [same]
    · rw [silent _ (.head _)] at written
      cases written
  | elsewhere apart later ih => exact (ih writes).trans apart

theorem committed {patch : Patch} {updated : Conversion} (serves : Serves id store log last)
    (writes : log.writes = [.commit id patch updated]) :
    ∃ stored, store.conversions.get? id = some stored ∧ stored.status = patch.expected
      ∧ Store.patched stored patch = .ok updated
      ∧ last.conversions.get? id = some updated := by
  induction serves with
  | idle store => cases writes
  | @answers store next last exchange rest falters later ih =>
    rcases falters.conversions with ⟨silent, same⟩ | ⟨write, written, applies⟩
    · rw [← same]
      refine ih ?_
      rwa [Log.writes, List.filterMap_cons_none silent] at writes
    · rw [Log.writes, List.filterMap_cons_some written] at writes
      obtain ⟨rfl, silent⟩ := List.cons.inj writes
      have leaves := (later.untouched silent).trans applies.leaves
      generalize next.conversions = after at applies
      obtain _ | ⟨present, expected, patched⟩ := applies
      exact ⟨_, present, expected, patched, leaves⟩
  | elsewhere apart later ih =>
    rw [← apart]
    exact ih writes

end Serves

end Store

namespace Faults

open Service (Attempts Tries maxPlans)

variable {id : ConversionId} {step : Transition} {log : Log}

/-- What a step has done that ended so, whatever it was told. Every update comes right after a read
and hands in the plan for what was read. Anything comes after an update or an error only if it is an
update that was refused for the status. The step is taken by the last update, or it has changed
nothing and reports why: the plan was not legal for what was last read, or the store has answered
the last request with an error. -/
structure Account (id : ConversionId) (step : Transition) (most : Nat) (log : Log)
    (result : Except Failure Conversion) : Prop where
  within : ∀ exchange ∈ log, exchange.request = .store (.get id) ∨ exchange.request = .wallClock
    ∨ ∃ patch, exchange.request = .store (.update id patch)
  few : log.countP Exchange.isUpdate ≤ most
  planned : ∀ before after moment patch (answer : Except StoreError Conversion),
    log = before ++ ⟨moment, .store (.update id patch), answer⟩ :: after →
    ∃ earlier read clock now, ∃ seen : Conversion, before
        = earlier ++ [⟨read, .store (.get id), (.ok seen : Except StoreError Conversion)⟩,
          ⟨clock, .wallClock, now⟩]
      ∧ seen.plan step now = .ok patch
  onward : ∀ before exchange after, log = before ++ exchange :: after → after ≠ [] →
    (exchange.isUpdate = true ∨ ∃ error, exchange.fault? id = some error) →
    exchange.isUpdate = true
      ∧ ∃ other expected actual, exchange.fault? id = some (.statusConflict other expected actual)
  taken : ∀ updated, result = .ok updated → ∃ before moment patch,
    log = before ++ [⟨moment, .store (.update id patch),
        (.ok updated : Except StoreError Conversion)⟩]
      ∧ log.writes = [.commit id patch updated]
  refused : ∀ failure, result = .error failure → log.writes = []
    ∧ ((∃ before read clock now, ∃ seen : Conversion, ∃ refusal, log
          = before ++ [⟨read, .store (.get id), (.ok seen : Except StoreError Conversion)⟩,
            ⟨clock, .wallClock, now⟩]
        ∧ seen.plan step now = .error refusal ∧ failure = .ofIllegalTransition refusal)
      ∨ ∃ before last error, log = before ++ [last] ∧ last.fault? id = some error
        ∧ failure = .ofStore error)

theorem Account.commits {most : Nat} {log : Log} {updated : Conversion}
    (account : Account id step most log (.ok updated)) :
    ∃ (seen : Conversion) (now : Timestamp) (patch : Patch), seen.plan step now = .ok patch
      ∧ log.writes = [.commit id patch updated] := by
  obtain ⟨before, moment, patch, split, writes⟩ := account.taken updated rfl
  obtain ⟨-, -, -, now, seen, -, planned⟩ := account.planned before [] moment patch _ split
  exact ⟨seen, now, patch, planned, writes⟩

theorem attempt_split {before after log : Log} {moment : Timestamp} {patch : Patch}
    {answer : Except StoreError Conversion}
    {result : Except Failure (Except StoreError Conversion)} (attempt : Attempts id step log result)
    (split : log = before ++ ⟨moment, .store (.update id patch), answer⟩ :: after) :
    after = [] ∧ result = .ok answer ∧ ∃ read clock now, ∃ seen : Conversion,
      before = [⟨read, .store (.get id), (.ok seen : Except StoreError Conversion)⟩,
          ⟨clock, .wallClock, now⟩]
        ∧ seen.plan step now = .ok patch := by
  cases attempt with
  | unread =>
    obtain _ | ⟨_, _ | ⟨_, _⟩⟩ := before <;> cases split
  | illegal refused =>
    obtain _ | ⟨_, _ | ⟨_, _ | ⟨_, _⟩⟩⟩ := before <;> cases split
  | handed planned =>
    obtain _ | ⟨_, _ | ⟨_, _ | ⟨_, _ | ⟨_, _⟩⟩⟩⟩ := before <;> cases split
    exact ⟨rfl, rfl, _, _, _, _, rfl, planned⟩

theorem attempt_onward {before after : Log} {exchange : Exchange}
    {result : Except Failure (Except StoreError Conversion)} (attempt : Attempts id step log result)
    (split : log = before ++ exchange :: after) (further : after ≠ []) :
    exchange.isUpdate = false ∧ exchange.fault? id = none := by
  cases attempt with
  | unread =>
    obtain _ | ⟨_, _ | ⟨_, _⟩⟩ := before <;> cases split
    exact absurd rfl further
  | illegal refused =>
    obtain _ | ⟨_, _ | ⟨_, _ | ⟨_, _⟩⟩⟩ := before <;> cases split
    · exact ⟨rfl, rfl⟩
    · exact absurd rfl further
  | handed planned =>
    obtain _ | ⟨_, _ | ⟨_, _ | ⟨_, _ | ⟨_, _⟩⟩⟩⟩ := before <;> cases split
    · exact ⟨rfl, rfl⟩
    · exact ⟨rfl, rfl⟩
    · exact absurd rfl further

/-- An attempt that did not come to an update that was accepted has changed nothing. -/
theorem writes_attempt {log : Log} {result : Except Failure (Except StoreError Conversion)}
    (attempt : Attempts id step log result) (vain : ∀ updated, result ≠ .ok (.ok updated)) :
    log.writes = [] := by
  cases attempt with
  | unread | illegal _ => rfl
  | @handed _ _ _ _ _ _ answer _ =>
    cases answer with
    | error failure => rfl
    | ok updated => exact absurd rfl (vain updated)

theorem within_attempt {log : Log} {result : Except Failure (Except StoreError Conversion)}
    (attempt : Attempts id step log result) :
    ∀ exchange ∈ log, exchange.request = .store (.get id) ∨ exchange.request = .wallClock
      ∨ ∃ patch, exchange.request = .store (.update id patch) := by
  cases attempt <;> simp

theorem few_attempt {log : Log} {result : Except Failure (Except StoreError Conversion)}
    (attempt : Attempts id step log result) : log.countP Exchange.isUpdate ≤ 1 := by
  cases attempt with
  | unread | illegal _ => exact Nat.zero_le 1
  | handed _ => exact Nat.le_refl 1

/-- A step that ends with an attempt is accounted for by it. -/
theorem account_of_attempt {log : Log} {most : Nat}
    {answer : Except Failure (Except StoreError Conversion)} {result : Except Failure Conversion}
    (attempt : Attempts id step log answer) (room : 1 ≤ most)
    (taken : ∀ updated, result = .ok updated → answer = .ok (.ok updated))
    (refused : ∀ failure, result = .error failure → answer = .error failure
      ∨ ∃ error, answer = .ok (.error error) ∧ failure = .ofStore error) :
    Account id step most log result where
  within := within_attempt attempt
  few := Nat.le_trans (few_attempt attempt) room
  planned := by
    intro before after moment patch given split
    obtain ⟨-, -, read, clock, now, seen, rfl, planned⟩ := attempt_split attempt split
    exact ⟨[], read, clock, now, seen, rfl, planned⟩
  onward := by
    intro before exchange after split further met
    obtain ⟨update, fault⟩ := attempt_onward attempt split further
    rw [update, fault] at met
    obtain ⟨⟨⟩⟩ | ⟨_, ⟨⟩⟩ := met
  taken := by
    intro updated done
    obtain rfl := taken updated done
    obtain _ | _ | planned := attempt
    exact ⟨[_, _], _, _, rfl, rfl⟩
  refused := by
    intro failure reported
    rcases refused failure reported with rfl | ⟨error, rfl, rfl⟩
    · refine ⟨writes_attempt attempt (by simp), ?_⟩
      cases attempt with
      | unread => exact .inr ⟨[], _, _, rfl, if_pos rfl, rfl⟩
      | illegal illegal => exact .inl ⟨[], _, _, _, _, _, rfl, illegal, rfl⟩
    · refine ⟨writes_attempt attempt (by simp), ?_⟩
      obtain _ | _ | planned := attempt
      exact .inr ⟨[_, _], _, _, rfl, if_pos rfl, rfl⟩

theorem append_split {first rest before after : Log} {exchange : Exchange}
    (split : first ++ rest = before ++ exchange :: after) :
    (∃ late, before = first ++ late ∧ rest = late ++ exchange :: after)
      ∨ ∃ part, first = before ++ exchange :: part ∧ after = part ++ rest := by
  rcases List.append_eq_append_iff.1 split with ⟨late, early, later⟩ | ⟨part, early, later⟩
  · exact .inl ⟨late, early, later⟩
  · cases part with
    | nil =>
      rw [List.append_nil] at early
      exact .inl ⟨[], by rw [early, List.append_nil], later.symm⟩
    | cons head part =>
      cases later
      exact .inr ⟨part, early, rfl⟩

theorem Account.again {first rest : Log} {most : Nat} {other : ConversionId}
    {expected actual : Status} {result : Except Failure Conversion}
    (attempt : Attempts id step first (.ok (.error (.statusConflict other expected actual))))
    (more : Account id step most rest result) :
    Account id step (most + 1) (first ++ rest) result where
  within exchange member :=
    (List.mem_append.1 member).elim (within_attempt attempt exchange) (more.within exchange)
  few := by
    rw [List.countP_append, Nat.add_comm]
    exact Nat.add_le_add more.few (few_attempt attempt)
  planned := by
    intro before after moment patch answer split
    rcases append_split split with ⟨late, rfl, later⟩ | ⟨part, own, -⟩
    · obtain ⟨earlier, read, clock, now, seen, rfl, planned⟩ := more.planned _ _ _ _ _ later
      exact ⟨first ++ earlier, read, clock, now, seen, (List.append_assoc _ _ _).symm, planned⟩
    · obtain ⟨-, -, read, clock, now, seen, rfl, planned⟩ := attempt_split attempt own
      exact ⟨[], read, clock, now, seen, rfl, planned⟩
  onward := by
    intro before exchange after split further met
    rcases append_split split with ⟨late, rfl, later⟩ | ⟨part, own, rfl⟩
    · exact more.onward _ _ _ later further met
    · cases part with
      | nil =>
        -- The update that was refused is the last exchange of the attempt.
        obtain _ | _ | planned := attempt
        obtain _ | ⟨_, _ | ⟨_, _ | ⟨_, _ | ⟨_, _⟩⟩⟩⟩ := before <;> cases own
        exact ⟨rfl, other, expected, actual, if_pos rfl⟩
      | cons next part =>
        obtain ⟨update, fault⟩ := attempt_onward attempt own (List.cons_ne_nil _ _)
        rw [update, fault] at met
        obtain ⟨⟨⟩⟩ | ⟨_, ⟨⟩⟩ := met
  taken := by
    intro updated done
    obtain ⟨before, moment, patch, rfl, writes⟩ := more.taken updated done
    refine ⟨first ++ before, moment, patch, (List.append_assoc _ _ _).symm, ?_⟩
    rw [Log.writes_append, writes_attempt attempt (by simp), writes]
    rfl
  refused := by
    intro failure reported
    obtain ⟨writes, reason⟩ := more.refused failure reported
    rw [Log.writes_append, writes_attempt attempt (by simp), writes]
    refine ⟨rfl, ?_⟩
    rcases reason with
      ⟨before, read, clock, now, seen, refusal, rfl, illegal⟩ | ⟨before, last, error, rfl, answered⟩
    · exact .inl ⟨first ++ before, read, clock, now, seen, refusal,
        (List.append_assoc _ _ _).symm, illegal⟩
    · exact .inr ⟨first ++ before, last, error, (List.append_assoc _ _ _).symm, answered⟩

theorem account_of_tries {left : Nat} {log : Log} {result : Except Failure Conversion}
    (tries : Tries id step left log result) : Account id step (left + 1) log result := by
  induction tries with
  | failed attempt =>
    refine account_of_attempt attempt (Nat.le_add_left 1 _) (by simp) fun failure reported => ?_
    exact .inl (congrArg Except.error (Except.error.inj reported))
  | taken attempt =>
    refine account_of_attempt attempt (Nat.le_add_left 1 _) (fun updated same => ?_) (by simp)
    exact congrArg (Except.ok ∘ Except.ok) (Except.ok.inj same)
  | refused attempt =>
    refine account_of_attempt attempt (Nat.le_add_left 1 _) (by simp) fun failure reported => ?_
    exact .inr ⟨_, rfl, (Except.error.inj reported).symm⟩
  | again attempt more ih => exact ih.again attempt

theorem account_transition {log : Log} {result : Except Failure Conversion}
    (yields : (Service.transition id step).Yields log result) :
    Account id step maxPlans log result :=
  account_of_tries (Service.tries_transition yields)

end Faults

end TryOn
