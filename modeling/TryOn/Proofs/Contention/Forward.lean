import TryOn.Proofs.Contention.Lawful
import TryOn.Proofs.Interleaving.Protocol

/-! What every operation can rely on while others are at work. A status goes forward only, so one
that is told is never followed by an earlier one; and a request is refused for the reasons that a
lawful one can be refused for. -/

set_option autoImplicit false

namespace TryOn

open Interleaving (Operation Event Event.exchange Setting History Protocol)

def Status.ComesTo (status later : Status) : Prop :=
  later = status ∨ status.rank < later.rank

namespace Status

variable {first second third : Status}

theorem ComesTo.refl (status : Status) : status.ComesTo status := .inl rfl

theorem ComesTo.trans (left : first.ComesTo second) (right : second.ComesTo third) :
    first.ComesTo third := by
  rcases left with rfl | left
  · exact right
  · rcases right with rfl | right
    · exact .inr left
    · exact .inr (Nat.lt_trans left right)

theorem ComesTo.rank_lt (comes : first.ComesTo second) (differ : second ≠ first) :
    first.rank < second.rank :=
  comes.resolve_left differ

theorem ComesTo.rank_le (comes : first.ComesTo second) : first.rank ≤ second.rank := by
  rcases comes with rfl | later
  · exact Nat.le_refl _
  · exact Nat.le_of_lt later

theorem comesTo_of_patched {stored result : Conversion} {patch : Patch}
    (patched : Store.patched stored patch = .ok result) :
    stored.status.ComesTo result.status :=
  (Store.status_of_patched patched).imp_right rank_lt_of_canBecome

end Status

namespace Exchange

def refusal? : Exchange → Option (Store.Call × StoreError)
  | ⟨_, .store call, (.error failure : Except StoreError _)⟩ => some (call, failure)
  | ⟨_, .poll id _, (some (.error failure) : Option (Except StoreError Conversion))⟩ =>
    some (.get id, failure)
  | _ => none

/-- The status of a conversion as a read tells it, or an update that came too late. -/
def told? : Exchange → Option (ConversionId × Status)
  | ⟨_, .store (.get id), (.ok found : Except StoreError Conversion)⟩ => some (id, found.status)
  | ⟨_, .store (.update id _),
      (.error (.statusConflict _ _ actual) : Except StoreError Conversion)⟩ => some (id, actual)
  | _ => none

end Exchange

namespace Contention

structure Relies (log : Log) (exchange : Exchange) : Prop where
  refused : ∀ call failure, exchange.refusal? = some (call, failure) → call.Refuses failure
  forward : ∀ earlier ∈ log, ∀ id first second, earlier.told? = some (id, first) →
    exchange.told? = some (id, second) → first.ComesTo second

/-- Less was told before, so less is to be relied on. -/
theorem Relies.of_append {before part : Log} {exchange : Exchange}
    (relies : Relies (before ++ part) exchange) : Relies part exchange where
  refused := relies.refused
  forward earlier member := relies.forward earlier (List.mem_append_right _ member)

end Contention

namespace Store

variable {store next : Store} {exchange : Exchange}

theorem Reacts.refusal {call : Call} {failure : StoreError} (reacts : store.Reacts exchange next)
    (lawful : exchange.request.IsLawful)
    (consistent : ∀ id stored, store.conversions.get? id = some stored → stored.Consistent)
    (refused : exchange.refusal? = some (call, failure)) : call.Refuses failure := by
  obtain ⟨moment, request, answer⟩ := exchange
  cases request with
  | store asked =>
    obtain ⟨fresh, performed⟩ := reacts
    rcases answer with other | value
    · obtain ⟨rfl, rfl⟩ := Prod.mk.inj (Option.some.inj refused)
      exact refuses_of_perform lawful consistent (congrArg Prod.fst performed)
    · cases refused
  | poll id stop =>
    obtain ⟨-, rfl | rfl⟩ := reacts
    · cases refused
    · cases found : store.get id with
      | ok conversion => simp [Exchange.refusal?, found] at refused
      | error other =>
        obtain ⟨rfl, rfl⟩ : Call.get id = call ∧ other = failure := by
          simpa [Exchange.refusal?, found] using refused
        obtain rfl := get_eq_error found
        exact .missing rfl
  | _ => cases refused

theorem Reacts.told {id : ConversionId} {status : Status} (reacts : store.Reacts exchange next)
    (lawful : exchange.request.IsLawful)
    (consistent : ∀ id stored, store.conversions.get? id = some stored → stored.Consistent)
    (told : exchange.told? = some (id, status)) :
    ∃ stored, store.conversions.get? id = some stored ∧ stored.status = status := by
  obtain ⟨moment, request, answer⟩ := exchange
  cases request with
  | store call =>
    cases call with
    | get other =>
      rcases answer with failure | found
      · cases told
      · obtain ⟨rfl, rfl⟩ := Prod.mk.inj (Option.some.inj told)
        exact ⟨found, get_eq_ok_iff.1 (reacts.read rfl).symm, rfl⟩
    | update other patch =>
      obtain ⟨fresh, performed⟩ := reacts
      rcases answer with failure | updated
      · -- A lawful patch is refused for the status that is stored, or because there is no record.
        have guarded := update_eq_error lawful consistent (congrArg Prod.fst performed)
        rcases getExpecting_eq_error_iff.1 guarded with ⟨-, rfl⟩ | ⟨stored, present, -, rfl⟩
        · cases told
        · obtain ⟨rfl, rfl⟩ := Prod.mk.inj (Option.some.inj told)
          exact ⟨stored, present, rfl⟩
      · cases told
    | _ => cases told
  | _ => cases told

end Store

namespace Contention

structure Forward (store : Store) (history : History) : Prop where
  consistent : ∀ id stored, store.conversions.get? id = some stored → stored.Consistent
  made : ∀ id stored, store.conversions.get? id = some stored → id ∈ history.made
  told : ∀ event ∈ history, ∀ id status, event.exchange.told? = some (id, status) →
    id ∈ history.made
      ∧ ∀ stored, store.conversions.get? id = some stored → status.ComesTo stored.status

namespace Forward

variable {setting : Setting} {store next : Store} {history : History} {event : Event}
  {id : ConversionId}

theorem opened (terms : Quota.Terms) : Forward (.opened terms) [] where
  consistent id stored present := by simp [Store.opened] at present
  made id stored present := by simp [Store.opened] at present
  told event member := by cases member

/-- Where a stored conversion comes from: it was made just now, or was there with a status that
comes to its own. -/
theorem came (forward : Forward store history) (lawful : event.exchange.request.IsLawful)
    (reacts : store.Reacts event.exchange next) {later : Conversion}
    (present : next.conversions.get? id = some later) :
    later.Consistent
      ∧ (event.exchange.write?.bind Write.made? = some id
        ∨ ∃ stored, store.conversions.get? id = some stored
          ∧ stored.status.ComesTo later.status) := by
  rcases reacts.conversions with ⟨-, same⟩ | ⟨write, written, applies⟩
  · rw [same] at present
    exact ⟨forward.consistent id later present, .inr ⟨later, present, .refl _⟩⟩
  · rcases applies.came present with
      old | ⟨draft, moment, rfl, rfl⟩ | ⟨patch, stored, rfl, found, -, patched⟩
    · exact ⟨forward.consistent id later old, .inr ⟨later, old, .refl _⟩⟩
    · rw [(Exchange.request_of_creation written).1] at lawful
      have images := (Draft.images_style_of_check lawful).1
      exact ⟨Conversion.consistent_ofDraft id draft moment images, .inl (by rw [written]; rfl)⟩
    · have accepted := Store.patched_eq_ok_iff.1 patched
      exact ⟨accepted.2.2 ▸ accepted.2.1,
        .inr ⟨stored, found, Status.comesTo_of_patched patched⟩⟩

theorem comesTo_concat (forward : Forward store history) (lawful : event.exchange.request.IsLawful)
    (admitted : setting.Admits history event.exchange)
    (reacts : store.Reacts event.exchange next) {status : Status} (made : id ∈ history.made)
    (before : ∀ stored, store.conversions.get? id = some stored → status.ComesTo stored.status) :
    ∀ later, next.conversions.get? id = some later → status.ComesTo later.status := by
  intro later present
  obtain ⟨-, new | ⟨stored, found, comes⟩⟩ := forward.came lawful reacts present
  · -- An identifier that was made before is not made again.
    exact absurd made (admitted.fresh id new)
  · exact (before stored found).trans comes

theorem concat (forward : Forward store history) (lawful : event.exchange.request.IsLawful)
    (admitted : setting.Admits history event.exchange)
    (reacts : store.Reacts event.exchange next) : Forward next (history ++ [event]) where
  consistent id later present := (forward.came lawful reacts present).1
  made id later present := by
    rw [History.made_concat]
    obtain ⟨-, new | ⟨stored, found, -⟩⟩ := forward.came lawful reacts present
    · rw [new]
      exact List.mem_append_right _ List.mem_cons_self
    · exact List.mem_append_left _ (forward.made id stored found)
  told other member id status told := by
    rw [History.made_concat]
    rcases List.mem_append.1 member with old | new
    · obtain ⟨made, before⟩ := forward.told other old id status told
      exact ⟨List.mem_append_left _ made,
        forward.comesTo_concat lawful admitted reacts made before⟩
    · -- What is told just now is stored just now, and no later status has come between.
      obtain rfl := List.mem_singleton.1 new
      obtain ⟨stored, present, rfl⟩ := reacts.told lawful forward.consistent told
      have made := forward.made id stored present
      refine ⟨List.mem_append_left _ made,
        forward.comesTo_concat lawful admitted reacts made fun found there => ?_⟩
      obtain rfl := Option.some.inj (present.symm.trans there)
      exact .refl _

theorem relies (forward : Forward store history) (lawful : event.exchange.request.IsLawful)
    (reacts : store.Reacts event.exchange next) :
    Relies (history.log event.task) event.exchange where
  refused call failure refused := reacts.refusal lawful forward.consistent refused
  forward earlier member id first second before told := by
    obtain ⟨stored, present, rfl⟩ := reacts.told lawful forward.consistent told
    exact (forward.told _ (History.mem_log_iff.1 member) id first before).2 stored present

end Forward

def setting (service : Service) : Setting where
  service := service
  offers _ := True
  clockForward := false

def protocol (service : Service) (terms : Quota.Terms) : Protocol (setting service) terms where
  conduct _ := ⟨fun _ request => request.IsLawful, Relies⟩
  settles _ _ _ := True
  invariant := Forward
  kept operation _ := by
    refine Program.Asks.keeps (operation.lawful_action service) ?_ fun _ _ _ _ => trivial
    exact fun _ _ request lawful => lawful
  opened := .opened terms
  preserved forward _ lawful admitted reacts :=
    ⟨forward.relies lawful reacts, forward.concat lawful admitted reacts⟩

end Contention

end TryOn
