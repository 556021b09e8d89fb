import TryOn.Proofs.Interleaving.Protocol
import TryOn.Proofs.Record.Conduct

/-! Every record goes back to its creation. The history tells what each record was when it was
made, and that much of it is still the same wherever it is stored and wherever it was read. -/

set_option autoImplicit false

namespace TryOn

open Interleaving

namespace Write

def origin? (id : ConversionId) : Write → Option Conversion
  | .creation made draft moment => if made = id then some (.ofDraft made draft moment) else none
  | .commit _ _ _ | .deletion _ _ => none

theorem made?_of_origin? {write : Write} {id : ConversionId} {origin : Conversion}
    (made : write.origin? id = some origin) : write.made? = some id := by
  cases write with
  | creation other draft moment =>
    simp only [origin?] at made
    split at made
    · rename_i same
      exact congrArg some same
    · cases made
  | commit _ _ _ | deletion _ _ => cases made

end Write

namespace Interleaving.History

def origin? (history : History) (id : ConversionId) : Option Conversion :=
  history.writes.findSome? (Write.origin? id)

theorem origin?_concat (history : History) (event : Event) (id : ConversionId) :
    origin? (history ++ [event]) id
      = (history.origin? id).or (event.exchange.write?.bind (Write.origin? id)) := by
  rw [origin?, writes_concat, List.findSome?_append]
  cases event.exchange.write? <;> simp [origin?]

theorem origin?_append {history : History} {id : ConversionId} {origin : Conversion}
    (made : history.origin? id = some origin) (more : History) :
    origin? (history ++ more) id = some origin := by
  unfold origin? at made ⊢
  rw [writes, List.filterMap_append, List.findSome?_append, ← writes, made]
  rfl

theorem mem_made_of_origin? {history : History} {id : ConversionId} {origin : Conversion}
    (made : history.origin? id = some origin) : id ∈ history.made := by
  obtain ⟨write, member, origin⟩ := List.exists_of_findSome?_eq_some made
  exact List.mem_filterMap.2 ⟨write, member, Write.made?_of_origin? origin⟩

/-- The record is one of those that go back to a creation. -/
def Derives (history : History) (id : ConversionId) (conversion : Conversion) : Prop :=
  ∃ origin, history.origin? id = some origin ∧ conversion.SameIdentity origin

theorem Derives.append {history : History} {id : ConversionId} {conversion : Conversion}
    (derives : history.Derives id conversion) (more : History) :
    Derives (history ++ more) id conversion := by
  obtain ⟨origin, made, same⟩ := derives
  exact ⟨origin, origin?_append made more, same⟩

theorem Derives.sameIdentity {history : History} {id : ConversionId} {first second : Conversion}
    (left : history.Derives id first) (right : history.Derives id second) :
    first.SameIdentity second := by
  obtain ⟨origin, made, same⟩ := left
  obtain ⟨_, again, same'⟩ := right
  obtain rfl := Option.some.inj (made.symm.trans again)
  exact same.trans same'.symm

end Interleaving.History

namespace Record

structure Kept (conversions : Table ConversionId Conversion) (history : History) : Prop where
  sound : ∀ id stored, conversions.get? id = some stored → stored.Sound
  stored : ∀ id stored, conversions.get? id = some stored → history.Derives id stored
  seen : ∀ event ∈ history, ∀ id seen, event.exchange.read? = some (id, .ok seen) →
    history.Derives id seen
  origin : ∀ id origin, history.origin? id = some origin →
    origin.id = id ∧ ∃ event ∈ history, event.exchange.moment = origin.createdAt

namespace Kept

variable {before after : Table ConversionId Conversion} {history : History} {event : Event}
  {id : ConversionId}

theorem opened : Kept .empty [] where
  sound id stored present := by simp at present
  stored id stored present := by simp at present
  seen event member := by cases member
  origin id origin made := by cases made

theorem createdAt_le (kept : Kept before history) {conversion : Conversion} {moment : Timestamp}
    (derives : history.Derives id conversion)
    (onward : ∀ event ∈ history, event.exchange.moment ≤ moment) :
    conversion.createdAt ≤ moment := by
  obtain ⟨origin, made, same⟩ := derives
  obtain ⟨-, event, member, moment⟩ := kept.origin id origin made
  rw [same.createdAt, ← moment]
  exact onward event member

theorem id_eq (kept : Kept before history) {conversion : Conversion}
    (derives : history.Derives id conversion) : conversion.id = id := by
  obtain ⟨origin, made, same⟩ := derives
  exact same.id.trans (kept.origin id origin made).1

theorem seen_concat (kept : Kept before history) {store next : Store}
    (same : store.conversions = before) (reacts : store.Reacts event.exchange next) :
    ∀ other ∈ history ++ [event], ∀ id seen, other.exchange.read? = some (id, .ok seen) →
      History.Derives (history ++ [event]) id seen := by
  intro other member id seen read
  rcases List.mem_append.1 member with old | new
  · exact (kept.seen other old id seen read).append _
  · obtain rfl := List.mem_singleton.1 new
    have present := Store.get_eq_ok_iff.1 (reacts.read read).symm
    rw [same] at present
    exact (kept.stored id seen present).append _

theorem origin_concat (kept : Kept before history) :
    ∀ id origin, History.origin? (history ++ [event]) id = some origin →
      origin.id = id ∧ ∃ other ∈ history ++ [event], other.exchange.moment = origin.createdAt := by
  intro id origin made
  rw [History.origin?_concat] at made
  cases old : history.origin? id with
  | some earlier =>
    obtain rfl : earlier = origin := by simpa [old] using made
    obtain ⟨named, event, member, moment⟩ := kept.origin id earlier old
    exact ⟨named, event, List.mem_append_left _ member, moment⟩
  | none =>
    rw [old, Option.none_or] at made
    obtain ⟨write, written, made⟩ := Option.bind_eq_some_iff.1 made
    cases write with
    | creation other draft moment =>
      simp only [Write.origin?] at made
      split at made
      · obtain rfl := Option.some.inj made
        exact ⟨‹_›, event, by simp, (Exchange.request_of_creation written).2⟩
      · cases made
    | commit _ _ _ | deletion _ _ => cases made

/-- A permitted change keeps the records sound and leads none away from its origin. -/
theorem stored_concat (kept : Kept before history) {write : Write}
    (permits : Permits (history.log event.task) event.exchange.request)
    (written : event.exchange.write? = some write) (applies : write.Applies before after)
    (fresh : ∀ id, write.made? = some id → id ∉ history.made) {stored : Conversion}
    (present : after.get? id = some stored) :
    stored.Sound ∧ History.Derives (history ++ [event]) id stored := by
  rcases applies.came present with
    old | ⟨draft, moment, rfl, rfl⟩ | ⟨patch, earlier, rfl, found, expected, patched⟩
  · exact ⟨kept.sound id stored old, (kept.stored id stored old).append _⟩
  · obtain ⟨asked, -⟩ := Exchange.request_of_creation written
    rw [asked] at permits
    refine ⟨.ofDraft id moment permits, .ofDraft id draft moment, ?_, .refl _⟩
    have new : history.origin? id = none := by
      cases old : history.origin? id with
      | none => rfl
      | some origin => exact absurd (History.mem_made_of_origin? old) (fresh id rfl)
    rw [History.origin?_concat, new, written]
    simp [Write.origin?]
  · rw [Exchange.request_of_commit written] at permits
    obtain ⟨lawful, seen, ⟨exchange, member, read, -⟩, earlier⟩ := permits
    obtain ⟨-, -, rfl⟩ := Store.patched_eq_ok_iff.1 patched
    -- The record that was read may be an older one, but was made at the same moment.
    have derives := kept.stored id _ found
    have same := derives.sameIdentity
      (kept.seen _ (History.mem_log_iff.1 member) id seen read)
    refine ⟨(kept.sound id _ found).apply lawful expected ?_, ?_⟩
    · rw [same.createdAt]
      exact earlier
    · obtain ⟨origin, made, same⟩ := derives.append [event]
      exact ⟨origin, made, (Conversion.sameIdentity_apply _ _).trans same⟩

theorem concat (kept : Kept before history) {store next : Store}
    (same : store.conversions = before)
    (permits : Permits (history.log event.task) event.exchange.request)
    (fresh : ∀ id, event.exchange.write?.bind Write.made? = some id → id ∉ history.made)
    (reacts : store.Reacts event.exchange next) :
    Kept next.conversions (history ++ [event]) := by
  subst same
  have both : ∀ id stored, next.conversions.get? id = some stored →
      stored.Sound ∧ History.Derives (history ++ [event]) id stored := by
    intro id stored present
    rcases reacts.conversions with ⟨-, unchanged⟩ | ⟨write, written, applies⟩
    · rw [unchanged] at present
      exact ⟨kept.sound id stored present, (kept.stored id stored present).append _⟩
    · refine kept.stored_concat permits written applies (fun made new => ?_) present
      exact fresh made (by rw [written]; exact new)
  exact {
    sound := fun id stored present => (both id stored present).1
    stored := fun id stored present => (both id stored present).2
    seen := kept.seen_concat rfl reacts
    origin := kept.origin_concat }

end Kept

/-- Everything may be asked of the service, and its clock does not go back. -/
def setting (service : Service) : Setting where
  service := service
  offers _ := True
  clockForward := true

theorem relies_of_kept {service : Service} {store next : Store} {history : History} {event : Event}
    (kept : Kept store.conversions history)
    (admitted : (setting service).Admits history event.exchange)
    (reacts : store.Reacts event.exchange next) :
    Relies (history.log event.task) event.exchange where
  onward earlier member := admitted.onward rfl _ (History.mem_log_iff.1 member)
  clock time told := reacts.clock told
  made id seen read := by
    have present := Store.get_eq_ok_iff.1 (reacts.read read).symm
    exact kept.createdAt_le (kept.stored id seen present) (admitted.onward rfl)

def protocol (service : Service) (terms : Quota.Terms) : Protocol (setting service) terms where
  conduct _ := conduct
  settles _ _ _ := True
  invariant store history := Kept store.conversions history
  kept operation _ := by
    refine Program.Keeps.mono (upholds_action service operation []) fun log result _ => ?_
    trivial
  opened := .opened
  preserved kept _ permits admitted reacts :=
    ⟨relies_of_kept kept admitted reacts, kept.concat rfl permits admitted.fresh reacts⟩

end Record

end TryOn
