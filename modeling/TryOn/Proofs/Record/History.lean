import TryOn.Proofs.Interleaving.Play
import TryOn.Proofs.Interleaving.Trace
import TryOn.Proofs.Record.Origin

/-! The history of a record. However the operations interleave, a stored record is sound, remains
the record of one draft, goes forward only, and once it is done is read as it is until it is
deleted. -/

set_option autoImplicit false

namespace TryOn

open Interleaving

namespace Interleaving.History

variable {history : History} {event : Event} {id : ConversionId} {record : Conversion}

def Deletes (history : History) (id : ConversionId) : Prop :=
  ∃ event ∈ history, ∃ expected, event.exchange.write? = some (.deletion id expected)

theorem Deletes.append (deletes : history.Deletes id) (more : History) :
    Deletes (history ++ more) id := by
  obtain ⟨event, member, deletion⟩ := deletes
  exact ⟨event, List.mem_append_left _ member, deletion⟩

/-- A record is read, and shown, as it is given throughout a history, until it is deleted. -/
structure Shows (history : History) (id : ConversionId) (record : Conversion) : Prop where
  read : ∀ before event after, history = before ++ event :: after →
    ∀ found, event.exchange.read? = some (id, found) →
      found = .ok record ∨ (Deletes before id ∧ found = .error (.notFound id))
  shown : ∀ event ∈ history, ∀ other ∈ event.exchange.shown, other.id = id → other = record

theorem Shows.concat (shows : history.Shows id record)
    (read : ∀ found, event.exchange.read? = some (id, found) →
      found = .ok record ∨ (history.Deletes id ∧ found = .error (.notFound id)))
    (shown : ∀ other ∈ event.exchange.shown, other.id = id → other = record) :
    Shows (history ++ [event]) id record where
  read before other after split found asked := by
    rcases split_concat split with ⟨rfl, rfl⟩ | ⟨rest, earlier, -⟩
    · exact read found asked
    · exact shows.read before other rest earlier found asked
  shown other member conversion inside same := by
    rcases List.mem_append.1 member with old | new
    · exact shows.shown other old conversion inside same
    · obtain rfl := List.mem_singleton.1 new
      exact shown conversion inside same

end Interleaving.History

namespace Record

variable {service : Service} {terms : Quota.Terms} {id : ConversionId} {record : Conversion}

namespace Kept

variable {store next : Store} {history : History} {event : Event}

/-- What becomes of a stored record: it stays, or a lawful patch is applied to it that was made for
its status, or it is deleted. -/
theorem fate (kept : Kept store.conversions history)
    (permits : Permits (history.log event.task) event.exchange.request)
    (admitted : (setting service).Admits history event.exchange)
    (reacts : store.Reacts event.exchange next)
    (present : store.conversions.get? id = some record) :
    next.conversions.get? id = some record
      ∨ (∃ patch, patch.IsLawful ∧ record.status = patch.expected
        ∧ (∀ status, patch.status = some status → record.status.canBecome status = true)
        ∧ next.conversions.get? id = some (record.apply patch))
      ∨ (event.exchange.write? = some (.deletion id record.status)
        ∧ next.conversions.get? id = none) := by
  rcases reacts.conversions with ⟨-, same⟩ | ⟨write, written, applies⟩
  · exact .inl (same ▸ present)
  · rcases applies.became present with
      still | made | ⟨patch, result, rfl, found, expected, patched⟩ | ⟨rfl, gone⟩
    · exact .inl still
    · obtain ⟨origin, known, -⟩ := kept.stored id record present
      have new := admitted.fresh id (by rw [written]; exact made)
      exact absurd (History.mem_made_of_origin? known) new
    · rw [Exchange.request_of_commit written] at permits
      obtain ⟨moves, -, rfl⟩ := Store.patched_eq_ok_iff.1 patched
      exact .inr (.inl ⟨patch, permits.1, expected, moves, found⟩)
    · exact .inr (.inr ⟨written, gone⟩)

theorem fate_of_isTerminal (kept : Kept store.conversions history)
    (permits : Permits (history.log event.task) event.exchange.request)
    (admitted : (setting service).Admits history event.exchange)
    (reacts : store.Reacts event.exchange next)
    (present : store.conversions.get? id = some record) (terminal : record.isTerminal = true) :
    next.conversions.get? id = some record
      ∨ (event.exchange.write? = some (.deletion id record.status)
        ∧ next.conversions.get? id = none) := by
  rcases kept.fate permits admitted reacts present with
    still | ⟨patch, lawful, expected, -, -⟩ | deleted
  · exact .inl still
  · have active := lawful.isTerminal_expected
    rw [← expected, ← Conversion.isTerminal, terminal] at active
    cases active
  · exact .inr deleted

theorem shown (kept : Kept store.conversions history) (reacts : store.Reacts event.exchange next)
    {other : Conversion} (inside : other ∈ event.exchange.shown) :
    store.conversions.get? other.id = some other := by
  obtain ⟨key, present⟩ := reacts.shown inside
  rw [kept.id_eq (kept.stored key other present)]
  exact present

end Kept

def Lasts (id : ConversionId) (record : Conversion) (scene later : Scene) : Prop :=
  ∃ more : History, later.history = scene.history ++ more ∧ more.Shows id record
    ∧ (later.store.conversions.get? id = some record
      ∨ (more.Deletes id ∧ later.store.conversions.get? id = none))

structure WellKept (service : Service) (scene : Scene) : Prop where
  sound : ∀ id record, scene.store.conversions.get? id = some record →
    record.id = id ∧ record.Sound
  /-- A record stays the record of the same draft. -/
  identity : ∀ later, Run (setting service) scene later → ∀ id record other,
    scene.store.conversions.get? id = some record →
    later.store.conversions.get? id = some other → other.SameIdentity record
  /-- A change of status goes forward. -/
  forward : ∀ next, Step (setting service) scene next → ∀ id record other,
    scene.store.conversions.get? id = some record →
    next.store.conversions.get? id = some other →
    other.status = record.status ∨ record.status.rank < other.status.rank
  /-- A record that is done is read as it is, until it is deleted. -/
  final : ∀ later, Run (setting service) scene later → ∀ id record,
    scene.store.conversions.get? id = some record → record.isTerminal = true →
    Lasts id record scene later

section

variable {scene later : Scene}

theorem Lasts.step {next : Scene} (lasts : Lasts id record scene later)
    (orderly : (protocol service terms).Orderly later) (made : id ∈ later.history.made)
    (terminal : record.isTerminal = true) (step : Step (setting service) later next) :
    Lasts id record scene next := by
  obtain ⟨more, extended, shows, stands⟩ := lasts
  rcases orderly.step_cases step with
    ⟨sameStore, sameHistory⟩ | ⟨operation, event, longer, permits, admitted, reacts⟩
  · exact ⟨more, sameHistory.trans extended, shows, sameStore ▸ stands⟩
  · have kept : Kept later.store.conversions later.history := orderly.invariant
    -- What is read or shown is what was stored just before, and that is the record or nothing.
    refine ⟨more ++ [event], by rw [longer, extended, List.append_assoc], ?_, ?_⟩
    · refine shows.concat (fun found read => ?_) fun other inside same => ?_
      · rw [reacts.read read, Store.get]
        rcases stands with present | ⟨deleted, absent⟩
        · exact .inl (by rw [present])
        · exact .inr ⟨deleted, by rw [absent]⟩
      · have stored := kept.shown reacts inside
        rw [same] at stored
        rcases stands with present | ⟨-, absent⟩
        · exact Option.some.inj (stored.symm.trans present)
        · simp [absent] at stored
    · rcases stands with present | ⟨deleted, absent⟩
      · rcases kept.fate_of_isTerminal permits admitted reacts present terminal with
          still | ⟨written, gone⟩
        · exact .inl still
        · exact .inr ⟨⟨event, by simp, _, written⟩, gone⟩
      · exact .inr ⟨deleted.append _, absent_of_made admitted reacts made absent⟩

theorem lasts_of_run (start : Run (setting service) (.opened terms) scene)
    (run : Run (setting service) scene later)
    (present : scene.store.conversions.get? id = some record)
    (terminal : record.isTerminal = true) : Lasts id record scene later := by
  have orderly : (protocol service terms).Orderly scene := Protocol.orderly_of_run start
  have kept : Kept scene.store.conversions scene.history := orderly.invariant
  obtain ⟨origin, known, -⟩ := kept.stored id record present
  induction run with
  | refl =>
    refine ⟨[], (List.append_nil _).symm, ⟨fun before event after split => ?_, ?_⟩, .inl present⟩
    · simp at split
    · simp
  | tail sofar step ih =>
    obtain ⟨more, extended⟩ := exists_history_of_run sofar
    have orderly : (protocol service terms).Orderly _ := Protocol.orderly_of_run (start.trans sofar)
    refine ih.step orderly ?_ terminal step
    rw [extended]
    exact History.mem_made_of_origin? (History.origin?_append known more)

theorem sameIdentity_of_run (start : Run (setting service) (.opened terms) scene)
    (run : Run (setting service) scene later) {other : Conversion}
    (before : scene.store.conversions.get? id = some record)
    (after : later.store.conversions.get? id = some other) : other.SameIdentity record := by
  have orderly : (protocol service terms).Orderly scene := Protocol.orderly_of_run start
  have orderlyLater : (protocol service terms).Orderly later :=
    Protocol.orderly_of_run (start.trans run)
  have kept : Kept scene.store.conversions scene.history := orderly.invariant
  have keptLater : Kept later.store.conversions later.history := orderlyLater.invariant
  -- Both records go back to the creation that the longer history tells of.
  obtain ⟨more, extended⟩ := exists_history_of_run run
  have derives := (kept.stored id record before).append more
  rw [← extended] at derives
  exact (keptLater.stored id other after).sameIdentity derives

theorem forward_of_step {next : Scene} (orderly : (protocol service terms).Orderly scene)
    (step : Step (setting service) scene next) {other : Conversion}
    (before : scene.store.conversions.get? id = some record)
    (after : next.store.conversions.get? id = some other) :
    other.status = record.status ∨ record.status.rank < other.status.rank := by
  have kept : Kept scene.store.conversions scene.history := orderly.invariant
  rcases orderly.step_cases step with
    ⟨same, -⟩ | ⟨operation, event, -, permits, admitted, reacts⟩
  · rw [same, before] at after
    exact .inl (congrArg Conversion.status (Option.some.inj after)).symm
  · rcases kept.fate permits admitted reacts before with
      still | ⟨patch, -, -, moves, found⟩ | ⟨-, gone⟩
    · exact .inl (congrArg Conversion.status (Option.some.inj (still.symm.trans after))).symm
    · obtain rfl := Option.some.inj (found.symm.trans after)
      exact (Conversion.status_apply moves).imp_right Status.rank_lt_of_canBecome
    · simp [gone] at after

/-- Records are well kept in every scene that can be reached. -/
theorem records_well_kept (run : Run (setting service) (.opened terms) scene) :
    WellKept service scene := by
  have orderly : (protocol service terms).Orderly scene := Protocol.orderly_of_run run
  have kept : Kept scene.store.conversions scene.history := orderly.invariant
  refine ⟨?_, ?_, ?_, ?_⟩
  · intro id record present
    exact ⟨kept.id_eq (kept.stored id record present), kept.sound id record present⟩
  · intro later goesOn id record other before after
    exact sameIdentity_of_run run goesOn before after
  · intro next step id record other before after
    exact forward_of_step orderly step before after
  · intro later goesOn id record present terminal
    exact lasts_of_run run goesOn present terminal

end

/-- Two edits of one record and a run for it: the edit that was planned first is applied after the
other one, and the run takes up what came of both. -/
def edited : Scene :=
  let user : UserId := ⟨.ofNat 1⟩
  let id : ConversionId := ⟨.ofNat 2⟩
  let image : Image := ⟨⟨.ofNat 3⟩, .user user, .shown⟩
  let answers (task count : Nat) (second : Int) : List Turn :=
    List.replicate count (.answer task ⟨second, 0⟩ ⟨.ofNat 5⟩)
  Scene.play ⟨.ofFallback .standard, {}, false⟩ (obliging image ⟨.ofNat 6⟩) (.opened ⟨"free", 1⟩)
    ([.begin (.create user ⟨image.id, ⟨.ofNat 4⟩, none⟩)]
      ++ List.replicate 6 (.answer 0 ⟨0, 0⟩ id)
      ++ [.begin (.update id user (some "oil")), .begin (.update id user (some "ink")),
        .begin (.process id)]
      ++ answers 1 2 1 ++ answers 2 3 2 ++ answers 1 1 3 ++ answers 3 11 4)

theorem edited_lasts :
    let id : ConversionId := ⟨.ofNat 2⟩
    let setting := setting ⟨.ofFallback .standard, {}, false⟩
    Run setting (.opened ⟨"free", 1⟩) edited
      ∧ (edited.store.conversions.get? id).map (fun record => (record.status, record.style))
        = some (.completed, some "oil")
      ∧ ∀ later, Run setting edited later →
        later.store.conversions.get? id = edited.store.conversions.get? id
          ∨ later.store.conversions.get? id = none := by
  intro id setting
  have run : Run setting (.opened ⟨"free", 1⟩) edited := run_play fun _ _ => trivial
  have shown : (edited.store.conversions.get? id).map (fun record => (record.status, record.style))
      = some (.completed, some "oil") := by decide +kernel
  refine ⟨run, shown, fun later goesOn => ?_⟩
  obtain ⟨record, present, same⟩ := Option.map_eq_some_iff.1 shown
  have terminal : record.isTerminal = true := by
    rw [Conversion.isTerminal, (Prod.mk.inj same).1]
    rfl
  obtain ⟨-, -, -, stands | ⟨-, gone⟩⟩ :=
    (records_well_kept run).final later goesOn id record present terminal
  · exact .inl (stands.trans present.symm)
  · exact .inr gone

end Record

end TryOn
