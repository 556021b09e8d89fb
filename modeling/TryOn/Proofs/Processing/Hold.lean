import TryOn.Proofs.Interleaving.Protocol
import TryOn.Proofs.Processing.Move
import TryOn.Proofs.Processing.Run

/-! The invariant of processing: a conversion is being processed exactly while some task holds it,
and whoever has taken it up either holds it or has left it with the outcome of its own work. -/

set_option autoImplicit false

namespace TryOn.Interleaving

def Event.starts (id : ConversionId) (event : Event) : Bool :=
  event.exchange.write?.any (·.starts id)

theorem Event.starts_iff {id : ConversionId} {event : Event} :
    event.starts id = true ↔ ∃ patch result,
      event.exchange.write? = some (.commit id patch result) ∧ patch.status = some .processing := by
  unfold starts
  cases event.exchange.write? with
  | none => simp
  | some write => cases write <;> simp [Write.starts, and_assoc]

namespace History

def StartedBy (history : History) (id : ConversionId) (task : Nat) : Prop :=
  ∃ event ∈ history, event.task = task ∧ event.starts id = true

def EndedBy (history : History) (id : ConversionId) (task : Nat) (ended : Conversion) : Prop :=
  ∃ event ∈ history, event.task = task ∧ ∃ patch, patch.expected = .processing
    ∧ event.exchange.write? = some (.commit id patch ended)

variable {history : History} {id : ConversionId} {task other : Nat}

theorem StartedBy.append (started : history.StartedBy id task) (more : History) :
    StartedBy (history ++ more) id task := by
  obtain ⟨event, member, same, starts⟩ := started
  exact ⟨event, List.mem_append_left _ member, same, starts⟩

theorem startedBy_concat_of_not_starts {event : Event} (apart : event.starts id = false) :
    StartedBy (history ++ [event]) id task ↔ history.StartedBy id task := by
  refine ⟨?_, fun started => started.append [event]⟩
  rintro ⟨found, member, same, starts⟩
  rcases List.mem_append.1 member with old | new
  · exact ⟨found, old, same, starts⟩
  · rw [List.mem_singleton.1 new, apart] at starts
    cases starts

theorem EndedBy.append {ended : Conversion} (by' : history.EndedBy id task ended)
    (more : History) : EndedBy (history ++ more) id task ended := by
  obtain ⟨event, member, same, step⟩ := by'
  exact ⟨event, List.mem_append_left _ member, same, step⟩

theorem task_eq_of_startedBy (once : history.countP (·.starts id) ≤ 1)
    (first : history.StartedBy id task) (second : history.StartedBy id other) : task = other := by
  obtain ⟨event, member, rfl, starts⟩ := first
  obtain ⟨event', member', rfl, starts'⟩ := second
  rw [List.countP_eq_length_filter] at once
  have inside := List.mem_filter.2 ⟨member, starts⟩
  have inside' := List.mem_filter.2 ⟨member', starts'⟩
  -- Both first steps are the only one that the history has.
  obtain ⟨only, same⟩ := List.length_eq_one_iff.1
    (Nat.le_antisymm once (List.length_pos_of_mem inside))
  rw [same] at inside inside'
  rw [List.mem_singleton.1 inside, List.mem_singleton.1 inside']

theorem startedBy_of_holding (held : (history.log task).holding = some id) :
    history.StartedBy id task := by
  obtain ⟨exchange, member, starts⟩ := Log.exists_starts_of_holding held
  exact ⟨⟨task, exchange⟩, mem_log_iff.1 member, rfl, starts⟩

theorem countP_starts_eq_zero (none : ∀ task, ¬ history.StartedBy id task) :
    history.countP (·.starts id) = 0 :=
  List.countP_eq_zero.2 fun event member starts => none event.task ⟨event, member, rfl, starts⟩

theorem holding_log_concat (history : History) (event : Event) (task : Nat) :
    (log (history ++ [event]) task).holding
      = if event.task = task then
          event.exchange.write?.elim (history.log task).holding
            (Write.passes (history.log task).holding)
        else (history.log task).holding := by
  by_cases same : event.task = task
  · subst same
    rw [if_pos rfl, log_concat_self, Log.holding_concat]
  · rw [if_neg same, log_concat_ne history same]

theorem mem_made_concat {event : Event} (member : id ∈ history.made) :
    id ∈ made (history ++ [event]) := by
  rw [made_concat]
  exact List.mem_append_left _ member

theorem processed_log_concat {service : Service} {outcome : Service.Outcome} {event : Event}
    (processed : (history.log task).Processed service id outcome) :
    (log (history ++ [event]) task).Processed service id outcome := by
  by_cases same : event.task = task
  · subst same
    rw [log_concat_self]
    exact processed.append [event.exchange]
  · rwa [log_concat_ne history same]

end History

end TryOn.Interleaving

namespace TryOn.Processing

open Interleaving

/-- How one conversion stands to the tasks that process it. -/
structure Hold (service : Service) (conversions : Table ConversionId Conversion)
    (history : History) (id : ConversionId) : Prop where
  stored : ∀ conversion, conversions.get? id = some conversion →
    id ∈ history.made ∧ conversion.id = id ∧ conversion.Consistent
  known : ∀ task, history.StartedBy id task → id ∈ history.made
  once : history.countP (·.starts id) ≤ 1
  held : ∀ task, (history.log task).holding = some id →
    ∃ conversion, conversions.get? id = some conversion ∧ conversion.status = .processing
  holder : ∀ conversion, conversions.get? id = some conversion →
    conversion.status = .processing → ∃ task, (history.log task).holding = some id
  ended : ∀ task, history.StartedBy id task → (history.log task).holding = some id
    ∨ ∃ outcome ended, history.EndedBy id task ended
      ∧ (history.log task).Processed service id outcome ∧ ended.Shows outcome
      ∧ ∀ conversion, conversions.get? id = some conversion → conversion = ended

namespace Hold

variable {service : Service} {before after : Table ConversionId Conversion} {history : History}
  {event : Event} {id : ConversionId}

theorem opened (service : Service) (id : ConversionId) : Hold service .empty [] id where
  stored _ present := by cases present
  known _ started := by obtain ⟨_, member, _⟩ := started; cases member
  once := Nat.zero_le 1
  held _ holds := by cases holds
  holder _ present := by cases present
  ended _ started := by obtain ⟨_, member, _⟩ := started; cases member

theorem of_untouched (hold : Hold service before history id)
    (same : after.get? id = before.get? id) (apart : event.starts id = false)
    (holders : ∀ task, (History.log (history ++ [event]) task).holding = some id
      ↔ (history.log task).holding = some id) :
    Hold service after (history ++ [event]) id where
  stored conversion present := by
    obtain ⟨made, rest⟩ := hold.stored conversion (same ▸ present)
    exact ⟨History.mem_made_concat made, rest⟩
  known task started :=
    History.mem_made_concat
      (hold.known task ((History.startedBy_concat_of_not_starts apart).1 started))
  once := by simpa [apart] using hold.once
  held task holds := same ▸ hold.held task ((holders task).1 holds)
  holder conversion present running := by
    obtain ⟨task, holds⟩ := hold.holder conversion (same ▸ present) running
    exact ⟨task, (holders task).2 holds⟩
  ended task started := by
    rcases hold.ended task ((History.startedBy_concat_of_not_starts apart).1 started) with
      holds | ⟨outcome, ended, step, processed, showing, kept⟩
    · exact .inl ((holders task).2 holds)
    · exact .inr ⟨outcome, ended, step.append [event], History.processed_log_concat processed,
        showing, same ▸ kept⟩

theorem free_of_pending (hold : Hold service before history id) {stored : Conversion}
    (present : before.get? id = some stored) (pending : stored.status = .pending) (task : Nat) :
    (history.log task).holding ≠ some id ∧ ¬ history.StartedBy id task := by
  have free : (history.log task).holding ≠ some id := by
    intro holds
    obtain ⟨conversion, found, running⟩ := hold.held task holds
    obtain rfl : stored = conversion := Option.some.inj (present.symm.trans found)
    rw [pending] at running
    cases running
  refine ⟨free, fun started => ?_⟩
  rcases hold.ended task started with holds | ⟨outcome, ended, -, -, showing, kept⟩
  · exact free holds
  · have terminal := showing.isTerminal
    rw [← kept stored present, pending] at terminal
    cases terminal

theorem of_still (hold : Hold service before history id) (same : after = before)
    (still : event.exchange.write? = none) : Hold service after (history ++ [event]) id := by
  refine hold.of_untouched (same ▸ rfl) ?_ fun task => ?_
  · simp [Event.starts, still]
  · rw [History.holding_log_concat, still]
    split <;> rfl

theorem of_elsewhere {write : Write} (hold : Hold service before history id)
    (written : event.exchange.write? = some write)
    (moves : Moves service (history.log event.task) before write after)
    (elsewhere : write.subject ≠ id) : Hold service after (history ++ [event]) id := by
  have differ : id ≠ write.subject := fun same => elsewhere same.symm
  refine hold.of_untouched ?_ ?_ fun task => ?_
  · cases moves with
    | creation _ | edit _ _ _ _ _ | start _ _ _ _ _ | finish _ _ _ _ _ _ _ _ =>
      exact Table.get?_insert_ne _ _ differ
    | deletion _ _ => exact Table.get?_erase_ne _ differ
  · cases write <;> simp_all [Event.starts, Write.starts, Write.subject]
  · rw [History.holding_log_concat, written]
    split
    · rename_i own
      subst own
      cases moves with
      | creation _ | deletion _ _ => rfl
      | edit _ _ expected apart _ => simp [Write.passes, expected, apart]
      | start _ _ idle status _ => simpa [Write.passes, Write.subject, idle, status] using elsewhere
      | finish _ _ held expected leaves _ _ _ =>
        simpa [Write.passes, Write.subject, held, expected, leaves] using elsewhere
    · rfl

theorem of_unknown (unknown : ∀ task, ¬ history.StartedBy id task)
    (free : ∀ task, (history.log task).holding ≠ some id)
    (stored : ∀ conversion, after.get? id = some conversion →
      (id ∈ history.made ∧ conversion.id = id ∧ conversion.Consistent)
        ∧ conversion.status ≠ .processing) : Hold service after history id where
  stored conversion present := (stored conversion present).1
  known task started := absurd started (unknown task)
  once := by
    rw [History.countP_starts_eq_zero unknown]
    exact Nat.zero_le 1
  held task holds := absurd holds (free task)
  holder conversion present running := absurd running (stored conversion present).2
  ended task started := absurd started (unknown task)

theorem of_creation {draft : Draft} {moment : Timestamp} (hold : Hold service before history id)
    (written : event.exchange.write? = some (.creation id draft moment))
    (checked : draft.check = .ok ()) (fresh : id ∉ history.made) :
    Hold service (before.insert id (.ofDraft id draft moment)) (history ++ [event]) id := by
  have apart : event.starts id = false := by simp [Event.starts, written, Write.starts]
  have unknown (task : Nat) : ¬ History.StartedBy (history ++ [event]) id task := fun started =>
    fresh (hold.known task ((History.startedBy_concat_of_not_starts apart).1 started))
  have free (task : Nat) : (History.log (history ++ [event]) task).holding ≠ some id := by
    rw [History.holding_log_concat, written]
    intro holds
    refine fresh (hold.known task (History.startedBy_of_holding ?_))
    split at holds <;> exact holds
  refine of_unknown unknown free fun conversion present => ?_
  obtain rfl := Table.eq_of_get?_insert_self present
  refine ⟨⟨?_, rfl, Conversion.consistent_ofDraft id draft moment ?_⟩, fun running => ?_⟩
  · rw [History.made_concat, written]
    exact List.mem_append_right _ List.mem_cons_self
  · exact (Draft.images_style_of_check checked).1
  · cases running

theorem of_edit {patch : Patch} {stored : Conversion} (hold : Hold service before history id)
    (written : event.exchange.write? = some (.commit id patch (stored.apply patch)))
    (present : before.get? id = some stored) (pending : stored.status = .pending)
    (expected : patch.expected = .pending) (apart : patch.status ≠ some .processing)
    (consistent : (stored.apply patch).Consistent) :
    Hold service (before.insert id (stored.apply patch)) (history ++ [event]) id := by
  have noStart : event.starts id = false := by simp [Event.starts, written, Write.starts, apart]
  obtain ⟨made, named, -⟩ := hold.stored stored present
  have unknown (task : Nat) : ¬ History.StartedBy (history ++ [event]) id task := fun started =>
    (hold.free_of_pending present pending task).2
      ((History.startedBy_concat_of_not_starts noStart).1 started)
  have free (task : Nat) : (History.log (history ++ [event]) task).holding ≠ some id := by
    rw [History.holding_log_concat, written]
    have before := (hold.free_of_pending present pending task).1
    split
    · simpa [Write.passes, expected, apart] using before
    · exact before
  refine of_unknown unknown free fun conversion present => ?_
  obtain rfl := Table.eq_of_get?_insert_self present
  refine ⟨⟨History.mem_made_concat made, named, consistent⟩, fun running => ?_⟩
  cases status : patch.status with
  | none =>
    have same : (stored.apply patch).status = stored.status := by simp [Conversion.apply, status]
    rw [same, pending] at running
    cases running
  | some next =>
    have same : (stored.apply patch).status = next := by simp [Conversion.apply, status]
    exact apart (status.trans (congrArg some (same.symm.trans running)))

theorem of_start {patch : Patch} {stored : Conversion} (hold : Hold service before history id)
    (written : event.exchange.write? = some (.commit id patch (stored.apply patch)))
    (present : before.get? id = some stored) (pending : stored.status = .pending)
    (status : patch.status = some .processing) (consistent : (stored.apply patch).Consistent) :
    Hold service (before.insert id (stored.apply patch)) (history ++ [event]) id := by
  obtain ⟨made, named, -⟩ := hold.stored stored present
  have starts : event.starts id = true := by simp [Event.starts, written, Write.starts, status]
  have running : (stored.apply patch).status = .processing := by simp [Conversion.apply, status]
  have mine : (History.log (history ++ [event]) event.task).holding = some id := by
    rw [History.holding_log_concat, if_pos rfl, written]
    exact if_pos status
  have started (task : Nat) (by' : History.StartedBy (history ++ [event]) id task) :
      task = event.task := by
    obtain ⟨found, member, rfl, took⟩ := by'
    rcases List.mem_append.1 member with old | new
    · exact absurd ⟨found, old, rfl, took⟩ (hold.free_of_pending present pending found.task).2
    · rw [List.mem_singleton.1 new]
  -- Nobody has taken it up before, or it would not be pending any more.
  have fresh : history.countP (·.starts id) = 0 :=
    History.countP_starts_eq_zero fun task => (hold.free_of_pending present pending task).2
  exact {
    stored := by
      intro conversion present
      obtain rfl := Table.eq_of_get?_insert_self present
      exact ⟨History.mem_made_concat made, named, consistent⟩
    known := fun task _ => History.mem_made_concat made
    once := by simp [fresh, starts]
    held := fun task _ => ⟨_, Table.get?_insert_self _ _ _, running⟩
    holder := fun _ _ _ => ⟨event.task, mine⟩
    ended := fun task by' => .inl (started task by' ▸ mine) }

theorem of_finish {patch : Patch} {stored : Conversion} {outcome : Service.Outcome}
    (hold : Hold service before history id)
    (written : event.exchange.write? = some (.commit id patch (stored.apply patch)))
    (present : before.get? id = some stored) (holds : (history.log event.task).holding = some id)
    (expected : patch.expected = .processing) (leaves : patch.status ≠ some .processing)
    (processed : (history.log event.task).Processed service id outcome)
    (showing : (stored.apply patch).Shows outcome)
    (consistent : (stored.apply patch).Consistent) :
    Hold service (before.insert id (stored.apply patch)) (history ++ [event]) id := by
  obtain ⟨made, named, -⟩ := hold.stored stored present
  have noStart : event.starts id = false := by simp [Event.starts, written, Write.starts, leaves]
  -- The one who held it has passed it on to nobody, and nobody else can have held it.
  have free (task : Nat) : (History.log (history ++ [event]) task).holding ≠ some id := by
    rw [History.holding_log_concat, written]
    split
    · simp [Write.passes, leaves, expected]
    · rename_i other
      intro too
      exact other (History.task_eq_of_startedBy hold.once (History.startedBy_of_holding holds)
        (History.startedBy_of_holding too))
  have started (task : Nat) (by' : History.StartedBy (history ++ [event]) id task) :
      task = event.task :=
    History.task_eq_of_startedBy hold.once
      ((History.startedBy_concat_of_not_starts noStart).1 by') (History.startedBy_of_holding holds)
  exact {
    stored := by
      intro conversion present
      obtain rfl := Table.eq_of_get?_insert_self present
      exact ⟨History.mem_made_concat made, named, consistent⟩
    known := fun task _ => History.mem_made_concat made
    once := by simpa [noStart] using hold.once
    held := fun task too => absurd too (free task)
    holder := by
      intro conversion present running
      obtain rfl := Table.eq_of_get?_insert_self present
      have terminal := showing.isTerminal
      rw [running] at terminal
      cases terminal
    ended := fun task by' => by
      obtain rfl := started task by'
      refine .inr ⟨outcome, stored.apply patch, ?_, History.processed_log_concat processed,
        showing, ?_⟩
      · exact ⟨event, List.mem_append_right _ List.mem_cons_self, rfl, patch, expected, written⟩
      · exact fun conversion present => Table.eq_of_get?_insert_self present }

theorem of_deletion {stored : Conversion} {expected : Status}
    (hold : Hold service before history id)
    (written : event.exchange.write? = some (.deletion id expected))
    (present : before.get? id = some stored) (apart : stored.status ≠ .processing) :
    Hold service (before.erase id) (history ++ [event]) id := by
  obtain ⟨made, -, -⟩ := hold.stored stored present
  have noStart : event.starts id = false := by simp [Event.starts, written, Write.starts]
  have free (task : Nat) : (History.log (history ++ [event]) task).holding ≠ some id := by
    rw [History.holding_log_concat, written]
    intro holds
    have holds : (history.log task).holding = some id := by split at holds <;> exact holds
    obtain ⟨conversion, found, running⟩ := hold.held task holds
    obtain rfl : stored = conversion := Option.some.inj (present.symm.trans found)
    exact apart running
  exact {
    stored := by simp
    known := fun task _ => History.mem_made_concat made
    once := by simpa [noStart] using hold.once
    held := fun task too => absurd too (free task)
    holder := by simp
    ended := fun task started => by
      -- Who has taken it up cannot hold it any more, or it would not have been removed.
      rcases hold.ended task ((History.startedBy_concat_of_not_starts noStart).1 started) with
        holds | ⟨outcome, ended, step, processed, showing, -⟩
      · obtain ⟨conversion, found, running⟩ := hold.held task holds
        obtain rfl : stored = conversion := Option.some.inj (present.symm.trans found)
        exact absurd running apart
      · exact .inr ⟨outcome, ended, step.append [event], History.processed_log_concat processed,
          showing, by simp⟩ }

/-- Whatever a task may do, the hold on every conversion stays in order. -/
theorem of_moves {write : Write} (hold : Hold service before history id)
    (written : event.exchange.write? = some write)
    (moves : Moves service (history.log event.task) before write after)
    (fresh : ∀ id, write.made? = some id → id ∉ history.made) :
    Hold service after (history ++ [event]) id := by
  -- A change bears on its subject alone, and for that each kind of change has its lemma.
  by_cases here : write.subject = id
  · subst here
    cases moves with
    | creation checked => exact hold.of_creation written checked (fresh _ rfl)
    | edit present pending expected apart consistent =>
      exact hold.of_edit written present pending expected apart consistent
    | start present pending _ status consistent =>
      exact hold.of_start written present pending status consistent
    | finish present _ holds expected leaves processed showing consistent =>
      exact hold.of_finish written present holds expected leaves processed
        (showing (hold.stored _ present).2.2) consistent
    | deletion present apart => exact hold.of_deletion written present apart
  · exact hold.of_elsewhere written moves here

end Hold

end TryOn.Processing
