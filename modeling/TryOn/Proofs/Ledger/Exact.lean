import TryOn.Proofs.Interleaving.Play
import TryOn.Proofs.Ledger.Told

/-! The sinks as an exact ledger. Whatever was done, in whatever order, once no operation is under
way the audit trail, the notices and the counters agree with what has become of the conversions. -/

set_option autoImplicit false

namespace TryOn

open Interleaving Ledger

def Write.completed? (write : Write) : Option Conversion :=
  write.ended?.bind fun last => if last.1 = .completed then some last.2 else none

def Interleaving.History.completions (history : History) : List Conversion :=
  history.writes.filterMap Write.completed?

namespace Ledger

variable {setting : Setting} {terms : Quota.Terms} {scene : Scene} {id : ConversionId}
  {conversion : Conversion}

theorem Ending.eq_completed_iff {source target : Status} {ending : Ending}
    (between : Ending.between? source target = some ending) :
    ending = .completed ↔ target = .completed := by
  cases source <;> cases target <;> simp [Ending.between?] at between <;> subst between <;> simp

theorem Ended.eq_completed_iff {ending : Ending} {last : Conversion}
    (ended : Ended setting terms scene id ending last) :
    ending = .completed ↔ last.status = .completed := by
  obtain ⟨_, _, _, -, -, -, -, -, between⟩ := ended
  exact Ending.eq_completed_iff between

section Counters

/-- Events that go with one kind of action: with the creation or with an end, or with neither. -/
structure GoWith (counted : MetricEvent → Bool) (action : AuditAction) : Prop where
  rejected : ∀ reason, counted (.rejected reason) = false
  updated : action ≠ .updated
  deleted : action ≠ .deleted
  created : counted .started = decide (AuditAction.created = action)
  ended : ∀ (ending : Ending) (last : Conversion),
    (ending.event? last).any counted = decide (ending.action = action)

theorem GoWith.due {counted : MetricEvent → Bool} {action : AuditAction}
    (goWith : GoWith counted action) (run : Run setting (.opened terms) scene) {due : Due}
    (owed : due ∈ scene.history.dues) :
    due.event.any counted = decide (due.deed.1 = action) := by
  obtain ⟨_, -, edit | same | same | ⟨ending, last, same, -⟩⟩ := due_cases run owed
  · simp [edit.1, edit.2.2, goWith.updated.symm]
  · rw [same]
    exact goWith.created
  · rw [same]
    simp [removed, goWith.deleted.symm]
  · rw [same]
    exact goWith.ended ending last

theorem Balanced.countP_events (balanced : Balanced scene) (run : Run setting (.opened terms) scene)
    {events : List MetricEvent} {refusals : List String}
    (perm : events.Perm (scene.history.dues.filterMap Due.event ++ refusals.map .rejected))
    {counted : MetricEvent → Bool} {action : AuditAction} (goWith : GoWith counted action) :
    events.countP counted = scene.history.sinks.trail.countP (·.action = action) := by
  -- Those turned away are counted apart; of the rest, each event goes with its own action.
  have refused : (refusals.map MetricEvent.rejected).countP counted = 0 := by
    rw [List.countP_map, List.countP_eq_zero]
    exact fun reason _ => by simp [goWith.rejected]
  have owed : (scene.history.dues.filterMap Due.event).countP counted
      = (scene.history.dues.map Due.deed).countP fun deed => deed.1 = action := by
    rw [List.countP_filterMap, List.countP_map]
    refine List.countP_congr fun due member => ?_
    have same := goWith.due run member
    cases event : due.event <;> simp_all
  rw [perm.countP_eq, List.countP_append, refused, Nat.add_zero, owed,
    ← balanced.deeds.countP_eq, List.countP_map]
  rfl

theorem count_rejected (run : Run setting (.opened terms) scene) {events : List MetricEvent}
    {refusals : List String}
    (perm : events.Perm (scene.history.dues.filterMap Due.event ++ refusals.map .rejected))
    (reason : String) : events.count (.rejected reason) = refusals.count reason := by
  have none : (scene.history.dues.filterMap Due.event).count (.rejected reason) = 0 := by
    refine List.count_eq_zero.2 fun counted => ?_
    obtain ⟨due, owed, event⟩ := List.mem_filterMap.1 counted
    obtain ⟨_, -, edit | same | same | ⟨ending, last, same, -⟩⟩ := due_cases run owed
    · rw [edit.2.2] at event
      cases event
    · rw [same] at event
      cases event
    · rw [same] at event
      cases event
    · rw [same] at event
      cases ending <;> cases event
  rw [perm.count_eq, List.count_append, none, Nat.zero_add]
  exact List.count_map_of_injective _ _ (fun _ _ => MetricEvent.rejected.inj) _

theorem sum_filterMap {α : Type} (look : α → Option Nat) (items : List α) :
    (items.filterMap look).sum = (items.map fun item => (look item).getD 0).sum := by
  induction items with
  | nil => rfl
  | cons item items ih => cases found : look item <;> simp [found, ih]

def spent (conversion : Conversion) : Nat := conversion.processingMillis.getD 0

theorem millis_of_mem (run : Run setting (.opened terms) scene) {write : Write}
    (member : write ∈ scene.history.writes) :
    (((write.due?.bind Due.event).map MetricEvent.millis).getD 0)
      = (write.completed?.map spent).getD 0 := by
  obtain ⟨conversion, once⟩ := exists_once_of_mem run member
  have about : write ∈ scene.history.about write.subject := List.mem_filter.2 ⟨member, by simp⟩
  rcases once.life.mem_cases about with
    ⟨draft, moment, same⟩ | ⟨stored, patch, same, lawful, expected, named⟩ | ⟨expected, same⟩
  · rw [same]
    rfl
  · rcases commit_cases lawful expected named with ⟨ending, ended, due, -⟩ | ⟨unended, edit, -⟩
    · rw [same, Write.completed?, ended, due]
      cases ending <;> rfl
    · rw [same, Write.completed?, unended]
      cases owed : (Write.commit write.subject patch (stored.apply patch)).due? with
      | none => rfl
      | some due =>
        rw [edit due owed]
        rfl
  · rw [same]
    rfl

theorem sum_millis (run : Run setting (.opened terms) scene) {events : List MetricEvent}
    {refusals : List String}
    (perm : events.Perm (scene.history.dues.filterMap Due.event ++ refusals.map .rejected)) :
    (events.map MetricEvent.millis).sum = (scene.history.completions.map spent).sum := by
  have refused : ((refusals.map MetricEvent.rejected).map MetricEvent.millis).sum = 0 := by
    rw [List.map_map]
    exact List.sum_eq_zero fun millis member => by
      obtain ⟨_, -, rfl⟩ := List.mem_map.1 member
      rfl
  have owed : ((scene.history.dues.filterMap Due.event).map MetricEvent.millis).sum
      = (scene.history.completions.map spent).sum := by
    rw [History.dues, History.completions, List.filterMap_filterMap, List.map_filterMap,
      List.map_filterMap, sum_filterMap, sum_filterMap]
    exact congrArg List.sum (List.map_congr_left fun write member => millis_of_mem run member)
  rw [(perm.map _).sum_eq, List.map_append, List.sum_append, refused, Nat.add_zero, owed]

end Counters

section Completions

theorem completed?_eq_some_iff {write : Write} :
    write.completed? = some conversion ↔ write.ended? = some (.completed, conversion) := by
  cases ended : write.ended? with
  | none => simp [Write.completed?, ended]
  | some last =>
    obtain ⟨ending, other⟩ := last
    cases ending <;> simp [Write.completed?, ended]

theorem mem_completions_iff (run : Run setting (.opened terms) scene) :
    conversion ∈ scene.history.completions
      ↔ Once setting terms scene conversion.id conversion ∧ conversion.status = .completed := by
  constructor
  · intro member
    obtain ⟨write, inside, completed⟩ := List.mem_filterMap.1 member
    have last := completed?_eq_some_iff.1 completed
    have about : write ∈ scene.history.about write.subject :=
      List.mem_filter.2 ⟨inside, by simp⟩
    have ended : Ended setting terms scene write.subject .completed conversion :=
      (ended_iff run).2 (List.mem_filterMap.2 ⟨write, about, last⟩)
    exact ⟨ended.once.named ▸ ended.once, ended.eq_completed_iff.1 rfl⟩
  · rintro ⟨once, completed⟩
    have terminal : conversion.isTerminal = true := by
      rw [Conversion.isTerminal, completed]
      rfl
    obtain ⟨ending, ended⟩ := once.ended terminal
    obtain rfl := ended.eq_completed_iff.2 completed
    obtain ⟨write, about, last⟩ := List.mem_filterMap.1 ((ended_iff run).1 ended)
    exact List.mem_filterMap.2
      ⟨write, (List.mem_filter.1 about).1, completed?_eq_some_iff.2 last⟩

theorem length_endings_le (run : Run setting (.opened terms) scene) (id : ConversionId) :
    ((scene.history.about id).filterMap Write.ended?).length ≤ 1 := by
  rcases lived_of_run run id with ⟨none, -⟩ | ⟨user, life⟩
  · rw [none]
    exact Nat.zero_le 1
  · exact life.accounts.once

theorem nodup_completions (run : Run setting (.opened terms) scene) :
    (scene.history.completions.map Conversion.id).Nodup := by
  refine List.nodup_iff_count_le_one.2 fun id => ?_
  -- A completion of a conversion is one of its ends, and of those there is one at most.
  have its : scene.history.completions.filter (fun conversion => conversion.id == id)
      = ((scene.history.about id).filterMap Write.ended?).filterMap fun last =>
        if last.1 = .completed then some last.2 else none := by
    rw [History.completions, History.about, List.filter_filterMap, List.filterMap_filterMap,
      List.filterMap_filter]
    refine List.filterMap_congr fun write member => ?_
    show _ = if decide (write.subject = id) then write.completed? else none
    cases completed : write.completed? with
    | none => simp
    | some conversion =>
      have about : write ∈ scene.history.about write.subject :=
        List.mem_filter.2 ⟨member, by simp⟩
      have ended : Ended setting terms scene write.subject .completed conversion :=
        (ended_iff run).2 (List.mem_filterMap.2 ⟨write, about, completed?_eq_some_iff.1 completed⟩)
      rw [Option.filter_some, ended.once.named]
      rfl
  rw [List.count_eq_countP, List.countP_map, List.countP_eq_length_filter]
  show (scene.history.completions.filter fun conversion => conversion.id == id).length ≤ 1
  rw [its]
  exact (List.length_filterMap_le _ _).trans (length_endings_le run id)

end Completions

structure Counted (setting : Setting) (terms : Quota.Terms) (scene : Scene) : Prop where
  started : scene.history.sinks.metrics.started
    = scene.history.sinks.trail.countP (·.action = .created)
  completed : scene.history.sinks.metrics.completed
    = scene.history.sinks.trail.countP (·.action = .completed)
  failed : scene.history.sinks.metrics.failed
    = scene.history.sinks.trail.countP (·.action = .failed)
  /-- The time that was spent on all that were ever completed, whether they are there or not. -/
  millis : ∃ records : List Conversion, (records.map Conversion.id).Nodup
    ∧ (∀ conversion, conversion ∈ records
      ↔ Once setting terms scene conversion.id conversion ∧ conversion.status = .completed)
    ∧ scene.history.sinks.metrics.processingMillis
      = (records.map fun record => record.processingMillis.getD 0).sum % Nat.pow 2 64
  /-- Under each code, those who were turned away with it when they were to make a conversion. -/
  rejected : ∀ reason, scene.history.sinks.metrics.rejectedFor reason
    = scene.tasks.countP fun task => task.rejection? = some reason

theorem Balanced.counted (balanced : Balanced scene) (run : Run setting (.opened terms) scene) :
    Counted setting terms scene := by
  obtain ⟨events, tells, perm⟩ := balanced.events
  refine ⟨tells.started.trans (balanced.countP_events run perm ?_),
    tells.completed.trans (balanced.countP_events run perm ?_),
    tells.failed.trans (balanced.countP_events run perm ?_), ?_, fun reason => ?_⟩
  · refine ⟨fun _ => rfl, AuditAction.noConfusion, AuditAction.noConfusion, rfl, ?_⟩
    rintro (_ | _ | _) last <;> rfl
  · refine ⟨fun _ => rfl, AuditAction.noConfusion, AuditAction.noConfusion, rfl, ?_⟩
    rintro (_ | _ | _) last <;> rfl
  · refine ⟨fun _ => rfl, AuditAction.noConfusion, AuditAction.noConfusion, rfl, ?_⟩
    rintro (_ | _ | _) last <;> rfl
  · refine ⟨scene.history.completions, nodup_completions run,
      fun conversion => mem_completions_iff run, ?_⟩
    rw [tells.millis, sum_millis run perm]
    rfl
  · rw [tells.rejected, count_rejected run perm, List.count_eq_countP, List.countP_filterMap]
    refine List.countP_congr fun task _ => ?_
    cases task.rejection? <;> simp

structure Exact (setting : Setting) (terms : Quota.Terms) (scene : Scene) : Prop where
  /-- Of every conversion that was ever made, neither more nor less is told than has happened. -/
  told : ∀ id conversion, Once setting terms scene id conversion →
    Told setting terms scene id conversion.user
  /-- What was ever stored as completed or failed has come to its end in just that way. -/
  ended : ∀ id conversion, Once setting terms scene id conversion →
    conversion.isTerminal = true → ∃ ending, Ended setting terms scene id ending conversion
      ∧ (ending = .completed ↔ conversion.status = .completed)
  /-- Nothing is told of any other conversion, nor of anybody but the owner. -/
  entry : ∀ entry ∈ scene.history.sinks.trail, ∃ conversion,
    Once setting terms scene entry.conversion conversion ∧ conversion.user = entry.user
  notice : ∀ notice ∈ scene.history.sinks.notices, ∃ conversion,
    Once setting terms scene notice.conversion conversion ∧ conversion.user = notice.user
  counted : Counted setting terms scene

/-- Once no operation is under way, the sinks are an exact ledger. -/
theorem exact_of_run {service : Service} (posts : service.sendsNotices = false)
    (run : Run (Processing.setting service) (.opened terms) scene) (settled : scene.IsSettled) :
    Exact (Processing.setting service) terms scene := by
  have balanced := balanced_of_run posts run settled
  exact {
    told := fun id conversion once => balanced.told run once
    ended := fun id conversion once terminal => by
      obtain ⟨ending, ended⟩ := once.ended terminal
      exact ⟨ending, ended, ended.eq_completed_iff⟩
    entry := fun entry member => balanced.once_of_entry run member
    notice := fun notice member => balanced.once_of_notice run member
    counted := balanced.counted run }

/-- Two conversions are made and a third is one too many. The first one is processed and deleted,
while the owner of the second one cancels it before a worker gets to it. -/
def day : Scene :=
  let user : UserId := ⟨.ofNat 1⟩
  let first : ConversionId := ⟨.ofNat 2⟩
  let second : ConversionId := ⟨.ofNat 3⟩
  let image : Image := ⟨⟨.ofNat 4⟩, .user user, .shown⟩
  let wish : AdmissionRequest := ⟨image.id, ⟨.ofNat 5⟩, none⟩
  let answers (task count : Nat) (id : ConversionId) : List Turn :=
    List.replicate count (.answer task ⟨0, 0⟩ id)
  let spare : ConversionId := ⟨.ofNat 6⟩
  Scene.play ⟨.ofFallback .standard, {}, false⟩ (obliging image ⟨.ofNat 7⟩) (.opened ⟨"free", 2⟩)
    (List.flatten
      [[.begin (.create user wish), .begin (.create user wish)],
        answers 0 6 first, answers 1 6 second, [.begin (.create user wish)],
        answers 2 10 spare, answers 0 10 spare, answers 1 10 spare,
        [.begin (.process first), .begin (.executeOne second), .begin (.cancel second user)],
        answers 4 1 spare, answers 5 10 spare, answers 3 30 spare, answers 4 10 spare,
        [.begin (.delete first user)], answers 6 10 spare])

theorem day_exact :
    let user : UserId := ⟨.ofNat 1⟩
    let setting := Processing.setting ⟨.ofFallback .standard, {}, false⟩
    Run setting (.opened ⟨"free", 2⟩) day ∧ day.IsSettled ∧ Exact setting ⟨"free", 2⟩ day
      ∧ day.history.sinks.entriesOf ⟨.ofNat 2⟩ (fun _ => true)
        = [(.created, user), (.completed, user), (.deleted, user)]
      ∧ day.history.sinks.entriesOf ⟨.ofNat 3⟩ (fun _ => true)
        = [(.created, user), (.cancelled, user)]
      ∧ day.history.sinks.metrics.rejectedFor "quota_exceeded" = 1 := by
  intro user setting
  have run : Run setting (.opened ⟨"free", 2⟩) day := by
    refine run_play fun operation begins => ?_
    simp only [List.flatten_cons, List.flatten_nil, List.mem_append, List.mem_replicate,
      List.mem_cons, Turn.begin.injEq, reduceCtorEq, List.not_mem_nil, and_false, or_false,
      false_or, or_assoc] at begins
    rcases begins with rfl | rfl | rfl | rfl | rfl | rfl | rfl <;> rfl
  have played : day.IsSettled
      ∧ day.history.sinks.entriesOf ⟨.ofNat 2⟩ (fun _ => true)
        = [(.created, user), (.completed, user), (.deleted, user)]
      ∧ day.history.sinks.entriesOf ⟨.ofNat 3⟩ (fun _ => true)
        = [(.created, user), (.cancelled, user)]
      ∧ day.history.sinks.metrics.rejectedFor "quota_exceeded" = 1 := by decide +kernel
  exact ⟨run, played.1, exact_of_run rfl run played.1, played.2⟩

end Ledger

end TryOn
