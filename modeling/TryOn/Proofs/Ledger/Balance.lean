import TryOn.Proofs.Interleaving.Trace
import TryOn.Proofs.Ledger.Story
import TryOn.Proofs.Processing.AtMostOnce

/-! The sinks against the changes. For each change it is said what has to be told of it; once no
operation is under way, that is what has been told, neither more nor less. -/

set_option autoImplicit false

namespace TryOn

open Interleaving

@[simp] def AuditEntry.deed (entry : AuditEntry) : AuditAction × ConversionId :=
  (entry.action, entry.conversion)

structure Due where
  deed : AuditAction × ConversionId
  notice : Option Notice := none
  event : Option MetricEvent := none

/-- Only of the first step of processing nothing has to be told. -/
def Write.due? : Write → Option Due
  | .creation id draft _ =>
    some ⟨(.created, id), some ⟨id, draft.user, .started, none⟩, some .started⟩
  | .commit id patch result =>
    match patch.status with
    | none => some ⟨(.updated, id), none, none⟩
    | some .completed =>
      some ⟨(.completed, id), some (Service.noticeOf result .completed),
        some (.completed (patch.processingMillis.getD 0))⟩
    | some .failed =>
      if patch.expected = .pending then
        some ⟨(.cancelled, id), some (Service.noticeOf result .failed), none⟩
      else some ⟨(.failed, id), some (Service.noticeOf result .failed), some .failed⟩
    | some .pending | some .processing => none
  | .deletion id _ => some ⟨(.deleted, id), none, none⟩

namespace Mark

@[simp] def deed? (mark : Mark) : Option (AuditAction × ConversionId) :=
  mark.entry?.map AuditEntry.deed

@[simp] def due? (mark : Mark) : Option Due :=
  mark.change?.bind Write.due?

end Mark

namespace Ledger

section Dues

variable {id : ConversionId} {current result : Conversion} {now : Timestamp} {patch : Patch}

theorem due?_start (planned : current.plan .start now = .ok patch) :
    (Write.commit id patch result).due? = none := by
  obtain ⟨-, status, -⟩ := Conversion.plan_guard planned
  simp [Write.due?, status, Transition.target]

theorem due?_complete {image : ImageId} {millis : Nat}
    (planned : current.plan (.complete image millis) now = .ok patch) :
    (Write.commit id patch result).due?
      = some ⟨(.completed, id), some (Service.noticeOf result .completed),
        some (.completed millis)⟩ := by
  obtain ⟨-, status, -⟩ := Conversion.plan_guard planned
  simp [Write.due?, status, Conversion.millis_of_plan_complete planned, Transition.target]

theorem due?_fail {text : String} (planned : current.plan (.fail text) now = .ok patch) :
    (Write.commit id patch result).due?
      = some ⟨(.failed, id), some (Service.noticeOf result .failed), some .failed⟩ := by
  obtain ⟨expected, status, allowed⟩ := Conversion.plan_guard planned
  have running : patch.expected = .processing := expected.trans (beq_iff_eq.1 allowed)
  simp [Write.due?, status, running, Transition.target]

theorem due?_cancel (planned : current.plan .cancel now = .ok patch) :
    (Write.commit id patch result).due?
      = some ⟨(.cancelled, id), some (Service.noticeOf result .failed), none⟩ := by
  obtain ⟨expected, status, allowed⟩ := Conversion.plan_guard planned
  have pending : patch.expected = .pending := expected.trans (beq_iff_eq.1 allowed)
  simp [Write.due?, status, pending, Transition.target]

theorem due?_restyle {style : Option String} (restyled : Patch.restyle style now = .ok patch) :
    (Write.commit id patch result).due? = some ⟨(.updated, id), none, none⟩ := by
  obtain ⟨rfl, -⟩ := Patch.restyle_eq_ok restyled
  rfl

end Dues

section Stories

variable {log : Log} {code : Option String} {marks : List Mark}

structure Fits (code : Option String) (marks : List Mark) : Prop where
  deeds : marks.filterMap Mark.deed? = marks.filterMap fun mark => mark.due?.map Due.deed
  notices : marks.filterMap Mark.notice? = marks.filterMap fun mark => mark.due?.bind Due.notice
  events : marks.filterMap Mark.count?
    = (marks.filterMap fun mark => mark.due?.bind Due.event)
      ++ (code.map MetricEvent.rejected).toList

theorem Story.fits (story : Story log code marks) : Fits code marks := by
  cases story with
  | nothing | refused _ | created _ _ _ _ _ | deleted _ _ _ _ => exact ⟨rfl, rfl, rfl⟩
  | updated result date metadata owned restyled =>
    constructor <;> simp [List.filterMap_cons, due?_restyle restyled]
  | cancelled result date metadata owned planned =>
    constructor <;> simp [List.filterMap_cons, due?_cancel planned]
  | started result planned =>
    constructor <;> simp [List.filterMap_cons, due?_start planned]
  | completed result ended date metadata begins ends =>
    constructor <;> simp [List.filterMap_cons, due?_start begins, due?_complete ends]
  | failed result ended date metadata begins ends =>
    constructor <;> simp [List.filterMap_cons, due?_start begins, due?_fail ends]

end Stories

/-- An exchange that tells whom a conversion belongs to: it was read, made or changed. -/
inductive Attests (id : ConversionId) (user : UserId) : Exchange → Prop
  | read {exchange : Exchange} {seen : Conversion} (read : exchange.read? = some (id, .ok seen))
    (own : seen.user = user) : Attests id user exchange
  | creation {exchange : Exchange} {draft : Draft} {moment : Timestamp}
    (written : exchange.write? = some (.creation id draft moment)) (own : draft.user = user) :
    Attests id user exchange
  | commit {exchange : Exchange} {patch : Patch} {result : Conversion}
    (written : exchange.write? = some (.commit id patch result)) (own : result.user = user) :
    Attests id user exchange

theorem mem_of_change {log : Log} {write : Write} (member : .change write ∈ log.marks) :
    ∃ exchange ∈ log, exchange.write? = some write := by
  obtain ⟨exchange, inside, left⟩ := List.mem_filterMap.1 member
  exact ⟨exchange, inside, by rw [← exchange.mark?_bind_change?, left]; rfl⟩

theorem Story.attests {log : Log} {code : Option String} (story : Story log code log.marks)
    {entry : AuditEntry} (member : .entry entry ∈ log.marks) :
    ∃ exchange ∈ log, Attests entry.conversion entry.user exchange := by
  have changed {write : Write} (member : .change write ∈ log.marks) := mem_of_change member
  generalize log.marks = marks at story member changed
  cases story with
  | nothing | refused _ | started _ _ => simp at member
  | created id draft moment date metadata =>
    obtain rfl : entry = _ := by simpa using member
    obtain ⟨exchange, inside, written⟩ := changed List.mem_cons_self
    exact ⟨exchange, inside, .creation written rfl⟩
  | updated _ _ _ owned _ | cancelled _ _ _ owned _ | deleted _ _ _ owned =>
    obtain rfl : entry = _ := by simpa using member
    obtain ⟨exchange, inside, seen, read, own⟩ := owned
    exact ⟨exchange, inside, .read read own⟩
  | completed _ _ _ _ _ _ | failed _ _ _ _ _ _ =>
    obtain rfl : entry = _ := by simpa using member
    obtain ⟨exchange, inside, written⟩ := changed (List.mem_cons_of_mem _ List.mem_cons_self)
    exact ⟨exchange, inside, .commit written rfl⟩

end Ledger

namespace Interleaving

def Scene.IsSettled (scene : Scene) : Prop :=
  ∀ task ∈ scene.tasks, ∃ result, task.rest = .done result

instance (scene : Scene) : Decidable scene.IsSettled :=
  decidable_of_iff (∀ task ∈ scene.tasks, task.rest.isDone = true)
    (forall₂_congr fun _ _ => Program.isDone_iff)

def History.dues (history : History) : List Due :=
  history.writes.filterMap Write.due?

theorem History.dues_eq (history : History) :
    history.dues = history.marks.filterMap Mark.due? := by
  rw [dues, writes_eq, List.filterMap_filterMap]
  rfl

end Interleaving

namespace Ledger

variable {service : Service} {terms : Quota.Terms} {scene : Scene}

/-- The sinks have what is due, though perhaps in another order. -/
structure Balanced (scene : Scene) : Prop where
  deeds : (scene.history.sinks.trail.map AuditEntry.deed).Perm (scene.history.dues.map Due.deed)
  notices : scene.history.sinks.notices.Perm (scene.history.dues.filterMap Due.notice)
  events : ∃ events, scene.history.sinks.metrics.Tells events
    ∧ events.Perm (scene.history.dues.filterMap Due.event
      ++ (scene.tasks.filterMap Task.rejection?).map .rejected)
  attested : ∀ entry ∈ scene.history.sinks.trail, ∃ event ∈ scene.history,
    Attests entry.conversion entry.user event.exchange

theorem story_of_run (posts : service.sendsNotices = false)
    (run : Run (Processing.setting service) (.opened terms) scene) (settled : scene.IsSettled)
    {index : Nat} {task : Task} (present : scene.tasks[index]? = some task) :
    Story (scene.history.log index) task.rejection? (scene.history.log index).marks := by
  have orderly : (Processing.protocol service terms).Orderly scene := Protocol.orderly_of_run run
  obtain ⟨bare, -⟩ := orderly.kept index task present
  have comes := comes_of_run run index task present
  obtain ⟨operation, rest⟩ := task
  obtain ⟨result, rfl⟩ : ∃ result, rest = .done result :=
    settled ⟨operation, rest⟩ (List.mem_of_getElem? present)
  exact story_of_yields posts bare comes.yields

theorem flatMap_range_getElem? {α β : Type} (items : List α) (look : α → Option β) :
    ((List.range items.length).flatMap fun index => (items[index]?.bind look).toList)
      = items.filterMap look := by
  induction items with
  | nil => rfl
  | cons item items ih =>
    rw [List.length_cons, List.range_succ_eq_map, List.flatMap_cons, List.flatMap_map]
    simp only [List.getElem?_cons_succ, ih, List.getElem?_cons_zero, Option.bind_some]
    cases found : look item <;> simp [found]

theorem balanced_of_run (posts : service.sendsNotices = false)
    (run : Run (Processing.setting service) (.opened terms) scene) (settled : scene.IsSettled) :
    Balanced scene := by
  -- The order in which the tasks came to the sinks does not matter, so each is looked at alone.
  have begun := begun_of_run run
  have story (index : Nat) (within : index < scene.tasks.length) :
      Story (scene.history.log index) (scene.tasks[index]?.bind Task.rejection?)
        (scene.history.log index).marks := by
    have present := List.getElem?_eq_getElem within
    rw [present]
    exact story_of_run posts run settled present
  have sinks := scene.history.sinks_eq
  have trail : scene.history.sinks.trail = scene.history.marks.filterMap Mark.entry? := by
    rw [sinks]
  refine ⟨?_, ?_, ?_, ?_⟩
  · rw [trail, History.dues_eq, List.map_filterMap, List.map_filterMap]
    exact History.filterMap_marks_perm_of_eq begun fun index within =>
      (story index within).fits.deeds
  · rw [sinks, History.dues_eq, List.filterMap_filterMap]
    exact History.filterMap_marks_perm_of_eq begun fun index within =>
      (story index within).fits.notices
  · have tells : scene.history.sinks.metrics.Tells (scene.history.marks.filterMap Mark.count?) := by
      rw [sinks]
      exact Metrics.tells_foldl _
    refine ⟨_, tells, ?_⟩
    have refused : ((List.range scene.tasks.length).flatMap fun index =>
        ((scene.tasks[index]?.bind Task.rejection?).map MetricEvent.rejected).toList)
          = (scene.tasks.filterMap Task.rejection?).map .rejected := by
      rw [List.map_filterMap, ← flatMap_range_getElem?]
      simp only [Option.map_bind]
      rfl
    rw [History.dues_eq, List.filterMap_filterMap, ← refused]
    exact History.filterMap_marks_perm begun fun index within => (story index within).fits.events
  · intro entry member
    rw [trail] at member
    obtain ⟨mark, left, word⟩ := List.mem_filterMap.1 member
    obtain rfl : mark = .entry entry := by
      cases mark <;> cases word
      rfl
    obtain ⟨event, inside, its⟩ := List.mem_filterMap.1 left
    have told : .entry entry ∈ (scene.history.log event.task).marks :=
      List.mem_filterMap.2 ⟨event.exchange, History.mem_log_iff.2 inside, its⟩
    obtain ⟨exchange, asked, attests⟩ := (story event.task (begun event inside)).attests told
    exact ⟨_, History.mem_log_iff.1 asked, attests⟩

end Ledger

end TryOn
