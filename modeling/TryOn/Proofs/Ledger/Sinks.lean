import Mathlib
import TryOn.Proofs.Interleaving.Scene
import TryOn.Simulation.World

/-! What the operations leave behind besides the conversions: an audit trail, notices and counters,
each kept in memory. What is found there at the end does not depend on the order in which it came,
so it may be looked at task by task. -/

set_option autoImplicit false

namespace TryOn

structure Sinks where
  trail : List AuditEntry := []
  notices : List Notice := []
  metrics : Metrics := {}

def Sinks.take (sinks : Sinks) : Request → Sinks
  | .audit entry => { sinks with trail := sinks.trail ++ [entry] }
  | .post notice => { sinks with notices := sinks.notices ++ [notice] }
  | .count event => { sinks with metrics := sinks.metrics.count event }
  | _ => sinks

namespace Simulation.World

def sinks (world : World) : Sinks := ⟨world.audit, world.notices, world.metrics⟩

variable (world : World)

theorem sinks_performStore (call : Store.Call) : (world.performStore call).2.sinks = world.sinks :=
  rfl

theorem sinks_takeStep (transition : Transition) (id : ConversionId) :
    (world.takeStep transition id).sinks = world.sinks := by
  simp only [takeStep, lookAtDate]
  split
  · split <;> rfl
  · rfl

theorem sinks_beginStore (call : Store.Call) : (world.beginStore call).2.sinks = world.sinks := by
  simp only [beginStore]
  split
  · rfl
  · rfl
  · rfl
  · rfl
  · rw [sinks_performStore]
    cases call.subject? with
    | none => rfl
    | some id => exact sinks_takeStep _ _ id
  · rw [sinks_performStore]
    cases call.subject? <;> rfl

/-- A world that keeps its sinks in memory has in them what came to them. -/
theorem sinks_begin (notices : world.noticeSink = .memory) (trail : world.auditSink = .memory)
    (caller : Caller) (request : Request) :
    (world.begin caller request).2.sinks = world.sinks.take request := by
  cases request with
  | store call => exact world.sinks_beginStore call
  | poll id stop =>
    show _ = world.sinks
    rw [← world.sinks_beginStore (.get id)]
    simp only [begin]
    split <;> rename_i begun <;> rw [begun]
  | post notice => simp [begin, World.post, notices, sinks, Sinks.take]
  | audit entry => simp [begin, World.record, trail, sinks, Sinks.take]
  | _ => rfl

end Simulation.World
/-- What an exchange leaves behind: a change to a conversion, or word of one. -/
inductive Mark where
  | change (write : Write)
  | entry (word : AuditEntry)
  | notice (word : Notice)
  | count (word : MetricEvent)

namespace Mark

@[simp] def change? : Mark → Option Write
  | .change write => some write
  | _ => none

@[simp] def entry? : Mark → Option AuditEntry
  | .entry word => some word
  | _ => none

@[simp] def notice? : Mark → Option Notice
  | .notice word => some word
  | _ => none

@[simp] def count? : Mark → Option MetricEvent
  | .count word => some word
  | _ => none

end Mark

def Exchange.mark? (exchange : Exchange) : Option Mark :=
  match exchange.request with
  | .audit entry => some (.entry entry)
  | .post notice => some (.notice notice)
  | .count event => some (.count event)
  | _ => exchange.write?.map .change

theorem Exchange.mark?_bind_change? (exchange : Exchange) :
    exchange.mark?.bind Mark.change? = exchange.write? := by
  obtain ⟨moment, request, answer⟩ := exchange
  cases request with
  | audit _ | post _ | count _ => rfl
  | _ => cases written : Exchange.write? ⟨moment, _, answer⟩ <;> simp [Exchange.mark?, written]

theorem Sinks.take_eq (sinks : Sinks) (exchange : Exchange) :
    sinks.take exchange.request
      = ⟨sinks.trail ++ exchange.mark?.toList.filterMap Mark.entry?,
        sinks.notices ++ exchange.mark?.toList.filterMap Mark.notice?,
        (exchange.mark?.toList.filterMap Mark.count?).foldl Metrics.count sinks.metrics⟩ := by
  obtain ⟨moment, request, answer⟩ := exchange
  -- A change to the store is not word of one, and leaves the sinks as they are.
  have changes (write? : Option Write) :
      (write?.map Mark.change).toList.filterMap Mark.entry? = []
        ∧ (write?.map Mark.change).toList.filterMap Mark.notice? = []
        ∧ (write?.map Mark.change).toList.filterMap Mark.count? = [] := by
    cases write? <;> exact ⟨rfl, rfl, rfl⟩
  cases request with
  | audit _ | post _ | count _ =>
    simp [take, Exchange.mark?, List.filterMap_cons, Mark.entry?, Mark.notice?, Mark.count?]
  | _ =>
    obtain ⟨entries, notices, counts⟩ := changes (Exchange.write? ⟨moment, _, answer⟩)
    simp only [take, Exchange.mark?, entries, notices, counts, List.append_nil, List.foldl_nil]

def Log.marks (log : Log) : List Mark :=
  log.filterMap Exchange.mark?

namespace MetricEvent

def millis : MetricEvent → Nat
  | .completed millis => millis
  | _ => 0

def isCompleted : MetricEvent → Bool
  | .completed _ => true
  | _ => false

end MetricEvent

namespace Metrics

structure Tells (metrics : Metrics) (events : List MetricEvent) : Prop where
  started : metrics.started = events.count .started
  completed : metrics.completed = events.countP MetricEvent.isCompleted
  failed : metrics.failed = events.count .failed
  millis : metrics.processingMillis = (events.map MetricEvent.millis).sum % Nat.pow 2 64
  rejected : ∀ reason, metrics.rejectedFor reason = events.count (.rejected reason)

theorem tells_foldl (events : List MetricEvent) : (events.foldl count {}).Tells events := by
  induction events using List.reverseRecOn with
  | nil => exact ⟨rfl, rfl, rfl, rfl, fun _ => rfl⟩
  | append_singleton events event ih =>
    obtain ⟨started, completed, failed, millis, rejected⟩ := ih
    rw [List.foldl_append, List.foldl_cons, List.foldl_nil]
    constructor
    · cases event <;> simp [count, started]
    · cases event <;> simp [count, completed, MetricEvent.isCompleted]
    · cases event <;> simp [count, failed]
    · cases event <;> simp [count, millis, MetricEvent.millis]
    · intro reason
      cases event with
      | rejected code =>
        by_cases same : code = reason
        · subst same
          simp [count, rejectedFor, ← rejected]
        · simp [count, rejectedFor, Table.get?_insert_ne _ _ (Ne.symm same), same, ← rejected]
      | _ => simp [count, rejectedFor, ← rejected]

end Metrics

namespace Interleaving.History

def sinks (history : History) : Sinks :=
  history.foldl (fun sinks event => sinks.take event.exchange.request) {}

def marks (history : History) : List Mark :=
  history.filterMap (·.exchange.mark?)

theorem marks_concat (history : History) (event : Event) :
    marks (history ++ [event]) = history.marks ++ event.exchange.mark?.toList := by
  rw [marks, List.filterMap_append]
  cases mark : event.exchange.mark? <;> simp [marks, mark]

theorem sinks_concat (history : History) (event : Event) :
    sinks (history ++ [event]) = history.sinks.take event.exchange.request := by
  simp [sinks]

/-- What is in the sinks is what has been left behind for them. -/
theorem sinks_eq (history : History) :
    history.sinks = ⟨history.marks.filterMap Mark.entry?, history.marks.filterMap Mark.notice?,
      (history.marks.filterMap Mark.count?).foldl Metrics.count {}⟩ := by
  induction history using List.reverseRecOn with
  | nil => rfl
  | append_singleton history event ih =>
    rw [sinks_concat, ih, marks_concat]
    simp only [Sinks.take_eq, List.filterMap_append, List.foldl_append]

section Tasks

theorem flatMap_range_ite {α : Type} (items : List α) {count index : Nat} (within : index < count) :
    (List.range count).flatMap (fun task => if index = task then items else []) = items := by
  induction count with
  | zero => cases within
  | succ count ih =>
    rw [List.range_succ, List.flatMap_append, List.flatMap_singleton]
    rcases Nat.lt_or_eq_of_le (Nat.le_of_lt_succ within) with before | rfl
    · rw [ih before, if_neg (Nat.ne_of_lt before), List.append_nil]
    · rw [if_pos rfl, List.flatMap_eq_nil_iff.2, List.nil_append]
      exact fun task member => if_neg (Nat.ne_of_gt (List.mem_range.1 member))

theorem marks_log_concat (history : History) (event : Event) (task : Nat) :
    (log (history ++ [event]) task).marks = (log history task).marks
      ++ if event.task = task then event.exchange.mark?.toList else [] := by
  split
  · rename_i same
    subst same
    rw [log_concat_self, Log.marks, List.filterMap_append]
    cases mark : event.exchange.mark? <;> simp [Log.marks, mark]
  · rename_i other
    rw [log_concat_ne history other, List.append_nil]

theorem marks_perm {history : History} {count : Nat}
    (begun : ∀ event ∈ history, event.task < count) :
    history.marks.Perm ((List.range count).flatMap fun task => (history.log task).marks) := by
  induction history using List.reverseRecOn with
  | nil => simp [marks, log, Log.marks]
  | append_singleton history event ih =>
    -- The event adds to the marks of its own task only.
    have earlier := ih fun other member => begun other (List.mem_append_left _ member)
    have its := flatMap_range_ite event.exchange.mark?.toList (begun event (by simp))
    rw [marks_concat, ← its]
    simp only [marks_log_concat]
    exact (earlier.append_right _).trans (List.flatMap_append_perm _ _ _)

theorem filterMap_marks_perm {α : Type} {history : History} {count : Nat}
    {first second : Mark → Option α} {added : Nat → List α}
    (begun : ∀ event ∈ history, event.task < count)
    (same : ∀ task < count, (log history task).marks.filterMap first
      = (log history task).marks.filterMap second ++ added task) :
    (history.marks.filterMap first).Perm
      (history.marks.filterMap second ++ (List.range count).flatMap added) := by
  have byTask (look : Mark → Option α) : (history.marks.filterMap look).Perm
      ((List.range count).flatMap fun task => (log history task).marks.filterMap look) := by
    rw [← List.filterMap_flatMap]
    exact (marks_perm begun).filterMap look
  have split : ((List.range count).flatMap fun task => (log history task).marks.filterMap first)
      = (List.range count).flatMap fun task =>
        (log history task).marks.filterMap second ++ added task :=
    List.flatMap_congr fun task member => same task (List.mem_range.1 member)
  refine (byTask first).trans ?_
  rw [split]
  exact (List.flatMap_append_perm _ _ _).symm.trans ((byTask second).symm.append_right _)

theorem filterMap_marks_perm_of_eq {α : Type} {history : History} {count : Nat}
    {first second : Mark → Option α} (begun : ∀ event ∈ history, event.task < count)
    (same : ∀ task < count, (log history task).marks.filterMap first
      = (log history task).marks.filterMap second) :
    (history.marks.filterMap first).Perm (history.marks.filterMap second) := by
  have perm := filterMap_marks_perm begun fun task within =>
    (same task within).trans (List.append_nil _).symm
  rwa [List.flatMap_eq_nil_iff.2 fun _ _ => rfl, List.append_nil] at perm

end Tasks

theorem writes_eq (history : History) : history.writes = history.marks.filterMap Mark.change? := by
  rw [writes, marks, List.filterMap_filterMap]
  exact List.filterMap_congr fun event _ => (Exchange.mark?_bind_change? event.exchange).symm

end Interleaving.History

end TryOn
