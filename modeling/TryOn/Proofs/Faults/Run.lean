import TryOn.Proofs.Faults.Step
import TryOn.Proofs.Ledger.Sinks
import TryOn.Proofs.Processing.Stages
import TryOn.Proofs.Store.Patches

/-! A run of the processor in a store that may fail. It does nothing, or gets no further than its
first step, or is done and then tells of it once, as the record stands. -/

set_option autoImplicit false

namespace TryOn

namespace Exchange

/-- Word of a conversion that a program gives. To hand a notice to the channel is to give it. -/
def tells? (exchange : Exchange) : Option Mark :=
  match exchange.request with
  | .count event => some (.count event)
  | .post notice | .deliver notice => some (.notice notice)
  | .audit entry => some (.entry entry)
  | _ => none

def isDelivered : Exchange → Bool
  | ⟨_, .deliver _, (.ok () : Except ChannelError Unit)⟩ => true
  | _ => false

end Exchange

def AuditEntry.error? (entry : AuditEntry) : Option String :=
  match entry.metadata with
  | .table fields =>
    match Data.field? fields "error" with
    | some (.text text) => some text
    | _ => none
  | _ => none

def Log.told (log : Log) : List Mark :=
  log.filterMap (·.tells?)

theorem Log.told_append (first rest : Log) : told (first ++ rest) = first.told ++ told rest :=
  List.filterMap_append

namespace Faults

open Service (Tidings tidings)

variable {service : Service} {id : ConversionId} {log : Log}

section Silence

theorem delivered_of_told (silent : log.told = []) : log.countP Exchange.isDelivered = 0 := by
  refine List.countP_eq_zero.2 fun exchange member taken => ?_
  have unsaid := List.filterMap_eq_nil_iff.1 silent exchange member
  obtain ⟨moment, request, answer⟩ := exchange
  cases request with
  | deliver _ => cases unsaid
  | _ => cases taken

theorem told_of_account {step : Transition} {most : Nat} {result : Except Failure Conversion}
    (account : Account id step most log result) : log.told = [] := by
  refine List.filterMap_eq_nil_iff.2 fun exchange member => ?_
  obtain ⟨moment, request, answer⟩ := exchange
  rcases account.within _ member with same | same | ⟨patch, same⟩ <;> (cases same; rfl)

theorem told_of_between {work : ProcessRequest}
    (between : ∀ exchange ∈ log,
      exchange.request = .now ∨ Request.Serves work exchange.request) : log.told = [] := by
  refine List.filterMap_eq_nil_iff.2 fun exchange member => ?_
  have asked := between exchange member
  obtain ⟨moment, request, answer⟩ := exchange
  rcases asked with look | serves
  · cases look
    rfl
  · cases request with
    | process _ | isCancelled | wait _ _ | draw _ => rfl
    | _ => exact serves.elim

end Silence

section Notices

theorem told_of_draw {heedsCancel : Bool} {bound draw : Nat}
    (yields : ((Retry.Means.ofProgram heedsCancel).draw bound).Yields log draw) :
    log.told = [] := by
  have drawn : (if bound = 0 then pure 0 else Program.request (.draw bound) : Program Nat).Yields
      log draw := yields
  split at drawn
  · cases drawn
    rfl
  · obtain _ | ⟨moment, ⟨⟩⟩ := drawn
    rfl

theorem delivery_cases {policy : Retry.Policy} {notice : Notice} {left attempt : Nat}
    {outcome : Except (Retry.Failure ChannelError) Unit}
    (yields : (Retry.executeFrom (.ofProgram false) policy
      (fun _ => Program.request (.deliver notice)) left attempt).Yields log outcome) :
    ∃ moment, ∃ answer : Except ChannelError Unit, ∃ rest,
      log = ⟨moment, .deliver notice, answer⟩ :: rest
      ∧ (Log.told rest = [] ∨ ∃ failure fewer pause more, answer = .error failure ∧ left = fewer + 1
        ∧ rest = pause ++ more ∧ Log.told pause = []
        ∧ (Retry.executeFrom (.ofProgram false) policy
          (fun _ => Program.request (.deliver notice)) fewer (attempt + 1)).Yields more
            outcome) := by
  unfold Retry.executeFrom at yields
  obtain ⟨_, _, _, rfl, ⟨⟩, yields⟩ := Program.yields_bind.1 yields
  rw [if_neg Bool.false_ne_true] at yields
  obtain ⟨_, rest, answer, rfl, handed, later⟩ := Program.yields_bind.1 yields
  obtain _ | ⟨moment, ⟨⟩⟩ := handed
  refine ⟨moment, answer, rest, rfl, ?_⟩
  rcases answer with failure | ⟨⟨⟩⟩
  · dsimp only at later
    cases judged : policy.judge failure with
    | terminal =>
      rw [judged] at later
      cases later
      exact .inl rfl
    | retryable =>
      rw [judged] at later
      cases left with
      | zero =>
        cases later
        exact .inl rfl
      | succ left =>
        obtain ⟨drawn, _, draw, rfl, drawing, waiting⟩ := Program.yields_bind.1 later
        obtain ⟨paused, more, goesOn, rfl, waited, onward⟩ := Program.yields_bind.1 waiting
        obtain _ | ⟨late, ⟨⟩⟩ := waited
        have pause : Log.told (drawn ++ [⟨late, .wait
            (Duration.ofMillis (policy.backoff attempt draw)) ⟨false, none⟩, goesOn⟩]) = [] := by
          rw [Log.told_append, told_of_draw drawing]
          rfl
        cases goesOn with
        | false =>
          cases onward
          exact .inl pause
        | true =>
          exact .inr ⟨failure, left, _, more, rfl, rfl, (List.append_assoc _ _ _).symm, pause,
            onward⟩
  · cases later
    exact .inl rfl

/-- However often a notice is handed to the channel, it is always the same one, and it is taken at
most once. -/
theorem told_deliveries {policy : Retry.Policy} {notice : Notice} (left attempt : Nat) {log : Log}
    {outcome : Except (Retry.Failure ChannelError) Unit}
    (yields : (Retry.executeFrom (.ofProgram false) policy
      (fun _ => Program.request (.deliver notice)) left attempt).Yields log outcome) :
    (∃ tries, log.told = List.replicate (tries + 1) (.notice notice))
      ∧ log.countP Exchange.isDelivered ≤ 1 := by
  have last {moment : Timestamp} {answer : Except ChannelError Unit} {rest : Log}
      (silent : Log.told rest = []) :
      (∃ tries, Log.told (⟨moment, .deliver notice, answer⟩ :: rest)
          = List.replicate (tries + 1) (.notice notice))
        ∧ List.countP Exchange.isDelivered (⟨moment, .deliver notice, answer⟩ :: rest) ≤ 1 := by
    refine ⟨⟨0, congrArg (_ :: ·) silent⟩, ?_⟩
    rw [List.countP_cons, delivered_of_told silent]
    split <;> simp
  induction left generalizing attempt log with
  | zero =>
    obtain ⟨moment, answer, rest, rfl, silent | ⟨_, _, _, _, _, ⟨⟩, _⟩⟩ := delivery_cases yields
    exact last silent
  | succ left ih =>
    obtain ⟨moment, answer, rest, rfl, silent | ⟨failure, fewer, pause, more, rfl, same, rfl,
      silent, later⟩⟩ := delivery_cases yields
    · exact last silent
    · cases same
      obtain ⟨⟨tries, told⟩, once⟩ := ih _ later
      refine ⟨⟨tries + 1, ?_⟩, ?_⟩
      · -- The refused notice is given once more than those of the later attempts.
        show Mark.notice notice :: Log.told (pause ++ more) = _
        rw [Log.told_append, silent, told]
        rfl
      · rw [List.countP_cons_of_neg (by exact Bool.false_ne_true), List.countP_append,
          delivered_of_told silent, Nat.zero_add]
        exact once

theorem told_notify {notice : Notice} (yields : (service.notify notice).Yields log ()) :
    ∃ tries, log.told = List.replicate (tries + 1) (.notice notice)
      ∧ (service.sendsNotices = false → tries = 0)
      ∧ log.countP Exchange.isDelivered ≤ 1 := by
  unfold Service.notify at yields
  cases sends : service.sendsNotices with
  | false =>
    rw [sends] at yields
    obtain _ | ⟨moment, ⟨⟩⟩ := yields
    exact ⟨0, rfl, fun _ => rfl, Nat.zero_le 1⟩
  | true =>
    rw [sends, if_pos rfl] at yields
    obtain ⟨handed, _, outcome, rfl, delivered, ⟨⟩⟩ := Program.yields_bind.1 yields
    rw [List.append_nil]
    obtain ⟨⟨tries, told⟩, once⟩ := told_deliveries _ _ delivered
    exact ⟨tries, told, nofun, once⟩

end Notices

section Reports

/-- What a count, a notice and an entry say of a record that is done: how it has ended and what it
has kept of it, which it is and whose. Of a failed one the entry gives a text. -/
structure Reports (record : Conversion) (text : String) (event : MetricEvent) (notice : Notice)
    (entry : AuditEntry) : Prop where
  notice : notice = Service.noticeOf record
    (if record.status = .completed then .completed else .failed)
  user : entry.user = record.user
  conversion : entry.conversion = record.id
  outcome : (record.status = .completed ∧ entry.action = .completed
      ∧ ∃ millis, event = .completed millis ∧ record.processingMillis = some millis
        ∧ entry.metadata = .ofFields [("processing_time_ms", .ofNat millis)])
    ∨ (record.status = .failed ∧ entry.action = .failed ∧ event = .failed
      ∧ ∃ attempts,
        entry.metadata = .ofFields [("attempts", .ofNat attempts), ("error", .text text)])

def Matches (record : Conversion) (event : MetricEvent) (notice : Notice) (entry : AuditEntry) :
    Prop :=
  ∃ text, Reports record text event notice entry
    ∧ (record.status = .failed → record.failure = some text)

variable {record : Conversion} {event : MetricEvent} {notice : Notice} {entry : AuditEntry}

theorem Reports.error? {text : String} (reports : Reports record text event notice entry)
    (failed : record.status = .failed) : entry.error? = some text := by
  obtain ⟨completed, -⟩ | ⟨-, -, -, attempts, said⟩ := reports.outcome
  · rw [failed] at completed
    cases completed
  · rw [AuditEntry.error?, said]
    simp [Data.ofFields, Data.field?_setField_self]

theorem matches_iff {text : String} (reports : Reports record text event notice entry)
    (kept : record.status = .failed → record.failure = some (Conversion.failureText text)) :
    Matches record event notice entry
      ↔ (record.status = .failed → Text.isBlankText text = false) := by
  constructor
  · rintro ⟨other, also, said⟩ failed
    obtain rfl : other = text :=
      Option.some.inj ((also.error? failed).symm.trans (reports.error? failed))
    -- The text put in place of a blank one is not blank itself.
    have same := Option.some.inj ((kept failed).symm.trans (said failed))
    by_contra blank
    rw [Bool.not_eq_false] at blank
    rw [Conversion.failureText, if_pos blank] at same
    rw [← same] at blank
    exact absurd blank (by decide)
  · intro shown
    refine ⟨text, reports, fun failed => ?_⟩
    rw [kept failed, Conversion.failureText, if_neg (by simp [shown failed])]

end Reports

section Runs

def said : Service.Outcome → String
  | .ok _ => ""
  | .error failure => Service.processingFailureText failure

theorem patched_target {step : Transition} {seen stored next : Conversion} {now : Timestamp}
    {patch : Patch} (planned : seen.plan step now = .ok patch)
    (patched : Store.patched stored patch = .ok next) :
    next.status = step.target ∧ next.id = stored.id := by
  obtain ⟨-, -, rfl⟩ := Store.patched_eq_ok_iff.1 patched
  obtain ⟨-, target, -⟩ := Conversion.plan_guard planned
  exact ⟨by simp [Conversion.apply, target], rfl⟩

/-- A record that a second step has been taken with is done, and what is told of it reports it. -/
theorem reports_of_patched {outcome : Service.Outcome} {millis : Nat}
    {seen stored ended : Conversion} {now : Timestamp} {patch : Patch} (named : ended.id = id)
    (date : Timestamp)
    (planned : seen.plan (Service.ending outcome millis) now = .ok patch)
    (patched : Store.patched stored patch = .ok ended) :
    ended.isTerminal = true
      ∧ Reports ended (said outcome) (tidings outcome millis).event
        (Service.noticeOf ended (tidings outcome millis).kind)
        ⟨(tidings outcome millis).action, ended.user, id, (tidings outcome millis).metadata, date⟩
      ∧ (ended.status = .failed →
        ended.failure = some (Conversion.failureText (said outcome))) := by
  obtain ⟨-, -, rfl⟩ := Store.patched_eq_ok_iff.1 patched
  cases outcome with
  | ok image =>
    cases Conversion.plans_of_plan planned
    refine ⟨rfl, ⟨rfl, rfl, named.symm, .inl ⟨rfl, rfl, millis, rfl, rfl, rfl⟩⟩, fun failed => ?_⟩
    cases failed
  | error failure =>
    cases Conversion.plans_of_plan planned
    exact ⟨rfl, ⟨rfl, rfl, named.symm, .inr ⟨rfl, rfl, rfl, _, rfl⟩⟩, fun _ => rfl⟩

/-- How a run can leave a record, and what it has told then. The second step of one that has only
begun was tried and has failed. -/
inductive Leaves (service : Service) (id : ConversionId) (store : Store) (log : Log)
    (last : Store) : Except Failure Conversion → Prop
  | untouched {failure : Failure} (writes : log.writes = []) (told : log.told = [])
    (stands : last.conversions.get? id = store.conversions.get? id) :
    Leaves service id store log last (.error failure)
  | halfway {before part : Log} {seen started : Conversion} {now : Timestamp} {start : Patch}
    {outcome : Service.Outcome} {millis : Nat} {failure : Failure}
    (begins : seen.plan .start now = .ok start) (writes : log.writes = [.commit id start started])
    (told : log.told = []) (stands : last.get id = .ok started)
    (running : started.status = .processing) (split : log = before ++ part)
    (vain : (Service.transition id (Service.ending outcome millis)).Yields part (.error failure)) :
    Leaves service id store log last (.error failure)
  | concluded {start finish : Patch} {started ended : Conversion} {event : MetricEvent}
    {notice : Notice} {entry : AuditEntry} {text : String} {tries : Nat}
    (writes : log.writes = [.commit id start started, .commit id finish ended])
    (told : log.told = .count event :: (List.replicate (tries + 1) (.notice notice)
      ++ [.entry entry]))
    (once : service.sendsNotices = false → tries = 0)
    (delivered : log.countP Exchange.isDelivered ≤ 1)
    (stands : last.get id = .ok ended) (terminal : ended.isTerminal = true)
    (reports : Reports ended text event notice entry)
    (kept : ended.status = .failed → ended.failure = some (Conversion.failureText text))
    (exact_iff : Matches ended event notice entry
      ↔ (ended.status = .failed → Text.isBlankText text = false)) :
    Leaves service id store log last (.ok ended)

/-- What follows the second step changes nothing. It is a count, a notice and an entry. -/
theorem words_told {outcome : Service.Outcome} {millis : Nat} {ended : Conversion} {words : Log}
    (telling : (service.tell id outcome millis ended).Yields words (.ok ended)) :
    words.writes = [] ∧ words.countP Exchange.isDelivered ≤ 1
      ∧ ∃ tries date, (service.sendsNotices = false → tries = 0)
        ∧ words.told = .count (tidings outcome millis).event
          :: (List.replicate (tries + 1)
              (.notice (Service.noticeOf ended (tidings outcome millis).kind))
            ++ [.entry ⟨(tidings outcome millis).action, ended.user, id,
              (tidings outcome millis).metadata, date⟩]) := by
  have still := Program.Yields.isStill telling (service.outward_tell id outcome millis ended) id
  obtain ⟨-, counted, notes, dated, date, entered, rfl, noted⟩ := Service.words_of_tell telling
  obtain ⟨tries, notices, once, delivered⟩ := told_notify noted
  refine ⟨still.writes, ?_, tries, date, once, ?_⟩
  · rw [List.countP_cons_of_neg (by exact Bool.false_ne_true), List.countP_append]
    exact delivered
  · rw [← notices]
    exact congrArg (_ :: ·) (Log.told_append _ _)

theorem leaves_process {store last : Store} {result : Except Failure Conversion}
    (named : ∀ stored, store.conversions.get? id = some stored → stored.id = id)
    (yields : (service.process id).Yields log result) (serves : Store.Serves id store log last) :
    Leaves service id store log last result := by
  cases Service.stages_process yields with
  | unstarted step =>
    have account := account_transition step
    have writes := (account.refused _ rfl).1
    exact .untouched writes (told_of_account account) (serves.untouched writes)
  | @begun first middle rest started outcome millis _ step between concludes =>
    have account := account_transition step
    obtain ⟨seen, now, start, begins, writes⟩ := account.commits
    have still : middle.IsStill id := Processing.isStill_of_between between
    have idle := still.writes
    have silent := told_of_between between
    obtain ⟨before, early, later⟩ := serves.append
    obtain ⟨after, waited, late⟩ := later.append
    obtain ⟨stored, present, -, patched, taken⟩ := early.committed writes
    rw [← waited.untouched idle] at taken
    have silence : Log.told (first ++ (middle ++ rest)) = Log.told rest := by
      rw [Log.told_append, Log.told_append, told_of_account account, silent]
      rfl
    have changes : Log.writes (first ++ (middle ++ rest))
        = .commit id start started :: Log.writes rest := by
      rw [Log.writes_append, Log.writes_append, writes, idle]
      rfl
    obtain ⟨running, same⟩ := patched_target begins patched
    -- The record is started now. The second step fails and changes nothing, or the run is told of.
    cases concludes with
    | vain vain =>
      have second := account_transition vain
      have unchanged := (second.refused _ rfl).1
      have stands := Store.get_eq_ok_iff.2 ((late.untouched unchanged).trans taken)
      rw [unchanged] at changes
      rw [told_of_account second] at silence
      exact .halfway begins changes silence stands running
        (List.append_assoc first middle rest).symm vain
    | @told finishing words ended finished spoken =>
      have second := account_transition finished
      obtain ⟨current, moment, finish, ends, last⟩ := second.commits
      obtain ⟨finally', ending, telling⟩ := late.append
      obtain ⟨held, found, -, applied, stands⟩ := ending.committed last
      obtain rfl := Option.some.inj (found.symm.trans taken)
      have own : ended.id = id :=
        (patched_target ends applied).2.trans (same.trans (named _ present))
      obtain ⟨unchanged, delivered, tries, date, once, told⟩ := words_told spoken
      obtain ⟨terminal, reports, kept⟩ := reports_of_patched own date ends applied
      have stands := Store.get_eq_ok_iff.2 ((telling.untouched unchanged).trans stands)
      rw [Log.writes_append finishing words, last, unchanged, List.append_nil] at changes
      rw [Log.told_append finishing words, told_of_account second, List.nil_append, told]
        at silence
      refine .concluded changes silence once ?_ stands terminal reports kept
        (matches_iff reports kept)
      rw [List.countP_append, List.countP_append, List.countP_append, delivered_of_told silent,
        delivered_of_told (told_of_account account), delivered_of_told (told_of_account second)]
      omega

/-- Let a store fail reads and updates at any time, for any reason and without effect. A step hands
in three plans at most, as the account of it says; in a store like this, moreover, it was taken
exactly if it says so, and else the record is as it was. A run that fails has told nothing, and has
left the record as it was or, if its second step has failed, being processed. A run that does not
fail has told of the record that it leaves, in one count, one notice and one entry. They fit the
record but for the text of the entry, which is that of the record exactly if it is not blank. -/
theorem faults_accounted (service : Service) (id : ConversionId) :
    (∀ step log result, (Service.transition id step).Yields log result →
      Account id step 3 log result)
    ∧ (∀ step store log last result, (Service.transition id step).Yields log result →
      Store.Serves id store log last →
      (∀ updated, result = .ok updated → last.get id = .ok updated)
        ∧ ∀ failure, result = .error failure →
          last.conversions.get? id = store.conversions.get? id)
    ∧ ∀ store log last result,
      (∀ stored, store.conversions.get? id = some stored → stored.id = id) →
      (service.process id).Yields log result → Store.Serves id store log last →
      Leaves service id store log last result := by
  refine ⟨?accounts, ?stands, ?runs⟩
  case accounts => exact fun step log result yields => account_transition yields
  case stands =>
    intro step store log last result yields serves
    have account := account_transition yields
    constructor
    · rintro updated rfl
      obtain ⟨-, -, patch, -, writes⟩ := account.commits
      obtain ⟨-, -, -, -, stands⟩ := serves.committed writes
      exact Store.get_eq_ok_iff.2 stands
    · intro failure same
      exact serves.untouched (account.refused failure same).1
  case runs =>
    intro store log last result named yields serves
    exact leaves_process named yields serves

end Runs

section

def onceOnly : Service :=
  let policy : Retry.Policy := { Retry.Policy.fixed 1 0 with
    terminalPatterns := []
    retryablePatterns := [] }
  ⟨.ofFallback policy, {}, false⟩

def failing (text : String) : Circumstances where
  date log := ⟨log.length, 0⟩
  fresh _ := ⟨.ofNat 0⟩
  respond _ now
    | .process _ => (.error (.other text), now)
    | request => (Interleaving.obliging ⟨⟨.ofNat 0⟩, .vendor, .shown⟩ ⟨.ofNat 0⟩ request, now)

theorem named_oneWaiting (stored : Conversion)
    (present : Store.oneWaiting.conversions.get? ⟨.ofNat 1⟩ = some stored) :
    stored.id = ⟨.ofNat 1⟩ := by
  cases present
  rfl

theorem faults_accounted_of_failing :
    ∃ log last ended, Action.Yields (onceOnly.process ⟨.ofNat 1⟩) log (.ok ended)
      ∧ Store.Serves ⟨.ofNat 1⟩ Store.oneWaiting log last
      ∧ Leaves onceOnly ⟨.ofNat 1⟩ Store.oneWaiting log last (.ok ended) := by
  obtain ⟨log, whole, yields, replies⟩ := (failing "no face").yields_run
    (onceOnly.process ⟨.ofNat 1⟩).run ⟨Store.oneWaiting, 0, []⟩
  have done : ((failing "no face").run (onceOnly.process ⟨.ofNat 1⟩).run
      ⟨Store.oneWaiting, 0, []⟩).1.isOk = true := by decide +kernel
  have serves : Store.Serves ⟨.ofNat 1⟩ _ _ _ := .of_replies replies
  have leaves := (faults_accounted onceOnly ⟨.ofNat 1⟩).2.2 _ _ _ _ named_oneWaiting yields serves
  generalize ((failing "no face").run (onceOnly.process ⟨.ofNat 1⟩).run
    ⟨Store.oneWaiting, 0, []⟩).1 = result at yields done leaves
  cases result with
  | error failure => cases done
  | ok ended => exact ⟨log, _, ended, yields, serves, leaves⟩

/-- A processor that fails with a blank text leaves an entry that does not fit the record. -/
theorem entry_of_blank_text :
    ∃ log last ended event notice entry,
      Action.Yields (onceOnly.process ⟨.ofNat 1⟩) log (.ok ended)
      ∧ Store.Serves ⟨.ofNat 1⟩ Store.oneWaiting log last
      ∧ log.told = [.count event, .notice notice, .entry entry]
      ∧ ended.failure = some "unknown error" ∧ entry.error? = some " "
      ∧ ¬ Matches ended event notice entry := by
  obtain ⟨log, whole, yields, replies⟩ := (failing " ").yields_run
    (onceOnly.process ⟨.ofNat 1⟩).run ⟨Store.oneWaiting, 0, []⟩
  rw [List.nil_append] at whole
  subst whole
  have serves : Store.Serves ⟨.ofNat 1⟩ _ _ _ := .of_replies replies
  have kept : ((failing " ").run (onceOnly.process ⟨.ofNat 1⟩).run
      ⟨Store.oneWaiting, 0, []⟩).1.toOption.map (fun ended => (ended.status, ended.failure))
        = some (.failed, some "unknown error") := by decide +kernel
  have said : ((failing " ").run (onceOnly.process ⟨.ofNat 1⟩).run
      ⟨Store.oneWaiting, 0, []⟩).2.log.told.filterMap (fun mark => mark.entry?.bind (·.error?))
        = [" "] := by decide +kernel
  have leaves := leaves_process named_oneWaiting yields serves
  generalize ((failing " ").run (onceOnly.process ⟨.ofNat 1⟩).run ⟨Store.oneWaiting, 0, []⟩).1
    = result at yields kept leaves
  cases leaves with
  | untouched _ _ _ => cases kept
  | halfway _ _ _ _ _ _ _ => cases kept
  | @concluded _ _ _ ended event notice entry _ tries _ told once _ _ _ _ _ _ =>
    obtain rfl := once rfl
    simp only [Except.toOption, Option.map_some, Option.some.injEq, Prod.mk.injEq] at kept
    obtain ⟨failed, unknown⟩ := kept
    have blank : entry.error? = some " " := by
      rw [told] at said
      cases given : entry.error? <;> simp [given] at said
      rw [said]
    refine ⟨_, _, ended, event, notice, entry, yields, serves, told, unknown, blank, ?_⟩
    rintro ⟨text, reports, same⟩
    have text_eq := (reports.error? failed).symm.trans blank
    rw [same failed, text_eq] at unknown
    exact absurd unknown (by decide)

end

end Faults

end TryOn
