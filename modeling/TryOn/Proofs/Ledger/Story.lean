import TryOn.Proofs.Admission.AllOrNothing
import TryOn.Proofs.Ledger.Sinks
import TryOn.Proofs.Processing.Stages

/-! What an operation that is done has left behind: at most a few changes to one conversion, and
word of each that has to be told, after it. -/

set_option autoImplicit false

namespace TryOn

open Interleaving (Operation Task)

namespace Log

def Owned (id : ConversionId) (user : UserId) (log : Log) : Prop :=
  ∃ exchange ∈ log, ∃ seen, exchange.read? = some (id, .ok seen) ∧ seen.user = user

theorem marks_append (first second : Log) :
    Log.marks (first ++ second) = first.marks ++ second.marks :=
  List.filterMap_append

theorem marks_cons {exchange : Exchange} {mark : Mark} (left : exchange.mark? = some mark)
    (rest : Log) : Log.marks (exchange :: rest) = mark :: Log.marks rest :=
  List.filterMap_cons_some left

theorem marks_cons_of_none {exchange : Exchange} (nothing : exchange.mark? = none) (rest : Log) :
    Log.marks (exchange :: rest) = Log.marks rest :=
  List.filterMap_cons_none nothing

end Log

theorem Exchange.mark?_eq_none {exchange : Exchange} (silent : exchange.request.IsSilent) :
    exchange.mark? = none := by
  obtain ⟨moment, request, answer⟩ := exchange
  cases request with
  | store call =>
    cases call with
    | create _ | update _ _ | delete _ _ => exact silent.elim
    | _ => rfl
  | deliver _ | post _ | audit _ | count _ | process _ => exact silent.elim
  | _ => rfl

theorem Exchange.mark?_of_serves {work : ProcessRequest} {exchange : Exchange}
    (serves : Request.Serves work exchange.request) : exchange.mark? = none := by
  obtain ⟨moment, request, answer⟩ := exchange
  cases request with
  | process _ | isCancelled | wait _ _ | draw _ => rfl
  | _ => exact serves.elim

def Interleaving.Task.rejection? : Task → Option String
  | ⟨.create _ _, .done (.error failure)⟩ =>
    if failure.isAdmissionRejection then some failure.code else none
  | _ => none

namespace Ledger

/-- What an operation leaves behind, and how it was turned away if it was. -/
inductive Story (log : Log) : Option String → List Mark → Prop
  | nothing : Story log none []
  | refused (code : String) : Story log (some code) [.count (.rejected code)]
  | created (id : ConversionId) (draft : Draft) (moment date : Timestamp) (metadata : Data) :
    Story log none
      [.change (.creation id draft moment), .count .started,
        .entry ⟨.created, draft.user, id, metadata, date⟩,
        .notice ⟨id, draft.user, .started, none⟩]
  | updated {id : ConversionId} {user : UserId} {style : Option String} {now : Timestamp}
    {patch : Patch} (result : Conversion) (date : Timestamp) (metadata : Data)
    (owned : log.Owned id user) (restyled : Patch.restyle style now = .ok patch) :
    Story log none
      [.change (.commit id patch result), .entry ⟨.updated, user, id, metadata, date⟩]
  | cancelled {id : ConversionId} {user : UserId} {current : Conversion} {now : Timestamp}
    {patch : Patch} (result : Conversion) (date : Timestamp) (metadata : Data)
    (owned : log.Owned id user) (planned : current.plan .cancel now = .ok patch) :
    Story log none
      [.change (.commit id patch result), .entry ⟨.cancelled, user, id, metadata, date⟩,
        .notice (Service.noticeOf result .failed)]
  | deleted {id : ConversionId} {user : UserId} (expected : Status) (date : Timestamp)
    (metadata : Data) (owned : log.Owned id user) :
    Story log none [.change (.deletion id expected), .entry ⟨.deleted, user, id, metadata, date⟩]
  /-- A run of the processor that did not get to its second step. -/
  | started {id : ConversionId} {current : Conversion} {now : Timestamp} {patch : Patch}
    (result : Conversion) (planned : current.plan .start now = .ok patch) :
    Story log none [.change (.commit id patch result)]
  | completed {id : ConversionId} {first second : Conversion} {now later : Timestamp}
    {start finish : Patch} {image : ImageId} {millis : Nat} (result ended : Conversion)
    (date : Timestamp) (metadata : Data) (begins : first.plan .start now = .ok start)
    (ends : second.plan (.complete image millis) later = .ok finish) :
    Story log none
      [.change (.commit id start result), .change (.commit id finish ended),
        .count (.completed millis), .notice (Service.noticeOf ended .completed),
        .entry ⟨.completed, ended.user, id, metadata, date⟩]
  | failed {id : ConversionId} {first second : Conversion} {now later : Timestamp}
    {start finish : Patch} {text : String} (result ended : Conversion)
    (date : Timestamp) (metadata : Data) (begins : first.plan .start now = .ok start)
    (ends : second.plan (.fail text) later = .ok finish) :
    Story log none
      [.change (.commit id start result), .change (.commit id finish ended), .count .failed,
        .notice (Service.noticeOf ended .failed),
        .entry ⟨.failed, ended.user, id, metadata, date⟩]

variable {service : Service} {α : Type} {log : Log}

section Parts

variable {result : Except Failure α}

theorem marks_count (moment : Timestamp) (event : MetricEvent) (rest : Log) :
    Log.marks (⟨moment, .count event, ()⟩ :: rest) = .count event :: Log.marks rest := rfl

theorem marks_of_silent {β : Type} {program : Program β} {value : β}
    (yields : program.Yields log value) (silent : program.Asks Request.IsSilent) :
    log.marks = [] :=
  List.filterMap_eq_nil_iff.2 fun exchange member =>
    Exchange.mark?_eq_none (yields.asked silent exchange member)

theorem yields_audit {action : AuditAction} {user : UserId} {id : ConversionId} {metadata : Data}
    {next : Unit → Action α}
    (yields : (Action.audit action user id metadata >>= next).Yields log result) :
    ∃ date rest, log.marks = .entry ⟨action, user, id, metadata, date⟩ :: Log.marks rest
      ∧ (next ()).Yields rest result := by
  unfold Action.audit at yields
  rw [bind_assoc] at yields
  obtain ⟨moment, date, _, rfl, dated⟩ := yields.request_bind
  obtain ⟨later, ⟨⟩, rest, rfl, told⟩ := dated.request_bind
  exact ⟨date, rest, rfl, told⟩

theorem marks_of_notify (posts : service.sendsNotices = false) {notice : Notice}
    (yields : (service.notify notice).Yields log ()) : log.marks = [.notice notice] := by
  unfold Service.notify at yields
  rw [posts] at yields
  obtain _ | ⟨moment, ⟨⟩⟩ := yields
  rfl

theorem yields_notify (posts : service.sendsNotices = false) {notice : Notice}
    {next : Unit → Action α}
    (yields : (ExceptT.lift (service.notify notice) >>= next : Action α).Yields log result) :
    ∃ rest, log.marks = .notice notice :: Log.marks rest ∧ (next ()).Yields rest result := by
  obtain ⟨notes, rest, ⟨⟩, rfl, noted, told⟩ := Action.Yields.lift_bind yields
  refine ⟨rest, ?_, told⟩
  rw [Log.marks_append, marks_of_notify posts noted]
  rfl

theorem yields_get {id : ConversionId} {user : UserId} {next : Conversion → Action α}
    (yields : (Service.get id user >>= next).Yields log result) :
    (∃ failure, result = .error failure ∧ log.marks = [])
      ∨ ∃ exchange rest current, log = exchange :: rest ∧ exchange.mark? = none
        ∧ exchange.read? = some (id, .ok current) ∧ current.user = user
        ∧ (next current).Yields rest result := by
  rcases yields.bind with ⟨failure, rfl, missed⟩ | ⟨first, rest, current, rfl, found, later⟩
  · exact .inl ⟨failure, rfl, marks_of_silent missed (Service.silent_get id user)⟩
  · unfold Service.get Action.store at found
    rw [bind_assoc] at found
    obtain ⟨moment, answer, _, rfl, told⟩ := found.request_bind
    rcases told.orFail_bind with ⟨_, _, _, ⟨⟩⟩ | ⟨seen, rfl, shown⟩
    by_cases own : seen.isOwnedBy user = true
    · rw [if_pos own] at shown
      cases shown
      exact .inr ⟨_, rest, current, rfl, rfl, rfl, of_decide_eq_true own, later⟩
    · rw [if_neg own] at shown
      cases shown

end Parts

section Steps

/-- A step that was taken leaves one change behind, of a plan for it, and else there is none. -/
def Takes (id : ConversionId) (transition : Transition) (marks : List Mark) :
    Except Failure Conversion → Prop
  | .error _ => marks = []
  | .ok conversion => ∃ (current : Conversion) (now : Timestamp) (patch : Patch),
    current.plan transition now = .ok patch ∧ marks = [.change (.commit id patch conversion)]

theorem takes_of_tries {id : ConversionId} {transition : Transition} {left : Nat}
    {result : Except Failure Conversion} (tries : Service.Tries id transition left log result) :
    Takes id transition log.marks result := by
  induction tries with
  | failed attempt => cases attempt <;> rfl
  | taken attempt =>
    obtain _ | _ | legal := attempt
    exact ⟨_, _, _, legal, rfl⟩
  | refused attempt =>
    obtain _ | _ | legal := attempt
    rfl
  | again attempt more ih =>
    obtain _ | _ | legal := attempt
    exact ih

theorem takes_transition {id : ConversionId} {transition : Transition}
    {result : Except Failure Conversion}
    (yields : (Service.transition id transition).Yields log result) :
    Takes id transition log.marks result :=
  takes_of_tries (Service.tries_transition yields)

/-- A second step that was taken is counted, posted and entered, in this order. -/
theorem marks_of_concludes (posts : service.sendsNotices = false) {id : ConversionId}
    {outcome : Service.Outcome} {millis : Nat} {result : Except Failure Conversion}
    (concludes : service.Concludes id outcome millis log result) :
    log.marks = [] ∨ ∃ (second : Conversion) (later : Timestamp) (finish : Patch)
      (ended : Conversion) (date : Timestamp),
        second.plan (Service.ending outcome millis) later = .ok finish
          ∧ log.marks = [.change (.commit id finish ended),
            .count (Service.tidings outcome millis).event,
            .notice (Service.noticeOf ended (Service.tidings outcome millis).kind),
            .entry ⟨(Service.tidings outcome millis).action, ended.user, id,
              (Service.tidings outcome millis).metadata, date⟩] := by
  cases concludes with
  | vain step => exact .inl (takes_transition step)
  | @told first words ended step telling =>
    obtain ⟨second, moment, finish, planned, marks⟩ := takes_transition step
    obtain ⟨-, counted, notes, dated, date, entered, rfl, noted⟩ := Service.words_of_tell telling
    refine .inr ⟨second, moment, finish, ended, date, planned, ?_⟩
    rw [Log.marks_append, marks, marks_count, Log.marks_append, marks_of_notify posts noted]
    rfl

/-- Whether a run of the processor is told to its end or not, what it leaves behind fits. -/
theorem story_process (posts : service.sendsNotices = false) {id : ConversionId}
    {result : Except Failure Conversion} (whole : Log)
    (yields : (service.process id).Yields log result) : Story whole none log.marks := by
  cases Service.stages_process yields with
  | unstarted step =>
    rw [show log.marks = [] from takes_transition step]
    exact .nothing
  | @begun first middle last started outcome millis _ step between concludes =>
    obtain ⟨current, now, start, begins, marks⟩ := takes_transition step
    have silent : Log.marks middle = [] := by
      refine List.filterMap_eq_nil_iff.2 fun exchange member => ?_
      rcases between exchange member with look | serves
      · obtain ⟨moment, request, answer⟩ := exchange
        cases look
        rfl
      · exact Exchange.mark?_of_serves serves
    rw [Log.marks_append, Log.marks_append, marks, silent, List.nil_append]
    rcases marks_of_concludes posts concludes with
      none | ⟨second, late, finish, ended, date, ends, told⟩
    · rw [none]
      exact .started started begins
    · rw [told]
      cases outcome with
      | ok image => exact .completed started ended date _ begins ends
      | error failure => exact .failed started ended date _ begins ends

end Steps

section Operations

theorem story_executeOne (posts : service.sendsNotices = false) {id : ConversionId}
    {result : Except Failure Service.WorkOutcome} (whole : Log)
    (yields : (service.executeOne id).Yields log result) : Story whole none log.marks := by
  cases Service.visits_executeOne yields with
  | worked _ ran =>
    rw [Log.marks_cons_of_none rfl]
    exact story_process posts whole ran
  | _ => exact .nothing

theorem yields_patching {ε : Type} {id : ConversionId} {make : Timestamp → Except ε Patch}
    {report : ε → Failure} {refuse : StoreError → Failure} (last : Conversion → Action α)
    {result : Except Failure α}
    (yields : (do
      let now ← Action.wallClock
      let patch ← Action.orFail report (make now)
      let updated ← Action.request (.store (.update id patch))
      let conversion ← Action.orFail refuse updated
      last conversion : Action α).Yields log result) :
    log.marks = [] ∨ ∃ now patch conversion rest, make now = .ok patch
      ∧ log.marks = .change (.commit id patch conversion) :: Log.marks rest
      ∧ (last conversion).Yields rest result := by
  obtain ⟨clock, now, _, rfl, dated⟩ := yields.request_bind
  rcases dated.orFail_bind with ⟨_, _, rfl, rfl⟩ | ⟨patch, made, asked⟩
  · exact .inl rfl
  obtain ⟨moment, answer, rest, rfl, answered⟩ := asked.request_bind
  rcases answered.orFail_bind with ⟨_, rfl, rfl, rfl⟩ | ⟨conversion, rfl, told⟩
  · exact .inl rfl
  · exact .inr ⟨now, patch, conversion, rest, made, rfl, told⟩

theorem story_update {id : ConversionId} {user : UserId} {style : Option String}
    {result : Except Failure Conversion}
    (yields : (Service.update id user style).Yields log result) : Story log none log.marks := by
  unfold Service.update at yields
  rcases yields_get yields with
    ⟨failure, -, none⟩ | ⟨exchange, rest, current, rfl, quiet, read, own, later⟩
  · rw [none]
    exact .nothing
  rw [Log.marks_cons_of_none quiet]
  rcases Action.Yields.throwIf later with ⟨-, rfl, -⟩ | ⟨-, patching⟩
  · exact .nothing
  let last (conversion : Conversion) : Action Conversion := do
    Action.audit .updated user id (.ofFields [("style", .ofOption .text conversion.style)])
    return conversion
  rcases yields_patching last patching with
    none | ⟨now, patch, conversion, after, restyled, change, told⟩
  · rw [none]
    exact .nothing
  obtain ⟨date, _, entry, returned⟩ := yields_audit told
  cases returned
  rw [change, entry]
  exact .updated conversion date _ ⟨exchange, List.mem_cons_self, current, read, own⟩ restyled

theorem story_cancel (posts : service.sendsNotices = false) {id : ConversionId} {user : UserId}
    {result : Except Failure Conversion}
    (yields : (service.cancel id user).Yields log result) : Story log none log.marks := by
  unfold Service.cancel at yields
  rcases yields_get yields with
    ⟨failure, -, none⟩ | ⟨exchange, rest, current, rfl, quiet, read, own, later⟩
  · rw [none]
    exact .nothing
  rw [Log.marks_cons_of_none quiet]
  rcases Action.Yields.throwIf later with ⟨-, rfl, -⟩ | ⟨-, patching⟩
  · exact .nothing
  let last (conversion : Conversion) : Action Conversion := do
    Action.audit .cancelled user id .null
    service.notify (Service.noticeOf conversion .failed)
    return conversion
  rcases yields_patching last patching with
    none | ⟨now, patch, conversion, after, planned, change, told⟩
  · rw [none]
    exact .nothing
  obtain ⟨date, _, entry, told⟩ := yields_audit told
  obtain ⟨_, notice, returned⟩ := yields_notify posts told
  cases returned
  rw [change, entry, notice]
  exact .cancelled conversion date _ ⟨exchange, List.mem_cons_self, current, read, own⟩ planned

theorem story_delete {id : ConversionId} {user : UserId} {result : Except Failure Unit}
    (yields : (Service.delete id user).Yields log result) : Story log none log.marks := by
  unfold Service.delete at yields
  rcases yields_get yields with
    ⟨failure, -, none⟩ | ⟨exchange, rest, current, rfl, quiet, read, own, later⟩
  · rw [none]
    exact .nothing
  rw [Log.marks_cons_of_none quiet]
  rcases Action.Yields.throwIf later with ⟨-, rfl, -⟩ | ⟨-, deleting⟩
  · exact .nothing
  obtain ⟨moment, answer, after, rfl, answered⟩ := deleting.request_bind
  rcases answered.orFail_bind with ⟨_, rfl, rfl, rfl⟩ | ⟨⟨⟩, rfl, told⟩
  · exact .nothing
  have told : (Action.audit .deleted user id (.ofFields [("status", current.status.toData)])
      >>= fun _ => pure ()).Yields after result := by rwa [bind_pure_unit]
  obtain ⟨date, _, entry, returned⟩ := yields_audit told
  cases returned
  have change : Exchange.mark? ⟨moment, .store (.delete id current.status), .ok ()⟩
      = some (.change (.deletion id current.status)) := rfl
  rw [Log.marks_cons change, entry]
  exact .deleted _ date _ ⟨exchange, List.mem_cons_self, current, read, own⟩

def Admits (request : Request) : Prop :=
  request.IsSilent ∨ ∃ draft, request = .store (.create draft)

theorem asks_admission (service : Service) (user : UserId) (request : AdmissionRequest) :
    (service.admission user request).Asks Admits := by
  have resolves (id : ImageId) : (service.resolveImage id).Asks Admits :=
    Program.Asks.mono (service.silent_resolveImage id) fun _ => .inl
  refine (Action.asks_request (.inl trivial)).bind fun allowed => ?_
  refine (Action.asks_orFail _ _).bind fun _ => ?_
  refine (resolves request.source).bind fun source => .ite trivial ?_
  refine (resolves request.target).bind fun target => .ite trivial ?_
  refine (Action.asks_orFail _ _).bind fun _ => ?_
  refine (Action.asks_store (.inr ⟨_, rfl⟩)).bind fun created => ?_
  exact (Action.asks_request (.inl trivial)).bind fun _ => trivial

theorem marks_of_admits {log : Log} (admits : ∀ exchange ∈ log, Admits exchange.request) :
    log.marks = (log.filterMap Exchange.write?).map .change := by
  rw [Log.marks, List.map_filterMap]
  refine List.filterMap_congr fun exchange member => ?_
  obtain ⟨moment, request, answer⟩ := exchange
  rcases admits _ member with silent | ⟨draft, rfl⟩
  · cases request with
    | audit _ | post _ | count _ => exact silent.elim
    | _ => rfl
  · rfl

theorem writes_filter_leavesTrace (log : Log) :
    (log.filter Exchange.leavesTrace).filterMap Exchange.write?
      = log.filterMap Exchange.write? := by
  rw [List.filterMap_filter]
  refine List.filterMap_congr fun exchange _ => ?_
  split
  · rfl
  · rename_i vain
    exact (Exchange.write?_eq_none (Bool.eq_false_iff.2 vain)).symm

def Makes (draft : Draft) (marks : List Mark) : Except Failure Created → Prop
  | .error _ => marks = []
  | .ok created => ∃ moment, marks = [.change (.creation created.conversion.id draft moment)]

theorem makes_admission {user : UserId} {request : AdmissionRequest}
    {result : Except Failure Created}
    (yields : (service.admission user request).Yields log result) :
    Makes (request.draft user) log.marks result := by
  have marks := marks_of_admits (Program.Yields.asked yields (asks_admission service user request))
  have decided := Admission.decides_admission yields
  cases result with
  | error failure =>
    have none : log.filterMap Exchange.write? = [] :=
      List.filterMap_eq_nil_iff.2 fun exchange member =>
        Exchange.write?_eq_none (decided.idle exchange member)
    exact marks.trans (by rw [none]; rfl)
  | ok created =>
    obtain ⟨hearing, before, moment, rfl, passes, reserved⟩ := decided
    obtain ⟨asked, traces⟩ := passes.traces reserved
    have writes : before.filterMap Exchange.write?
        = [.creation created.conversion.id (request.draft user) asked] := by
      rw [← writes_filter_leavesTrace, traces]
      rfl
    refine ⟨asked, marks.trans ?_⟩
    rw [List.filterMap_append, writes]
    rfl

theorem story_create (posts : service.sendsNotices = false) {user : UserId}
    {request : AdmissionRequest} {result : Except Failure Created}
    (yields : (service.create user request).Yields log result) :
    Story log (Task.rejection? ⟨.create user request, .done result⟩) log.marks := by
  unfold Service.create at yields
  rcases yields.bind with ⟨failure, rfl, rejected⟩ | ⟨first, rest, created, rfl, admitted, told⟩
  · rcases rejected.tryCatch with ⟨_, ⟨⟩, -⟩ | ⟨before, after, cause, rfl, refused, handled⟩
    rw [Log.marks_append, show before.marks = [] from makes_admission refused, List.nil_append]
    cases counted : cause.isAdmissionRejection with
    | true =>
      rw [counted] at handled
      obtain ⟨moment, ⟨⟩, rest, rfl, thrown⟩ := Action.Yields.request_bind handled
      cases thrown
      rw [Task.rejection?, if_pos counted]
      exact .refused _
    | false =>
      rw [counted] at handled
      cases handled
      rw [Task.rejection?, if_neg (Bool.eq_false_iff.1 counted)]
      exact .nothing
  · rcases admitted.tryCatch with ⟨_, ⟨⟩, admitted⟩ | ⟨_, _, _, _, -, handled⟩
    · -- After the change come the counter, the entry and the notice, and the queue last.
      obtain ⟨moment, made⟩ := makes_admission admitted
      obtain ⟨_, ⟨⟩, _, rfl, counted⟩ := told.request_bind
      obtain ⟨date, _, entry, told⟩ := yields_audit counted
      obtain ⟨_, notice, told⟩ := yields_notify posts told
      obtain ⟨asked, _, _, rfl, dispatched, returned⟩ := told.lift_bind
      cases returned
      -- Whether the queue takes it or not is told to nobody.
      have silent : Log.marks asked = [] :=
        marks_of_silent dispatched (Service.silent_dispatch _ _)
      rw [List.append_nil, silent] at notice
      rw [Log.marks_append, made, marks_count, entry, notice]
      exact .created _ (request.draft user) moment date _
    · obtain ⟨same, -⟩ := Admission.yields_rejection handled
      cases same

theorem story_of_yields (posts : service.sendsNotices = false) {operation : Operation}
    (bare : operation.isTransition = false) {result : Except Failure operation.Result}
    (yields : (operation.action service).Yields log result) :
    Story log (Task.rejection? ⟨operation, .done result⟩) log.marks := by
  by_cases silent : operation.IsSilent
  · have none : Task.rejection? ⟨operation, .done result⟩ = none := by
      cases operation <;> first | rfl | exact silent.elim
    rw [none, marks_of_silent yields (Operation.silent_action service silent)]
    exact .nothing
  · cases operation with
    | create user request => exact story_create posts yields
    | update id user style => exact story_update yields
    | cancel id user => exact story_cancel posts yields
    | delete id user => exact story_delete yields
    | process id => exact story_process posts log yields
    | executeOne id => exact story_executeOne posts log yields
    | transition _ _ => cases bare
    | _ => exact absurd trivial silent

end Operations

end Ledger

end TryOn
