import TryOn.Proofs.Processing.Conduct

/-! What a permitted change does to the conversion it is about. Only pending conversions are
edited, cancelled or taken up, and only their holder ends the processing of others. -/

set_option autoImplicit false

namespace TryOn

open Interleaving (Operation)

/-- The text of an error of the processor: the reason it gives, after the kind of error it is. -/
inductive ProcessorError.Reads : ProcessorError → String → Prop
  | transient (reason : String) :
    Reads (.transient reason) ("processor temporarily unavailable: " ++ reason)
  | rejected (reason : String) : Reads (.rejected reason) ("processor rejected input: " ++ reason)
  | other (text : String) : Reads (.other text) text

theorem ProcessorError.reads_message (error : ProcessorError) : error.Reads error.message := by
  cases error with
  | transient reason => exact .transient reason
  | rejected reason => exact .rejected reason
  | other text => exact .other text

/-- The record has failed and has the text of the error, if there is anything to be read in it. -/
def Conversion.ShowsError (conversion : Conversion) (error : ProcessorError) : Prop :=
  conversion.status = .failed ∧ conversion.result = none
    ∧ ∃ text, error.Reads text
      ∧ conversion.failure = some (if Text.isBlankText text then "unknown error" else text)

def Conversion.Shows (conversion : Conversion) : Service.Outcome → Prop
  | .ok image =>
    conversion.status = .completed ∧ conversion.result = some image ∧ conversion.failure = none
  | .error (.terminal _ last) | .error (.exhausted _ last) => conversion.ShowsError last
  | .error (.cancelled _ _) =>
    conversion.status = .failed ∧ conversion.result = none
      ∧ conversion.failure = some "processing cancelled"

theorem Conversion.Shows.completed_or_failed {conversion : Conversion} {outcome : Service.Outcome}
    (shows' : conversion.Shows outcome) :
    conversion.status = .completed ∨ conversion.status = .failed := by
  cases outcome with
  | ok image => exact .inl shows'.1
  | error failure =>
    cases failure with
    | terminal | exhausted | cancelled => exact .inr shows'.1

theorem Conversion.Shows.isTerminal {conversion : Conversion} {outcome : Service.Outcome}
    (shows' : conversion.Shows outcome) : conversion.status.isTerminal = true := by
  rcases shows'.completed_or_failed with status | status <;> rw [status] <;> rfl

theorem Conversion.shows_of_failureText {conversion : Conversion}
    {failure : Retry.Failure ProcessorError} (status : conversion.status = .failed)
    (result : conversion.result = none)
    (text : conversion.failure = some (failureText (Service.processingFailureText failure))) :
    conversion.Shows (.error failure) := by
  cases failure with
  | terminal attempts last | exhausted attempts last =>
    exact ⟨status, result, last.message, last.reads_message, text⟩
  | cancelled attempts last =>
    have shown : failureText Service.processingCancelledText = "processing cancelled" := by decide
    exact ⟨status, result, text.trans (congrArg some shown)⟩

theorem Conversion.shows_apply_ending {stored current : Conversion} {outcome : Service.Outcome}
    {millis : Nat} {now : Timestamp} {patch : Patch} (consistent : stored.Consistent)
    (running : stored.status = .processing)
    (planned : current.plan (Service.ending outcome millis) now = .ok patch) :
    (stored.apply patch).Shows outcome := by
  have noResult := consistent.result
  have noFailure := consistent.failure
  simp only [running, Status.beq_eq_decide] at noResult noFailure
  cases outcome with
  | ok image =>
    cases plans_of_plan planned
    refine ⟨rfl, rfl, ?_⟩
    simpa [apply, Patch.move] using noFailure
  | error failure =>
    cases plans_of_plan planned
    refine shows_of_failureText rfl ?_ rfl
    simpa [apply, Patch.move] using noResult

namespace Processing

/-- A change that is permitted after a log, and what it finds and leaves. -/
inductive Moves (service : Service) (log : Log) (before : Table ConversionId Conversion) :
    Write → Table ConversionId Conversion → Prop
  | creation {id : ConversionId} {draft : Draft} {moment : Timestamp}
    (checked : draft.check = .ok ()) :
    Moves service log before (.creation id draft moment)
      (before.insert id (.ofDraft id draft moment))
  | edit {id : ConversionId} {patch : Patch} {stored : Conversion}
    (present : before.get? id = some stored) (pending : stored.status = .pending)
    (expected : patch.expected = .pending) (apart : patch.status ≠ some .processing)
    (consistent : (stored.apply patch).Consistent) :
    Moves service log before (.commit id patch (stored.apply patch))
      (before.insert id (stored.apply patch))
  | start {id : ConversionId} {patch : Patch} {stored : Conversion}
    (present : before.get? id = some stored) (pending : stored.status = .pending)
    (idle : log.holding = none) (status : patch.status = some .processing)
    (consistent : (stored.apply patch).Consistent) :
    Moves service log before (.commit id patch (stored.apply patch))
      (before.insert id (stored.apply patch))
  | finish {id : ConversionId} {patch : Patch} {stored : Conversion} {outcome : Service.Outcome}
    (present : before.get? id = some stored) (running : stored.status = .processing)
    (held : log.holding = some id) (expected : patch.expected = .processing)
    (leaves : patch.status ≠ some .processing) (processed : log.Processed service id outcome)
    (showing : stored.Consistent → (stored.apply patch).Shows outcome)
    (consistent : (stored.apply patch).Consistent) :
    Moves service log before (.commit id patch (stored.apply patch))
      (before.insert id (stored.apply patch))
  | deletion {id : ConversionId} {stored : Conversion} {expected : Status}
    (present : before.get? id = some stored) (apart : stored.status ≠ .processing) :
    Moves service log before (.deletion id expected) (before.erase id)

/-- The store has applied the patch to what it found, which has the status that the patch was made
for; who made the patch tells which status this is. -/
theorem moves_of_update {service : Service} {id : ConversionId} {log : Log} {patch : Patch}
    {stored result : Conversion} {before : Table ConversionId Conversion}
    (may : Request.IsPlain (.store (.update id patch))
      ∨ ∃ own, RunRequest service own log (.store (.update id patch)))
    (present : before.get? id = some stored) (guarded : stored.status = patch.expected)
    (patched : Store.patched stored patch = .ok result) :
    Moves service log before (.commit id patch result) (before.insert id result) := by
  obtain ⟨-, consistent, rfl⟩ := Store.patched_eq_ok_iff.1 patched
  rcases may with plain | ⟨own, run⟩
  · obtain ⟨expected, apart⟩ := plain.update
    exact .edit present (guarded.trans expected) expected apart consistent
  · cases run with
    | start idle planned =>
      obtain ⟨-, status, -⟩ := Conversion.plan_guard planned
      have pending := guarded.trans (expected_of_start planned)
      exact .start present pending idle status consistent
    | finish held processed planned =>
      obtain ⟨source, target, allowed⟩ := Conversion.plan_guard planned
      have expected := source.trans ((Transition.allowedFrom_ending _ _ _).1 allowed)
      have running := guarded.trans expected
      refine .finish present running held expected ?_ processed
        (fun before => Conversion.shows_apply_ending before running planned) consistent
      rw [target]
      exact Transition.target_ending_ne_processing _ _

theorem moves_of_may {service : Service} {operation : Operation} {log : Log}
    {exchange : Exchange} {write : Write} {before after : Table ConversionId Conversion}
    (may : (conduct service operation).may log exchange.request)
    (written : exchange.write? = some write) (applies : write.Applies before after) :
    Moves service log before write after := by
  obtain ⟨moment, request, answer⟩ := exchange
  have may : request.IsPlain ∨ ∃ id, operation.runs? = some id
    ∧ RunRequest service id log request := may
  cases request with
  | store call =>
    cases call with
    | create draft =>
      rcases answer with failure | created <;> cases written
      cases applies
      rcases may with plain | ⟨_, -, ⟨⟩⟩
      exact .creation plain.create
    | update id patch =>
      rcases answer with failure | result <;> cases written
      cases applies with
      | commit present guarded patched =>
        exact moves_of_update (may.imp_right fun ⟨own, _, run⟩ => ⟨own, run⟩) present guarded
          patched
    | delete id expected =>
      rcases answer with failure | done <;> cases written
      cases applies with
      | deletion present guarded =>
        rcases may with plain | ⟨_, -, ⟨⟩⟩
        exact .deletion present (guarded ▸ plain.delete)
    | _ => cases written
  | _ => cases written

end Processing

end TryOn
