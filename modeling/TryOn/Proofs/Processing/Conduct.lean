import Mathlib.Data.List.Induction
import TryOn.Proofs.Interleaving.Plain

/-! How a run takes a conversion through its processing. It holds the conversion from the first of
its two steps to the second; in between nothing is asked for it but what the processor is. -/

set_option autoImplicit false

namespace TryOn

open Interleaving (Operation)

namespace Write

def starts (id : ConversionId) : Write → Bool
  | .commit other patch _ => other = id ∧ patch.status = some .processing
  | .creation _ _ _ | .deletion _ _ => false

def passes (held : Option ConversionId) : Write → Option ConversionId
  | .commit id patch _ =>
    if patch.status = some .processing then some id
    else if patch.expected = .processing then none
    else held
  | .creation _ _ _ | .deletion _ _ => held

end Write

/-- The conversion whose processing a program has begun, by its first step, and not ended yet, by
its second one. -/
def Log.holding (log : Log) : Option ConversionId :=
  (log.filterMap (·.write?)).foldl Write.passes none

def Request.Serves (work : ProcessRequest) : Request → Prop
  | .process request => request = work
  | .isCancelled | .wait _ _ | .draw _ => True
  | _ => False

namespace Service

abbrev Outcome := Except (Retry.Failure ProcessorError) ImageId

def processing (service : Service) (request : ProcessRequest) : Program Outcome :=
  Retry.execute (.ofProgram true) (service.policies.get processorPolicy)
    fun _ => Program.request (.process request)

theorem asks_processing (service : Service) (request : ProcessRequest) :
    (service.processing request).Asks (Request.Serves request) := by
  have serves : Request.Serves request (.process request) := rfl
  exact Retry.asks_executeFrom trivial (fun _ _ => trivial) (fun _ => trivial)
    (fun _ => Program.asks_request serves) _ _

def ending (outcome : Outcome) (millis : Nat) : Transition :=
  match outcome with
  | .ok result => .complete result millis
  | .error failure => .fail (processingFailureText failure)

end Service

namespace Log

/-- The last exchange is the first step of processing a conversion, and `started` is what became
of it. -/
def Started (id : ConversionId) (started : Conversion) (log : Log) : Prop :=
  ∃ before exchange patch, log = before ++ [exchange]
    ∧ exchange.write? = some (.commit id patch started) ∧ patch.status = some .processing

/-- After the first step of processing a conversion, and a look at the clock, the processor is
asked for the conversion as it was then, with the given outcome. -/
def Processed (service : Service) (id : ConversionId) (outcome : Service.Outcome)
    (log : Log) : Prop :=
  ∃ first clock part after started, log = first ++ clock :: part ++ after
    ∧ Started id started first
    ∧ (service.processing (Service.processRequest started)).Yields part outcome

end Log

namespace Processing

inductive RunRequest (service : Service) (id : ConversionId) (log : Log) : Request → Prop
  | start {current : Conversion} {now : Timestamp} {patch : Patch} (idle : log.holding = none)
    (planned : current.plan .start now = .ok patch) :
    RunRequest service id log (.store (.update id patch))
  | process {request : ProcessRequest} (held : log.holding = some id)
    (own : request.conversion = id) : RunRequest service id log (.process request)
  | finish {outcome : Service.Outcome} {millis : Nat} {current : Conversion} {now : Timestamp}
    {patch : Patch} (held : log.holding = some id) (processed : log.Processed service id outcome)
    (planned : current.plan (Service.ending outcome millis) now = .ok patch) :
    RunRequest service id log (.store (.update id patch))

/-- What is relied on. Whoever holds a conversion finds it being processed, and has its second
step accepted. -/
structure Relies (log : Log) (exchange : Exchange) : Prop where
  named : ∀ id patch result, exchange.write? = some (.commit id patch result) → result.id = id
  found : ∀ id found, log.holding = some id → exchange.read? = some (id, found) →
    ∃ conversion, found = .ok conversion ∧ conversion.status = .processing
  accepted : ∀ id patch, log.holding = some id → exchange.request = .store (.update id patch) →
    patch.expected = .processing → ∃ result, exchange.write? = some (.commit id patch result)

def conduct (service : Service) (operation : Operation) : Conduct where
  may log request :=
    request.IsPlain ∨ ∃ id, operation.runs? = some id ∧ RunRequest service id log request
  expects := Relies

end Processing

namespace Log

theorem holding_concat (log : Log) (exchange : Exchange) :
    holding (log ++ [exchange])
      = exchange.write?.elim log.holding (Write.passes log.holding) := by
  unfold holding
  cases written : exchange.write? <;> simp [written]

theorem holding_concat_of_still {log : Log} {exchange : Exchange}
    (still : exchange.write? = none) : holding (log ++ [exchange]) = log.holding := by
  rw [holding_concat, still]
  rfl

theorem holding_append_of_still {log part : Log}
    (still : ∀ exchange ∈ part, exchange.write? = none) :
    holding (log ++ part) = log.holding := by
  have none : part.filterMap (·.write?) = [] := List.filterMap_eq_nil_iff.2 still
  rw [holding, List.filterMap_append, none, List.append_nil, holding]

theorem exists_starts_of_holding {log : Log} {id : ConversionId} (held : log.holding = some id) :
    ∃ exchange ∈ log, exchange.write?.any (·.starts id) = true := by
  -- By induction on the last exchange: it takes the first step, or the hold is an older one.
  induction log using List.reverseRecOn with
  | nil => cases held
  | append_singleton log last ih =>
    rw [holding_concat] at held
    have earlier (still : Log.holding log = some id) :
        ∃ exchange ∈ log ++ [last], exchange.write?.any (·.starts id) = true := by
      obtain ⟨exchange, member, starts⟩ := ih still
      exact ⟨exchange, List.mem_append_left _ member, starts⟩
    cases written : last.write? with
    | none => exact earlier (by simpa [written] using held)
    | some write =>
      cases write with
      | creation _ _ _ | deletion _ _ => exact earlier (by simpa [written, Write.passes] using held)
      | commit other patch result =>
        simp only [written, Option.elim_some, Write.passes] at held
        split at held
        · rename_i status
          refine ⟨last, by simp, ?_⟩
          simp [written, Write.starts, status, Option.some.inj held]
        · split at held
          · cases held
          · exact earlier held

theorem Processed.append {service : Service} {id : ConversionId} {outcome : Service.Outcome}
    {log : Log} (processed : log.Processed service id outcome) (more : Log) :
    Processed service id outcome (log ++ more) := by
  obtain ⟨first, clock, part, after, started, rfl, start, yields⟩ := processed
  exact ⟨first, clock, part, after ++ more, started, List.append_assoc _ _ _, start, yields⟩

theorem Started.holding {id : ConversionId} {started : Conversion} {log : Log}
    (start : log.Started id started) : log.holding = some id := by
  obtain ⟨before, exchange, patch, rfl, written, status⟩ := start
  rw [holding_concat, written]
  exact if_pos status

end Log

theorem Exchange.write?_eq_none_of_serves {work : ProcessRequest} {exchange : Exchange}
    (serves : Request.Serves work exchange.request) : exchange.write? = none := by
  obtain ⟨moment, request, answer⟩ := exchange
  cases request with
  | store _ => exact serves.elim
  | _ => rfl

namespace Transition

theorem eq_pending_of_allowedFrom_start {status : Status}
    (allowed : Transition.start.allowedFrom status = true) : status = .pending := by
  cases status <;> first | rfl | cases allowed

theorem allowedFrom_ending (outcome : Service.Outcome) (millis : Nat) (status : Status) :
    (Service.ending outcome millis).allowedFrom status = true ↔ status = .processing := by
  cases outcome <;> cases status <;> simp [Service.ending, allowedFrom, target, Status.canBecome,
    Status.beq_eq_decide]

theorem target_ending_ne_processing (outcome : Service.Outcome) (millis : Nat) :
    some (Service.ending outcome millis).target ≠ some .processing := by
  cases outcome <;> simp [Service.ending, target]

end Transition

theorem Request.IsPlain.update {id : ConversionId} {patch : Patch}
    (plain : IsPlain (.store (.update id patch))) :
    patch.expected = .pending ∧ patch.status ≠ some .processing := by
  cases plain with
  | free free => cases free with
    | quiet quiet => exact quiet.elim
  | cancel planned =>
    obtain ⟨expected, status, allowed⟩ := Conversion.plan_guard planned
    rw [expected, status]
    exact ⟨beq_iff_eq.1 allowed, by decide⟩
  | restyle valid =>
    obtain ⟨rfl, -⟩ := Patch.restyle_eq_ok valid
    exact ⟨rfl, by simp [Patch.relabel]⟩

namespace Processing

theorem expected_of_start {seen : Conversion} {now : Timestamp} {patch : Patch}
    (begins : seen.plan .start now = .ok patch) : patch.expected = .pending := by
  obtain ⟨source, -, allowed⟩ := Conversion.plan_guard begins
  exact source.trans (Transition.eq_pending_of_allowedFrom_start allowed)

/-- Plain requests do not pass the hold on a conversion: they neither take a first step nor
commit to what is being processed. -/
theorem holding_of_plain {log : Log} {exchange : Exchange} (plain : exchange.request.IsPlain) :
    Log.holding (log ++ [exchange]) = log.holding := by
  rw [Log.holding_concat]
  obtain ⟨moment, request, answer⟩ := exchange
  have plain : request.IsPlain := plain
  cases written : Exchange.write? ⟨moment, request, answer⟩ with
  | none => rfl
  | some write =>
    cases request with
    | store call =>
      cases call with
      | create draft =>
        cases answer <;> cases written
        rfl
      | update id patch =>
        -- Such a patch neither begins nor ends anything: it is for a pending conversion.
        obtain ⟨expected, status⟩ := plain.update
        cases answer <;> cases written
        simp [Write.passes, expected, status]
      | delete id expected =>
        cases answer <;> cases written
        rfl
      | _ => cases written
    | _ => cases written

theorem holding_append_of_plain {log part : Log}
    (plain : ∀ exchange ∈ part, exchange.request.IsPlain) :
    Log.holding (log ++ part) = log.holding := by
  induction part generalizing log with
  | nil => rw [List.append_nil]
  | cons exchange rest ih =>
    obtain ⟨first, later⟩ := List.forall_mem_cons.1 plain
    rw [List.append_cons, ih later, holding_of_plain first]

end Processing

end TryOn
