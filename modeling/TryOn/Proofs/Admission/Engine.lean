import TryOn.Proofs.RateLimit.Recent
import TryOn.Proofs.Store.Alike

/-! The store and the rate limiter of a service, and what can happen to them. Engines that are alike
answer alike and stay alike; so what leaves no trace can be struck from a course of events, and
everybody else is told what they were told. -/

set_option autoImplicit false

namespace TryOn

/-- Whether an exchange may make a difference to a later one: the store accepted a draft or was
asked to change something else, or a hit was recorded. -/
def Exchange.leavesTrace : Exchange → Bool
  | ⟨_, .store (.create _), answer⟩ => (answer : Except StoreError Created).isOk
  | ⟨_, .store (.get _), _⟩ | ⟨_, .store (.list _ _), _⟩ | ⟨_, .store (.balance _), _⟩ => false
  | ⟨_, .store _, _⟩ | ⟨_, .recordRate _, _⟩ => true
  | _ => false

def RateLimiter.Reacts (limiter : RateLimiter) (instant : Instant) :
    Exchange → RateLimiter → Prop
  | ⟨_, .checkRate user, answer⟩, next => limiter.check user instant = (answer, next)
  | ⟨_, .recordRate user, _⟩, next => next = limiter.record user instant
  | _, next => next = limiter

structure Engine where
  store : Store
  limiter : RateLimiter

inductive Deed where
  | exchange (own : Bool) (request : Request) (answer : request.Answer)
  | purge
  | reset (user : UserId)

structure Occurrence where
  moment : Timestamp
  instant : Instant
  deed : Deed

namespace Occurrence

def exchange? (occurrence : Occurrence) : Option Exchange :=
  match occurrence.deed with
  | .exchange _ request answer => some ⟨occurrence.moment, request, answer⟩
  | .purge | .reset _ => none

def own? (occurrence : Occurrence) : Option Exchange :=
  match occurrence.deed with
  | .exchange true request answer => some ⟨occurrence.moment, request, answer⟩
  | .exchange false _ _ | .purge | .reset _ => none

def IsBy (occurrence : Occurrence) (moment : Timestamp) (instant : Instant) : Prop :=
  occurrence.moment ≤ moment ∧ occurrence.instant ≤ instant

def InOrder (occurrences : List Occurrence) : Prop :=
  occurrences.Pairwise fun first second => first.IsBy second.moment second.instant

def own (occurrences : List Occurrence) : Log :=
  occurrences.filterMap own?

def made (occurrences : List Occurrence) : List ConversionId :=
  occurrences.filterMap fun occurrence =>
    occurrence.exchange?.bind fun exchange => exchange.write?.bind Write.made?

/-- What is left of a course of events without the call. -/
def others (occurrences : List Occurrence) : List Occurrence :=
  occurrences.filter fun occurrence => occurrence.own?.isNone

theorem exchange?_of_own? {occurrence : Occurrence} {exchange : Exchange}
    (own : occurrence.own? = some exchange) : occurrence.exchange? = some exchange := by
  obtain ⟨moment, instant, deed⟩ := occurrence
  cases deed with
  | exchange mine request answer =>
    cases mine
    · cases own
    · exact own
  | purge | reset _ => cases own

theorem moment_of_exchange? {occurrence : Occurrence} {exchange : Exchange}
    (told : occurrence.exchange? = some exchange) : exchange.moment = occurrence.moment := by
  obtain ⟨moment, instant, deed⟩ := occurrence
  cases deed with
  | exchange own request answer =>
    cases told
    rfl
  | purge | reset _ => cases told

end Occurrence

namespace Store

variable {first second store next : Store} {exchange : Exchange}

theorem Reacts.alike (reacts : first.Reacts exchange next)
    (alike : first.AlikeFrom second exchange.moment) :
    ∃ other, second.Reacts exchange other ∧ next.AlikeFrom other exchange.moment := by
  obtain ⟨moment, request, answer⟩ := exchange
  cases request with
  | store call =>
    obtain ⟨fresh, performed⟩ := reacts
    obtain ⟨rfl, rfl⟩ := Prod.mk.inj performed
    refine ⟨(second.perform moment fresh call).2, ⟨fresh, ?_⟩, alike.perform fresh call⟩
    exact Prod.ext (alike.perform_eq fresh call).1.symm rfl
  | poll id stop =>
    obtain ⟨rfl, answered⟩ := reacts
    refine ⟨second, ⟨rfl, answered.imp_right fun found => ?_⟩, alike⟩
    rw [found, get_congr alike.conversions]
  | wallClock =>
    obtain ⟨rfl, told⟩ := reacts
    exact ⟨second, ⟨rfl, told⟩, alike⟩
  | _ =>
    obtain rfl : next = first := reacts
    exact ⟨second, rfl, alike⟩

theorem Reacts.vain (reacts : store.Reacts exchange next) (dated : store.DatedBy exchange.moment)
    (vain : exchange.leavesTrace = false) : store.AlikeFrom next exchange.moment := by
  obtain ⟨moment, request, answer⟩ := exchange
  cases request with
  | store call =>
    obtain ⟨fresh, performed⟩ := reacts
    obtain ⟨rfl, rfl⟩ := Prod.mk.inj performed
    cases call with
    | create draft =>
      cases refused : (store.create draft fresh moment).1 with
      | error failure => exact .of_refused dated refused
      | ok created =>
        simp [Exchange.leavesTrace, refused, Except.isOk, Except.toBool] at vain
    | get _ | list _ _ | balance _ => exact .refl store moment
    | _ => cases vain
  | poll _ _ | wallClock =>
    obtain ⟨rfl, -⟩ := reacts
    exact .refl next moment
  | _ =>
    obtain rfl : next = store := reacts
    exact .refl next moment

theorem Reacts.dated (reacts : store.Reacts exchange next) (dated : store.DatedBy exchange.moment) :
    next.DatedBy exchange.moment := by
  obtain ⟨moment, request, answer⟩ := exchange
  cases request with
  | store call =>
    obtain ⟨fresh, performed⟩ := reacts
    obtain ⟨rfl, rfl⟩ := Prod.mk.inj performed
    exact dated.perform fresh call
  | poll _ _ | wallClock =>
    obtain ⟨rfl, -⟩ := reacts
    exact dated
  | _ =>
    obtain rfl : next = store := reacts
    exact dated

end Store

namespace RateLimiter

variable {first second limiter next : RateLimiter} {instant : Instant} {exchange : Exchange}

theorem Reacts.alike (reacts : first.Reacts instant exchange next)
    (alike : first.AlikeFrom second instant) :
    ∃ other, second.Reacts instant exchange other ∧ next.AlikeFrom other instant := by
  obtain ⟨moment, request, answer⟩ := exchange
  cases request with
  | checkRate user =>
    obtain ⟨rfl, rfl⟩ := Prod.mk.inj (reacts : first.check user instant = (answer, next))
    refine ⟨(second.check user instant).2, Prod.ext (alike.answer user).symm rfl, ?_⟩
    exact ((AlikeFrom.of_check first user instant).symm.trans alike).trans
      (.of_check second user instant)
  | recordRate user =>
    obtain rfl : next = first.record user instant := reacts
    exact ⟨_, rfl, alike.record user⟩
  | _ =>
    obtain rfl : next = first := reacts
    exact ⟨second, rfl, alike⟩

theorem Reacts.vain (reacts : limiter.Reacts instant exchange next)
    (vain : exchange.leavesTrace = false) : limiter.AlikeFrom next instant := by
  obtain ⟨moment, request, answer⟩ := exchange
  cases request with
  | checkRate user =>
    obtain ⟨rfl, rfl⟩ := Prod.mk.inj (reacts : limiter.check user instant = (answer, next))
    exact .of_check limiter user instant
  | recordRate user => cases vain
  | _ =>
    obtain rfl : next = limiter := reacts
    exact .refl next instant

theorem Reacts.dated (reacts : limiter.Reacts instant exchange next)
    (dated : limiter.DatedBy instant) : next.DatedBy instant := by
  obtain ⟨moment, request, answer⟩ := exchange
  cases request with
  | checkRate user =>
    obtain ⟨rfl, rfl⟩ := Prod.mk.inj (reacts : limiter.check user instant = (answer, next))
    exact dated.check user
  | recordRate user =>
    obtain rfl : next = limiter.record user instant := reacts
    exact dated.record user
  | _ =>
    obtain rfl : next = limiter := reacts
    exact dated

end RateLimiter

namespace Engine

variable {first second engine next last : Engine} {occurrence : Occurrence}
  {occurrences : List Occurrence} {moment later : Timestamp} {instant soon : Instant}

def opened (terms : Quota.Terms) (maxRequests : Nat) (window : Duration) : Engine :=
  ⟨.opened terms, { maxRequests, window }⟩

def Reacts (engine : Engine) (occurrence : Occurrence) (next : Engine) : Prop :=
  match occurrence with
  | ⟨moment, instant, .exchange _ request answer⟩ =>
    engine.store.Reacts ⟨moment, request, answer⟩ next.store
      ∧ engine.limiter.Reacts instant ⟨moment, request, answer⟩ next.limiter
  | ⟨_, instant, .purge⟩ => next = { engine with limiter := engine.limiter.purgeIdle instant }
  | ⟨_, _, .reset user⟩ => next = { engine with limiter := engine.limiter.reset user }

inductive Run : Engine → List Occurrence → Engine → Prop
  | here (engine : Engine) : Run engine [] engine
  | step {engine next last : Engine} {occurrence : Occurrence} {occurrences : List Occurrence}
    (reacts : engine.Reacts occurrence next) (later : Run next occurrences last) :
    Run engine (occurrence :: occurrences) last

theorem Run.split {before after : List Occurrence} (run : engine.Run (before ++ after) last) :
    ∃ middle, engine.Run before middle ∧ middle.Run after last := by
  induction before generalizing engine with
  | nil => exact ⟨engine, .here engine, run⟩
  | cons occurrence before ih =>
    obtain _ | ⟨reacts, later⟩ := run
    obtain ⟨middle, early, late⟩ := ih later
    exact ⟨middle, .step reacts early, late⟩

theorem Run.append {middle : Engine} {before after : List Occurrence}
    (early : engine.Run before middle) (late : middle.Run after last) :
    engine.Run (before ++ after) last := by
  induction early with
  | here engine => exact late
  | step reacts _ ih => exact .step reacts (ih late)

/-- From a moment and an instant on, nobody can tell two engines apart. -/
structure AlikeFrom (first second : Engine) (moment : Timestamp) (instant : Instant) : Prop where
  store : first.store.AlikeFrom second.store moment
  limiter : first.limiter.AlikeFrom second.limiter instant

def AlikeAfter (occurrences : List Occurrence) (first second : Engine) : Prop :=
  ∀ moment instant, (∀ occurrence ∈ occurrences, occurrence.IsBy moment instant) →
    first.AlikeFrom second moment instant

structure DatedBy (engine : Engine) (moment : Timestamp) (instant : Instant) : Prop where
  store : engine.store.DatedBy moment
  limiter : engine.limiter.DatedBy instant

theorem AlikeFrom.mono (alike : first.AlikeFrom second moment instant) (onward : moment ≤ later)
    (after : instant ≤ soon) : first.AlikeFrom second later soon :=
  ⟨alike.store.mono onward, alike.limiter.mono after⟩

theorem AlikeFrom.refl (engine : Engine) (moment : Timestamp) (instant : Instant) :
    engine.AlikeFrom engine moment instant :=
  ⟨.refl _ _, .refl _ _⟩

theorem AlikeFrom.symm (alike : first.AlikeFrom second moment instant) :
    second.AlikeFrom first moment instant :=
  ⟨alike.store.symm, alike.limiter.symm⟩

theorem AlikeFrom.trans {third : Engine} (left : first.AlikeFrom second moment instant)
    (right : second.AlikeFrom third moment instant) : first.AlikeFrom third moment instant :=
  ⟨left.store.trans right.store, left.limiter.trans right.limiter⟩

theorem DatedBy.mono (dated : engine.DatedBy moment instant) (onward : moment ≤ later)
    (after : instant ≤ soon) : engine.DatedBy later soon :=
  ⟨dated.store.mono onward, dated.limiter.mono after⟩

theorem datedBy_opened (terms : Quota.Terms) (maxRequests : Nat) (window : Duration)
    (moment : Timestamp) (instant : Instant) :
    (opened terms maxRequests window).DatedBy moment instant where
  store := by simp [Store.DatedBy, opened, Store.opened]
  limiter := by simp [RateLimiter.DatedBy, opened]

theorem Reacts.alike (reacts : first.Reacts occurrence next)
    (alike : first.AlikeFrom second occurrence.moment occurrence.instant) :
    ∃ other, second.Reacts occurrence other
      ∧ next.AlikeFrom other occurrence.moment occurrence.instant := by
  obtain ⟨moment, instant, deed⟩ := occurrence
  cases deed with
  | exchange own request answer =>
    obtain ⟨store, kept, same⟩ := reacts.1.alike alike.store
    obtain ⟨limiter, counted, equal⟩ := reacts.2.alike alike.limiter
    exact ⟨⟨store, limiter⟩, ⟨kept, counted⟩, ⟨same, equal⟩⟩
  | purge =>
    obtain rfl : next = _ := reacts
    refine ⟨_, rfl, alike.store, ?_⟩
    exact ((RateLimiter.AlikeFrom.of_purgeIdle _ _).symm.trans alike.limiter).trans
      (.of_purgeIdle _ _)
  | reset user =>
    obtain rfl : next = _ := reacts
    exact ⟨_, rfl, alike.store, alike.limiter.reset user⟩

theorem Reacts.vain {exchange : Exchange} (reacts : engine.Reacts occurrence next)
    (dated : engine.DatedBy occurrence.moment occurrence.instant)
    (told : occurrence.exchange? = some exchange) (vain : exchange.leavesTrace = false) :
    engine.AlikeFrom next occurrence.moment occurrence.instant := by
  obtain ⟨moment, instant, deed⟩ := occurrence
  cases deed with
  | exchange own request answer =>
    cases told
    exact ⟨reacts.1.vain dated.store vain, reacts.2.vain vain⟩
  | purge | reset _ => cases told

theorem Reacts.dated (reacts : engine.Reacts occurrence next)
    (dated : engine.DatedBy occurrence.moment occurrence.instant) :
    next.DatedBy occurrence.moment occurrence.instant := by
  obtain ⟨moment, instant, deed⟩ := occurrence
  cases deed with
  | exchange own request answer =>
    exact ⟨reacts.1.dated dated.store, reacts.2.dated dated.limiter⟩
  | purge =>
    obtain rfl : next = _ := reacts
    exact ⟨dated.store, dated.limiter.purgeIdle⟩
  | reset user =>
    obtain rfl : next = _ := reacts
    exact ⟨dated.store, dated.limiter.reset user⟩

/-- A run that is late enough from the start leaves nothing behind that is later than itself. -/
theorem Run.dated {late : Timestamp → Instant → Prop} (run : engine.Run occurrences last)
    (dated : ∀ moment instant, late moment instant → engine.DatedBy moment instant)
    (reached : ∀ occurrence ∈ occurrences, late occurrence.moment occurrence.instant)
    (ordered : Occurrence.InOrder occurrences) :
    ∀ moment instant, late moment instant →
      (∀ occurrence ∈ occurrences, occurrence.IsBy moment instant) →
        last.DatedBy moment instant := by
  -- After a step, late enough is what is not before the step: `late` changes along the run.
  induction run generalizing late with
  | here engine => exact fun moment instant enough _ => dated moment instant enough
  | @step engine next last occurrence occurrences reacts _ ih =>
    obtain ⟨onward, later⟩ := List.pairwise_cons.1 ordered
    have here := reacts.dated (dated _ _ (reached occurrence List.mem_cons_self))
    have rest := @ih occurrence.IsBy (fun _ _ passed => here.mono passed.1 passed.2) onward later
    exact fun moment instant _ ends =>
      let ⟨passed, ends⟩ := List.forall_mem_cons.1 ends
      rest moment instant passed ends

/-- What leaves no trace can be struck from a course of events: all the others can still occur, each
as it did, and the engine comes out as good as the same. -/
theorem Run.strike {late : Timestamp → Instant → Prop} {keep : Occurrence → Bool}
    (run : first.Run occurrences last)
    (alike : ∀ moment instant, late moment instant → first.AlikeFrom second moment instant)
    (dated : ∀ moment instant, late moment instant → first.DatedBy moment instant)
    (reached : ∀ occurrence ∈ occurrences, late occurrence.moment occurrence.instant)
    (ordered : Occurrence.InOrder occurrences)
    (vain : ∀ occurrence ∈ occurrences, keep occurrence = false →
      ∃ exchange, occurrence.exchange? = some exchange ∧ exchange.leavesTrace = false) :
    ∃ bare, second.Run (occurrences.filter keep) bare
      ∧ ∀ moment instant, late moment instant →
        (∀ occurrence ∈ occurrences, occurrence.IsBy moment instant) →
          last.AlikeFrom bare moment instant := by
  induction run generalizing second late with
  | here engine =>
    exact ⟨second, .here second, fun moment instant enough _ => alike moment instant enough⟩
  | @step engine next last occurrence occurrences reacts _ ih =>
    obtain ⟨onward, later⟩ := List.pairwise_cons.1 ordered
    obtain ⟨idle, others⟩ := List.forall_mem_cons.1 vain
    have enough := reached occurrence List.mem_cons_self
    have alike := alike _ _ enough
    have dated := dated _ _ enough
    -- The other engine follows, or stays behind if it is spared the occurrence.
    obtain ⟨other, follows, still⟩ : ∃ other, second.Run ([occurrence].filter keep) other
        ∧ next.AlikeFrom other occurrence.moment occurrence.instant := by
      cases kept : keep occurrence with
      | true =>
        obtain ⟨other, follows, still⟩ := reacts.alike alike
        refine ⟨other, ?_, still⟩
        rw [List.filter_cons_of_pos kept]
        exact .step follows (.here other)
      | false =>
        obtain ⟨exchange, told, traceless⟩ := idle kept
        refine ⟨second, ?_, (reacts.vain dated told traceless).symm.trans alike⟩
        rw [List.filter_cons_of_neg (by simp [kept])]
        exact .here second
    obtain ⟨bare, run, same⟩ := @ih other occurrence.IsBy
      (fun _ _ passed => still.mono passed.1 passed.2)
      (fun _ _ passed => (reacts.dated dated).mono passed.1 passed.2) onward later others
    refine ⟨bare, ?_, fun moment instant _ ends => ?_⟩
    · rw [← List.singleton_append, List.filter_append]
      exact follows.append run
    · obtain ⟨passed, ends⟩ := List.forall_mem_cons.1 ends
      exact same moment instant passed ends

theorem Run.dated_opened {terms : Quota.Terms} {maxRequests : Nat} {window : Duration}
    (run : (opened terms maxRequests window).Run occurrences last)
    (ordered : Occurrence.InOrder occurrences)
    (ends : ∀ occurrence ∈ occurrences, occurrence.IsBy moment instant) :
    last.DatedBy moment instant := by
  have always (moment : Timestamp) (instant : Instant) (_ : True) :=
    datedBy_opened terms maxRequests window moment instant
  exact run.dated always (fun _ _ => trivial) ordered moment instant trivial ends

theorem Run.strike_opened {terms : Quota.Terms} {maxRequests : Nat} {window : Duration}
    (run : (opened terms maxRequests window).Run occurrences last)
    (ordered : Occurrence.InOrder occurrences) (keep : Occurrence → Bool)
    (vain : ∀ occurrence ∈ occurrences, keep occurrence = false →
      ∃ exchange, occurrence.own? = some exchange ∧ exchange.leavesTrace = false) :
    ∃ bare, (opened terms maxRequests window).Run (occurrences.filter keep) bare
      ∧ AlikeAfter occurrences last bare := by
  have always (moment : Timestamp) (instant : Instant) (_ : True) :=
    datedBy_opened terms maxRequests window moment instant
  have same (moment : Timestamp) (instant : Instant) (_ : True) :=
    AlikeFrom.refl (opened terms maxRequests window) moment instant
  obtain ⟨bare, others, alike⟩ := run.strike same always (fun _ _ => trivial) ordered
    fun occurrence member struck =>
      let ⟨exchange, own, idle⟩ := vain occurrence member struck
      ⟨exchange, Occurrence.exchange?_of_own? own, idle⟩
  exact ⟨bare, others, fun moment instant ends => alike moment instant trivial ends⟩

theorem Reacts.came {id : ConversionId} {conversion : Conversion}
    (reacts : engine.Reacts occurrence next)
    (present : next.store.conversions.get? id = some conversion) :
    (∃ stored, engine.store.conversions.get? id = some stored)
      ∨ (occurrence.exchange?.bind fun exchange => exchange.write?.bind Write.made?) = some id := by
  obtain ⟨moment, instant, deed⟩ := occurrence
  cases deed with
  | exchange own request answer =>
    rcases reacts.1.conversions with ⟨-, same⟩ | ⟨write, written, applies⟩
    · exact .inl ⟨conversion, same ▸ present⟩
    · rcases applies.came present with old | ⟨draft, moment, rfl, -⟩ | ⟨_, stored, -, old, -⟩
      · exact .inl ⟨conversion, old⟩
      · -- It is the draft that was accepted just now.
        refine .inr ?_
        show (Exchange.write? _).bind Write.made? = some id
        rw [written]
        rfl
      · exact .inl ⟨stored, old⟩
  | purge | reset _ =>
    obtain rfl : next = _ := reacts
    exact .inl ⟨conversion, present⟩

theorem Run.came {id : ConversionId} {conversion : Conversion} (run : engine.Run occurrences last)
    (present : last.store.conversions.get? id = some conversion) :
    (∃ stored, engine.store.conversions.get? id = some stored)
      ∨ id ∈ Occurrence.made occurrences := by
  induction run with
  | here engine => exact .inl ⟨conversion, present⟩
  | @step engine next last occurrence occurrences reacts _ ih =>
    rcases ih present with ⟨stored, old⟩ | new
    · rcases reacts.came old with before | here
      · exact .inl before
      · exact .inr (List.mem_filterMap.2 ⟨occurrence, List.mem_cons_self, here⟩)
    · obtain ⟨maker, member, made⟩ := List.mem_filterMap.1 new
      exact .inr (List.mem_filterMap.2 ⟨maker, List.mem_cons_of_mem _ member, made⟩)

end Engine

end TryOn
