import TryOn.Proofs.Admission.Alone
import TryOn.Proofs.Admission.Gates

/-! Admission is all or nothing. A request that is turned away at any gate is as good as never made;
one that is let through makes one conversion, takes one unit of its user's quota and one of the rate
limit, and does nothing else. Nobody who asks later, about whomever, can tell another difference. -/

set_option autoImplicit false

namespace TryOn

theorem Exchange.write?_eq_none {exchange : Exchange} (vain : exchange.leavesTrace = false) :
    exchange.write? = none := by
  obtain ⟨moment, request, answer⟩ := exchange
  cases request with
  | store call =>
    cases call with
    | create draft =>
      cases answer with
      | error failure => rfl
      | ok created => cases vain
    | update _ _ | delete _ _ => cases vain
    | _ => rfl
  | _ => rfl

namespace Occurrence

variable {occurrences : List Occurrence}

theorem own_append (first second : List Occurrence) :
    own (first ++ second) = own first ++ own second :=
  List.filterMap_append

theorem eq_of_own? {occurrence : Occurrence} {exchange : Exchange}
    (own : occurrence.own? = some exchange) :
    occurrence = ⟨exchange.moment, occurrence.instant,
      .exchange true exchange.request exchange.answer⟩ := by
  obtain ⟨moment, instant, deed⟩ := occurrence
  cases deed with
  | exchange mine request answer =>
    cases mine
    · cases own
    · cases own
      rfl
  | purge | reset _ => cases own

theorem split_own {first second : Exchange}
    (traces : (own occurrences).filter Exchange.leavesTrace = [first, second]) :
    ∃ before one between two after, occurrences = before ++ one :: (between ++ two :: after)
      ∧ one.own? = some first ∧ two.own? = some second
      ∧ occurrences.filter (fun occurrence => occurrence.own?.all Exchange.leavesTrace)
        = others before ++ one :: (others between ++ two :: others after) := by
  rw [own, List.filter_filterMap] at traces
  obtain ⟨before, one, rest, rfl, early, here, traces⟩ := List.filterMap_eq_cons_iff.1 traces
  obtain ⟨between, two, after, rfl, middle, there, traces⟩ := List.filterMap_eq_cons_iff.1 traces
  obtain ⟨isFirst, firstLeaves⟩ := Option.filter_eq_some_iff.1 here
  obtain ⟨isSecond, secondLeaves⟩ := Option.filter_eq_some_iff.1 there
  have quiet (part : List Occurrence)
      (idle : ∀ occurrence ∈ part, occurrence.own?.filter Exchange.leavesTrace = none) :
      part.filter (fun occurrence => occurrence.own?.all Exchange.leavesTrace) = others part := by
    refine List.filter_congr fun occurrence member => ?_
    have vain := idle occurrence member
    cases mine : occurrence.own? with
    | none => rfl
    | some exchange => simpa [mine] using vain
  refine ⟨before, one, between, two, after, rfl, isFirst, isSecond, ?_⟩
  rw [List.filter_append, List.filter_cons_of_pos (by simp [isFirst, firstLeaves]),
    List.filter_append, List.filter_cons_of_pos (by simp [isSecond, secondLeaves]),
    quiet before early, quiet between middle, quiet after (List.filterMap_eq_nil_iff.1 traces)]

instance (occurrence : Occurrence) (moment : Timestamp) (instant : Instant) :
    Decidable (occurrence.IsBy moment instant) :=
  inferInstanceAs (Decidable (_ ∧ _))

instance (occurrences : List Occurrence) : Decidable (InOrder occurrences) :=
  inferInstanceAs (Decidable (occurrences.Pairwise _))

end Occurrence

/-- One unit of an account is used: a free one as long as there are any, and then a paid one. -/
inductive Quota.Account.Uses (account : Account) : Allowance → Account → Prop
  | free (left : account.freeUsed < account.monthlyLimit) :
    Uses account .free { account with freeUsed := account.freeUsed + 1 }
  | paid (spent : account.monthlyLimit ≤ account.freeUsed)
    (left : account.paidUsed < account.paidCredits) :
    Uses account .paid { account with paidUsed := account.paidUsed + 1 }

theorem Quota.Account.uses_of_nextCharge {account : Account} {allowance : Allowance}
    (afforded : account.nextCharge = some allowance) :
    account.Uses allowance (account.charge allowance) := by
  unfold nextCharge at afforded
  split_ifs at afforded with free paid
  · cases afforded
    exact .free free
  · cases afforded
    exact .paid (not_lt.1 free) paid

namespace Admission

structure Reserves (user : UserId) (request : AdmissionRequest) (created : Created)
    (moment : Timestamp) (before after : Engine) : Prop where
  fresh : before.store.conversions.get? created.conversion.id = none
  conversion : created.conversion =
    { id := created.conversion.id, user := user, source := request.source,
      target := request.target, style := request.style, status := .pending, result := none,
      failure := none, processingMillis := none, createdAt := moment, updatedAt := moment,
      completedAt := none }
  checked : created.conversion.check = .ok ()
  added : after.store.conversions
    = before.store.conversions.insert created.conversion.id created.conversion
  charged : ∃ used, (before.store.account user moment).Uses created.charged used
    ∧ ∀ later, after.store.account user later = used.roll later
  others : ∀ other later, other ≠ user →
    after.store.account other later = before.store.account other later
  limiter : after.limiter = before.limiter

structure Counts (user : UserId) (instant : Instant) (before after : Engine) : Prop where
  store : after.store = before.store
  maxRequests : after.limiter.maxRequests = before.limiter.maxRequests
  window : after.limiter.window = before.limiter.window
  hit : ∀ now, instant ≤ now → after.limiter.recent user now
    = before.limiter.recent user now
      ++ if now - instant < before.limiter.window then [instant] else []
  others : ∀ other now, other ≠ user →
    after.limiter.recent other now = before.limiter.recent other now

variable {service : Service} {user : UserId} {request : AdmissionRequest} {before after : Engine}
  {moment : Timestamp} {instant : Instant} {created : Created}

theorem reserves_of_reacts {occurrence : Occurrence} (reacts : before.Reacts occurrence after)
    (own : occurrence.own? = some ⟨moment, .store (.create (request.draft user)), .ok created⟩)
    (fresh : before.store.conversions.get? created.conversion.id = none)
    (images : request.source ≠ request.target) :
    Reserves user request created moment before after := by
  rw [Occurrence.eq_of_own? own] at reacts
  obtain ⟨⟨id, performed⟩, limiter⟩ := reacts
  obtain ⟨answered, stored⟩ :
      (before.store.create (request.draft user) id moment).1 = .ok created
        ∧ (before.store.create (request.draft user) id moment).2 = after.store :=
    Prod.mk.inj performed
  have account (other : UserId) (later : Timestamp) :=
    before.store.account_perform moment id (.create (request.draft user)) other later
  have payer : (Store.Call.create (request.draft user)).payer? = some user := rfl
  rw [Store.perform, stored, payer] at account
  have answer := before.store.create_eq (request.draft user) id moment
  rw [answered] at answer
  cases afforded : (before.store.account user moment).nextCharge with
  | none => simp [AdmissionRequest.draft, afforded] at answer
  | some allowance =>
    -- The answer tells which identifier the store has taken.
    obtain rfl : created = ⟨.ofDraft id (request.draft user) moment, allowance, _⟩ := by
      simpa [AdmissionRequest.draft, afforded] using answer
    refine ⟨fresh, rfl, ?_, ?_, ⟨_, Quota.Account.uses_of_nextCharge afforded, fun later => ?_⟩,
      fun other later differ => ?_, limiter⟩
    · exact (Conversion.check_eq_ok_iff _).2 (Conversion.consistent_ofDraft _ _ _ images)
    · rcases before.store.create_cases (request.draft user) id moment with
        ⟨accepted, ok, same, inserted⟩ | ⟨failure, refused, -⟩
      · rw [← stored, inserted]
        rfl
      · rw [answered] at refused
        cases refused
    · rw [account, if_pos rfl]
      simp [Quota.Account.served, Quota.Account.consume, afforded]
    · rw [account, if_neg fun same => differ (Option.some.inj same).symm]

theorem counts_of_reacts {occurrence : Occurrence} (reacts : before.Reacts occurrence after)
    (own : occurrence.own? = some ⟨moment, .recordRate user, ()⟩)
    (dated : before.limiter.DatedBy occurrence.instant) :
    Counts user occurrence.instant before after := by
  rw [Occurrence.eq_of_own? own] at reacts
  obtain ⟨store, limiter⟩ := reacts
  have limiter : after.limiter = before.limiter.record user occurrence.instant := limiter
  refine ⟨store, by rw [limiter]; rfl, by rw [limiter]; rfl, fun now late => ?_,
    fun other now differ => ?_⟩
  · rw [limiter, dated.recent_record_self user late]
  · rw [limiter, RateLimiter.recent_record, if_neg differ]

/-- A call that has come to nothing: the course of events without it is the same for all others, and
leaves an engine behind that is as good as the one it left. -/
structure TurnedAway (service : Service) (user : UserId) (request : AdmissionRequest)
    (start last : Engine) (occurrences : List Occurrence) (failure : Failure) : Prop where
  objects : ∃ before after, Occurrence.own occurrences = before ++ after
    ∧ Objects service user request before failure
    ∧ ∀ exchange ∈ after, exchange.request = .count (.rejected failure.code)
  unwritten : ∀ exchange ∈ Occurrence.own occurrences, exchange.write? = none
  unnoticed : ∃ bare, start.Run (Occurrence.others occurrences) bare
    ∧ Engine.AlikeAfter occurrences last bare

/-- A call that has made a conversion: of all it did, the draft that was accepted and the hit are
what makes a difference. -/
inductive LetThrough (service : Service) (user : UserId) (request : AdmissionRequest)
    (start last : Engine) (occurrences : List Occurrence) (created : Created) : Prop
  | intro {asked after : Log} {hearing : Hearing} {early middle late : List Occurrence}
    {draft hit : Occurrence} {first second third fourth bare : Engine}
    (passes : Passes service user request Gate.all hearing asked)
    (reserved : hearing.reserved = some (.ok created))
    (own : Occurrence.own occurrences = asked ++ ⟨hit.moment, .recordRate user, ()⟩ :: after)
    (split : occurrences = early ++ draft :: (middle ++ hit :: late))
    (isDraft : draft.own?
      = some ⟨draft.moment, .store (.create (request.draft user)), .ok created⟩)
    (isHit : hit.own? = some ⟨hit.moment, .recordRate user, ()⟩)
    (before : start.Run early first)
    (reserves : Reserves user request created draft.moment first second)
    (between : second.Run middle third) (counts : Counts user hit.instant third fourth)
    (afterwards : fourth.Run late last)
    (others : start.Run (Occurrence.others early
      ++ draft :: (Occurrence.others middle ++ hit :: Occurrence.others late)) bare)
    (unnoticed : Engine.AlikeAfter occurrences last bare)

theorem Passes.agrees {gates : List Gate} {hearing : Hearing} {log : Log} {gate : Gate}
    (passes : Passes service user request gates hearing log) (member : gate ∈ gates) :
    ∃ heard, gate.objection? user request heard = none := by
  induction passes with
  | nothing => cases member
  | next sofar hears agrees ih =>
    rcases List.mem_append.1 member with earlier | last
    · exact ih earlier
    · exact ⟨_, List.mem_singleton.1 last ▸ agrees⟩

theorem Passes.distinct {hearing : Hearing} {log : Log}
    (passes : Passes service user request Gate.all hearing log) :
    request.source ≠ request.target := by
  obtain ⟨heard, agrees⟩ := passes.agrees (show Gate.distinctImages ∈ Gate.all by decide)
  intro same
  simp [Gate.objection?, same] at agrees

theorem turnedAway_of_objects {terms : Quota.Terms} {maxRequests : Nat} {window : Duration}
    {occurrences : List Occurrence} {last : Engine} {failure : Failure} {asked rest : Log}
    (run : (Engine.opened terms maxRequests window).Run occurrences last)
    (ordered : Occurrence.InOrder occurrences) (split : Occurrence.own occurrences = asked ++ rest)
    (objects : Objects service user request asked failure) (rests : Rests rest (.error failure)) :
    TurnedAway service user request (.opened terms maxRequests window) last occurrences
      failure := by
  have idle : ∀ exchange ∈ Occurrence.own occurrences, exchange.leavesTrace = false := by
    rw [split]
    exact List.forall_mem_append.2 ⟨objects.idle, rests.idle⟩
  refine ⟨⟨asked, rest, split, objects, rests⟩, fun exchange member => ?_, ?_⟩
  · exact Exchange.write?_eq_none (idle exchange member)
  · refine run.strike_opened ordered (·.own?.isNone) fun occurrence member mine => ?_
    obtain ⟨exchange, own⟩ := Option.isSome_iff_exists.1 (by simpa using mine)
    exact ⟨exchange, own, idle exchange (List.mem_filterMap.2 ⟨occurrence, member, own⟩)⟩

theorem letThrough_of_passes {terms : Quota.Terms} {maxRequests : Nat} {window : Duration}
    {occurrences : List Occurrence} {last : Engine} {hearing : Hearing} {asked rest : Log}
    (run : (Engine.opened terms maxRequests window).Run occurrences last)
    (ordered : Occurrence.InOrder occurrences) (distinct : (Occurrence.made occurrences).Nodup)
    (split : Occurrence.own occurrences = asked ++ ⟨moment, .recordRate user, ()⟩ :: rest)
    (passes : Passes service user request Gate.all hearing asked)
    (reserved : hearing.reserved = some (.ok created)) (rests : Rests rest (.ok created)) :
    LetThrough service user request (.opened terms maxRequests window) last occurrences
      created := by
  obtain ⟨drafted, accepted⟩ := passes.traces reserved
  have silent : rest.filter Exchange.leavesTrace = [] :=
    List.filter_eq_nil_iff.2 fun exchange member => by simp [rests.idle exchange member]
  have traces : (Occurrence.own occurrences).filter Exchange.leavesTrace
      = [⟨drafted, .store (.create (request.draft user)), .ok created⟩,
        ⟨moment, .recordRate user, ()⟩] := by
    rw [split, List.filter_append, accepted, List.filter_cons_of_pos rfl, silent]
    rfl
  obtain ⟨early, draft, middle, hit, late, rfl, isDraft, isHit, traced⟩ :=
    Occurrence.split_own traces
  obtain rfl : drafted = draft.moment :=
    Occurrence.moment_of_exchange? (Occurrence.exchange?_of_own? isDraft)
  obtain rfl : moment = hit.moment :=
    Occurrence.moment_of_exchange? (Occurrence.exchange?_of_own? isHit)
  obtain ⟨first, before, onward⟩ := run.split
  obtain _ | ⟨creation, onward⟩ := onward
  obtain ⟨third, between, onward⟩ := onward.split
  obtain _ | ⟨counting, afterwards⟩ := onward
  -- The identifier is new to the store: whatever is stored was made, and nothing is made twice.
  have fresh : first.store.conversions.get? created.conversion.id = none := by
    refine Option.eq_none_iff_forall_ne_some.2 fun conversion present => ?_
    rcases before.came present with ⟨stored, there⟩ | made
    · simp [Engine.opened, Store.opened] at there
    · rw [Occurrence.made, List.filterMap_append] at distinct
      refine (List.nodup_append.1 distinct).2.2 _ made created.conversion.id ?_ rfl
      refine List.mem_filterMap.2 ⟨draft, List.mem_cons_self, ?_⟩
      rw [Occurrence.exchange?_of_own? isDraft]
      rfl
  -- The hit is the latest of all that are recorded, so it counts as long as it is in the window.
  have dated : third.DatedBy hit.moment hit.instant := by
    have sofar : Occurrence.InOrder ((early ++ draft :: middle) ++ hit :: late) := by
      simpa using ordered
    obtain ⟨ordered, -, ends⟩ := List.pairwise_append.1 sofar
    exact (before.append (.step creation between)).dated_opened ordered fun occurrence member =>
      ends occurrence member hit List.mem_cons_self
  obtain ⟨bare, others, alike⟩ := run.strike_opened ordered
    (fun occurrence => occurrence.own?.all Exchange.leavesTrace) fun occurrence _ struck => by
      cases own : occurrence.own? with
      | none => simp [own] at struck
      | some exchange => exact ⟨exchange, rfl, by simpa [own] using struck⟩
  rw [traced] at others
  exact .intro passes reserved split rfl isDraft isHit before
    (reserves_of_reacts creation isDraft fresh passes.distinct) between
    (counts_of_reacts counting isHit dated.limiter) afterwards others alike

/-- Of a course of events from an engine as it is opened, look at the exchanges of one call for an
admission, whoever else is served meanwhile. If it fails, the failure is the objection of the first
gate that has one, and everything else could have occurred just so without it. If it succeeds, and
no two conversions were made under one identifier, its request has passed all gates, and it has made
one conversion and taken one unit of each kind. -/
theorem admission_all_or_nothing {service : Service} {terms : Quota.Terms} {maxRequests : Nat}
    {window : Duration} {occurrences : List Occurrence} {last : Engine} {user : UserId}
    {request : AdmissionRequest} {result : Except Failure Created}
    (run : (Engine.opened terms maxRequests window).Run occurrences last)
    (ordered : Occurrence.InOrder occurrences)
    (called : (service.create user request).Yields (Occurrence.own occurrences) result) :
    match result with
    | .error failure =>
      TurnedAway service user request (.opened terms maxRequests window) last occurrences failure
    | .ok created =>
      (Occurrence.made occurrences).Nodup →
        LetThrough service user request (.opened terms maxRequests window) last occurrences
          created := by
  obtain ⟨asked, rest, split, decides, rests⟩ := decides_create called
  cases result with
  | error failure => exact turnedAway_of_objects run ordered split decides rests
  | ok created =>
    intro distinct
    obtain ⟨hearing, before, moment, rfl, passes, reserved⟩ := decides
    rw [List.append_assoc] at split
    exact letThrough_of_passes run ordered distinct split passes reserved rests

section

open Engine (Played play run_play yields_play own_play)

def caller : UserId := ⟨.ofNat 1⟩

def photo : Image := ⟨⟨.ofNat 3⟩, .user caller, .shown⟩

def wish : AdmissionRequest := ⟨photo.id, ⟨.ofNat 4⟩, none⟩

def novice : Engine := .opened ⟨"free", 1⟩ 3 (Duration.ofMillis 60000)

def plain : Service := ⟨.ofFallback .standard, {}, false⟩

/-- In January a user spends a unit and is put on a plan without any. -/
def january : Played Unit :=
  play (Interleaving.obliging photo ⟨.ofNat 6⟩) ⟨false, ⟨1767225600, 0⟩, 1, ⟨.ofNat 11⟩⟩ (do
    let _ ← Program.request (.store (.create (wish.draft caller)))
    let _ ← Program.request (.store (.setPlan caller "none" 0))
    return ()) novice

def february (engine : Engine) : Played (Except Failure Created) :=
  play (Interleaving.obliging photo ⟨.ofNat 6⟩) ⟨true, ⟨1769904000, 0⟩, 2, ⟨.ofNat 12⟩⟩
    (plain.create caller wish).run engine

def march (engine : Engine) : Played (Except StoreError Quota.Balance) :=
  play (Interleaving.obliging photo ⟨.ofNat 6⟩) ⟨false, ⟨1772323200, 0⟩, 3, ⟨.ofNat 13⟩⟩
    (Program.request (.store (.balance caller))) engine

def threeMonths : List Occurrence :=
  january.occurrences ++ ((february january.engine).occurrences
    ++ (march (february january.engine).engine).occurrences)

theorem own_threeMonths :
    Occurrence.own threeMonths = Occurrence.own (february january.engine).occurrences := by
  have before : Occurrence.own january.occurrences = [] := own_play rfl _ _
  have after : Occurrence.own (march (february january.engine).engine).occurrences = [] :=
    own_play rfl _ _
  rw [threeMonths, Occurrence.own_append, Occurrence.own_append, before, after, List.append_nil,
    List.nil_append]

/-- The call is turned away after that January, and let through as the first one of all. -/
theorem admission_all_or_nothing_in_new_month :
    TurnedAway plain caller wish novice (march (february january.engine).engine).engine threeMonths
        (.quotaExceeded "none" 0 0)
      ∧ ∃ created, LetThrough plain caller wish novice (february novice).engine
        (february novice).occurrences created := by
  constructor
  · have run : novice.Run threeMonths (march (february january.engine).engine).engine :=
      (run_play _ _).append ((run_play _ _).append (run_play _ _))
    have refused : (february january.engine).result = .error (.quotaExceeded "none" 0 0) := by
      decide +kernel
    have called : (plain.create caller wish).Yields (Occurrence.own threeMonths)
        (.error (.quotaExceeded "none" 0 0)) := by
      rw [own_threeMonths, ← refused]
      exact yields_play rfl _ _
    exact admission_all_or_nothing run (by decide +kernel) called
  · have called : (plain.create caller wish).Yields (Occurrence.own (february novice).occurrences)
        (february novice).result :=
      yields_play rfl _ _
    cases accepted : (february novice).result with
    | error failure =>
      have allowed : (february novice).result.isOk = true := by decide +kernel
      rw [accepted] at allowed
      cases allowed
    | ok created =>
      rw [accepted] at called
      exact ⟨created, admission_all_or_nothing (run_play _ _) (by decide +kernel) called
        (by decide +kernel)⟩

end

end Admission

end TryOn
