import TryOn.Proofs.Watch.Loop

/-! A watch answers in time with the freshest it has seen. However long the reads of the store take
and whatever they bring, it ends by its deadline and the grace after that, and once it has seen the
caller's record it comes back with a record, unless it finds that there is none any more. -/

set_option autoImplicit false

namespace TryOn

def Look.shown (looks : List Look) : List Conversion :=
  looks.filterMap Look.shown?

namespace Course

def Brings (course : Course) (started limit : Instant)
    (answer : Except StoreError Conversion) : Prop :=
  ∃ span, course.read? 0 = some (span, answer) ∧ started + span ≤ limit

theorem Brings.eq {course : Course} {started limit : Instant} {span : Duration}
    {answer other : Except StoreError Conversion} (brings : course.Brings started limit other)
    (read : course.read? 0 = some (span, answer)) : other = answer := by
  obtain ⟨_, read', -⟩ := brings
  exact (Prod.mk.inj (Option.some.inj (read'.symm.trans read))).2

/-- A record keeps its owner, and its status never goes back. -/
structure IsForward (course : Course) : Prop where
  owner : ∀ {first second : Nat} {span span' : Duration} {before after : Conversion},
    course.read? first = some (span, .ok before) → course.read? second = some (span', .ok after) →
      after.user = before.user
  onward : ∀ {first second : Nat} {span span' : Duration} {before after : Conversion},
    first < second → course.read? first = some (span, .ok before) →
      course.read? second = some (span', .ok after) → before.status.rank ≤ after.status.rank

def Has (course : Course) (looks : List Look) : Prop :=
  ∀ (index : Nat) (look : Look) (answer : Except StoreError Conversion),
    looks[index]? = some look → look.answer = some answer →
      ∃ span, course.read? index = some (span, answer)

variable {course : Course}

theorem Has.concat {looks : List Look} {look : Look} {stop : Stop} {start : Instant}
    (has : course.Has looks) (looked : course.look? looks.length stop start = some look) :
    course.Has (looks ++ [look]) := by
  intro index other answer present answered
  rcases Nat.lt_trichotomy index looks.length with old | rfl | beyond
  · rw [List.getElem?_append_left old] at present
    exact has index other answer present answered
  · -- The new look is the read whose number is that of the looks so far.
    obtain rfl : look = other := by simpa using present
    exact course.read?_of_look? looked answered
  · rw [List.getElem?_eq_none (by simp; omega)] at present
    cases present

theorem has_of_outcome? {α : Type} {program : Program α} {now : Instant} {looks : List Look}
    {outcome : Outcome α} (has : course.Has looks)
    (came : program.outcome? course now looks = some outcome) : course.Has outcome.looks := by
  induction program generalizing now looks with
  | done result =>
    cases came
    exact has
  | ask request resume ih =>
    cases request with
    | now => exact ih now has came
    | wait span stop => exact ih _ has came
    | poll id stop =>
      obtain ⟨look, looked, came⟩ := Option.bind_eq_some_iff.1 came
      exact ih _ (has.concat looked) came
    | _ => cases came

theorem Has.pairwise_shown {looks : List Look} (has : course.Has looks)
    (isForward : course.IsForward) :
    (Look.shown looks).Pairwise fun before after =>
      before.status.rank ≤ after.status.rank ∧ after.user = before.user := by
  refine List.pairwise_filterMap.2 (List.pairwise_iff_getElem.2 ?_)
  intro first second within within' sooner before shown after shown'
  have told {index : Nat} {conversion : Conversion} (inside : index < looks.length)
      (shown : looks[index].shown? = some conversion) :
      ∃ span, course.read? index = some (span, .ok conversion) := by
    have answered := Look.shown?_eq_some_iff.1 shown
    exact has index _ _ (List.getElem?_eq_getElem inside) answered
  obtain ⟨span, read⟩ := told within shown
  obtain ⟨span', read'⟩ := told within' shown'
  exact ⟨isForward.onward sooner read read', isForward.owner read read'⟩

theorem Has.le_last {looks : List Look} (has : course.Has looks) (isForward : course.IsForward)
    {last seen : Conversion} (freshest : (Look.shown looks).getLast? = some last)
    (member : seen ∈ Look.shown looks) :
    seen.status.rank ≤ last.status.rank ∧ last.user = seen.user := by
  obtain ⟨earlier, whole⟩ := List.getLast?_eq_some_iff.1 freshest
  have ordered := has.pairwise_shown isForward
  rw [whole] at ordered member
  rcases List.mem_append.1 member with before | same
  · exact (List.pairwise_append.1 ordered).2.2 seen before last List.mem_cons_self
  · obtain rfl := List.mem_singleton.1 same
    exact ⟨Nat.le_refl _, rfl⟩

end Course

theorem Status.isTerminal_of_rank_le {first second : Status} (rank : first.rank ≤ second.rank)
    (terminal : first.isTerminal = true) : second.isTerminal = true := by
  cases first <;> cases second <;> first | rfl | contradiction

theorem singleton_eq_append_cons_iff {α : Type} {item other : α} {before after : List α} :
    [item] = before ++ other :: after ↔ before = [] ∧ item = other ∧ after = [] := by
  cases before <;> simp [eq_comm]

namespace Service.Watching.Ending

variable {watching : Watching} {limit : Instant} {seen : Conversion} {looks : List Look}
  {result : Except Failure Conversion}

theorem ne_nil (ending : watching.Ending limit seen looks result) : looks ≠ [] := by
  cases ending <;> simp

theorem result_cases (ending : watching.Ending limit seen looks result) :
    (∃ conversion, result = .ok conversion)
      ∨ (result = .error (.notFound watching.id)
        ∧ ∃ before look other, looks = before ++ [look] ∧ look.stop = watching.stop
          ∧ look.answer = some (.error (.notFound other))) := by
  induction ending with
  | done _ _ _ | last _ _ => exact .inl ⟨_, rfl⟩
  | @gone seen look other stop answer => exact .inr ⟨rfl, [], look, other, rfl, stop, answer⟩
  | @onward seen look rest result _ _ _ ih =>
    rcases ih with ok | ⟨failed, before, last, other, rfl, found⟩
    · exact .inl ok
    · exact .inr ⟨failed, look :: before, last, other, rfl, found⟩

theorem getLast?_shown (ending : watching.Ending limit seen looks result) {conversion : Conversion}
    (ok : result = .ok conversion) : (seen :: Look.shown looks).getLast? = some conversion := by
  induction ending with
  | done _ answer _ =>
    cases ok
    simp [Look.shown, Look.shown?_eq_some_iff.2 answer]
  | gone _ _ => cases ok
  | @last seen look _ _ =>
    cases ok
    cases shown : look.shown? <;> simp [Look.shown, shown]
  | @onward seen look rest result _ _ _ ih =>
    have later := ih ok
    unfold Look.shown at later ⊢
    cases shown : look.shown? with
    | none => simpa [shown] using later
    | some found => simpa [shown] using later

/-- A read in time that fails ends the watch exactly if there is no record any more. -/
theorem eq_nil_iff (ending : watching.Ending limit seen looks result) {before after : List Look}
    {look : Look} {failure : StoreError} (split : looks = before ++ look :: after)
    (stop : look.stop = watching.stop) (failed : look.answer = some (.error failure)) :
    after = [] ↔ ∃ other, failure = .notFound other := by
  induction ending generalizing before with
  | done _ answer _ =>
    obtain ⟨-, rfl, -⟩ := singleton_eq_append_cons_iff.1 split
    simp [answer] at failed
  | gone _ answer =>
    obtain ⟨-, rfl, rfl⟩ := singleton_eq_append_cons_iff.1 split
    simp only [answer, Option.some.injEq, Except.error.injEq] at failed
    exact ⟨fun _ => ⟨_, failed.symm⟩, fun _ => rfl⟩
  | last late _ =>
    -- The last look is not one in time: it is not given up when the caller calls the watch off.
    obtain ⟨-, rfl, -⟩ := singleton_eq_append_cons_iff.1 split
    rw [late] at stop
    cases stop
  | @onward seen first rest result _ isOpen later ih =>
    cases before with
    | nil =>
      obtain ⟨rfl, rfl⟩ := List.cons.inj split
      constructor
      · intro none
        exact absurd none later.ne_nil
      · rintro ⟨other, rfl⟩
        exact absurd failed (isOpen.present other)
    | cons head before => exact ih (List.cons.inj split).2

theorem patient (ending : watching.Ending limit seen looks result) {conversion : Conversion}
    (ok : result = .ok conversion) (unfinished : conversion.isTerminal = false) :
    ∃ before look, looks = before ++ [look] ∧ look.start = limit
      ∧ look.stop = ⟨false, some (limit + watching.grace)⟩ := by
  induction ending with
  | done _ _ terminal =>
    cases ok
    rw [terminal] at unfinished
    cases unfinished
  | gone _ _ => cases ok
  | @last seen look stop start => exact ⟨[], look, rfl, start, stop⟩
  | @onward seen look rest result _ _ _ ih =>
    obtain ⟨before, last, rfl, found⟩ := ih ok
    exact ⟨look :: before, last, rfl, found⟩

end Service.Watching.Ending

namespace Watch

/-- How a watch has gone that saw the caller's record in time. -/
structure Settles (course : Course) (id : ConversionId) (deadline limit : Instant)
    (grace : Duration) (outcome : Outcome (Except Failure Conversion)) : Prop where
  /-- There is a record, unless a read in time has found that there is none any more. -/
  answered : (∃ conversion, outcome.result = .ok conversion)
    ∨ (outcome.result = .error (.notFound id)
      ∧ ∃ before look other, outcome.looks = before ++ [look] ∧ before ≠ []
        ∧ look.stop = ⟨true, some deadline⟩ ∧ look.answer = some (.error (.notFound other)))
  /-- No other failure of a read in time has ended the watch. -/
  persistent : ∀ before look after failure, outcome.looks = before ++ look :: after →
    look.stop = ⟨true, some deadline⟩ → look.answer = some (.error failure) →
      (after = [] ↔ ∃ other, failure = .notFound other)
  /-- The record is the last one that was shown. -/
  freshest : ∀ conversion, outcome.result = .ok conversion →
    (Look.shown outcome.looks).getLast? = some conversion
  forward : ∀ conversion, outcome.result = .ok conversion → course.IsForward →
    ∀ look ∈ outcome.looks, ∀ seen, look.answer = some (.ok seen) →
      seen.status.rank ≤ conversion.status.rank ∧ conversion.user = seen.user
        ∧ (seen.isTerminal = true → conversion.isTerminal = true)
  /-- A record that is not done is given when it is time to stop and not before, after a last
  look. -/
  patient : ∀ conversion, outcome.result = .ok conversion → conversion.isTerminal = false →
    ∃ before look, outcome.looks = before ++ [look] ∧ look.start = limit
      ∧ look.stop = ⟨false, some (limit + grace)⟩

structure Answers (course : Course) (started : Instant) (grace : Duration) (id : ConversionId)
    (user : UserId) (timeout : Duration) (outcome : Outcome (Except Failure Conversion)) :
    Prop where
  inTime : outcome.finish ≤ started + timeout + grace
  looks : course.Has outcome.looks
  stalled : (∀ answer, ¬ course.Brings started (course.limit started (started + timeout)) answer) →
    outcome.result = .error .cancelled
  failed : ∀ failure,
    course.Brings started (course.limit started (started + timeout)) (.error failure) →
      outcome.result = .error (.ofStore failure)
  foreign : ∀ conversion,
    course.Brings started (course.limit started (started + timeout)) (.ok conversion) →
      conversion.isOwnedBy user = false → outcome.result = .error (.notFound id)
  owned : ∀ conversion,
    course.Brings started (course.limit started (started + timeout)) (.ok conversion) →
      conversion.isOwnedBy user = true →
        Settles course id (started + timeout) (course.limit started (started + timeout)) grace
          outcome

section

variable {course : Course} {deadline limit : Instant} {grace : Duration} {id : ConversionId}
  {outcome : Outcome (Except Failure Conversion)} {first : Look} {seen : Conversion}

theorem forward_of_freshest (has : course.Has outcome.looks) {conversion : Conversion}
    (freshest : (Look.shown outcome.looks).getLast? = some conversion)
    (isForward : course.IsForward) {look : Look} (member : look ∈ outcome.looks)
    {seen : Conversion} (answer : look.answer = some (.ok seen)) :
    seen.status.rank ≤ conversion.status.rank ∧ conversion.user = seen.user
      ∧ (seen.isTerminal = true → conversion.isTerminal = true) := by
  have shown : seen ∈ Look.shown outcome.looks :=
    List.mem_filterMap.2 ⟨look, member, Look.shown?_eq_some_iff.2 answer⟩
  obtain ⟨rank, owner⟩ := has.le_last isForward freshest shown
  exact ⟨rank, owner, Status.isTerminal_of_rank_le rank⟩

theorem settles_done (has : course.Has outcome.looks) (looks : outcome.looks = [first])
    (answer : first.answer = some (.ok seen)) (terminal : seen.isTerminal = true)
    (result : outcome.result = .ok seen) : Settles course id deadline limit grace outcome := by
  have freshest : ∀ conversion, outcome.result = .ok conversion →
      (Look.shown outcome.looks).getLast? = some conversion := by
    intro conversion ok
    rw [result] at ok
    cases ok
    simp [looks, Look.shown, Look.shown?_eq_some_iff.2 answer]
  refine ⟨.inl ⟨seen, result⟩, ?_, freshest, ?_, ?_⟩
  · intro before look after failure split _ failed
    rw [looks] at split
    obtain ⟨-, rfl, -⟩ := singleton_eq_append_cons_iff.1 split
    simp [answer] at failed
  · intro conversion ok isForward look member seen answer
    exact forward_of_freshest has (freshest conversion ok) isForward member answer
  · intro conversion ok unfinished
    rw [result] at ok
    cases ok
    rw [terminal] at unfinished
    cases unfinished

theorem settles_of_ending {watching : Service.Watching} {more : List Look}
    (ending : watching.Ending limit seen more outcome.result) (has : course.Has outcome.looks)
    (looks : outcome.looks = first :: more) (answer : first.answer = some (.ok seen)) :
    Settles course watching.id watching.deadline limit watching.grace outcome := by
  have freshest : ∀ conversion, outcome.result = .ok conversion →
      (Look.shown outcome.looks).getLast? = some conversion := by
    intro conversion ok
    have last := ending.getLast?_shown ok
    rwa [looks, Look.shown, List.filterMap_cons, Look.shown?_eq_some_iff.2 answer]
  refine ⟨?_, ?_, freshest, ?_, ?_⟩
  · rcases ending.result_cases with ok | ⟨failed, before, look, other, rfl, stop, none⟩
    · exact .inl ok
    · exact .inr ⟨failed, first :: before, look, other, looks, by simp, stop, none⟩
  · intro before look after failure split stop failed
    rw [looks] at split
    cases before with
    | nil =>
      obtain ⟨rfl, -⟩ := List.cons.inj split
      simp [answer] at failed
    | cons head before => exact ending.eq_nil_iff (List.cons.inj split).2 stop failed
  · intro conversion ok isForward look member seen answer
    exact forward_of_freshest has (freshest conversion ok) isForward member answer
  · intro conversion ok unfinished
    obtain ⟨before, look, rfl, start, stop⟩ := ending.patient ok unfinished
    exact ⟨first :: before, look, looks, start, stop⟩

end

theorem outcome?_watchFor {course : Course} {started : Instant} (grace : Duration)
    (id : ConversionId) (user : UserId) {options : WatchOptions} {look : Look}
    (looked : course.look? 0 ⟨true, some (started + options.timeout)⟩ started = some look) :
    (Service.watchFor grace id user options).outcome? course started []
      = match look.answer with
        | none => some ⟨.error .cancelled, look.finish, [look]⟩
        | some (.error failure) => some ⟨.error (.ofStore failure), look.finish, [look]⟩
        | some (.ok conversion) =>
          let period := max options.pollInterval WatchOptions.minPollInterval
          if conversion.isOwnedBy user = false then
            some ⟨.error (.notFound id), look.finish, [look]⟩
          else if conversion.isTerminal then some ⟨.ok conversion, look.finish, [look]⟩
          else Action.outcome? course look.finish [look]
            (Service.Watching.lookFrom ⟨id, grace, period, started + options.timeout⟩
              (options.timeout / period + 2) (started + period) conversion) := by
  unfold Service.watchFor
  rw [Action.outcome?_now, Action.outcome?_poll]
  simp only [List.length_nil, Service.Watching.stop, looked, Option.bind_some, List.nil_append]
  rcases look.answer with - | failure | conversion
  · rfl
  · rfl
  · dsimp only
    cases conversion.isOwnedBy user with
    | false => rfl
    | true => cases conversion.isTerminal <;> rfl

/-- From the first look on, a watch closes as its looks allow. -/
theorem looking_closes {course : Course} {started : Instant} (grace : Duration)
    (id : ConversionId) {options : WatchOptions} (seen : Conversion) {look : Look}
    (after : started ≤ look.finish)
    (before : look.finish ≤ course.limit started (started + options.timeout)) :
    let period := max options.pollInterval WatchOptions.minPollInterval
    let watching : Service.Watching := ⟨id, grace, period, started + options.timeout⟩
    watching.Closes course (course.limit started (started + options.timeout)) seen look.finish
      [look] (watching.lookFrom (options.timeout / period + 2) (started + period) seen) := by
  intro period watching
  have positive : 0 < period := Nat.lt_of_lt_of_le (by decide) (Nat.le_max_right _ _)
  refine Service.Watching.closes_lookFrom (course.time?_eq _) rfl (course.stopTime_le _) _ ?_ after
    before
  -- The ticks are a period apart, and so many of them reach beyond the deadline.
  calc started + options.timeout
      < started + (options.timeout / period + 1) * period :=
        Nat.add_lt_add_left ((Nat.div_lt_iff_lt_mul positive).1 (Nat.lt_succ_self _)) started
    _ ≤ started + period + (options.timeout / period + 1) * period :=
        Nat.add_le_add_right (Nat.le_add_right started period) _

section

variable {course : Course} {started : Instant} {grace : Duration} {id : ConversionId}
  {user : UserId} {timeout span : Duration} {outcome : Outcome (Except Failure Conversion)}
  (soon : started + span ≤ course.limit started (started + timeout))
  (inTime : outcome.finish ≤ started + timeout + grace) (has : course.Has outcome.looks)

include soon inTime has

theorem answers_of_failed {failure : StoreError}
    (read : course.read? 0 = some (span, .error failure))
    (failed : outcome.result = .error (.ofStore failure)) :
    Answers course started grace id user timeout outcome := by
  refine ⟨inTime, has, fun none => ?_, ?_, ?_, ?_⟩
  · exact absurd ⟨span, read, soon⟩ (none (.error failure))
  · intro other brings
    cases brings.eq read
    exact failed
  · intro conversion brings
    cases brings.eq read
  · intro conversion brings
    cases brings.eq read

theorem answers_of_shown {conversion : Conversion}
    (read : course.read? 0 = some (span, .ok conversion))
    (foreign : conversion.isOwnedBy user = false → outcome.result = .error (.notFound id))
    (owned : conversion.isOwnedBy user = true →
      Settles course id (started + timeout) (course.limit started (started + timeout)) grace
        outcome) :
    Answers course started grace id user timeout outcome := by
  refine ⟨inTime, has, fun none => ?_, ?_, ?_, ?_⟩
  · exact absurd ⟨span, read, soon⟩ (none (.ok conversion))
  · intro failure brings
    cases brings.eq read
  · intro other brings
    cases brings.eq read
    exact foreign
  · intro other brings
    cases brings.eq read
    exact owned

end

/-- A watch always ends, in time, with what its reads allow. -/
theorem watch_answers (course : Course) (started : Instant) (grace : Duration)
    (id : ConversionId) (user : UserId) (options : WatchOptions) :
    ∃ outcome,
      (Service.watchFor grace id user options).outcome? course started [] = some outcome
        ∧ Answers course started grace id user options.timeout outcome := by
  let deadline := started + options.timeout
  let limit := course.limit started deadline
  have ends := course.time?_eq deadline
  have due := course.stopTime_le deadline
  have inTime : limit ≤ deadline := Nat.max_le.2 ⟨Nat.le_add_right started options.timeout, due⟩
  obtain ⟨look, looked, stop, -, first⟩ := course.look?_of_time? ends 0 started
  have went := outcome?_watchFor grace id user looked
  have has {outcome : Outcome (Except Failure Conversion)}
      (came : (Service.watchFor grace id user options).outcome? course started [] = some outcome) :
      course.Has outcome.looks :=
    Course.has_of_outcome? (fun _ _ _ present => by simp at present) came
  rcases first with ⟨span, answer, read, soon, answered, finish⟩ | ⟨late, unanswered, finish⟩
  · have soonEnough : look.finish ≤ deadline + grace :=
      finish ▸ Nat.le_trans (Nat.le_trans soon inTime) (Nat.le_add_right deadline grace)
    rw [answered] at went
    rcases answer with failure | conversion <;> dsimp only at went
    · exact ⟨_, went, answers_of_failed soon soonEnough (has went) read rfl⟩
    · split at went
      · rename_i foreign
        refine ⟨_, went, answers_of_shown soon soonEnough (has went) read (fun _ => rfl) ?_⟩
        intro owned
        rw [foreign] at owned
        cases owned
      · rename_i owned
        split at went
        · rename_i terminal
          refine ⟨_, went, answers_of_shown soon soonEnough (has went) read ?_ ?_⟩
          · exact fun foreign => absurd foreign owned
          · exact fun _ => settles_done (has went) rfl answered terminal rfl
        · -- The caller's record, and not done: the watch goes on to its ending.
          obtain ⟨outcome, more, came, looks, finished, ending⟩ :=
            looking_closes grace id conversion (finish ▸ Nat.le_add_right started span)
              (finish ▸ soon)
          rw [came] at went
          have finished := Nat.le_trans finished (Nat.add_le_add_right inTime grace)
          refine ⟨outcome, went, answers_of_shown soon finished (has went) read ?_ ?_⟩
          · exact fun foreign => absurd foreign owned
          · exact fun _ => settles_of_ending ending (has went) looks answered
  · -- Nothing came in time, so no answer of the first read would have been in time.
    rw [unanswered] at went
    dsimp only at went
    have never : ∀ answer, ¬ course.Brings started limit answer := by
      rintro answer ⟨span, read, soon⟩
      exact absurd soon (Nat.not_le_of_lt (late span answer read))
    have soonEnough : look.finish ≤ deadline + grace :=
      finish ▸ Nat.le_trans inTime (Nat.le_add_right deadline grace)
    refine ⟨_, went, soonEnough, has went, fun _ => rfl, ?_, ?_, ?_⟩
    · exact fun failure brings => absurd brings (never _)
    · exact fun conversion brings => absurd brings (never _)
    · exact fun conversion brings => absurd brings (never _)

/-- The record of a pending conversion, and a store that hangs after it has been read thrice. -/
def stalling (user : UserId) : Course :=
  let draft : Draft := ⟨user, ⟨.ofNat 3⟩, ⟨.ofNat 4⟩, none⟩
  ⟨fun count => if count < 3 then some (0, .ok (.ofDraft ⟨.ofNat 2⟩ draft ⟨0, 0⟩)) else none, none⟩

theorem watch_answers_stalled :
    let user : UserId := ⟨.ofNat 1⟩
    ∃ outcome, (Service.watchFor (Duration.ofMillis 300) ⟨.ofNat 2⟩ user
        ⟨Duration.ofMillis 1200, Duration.ofMillis 500⟩).outcome? (stalling user) 0 []
          = some outcome
      ∧ Answers (stalling user) 0 (Duration.ofMillis 300) ⟨.ofNat 2⟩ user (Duration.ofMillis 1200)
          outcome
      ∧ outcome.finish = Duration.ofMillis 1500 ∧ outcome.looks.length = 5
      ∧ outcome.result.toOption.map Conversion.status = some .pending := by
  intro user
  have told : ((Service.watchFor (Duration.ofMillis 300) ⟨.ofNat 2⟩ user
      ⟨Duration.ofMillis 1200, Duration.ofMillis 500⟩).outcome? (stalling user) 0 []).map
        (fun outcome => (outcome.finish, outcome.looks.length,
          outcome.result.toOption.map Conversion.status))
      = some (Duration.ofMillis 1500, 5, some .pending) := by decide +kernel
  obtain ⟨outcome, came, answers⟩ := watch_answers (stalling user) 0 (Duration.ofMillis 300)
    ⟨.ofNat 2⟩ user ⟨Duration.ofMillis 1200, Duration.ofMillis 500⟩
  rw [came, Option.map_some, Option.some.injEq, Prod.mk.injEq, Prod.mk.injEq] at told
  exact ⟨outcome, came, answers, told⟩

end Watch

end TryOn
