import TryOn.Proofs.Contention.Lawful
import TryOn.Proofs.Ledger.Balance

/-! The life of one conversion, as its changes tell it: it is made once, comes to its end at most
once, in one of three ways, and may be removed after that or before. -/

set_option autoImplicit false

namespace TryOn

open Interleaving

namespace Ledger

inductive Ending where
  | completed
  | failed
  | cancelled
  deriving DecidableEq

namespace Ending

def between? : Status → Status → Option Ending
  | .processing, .completed => some .completed
  | .processing, .failed => some .failed
  | .pending, .failed => some .cancelled
  | _, _ => none

def action : Ending → AuditAction
  | .completed => .completed
  | .failed => .failed
  | .cancelled => .cancelled

/-- A cancellation is told to the owner as a failure. -/
def kind : Ending → NoticeKind
  | .completed => .completed
  | .failed | .cancelled => .failed

/-- A cancellation is not counted. -/
def event? (last : Conversion) : Ending → Option MetricEvent
  | .completed => some (.completed (last.processingMillis.getD 0))
  | .failed => some .failed
  | .cancelled => none

def due (ending : Ending) (last : Conversion) : Due :=
  ⟨(ending.action, last.id), some (Service.noticeOf last ending.kind), ending.event? last⟩

end Ending

def made (id : ConversionId) (user : UserId) : Due :=
  ⟨(.created, id), some ⟨id, user, .started, none⟩, some .started⟩

def removed (id : ConversionId) : Due := ⟨(.deleted, id), none, none⟩

end Ledger

open Ledger

def Write.ended? : Write → Option (Ending × Conversion)
  | .commit _ patch result => (Ending.between? patch.expected result.status).map fun ending =>
    (ending, result)
  | .creation _ _ _ | .deletion _ _ => none

namespace Interleaving.History

def about (history : History) (id : ConversionId) : List Write :=
  history.writes.filter fun write => write.subject = id

theorem about_concat (history : History) (event : Event) (id : ConversionId) :
    about (history ++ [event]) id = history.about id
      ++ event.exchange.write?.toList.filter fun write => write.subject = id := by
  rw [about, writes_concat, List.filter_append]
  rfl

theorem about_append (history more : History) (id : ConversionId) :
    about (history ++ more) id = history.about id ++ more.about id := by
  simp only [about, writes, List.filterMap_append, List.filter_append]

end Interleaving.History

namespace Ledger

/-- A lawful patch leads to an end, of which something has to be told, or to none, and then at
most an edit has to be told. -/
theorem commit_cases {patch : Patch} {stored : Conversion} {id : ConversionId}
    (lawful : patch.IsLawful) (expected : stored.status = patch.expected) (named : stored.id = id) :
    (∃ ending, (Write.commit id patch (stored.apply patch)).ended?
          = some (ending, stored.apply patch)
        ∧ (Write.commit id patch (stored.apply patch)).due? = some (ending.due (stored.apply patch))
        ∧ (stored.apply patch).isTerminal = true)
      ∨ (Write.commit id patch (stored.apply patch)).ended? = none
        ∧ (∀ due, (Write.commit id patch (stored.apply patch)).due? = some due →
          due = ⟨(.updated, id), none, none⟩)
        ∧ (stored.apply patch).isTerminal = false := by
  subst named
  cases lawful with
  | @planned current transition now _ planned =>
    obtain ⟨source, target, allowed⟩ := Conversion.plan_guard planned
    -- The plan was made for an earlier reading, so it is its guard that tells the status.
    have status : (stored.apply patch).status = transition.target := by
      simp [Conversion.apply, target]
    have terminal : (stored.apply patch).isTerminal = transition.target.isTerminal :=
      congrArg Status.isTerminal status
    have ended : (Write.commit stored.id patch (stored.apply patch)).ended?
        = (Ending.between? current.status transition.target).map fun ending =>
          (ending, stored.apply patch) := by
      rw [Write.ended?, source, status]
    cases transition with
    | start =>
      have pending := Transition.eq_pending_of_allowedFrom_start allowed
      refine .inr ⟨ended.trans (by rw [pending]; rfl), fun due owed => ?_, terminal⟩
      rw [due?_start planned] at owed
      cases owed
    | complete image millis =>
      have running := (Transition.allowedFrom_ending (.ok image) millis _).1 allowed
      have spent : (stored.apply patch).processingMillis = some millis := by
        rw [Conversion.apply, Conversion.millis_of_plan_complete planned]
        rfl
      refine .inl ⟨.completed, ended.trans (by rw [running]; rfl), ?_, terminal⟩
      rw [due?_complete planned, Ending.due, Ending.event?, spent]
      rfl
    | fail text =>
      have running : current.status = .processing := beq_iff_eq.1 allowed
      exact .inl ⟨.failed, ended.trans (by rw [running]; rfl), due?_fail planned, terminal⟩
    | cancel =>
      have pending : current.status = .pending := beq_iff_eq.1 allowed
      exact .inl ⟨.cancelled, ended.trans (by rw [pending]; rfl), due?_cancel planned, terminal⟩
  | @relabelled style now valid =>
    have status : (stored.apply (.relabel style now)).status = .pending := expected
    refine .inr ⟨?_, fun due same => (Option.some.inj same).symm, congrArg Status.isTerminal status⟩
    rw [Write.ended?, status]
    rfl

/-- The changes to one conversion of a user, in order, and what is stored of it after them. -/
inductive Life (id : ConversionId) (user : UserId) : List Write → Option Conversion → Prop
  | made {draft : Draft} {moment : Timestamp} (own : draft.user = user) :
    Life id user [.creation id draft moment] (some (.ofDraft id draft moment))
  | commit {writes : List Write} {stored : Conversion} {patch : Patch}
    (earlier : Life id user writes (some stored)) (lawful : patch.IsLawful)
    (expected : stored.status = patch.expected) :
    Life id user (writes ++ [.commit id patch (stored.apply patch)]) (some (stored.apply patch))
  | deletion {writes : List Write} {stored : Conversion} {expected : Status}
    (earlier : Life id user writes (some stored)) :
    Life id user (writes ++ [.deletion id expected]) none

namespace Life

variable {id : ConversionId} {user : UserId} {writes : List Write} {now : Option Conversion}

theorem begins (life : Life id user writes now) :
    ∃ draft moment rest, writes = .creation id draft moment :: rest ∧ draft.user = user := by
  induction life with
  | made own => exact ⟨_, _, [], rfl, own⟩
  | commit _ _ _ ih | deletion _ ih =>
    obtain ⟨draft, moment, rest, rfl, own⟩ := ih
    exact ⟨draft, moment, rest ++ _, rfl, own⟩

theorem stored (life : Life id user writes now) :
    ∀ conversion, now = some conversion → conversion.id = id ∧ conversion.user = user := by
  induction life with
  | made own =>
    rintro _ ⟨⟩
    exact ⟨rfl, own⟩
  | @commit writes stored patch _ _ _ ih =>
    rintro _ ⟨⟩
    exact ih stored rfl
  | deletion _ _ => exact fun _ none => by cases none

theorem user_eq {other : UserId} {more : List Write} {later : Option Conversion}
    (life : Life id user writes now) (longer : Life id other (writes ++ more) later) :
    other = user := by
  obtain ⟨draft, moment, rest, rfl, own⟩ := life.begins
  obtain ⟨draft', _, _, same, own'⟩ := longer.begins
  cases same
  exact own'.symm.trans own

/-- Each change is the creation, a lawful patch for what was stored then, or the removal. -/
theorem mem_cases (life : Life id user writes now) {write : Write} (member : write ∈ writes) :
    (∃ draft moment, write = .creation id draft moment)
      ∨ (∃ (stored : Conversion) (patch : Patch), write = .commit id patch (stored.apply patch)
        ∧ patch.IsLawful ∧ stored.status = patch.expected ∧ stored.id = id)
      ∨ ∃ expected, write = .deletion id expected := by
  induction life with
  | made _ => exact .inl ⟨_, _, List.mem_singleton.1 member⟩
  | @commit writes stored patch earlier lawful expected ih =>
    rcases List.mem_append.1 member with old | new
    · exact ih old
    · have named := (earlier.stored stored rfl).1
      exact .inr (.inl ⟨stored, patch, List.mem_singleton.1 new, lawful, expected, named⟩)
  | deletion _ ih =>
    rcases List.mem_append.1 member with old | new
    · exact ih old
    · exact .inr (.inr ⟨_, List.mem_singleton.1 new⟩)

end Life

/-- The accounts of a life: it was made, it has ended at most once, and was removed if it is gone.
Edits are left out. -/
structure Accounts (id : ConversionId) (user : UserId) (writes : List Write)
    (now : Option Conversion) : Prop where
  dues : ((writes.filterMap Write.due?).filter fun due => due.deed.1 ≠ .updated)
    = made id user :: ((writes.filterMap Write.ended?).map fun last => last.1.due last.2)
      ++ if now.isSome then [] else [removed id]
  /-- What is stored is the end, if there was one. -/
  stands : ∀ conversion, now = some conversion →
    if conversion.isTerminal then
      ∃ ending, writes.filterMap Write.ended? = [(ending, conversion)]
    else writes.filterMap Write.ended? = []
  once : (writes.filterMap Write.ended?).length ≤ 1
  own : ∀ last ∈ writes.filterMap Write.ended?, last.2.id = id ∧ last.2.user = user

namespace Accounts

variable {id : ConversionId} {user : UserId} {writes : List Write} {stored next : Conversion}
  {write : Write}

theorem made {draft : Draft} {moment : Timestamp} (own : draft.user = user) :
    Accounts id user [.creation id draft moment] (some (.ofDraft id draft moment)) where
  dues := by simp [Write.due?, Write.ended?, own, Ledger.made]
  stands := by
    rintro _ ⟨⟩
    rfl
  once := Nat.zero_le 1
  own := fun _ none => by cases none

theorem ends (accounts : Accounts id user writes (some stored))
    (unended : writes.filterMap Write.ended? = []) {ending : Ending}
    (ended : write.ended? = some (ending, next)) (due : write.due? = some (ending.due next))
    (terminal : next.isTerminal = true) (named : next.id = id) (own : next.user = user) :
    Accounts id user (writes ++ [write]) (some next) := by
  have last : (writes ++ [write]).filterMap Write.ended? = [(ending, next)] := by
    rw [List.filterMap_append, unended, List.nil_append, List.filterMap_cons_some ended]
    rfl
  have apart : (ending.due next).deed.1 ≠ .updated := by
    cases ending <;> exact AuditAction.noConfusion
  have dues := accounts.dues
  rw [unended] at dues
  refine ⟨?_, ?_, ?_, ?_⟩
  · rw [last, List.filterMap_append, List.filterMap_cons_some due, List.filter_append, dues]
    simp [apart]
  · rintro _ ⟨⟩
    rw [if_pos terminal, last]
    exact ⟨ending, rfl⟩
  · rw [last]
    exact Nat.le_refl 1
  · rw [last]
    rintro _ member
    obtain rfl := List.mem_singleton.1 member
    exact ⟨named, own⟩

theorem goesOn (accounts : Accounts id user writes (some stored))
    (unended : writes.filterMap Write.ended? = []) (unending : write.ended? = none)
    (edit : ∀ due, write.due? = some due → due = ⟨(.updated, id), none, none⟩)
    (ongoing : next.isTerminal = false) : Accounts id user (writes ++ [write]) (some next) := by
  have same : (writes ++ [write]).filterMap Write.ended? = [] := by
    rw [List.filterMap_append, unended, List.filterMap_cons_none unending]
    rfl
  have dues := accounts.dues
  rw [unended] at dues
  refine ⟨?_, ?_, ?_, ?_⟩
  · rw [same, List.filterMap_append, List.filter_append, dues]
    cases told : write.due? with
    | none => simp [told]
    | some due => simp [told, edit due told]
  · rintro _ ⟨⟩
    rw [same, ongoing]
    rfl
  · rw [same]
    exact Nat.zero_le 1
  · rw [same]
    exact fun _ none => by cases none

theorem deletion (accounts : Accounts id user writes (some stored)) (expected : Status) :
    Accounts id user (writes ++ [.deletion id expected]) none := by
  have same : (writes ++ [Write.deletion id expected]).filterMap Write.ended?
      = writes.filterMap Write.ended? := by
    rw [List.filterMap_append]
    exact List.append_nil _
  refine ⟨?_, fun _ none => (by cases none), same ▸ accounts.once, same ▸ accounts.own⟩
  rw [same, List.filterMap_append, List.filter_append, accounts.dues]
  simp [Write.due?, removed]

end Accounts

theorem Life.accounts {id : ConversionId} {user : UserId} {writes : List Write}
    {now : Option Conversion} (life : Life id user writes now) : Accounts id user writes now := by
  -- By induction on the changes: a lawful patch is for a conversion that has not ended yet.
  induction life with
  | made own => exact .made own
  | @commit writes stored patch earlier lawful expected ih =>
    have active : stored.isTerminal = false :=
      (congrArg Status.isTerminal expected).trans lawful.isTerminal_expected
    have unended : writes.filterMap Write.ended? = [] := by
      simpa [active] using ih.stands stored rfl
    obtain ⟨named, own⟩ := earlier.stored stored rfl
    rcases commit_cases lawful expected named with
      ⟨ending, ended, due, terminal⟩ | ⟨unending, edit, ongoing⟩
    · exact ih.ends unended ended due terminal named own
    · exact ih.goesOn unended unending edit ongoing
  | @deletion writes stored expected earlier ih => exact ih.deletion expected

end Ledger

end TryOn
