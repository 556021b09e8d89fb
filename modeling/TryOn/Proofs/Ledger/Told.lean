import TryOn.Proofs.Ledger.Past

/-! What the sinks have of one conversion, once no operation is under way: that it was made, how it
came to its end if it has, and that it was removed if it is gone, each told once. -/

set_option autoImplicit false

namespace TryOn

open Interleaving Ledger

def AuditAction.isEnding : AuditAction → Bool
  | .completed | .failed | .cancelled => true
  | .created | .updated | .deleted => false

def NoticeKind.isFinal : NoticeKind → Bool
  | .completed | .failed => true
  | .started => false

namespace Sinks

/-- What the audit trail has of a conversion: the actions, and the users they are told of. -/
def entriesOf (sinks : Sinks) (id : ConversionId) (asked : AuditAction → Bool) :
    List (AuditAction × UserId) :=
  (sinks.trail.filter fun entry => entry.conversion = id && asked entry.action).map fun entry =>
    (entry.action, entry.user)

def noticesOf (sinks : Sinks) (id : ConversionId) (asked : NoticeKind → Bool) : List Notice :=
  sinks.notices.filter fun notice => notice.conversion = id && asked notice.kind

end Sinks

def Interleaving.History.told (history : History) (id : ConversionId) : List Due :=
  history.dues.filter fun due => due.deed.1 ≠ .updated && due.deed.2 = id

namespace Ledger

theorem due?_deed {write : Write} {due : Due} (owed : write.due? = some due) :
    due.deed.2 = write.subject
      ∧ (due.deed.1 = .updated → due.notice = none ∧ due.event = none) := by
  cases write with
  | creation id draft moment | deletion id expected =>
    obtain rfl := Option.some.inj owed
    exact ⟨rfl, fun edit => by cases edit⟩
  | commit id patch result =>
    simp only [Write.due?] at owed
    split at owed
    · obtain rfl := Option.some.inj owed
      exact ⟨rfl, fun _ => ⟨rfl, rfl⟩⟩
    · obtain rfl := Option.some.inj owed
      exact ⟨rfl, fun edit => by cases edit⟩
    · split at owed <;> obtain rfl := Option.some.inj owed <;>
        exact ⟨rfl, fun edit => by cases edit⟩
    · cases owed
    · cases owed

theorem told_eq (history : History) (id : ConversionId) :
    history.told id
      = ((history.about id).filterMap Write.due?).filter fun due => due.deed.1 ≠ .updated := by
  have its : history.dues.filter (fun due => due.deed.2 = id)
      = (history.about id).filterMap Write.due? := by
    rw [History.dues, History.about, List.filter_filterMap, List.filterMap_filter]
    refine List.filterMap_congr fun write _ => ?_
    cases owed : write.due? with
    | none => simp
    | some due =>
      rw [Option.filter_some, (due?_deed owed).1]
  rw [← its, List.filter_filter]
  rfl

variable {setting : Setting} {terms : Quota.Terms} {scene : Scene} {id : ConversionId}
  {conversion : Conversion}

theorem Once.told (once : Once setting terms scene id conversion) :
    scene.history.told id
      = made id conversion.user
        :: (((scene.history.about id).filterMap Write.ended?).map fun last => last.1.due last.2)
        ++ if (scene.store.conversions.get? id).isSome then [] else [removed id] := by
  rw [told_eq]
  exact once.life.accounts.dues

theorem Once.user_eq {other : Conversion} (once : Once setting terms scene id conversion)
    (again : Once setting terms scene id other) : other.user = conversion.user := by
  have life := again.life
  rw [← List.append_nil (scene.history.about id)] at life
  exact once.life.user_eq life

/-- Whatever has to be told is an edit, or one of the three things that can be told but once. -/
theorem due_cases (run : Run setting (.opened terms) scene) {due : Due}
    (owed : due ∈ scene.history.dues) :
    ∃ conversion, Once setting terms scene due.deed.2 conversion
      ∧ ((due.deed.1 = .updated ∧ due.notice = none ∧ due.event = none)
        ∨ due = made due.deed.2 conversion.user ∨ due = removed due.deed.2
        ∨ ∃ ending last, due = Ending.due ending last ∧ last.user = conversion.user
          ∧ Ended setting terms scene due.deed.2 ending last) := by
  obtain ⟨write, member, owes⟩ := List.mem_filterMap.1 owed
  obtain ⟨subject, bare⟩ := due?_deed owes
  obtain ⟨conversion, once⟩ := exists_once_of_mem run member
  rw [← subject] at once
  refine ⟨conversion, once, ?_⟩
  by_cases edit : due.deed.1 = .updated
  · exact .inl ⟨edit, bare edit⟩
  · have told : due ∈ scene.history.told due.deed.2 :=
      List.mem_filter.2 ⟨owed, by simp [edit]⟩
    rw [once.told] at told
    rcases List.mem_append.1 told with told | told
    · rcases List.mem_cons.1 told with same | told
      · exact .inr (.inl same)
      · obtain ⟨last, member, same⟩ := List.mem_map.1 told
        exact .inr (.inr (.inr ⟨last.1, last.2, same.symm, (once.life.accounts.own last member).2,
          (ended_iff run).2 member⟩))
    · split at told
      · cases told
      · exact .inr (.inr (.inl (List.mem_singleton.1 told)))

theorem Balanced.once_of_entry (balanced : Balanced scene) (run : Run setting (.opened terms) scene)
    {entry : AuditEntry} (member : entry ∈ scene.history.sinks.trail) :
    ∃ conversion, Once setting terms scene entry.conversion conversion
      ∧ conversion.user = entry.user := by
  obtain ⟨event, inside, attests⟩ := balanced.attested entry member
  exact attests.once run inside

theorem notice_of_due (run : Run setting (.opened terms) scene) {due : Due} {notice : Notice}
    (owed : due ∈ scene.history.dues) (posted : due.notice = some notice) :
    notice.conversion = due.deed.2 ∧ due.deed.1 ≠ .updated
      ∧ ∃ conversion, Once setting terms scene notice.conversion conversion
        ∧ conversion.user = notice.user := by
  obtain ⟨conversion, once, edit | same | same | ⟨ending, last, same, own, ended⟩⟩ :=
    due_cases run owed
  · rw [edit.2.1] at posted
    cases posted
  · rw [same] at posted
    obtain rfl := Option.some.inj posted
    refine ⟨rfl, fun edit => ?_, conversion, once, rfl⟩
    rw [same] at edit
    cases edit
  · rw [same] at posted
    cases posted
  · rw [same] at posted
    obtain rfl := Option.some.inj posted
    refine ⟨(congrArg (·.deed.2) same).symm, fun edit => ?_, conversion, ?_, own.symm⟩
    · rw [same] at edit
      cases ending <;> cases edit
    · rw [same] at once
      exact once

theorem Balanced.once_of_notice (balanced : Balanced scene)
    (run : Run setting (.opened terms) scene) {notice : Notice}
    (member : notice ∈ scene.history.sinks.notices) :
    ∃ conversion, Once setting terms scene notice.conversion conversion
      ∧ conversion.user = notice.user := by
  obtain ⟨due, owed, posted⟩ := List.mem_filterMap.1 (balanced.notices.mem_iff.1 member)
  exact (notice_of_due run owed posted).2.2

def entered (user : UserId) (asked : AuditAction → Bool) (dues : List Due) :
    List (AuditAction × UserId) :=
  (dues.filter fun due => asked due.deed.1).map fun due => (due.deed.1, user)

def noticed (asked : NoticeKind → Bool) (dues : List Due) : List Notice :=
  (dues.filterMap Due.notice).filter fun notice => asked notice.kind

/-- The audit trail has of a conversion what has to be told of it. -/
theorem Balanced.entriesOf_perm (balanced : Balanced scene)
    (run : Run setting (.opened terms) scene) (once : Once setting terms scene id conversion)
    {asked : AuditAction → Bool} (edits : asked .updated = false) :
    (scene.history.sinks.entriesOf id asked).Perm
      (entered conversion.user asked (scene.history.told id)) := by
  let its (deed : AuditAction × ConversionId) : Bool := deed.2 = id && asked deed.1
  let named (deed : AuditAction × ConversionId) : AuditAction × UserId :=
    (deed.1, conversion.user)
  -- All entries about a conversion name its owner, so the actions alone make the difference.
  have entries : scene.history.sinks.entriesOf id asked
      = ((scene.history.sinks.trail.map AuditEntry.deed).filter its).map named := by
    rw [List.filter_map, List.map_map]
    refine List.map_congr_left fun entry member => Prod.ext rfl ?_
    obtain ⟨inside, about⟩ := List.mem_filter.1 member
    obtain ⟨other, again, own⟩ := balanced.once_of_entry run inside
    obtain rfl : entry.conversion = id := of_decide_eq_true (Bool.and_eq_true_iff.1 about).1
    exact own.symm.trans (once.user_eq again)
  have dues : ((scene.history.dues.map Due.deed).filter its).map named
      = entered conversion.user asked (scene.history.told id) := by
    rw [List.filter_map, List.map_map, entered, History.told, List.filter_filter]
    refine congrArg (List.map _) (List.filter_congr fun due _ => ?_)
    by_cases edit : due.deed.1 = .updated
    · simp [its, edit, edits]
    · simp [its, edit, Bool.and_comm]
  rw [entries, ← dues]
  exact (balanced.deeds.filter its).map named

theorem Balanced.noticesOf_perm (balanced : Balanced scene)
    (run : Run setting (.opened terms) scene) (id : ConversionId) (asked : NoticeKind → Bool) :
    (scene.history.sinks.noticesOf id asked).Perm (noticed asked (scene.history.told id)) := by
  -- Notices name their conversion, and those that are left out here, the edits, have none.
  refine (balanced.notices.filter _).trans (.of_eq ?_)
  rw [noticed, History.told, List.filter_filterMap, List.filterMap_filter, List.filter_filterMap]
  refine List.filterMap_congr fun due owed => ?_
  cases posted : due.notice with
  | none => simp
  | some notice =>
    obtain ⟨about, apart, -⟩ := notice_of_due run owed posted
    by_cases here : due.deed.2 = id <;> simp [Option.filter_some, about, apart, here]

structure Told (setting : Setting) (terms : Quota.Terms) (scene : Scene) (id : ConversionId)
    (user : UserId) : Prop where
  created : scene.history.sinks.entriesOf id (· = .created) = [(.created, user)]
  started : scene.history.sinks.noticesOf id (· = .started) = [⟨id, user, .started, none⟩]
  ended : ∀ ending last, Ended setting terms scene id ending last →
    scene.history.sinks.entriesOf id AuditAction.isEnding = [(ending.action, user)]
      ∧ scene.history.sinks.noticesOf id NoticeKind.isFinal
        = [⟨id, user, ending.kind, last.failure⟩]
  unended : (∀ ending last, ¬ Ended setting terms scene id ending last) →
    scene.history.sinks.entriesOf id AuditAction.isEnding = []
      ∧ scene.history.sinks.noticesOf id NoticeKind.isFinal = []
  deleted : scene.history.sinks.entriesOf id (· = .deleted)
    = if (scene.store.conversions.get? id).isSome then [] else [(.deleted, user)]

/-- The account of a conversion: that it was made, its end if it has come to one, and that it was
removed if it is not present any more. -/
def account (id : ConversionId) (user : UserId) (ended : Option (Ending × Conversion))
    (present : Bool) : List Due :=
  made id user :: (ended.map fun last => last.1.due last.2).toList
    ++ if present then [] else [removed id]

theorem Once.told_eq_account (run : Run setting (.opened terms) scene)
    (once : Once setting terms scene id conversion) :
    ∃ ended : Option (Ending × Conversion),
      (∀ ending last, Ended setting terms scene id ending last ↔ ended = some (ending, last))
        ∧ scene.history.told id = account id conversion.user ended
          (scene.store.conversions.get? id).isSome := by
  have few := once.life.accounts.once
  have told := once.told
  have known (ending : Ending) (last : Conversion) :
      Ended setting terms scene id ending last ↔ _ := ended_iff run
  generalize (scene.history.about id).filterMap Write.ended? = ends at few told known
  match ends with
  | [] => exact ⟨none, fun ending last => (known ending last).trans (by simp), told⟩
  | [only] =>
    refine ⟨some only, fun ending last => (known ending last).trans ?_, told⟩
    rw [List.mem_singleton, Option.some.injEq, eq_comm]
  | _ :: _ :: _ => simp at few

section Account

variable (id) (user : UserId) (ended : Option (Ending × Conversion)) (present : Bool)

theorem entered_created :
    entered user (· = .created) (account id user ended present) = [(.created, user)] := by
  rcases ended with _ | ⟨_ | _ | _, last⟩ <;> cases present <;> rfl

theorem entered_deleted :
    entered user (· = .deleted) (account id user ended present)
      = if present then [] else [(.deleted, user)] := by
  rcases ended with _ | ⟨_ | _ | _, last⟩ <;> cases present <;> rfl

theorem entered_ending :
    entered user AuditAction.isEnding (account id user ended present)
      = (ended.map fun last => (last.1.action, user)).toList := by
  rcases ended with _ | ⟨_ | _ | _, last⟩ <;> cases present <;> rfl

theorem noticed_started :
    noticed (· = .started) (account id user ended present) = [⟨id, user, .started, none⟩] := by
  rcases ended with _ | ⟨_ | _ | _, last⟩ <;> cases present <;> rfl

theorem noticed_final :
    noticed NoticeKind.isFinal (account id user ended present)
      = (ended.map fun last => Service.noticeOf last.2 last.1.kind).toList := by
  rcases ended with _ | ⟨_ | _ | _, last⟩ <;> cases present <;> rfl

end Account

theorem Balanced.told (balanced : Balanced scene) (run : Run setting (.opened terms) scene)
    (once : Once setting terms scene id conversion) :
    Told setting terms scene id conversion.user := by
  obtain ⟨ended, known, told⟩ := once.told_eq_account run
  have entries (asked : AuditAction → Bool) (edits : asked .updated = false) :=
    told ▸ balanced.entriesOf_perm run once edits
  have notices (asked : NoticeKind → Bool) := told ▸ balanced.noticesOf_perm run id asked
  have endings := entries AuditAction.isEnding rfl
  have finals := notices NoticeKind.isFinal
  rw [entered_ending] at endings
  rw [noticed_final] at finals
  refine ⟨?_, ?_, fun ending last ends => ?_, fun unended => ?_, ?_⟩
  · have created := entries (· = .created) rfl
    rw [entered_created] at created
    exact List.perm_singleton.1 created
  · have started := notices (· = .started)
    rw [noticed_started] at started
    exact List.perm_singleton.1 started
  · obtain rfl := (known ending last).1 ends
    refine ⟨List.perm_singleton.1 endings, (List.perm_singleton.1 finals).trans ?_⟩
    show [Notice.mk last.id last.user ending.kind last.failure] = _
    rw [ends.once.named, once.user_eq ends.once]
  · obtain rfl : ended = none :=
      Option.eq_none_iff_forall_ne_some.2 fun last same => unended _ _ ((known _ _).2 same)
    exact ⟨endings.eq_nil, finals.eq_nil⟩
  · have deleted := entries (· = .deleted) rfl
    rw [entered_deleted] at deleted
    split at deleted
    · rename_i present
      rw [if_pos present]
      exact deleted.eq_nil
    · rename_i gone
      rw [if_neg gone]
      exact List.perm_singleton.1 deleted

end Ledger

end TryOn
