import TryOn.Proofs.Ledger.Life

/-! What has become of the conversions on the way to a scene: what was stored once, and how it came
to its end. The changes tell both, and those to one conversion are a life. -/

set_option autoImplicit false

namespace TryOn.Ledger

open Interleaving

def Once (setting : Setting) (terms : Quota.Terms) (scene : Scene) (id : ConversionId)
    (conversion : Conversion) : Prop :=
  ∃ earlier, Run setting (.opened terms) earlier ∧ Run setting earlier scene
    ∧ earlier.store.conversions.get? id = some conversion

def Ended (setting : Setting) (terms : Quota.Terms) (scene : Scene) (id : ConversionId)
    (ending : Ending) (last : Conversion) : Prop :=
  ∃ earlier next stored, Run setting (.opened terms) earlier ∧ Step setting earlier next
    ∧ Run setting next scene ∧ earlier.store.conversions.get? id = some stored
    ∧ next.store.conversions.get? id = some last
    ∧ Ending.between? stored.status last.status = some ending

/-- Of each conversion, the changes to it are a life, if there are any. -/
def Lived (store : Store) (history : History) : Prop :=
  ∀ id, (history.about id = [] ∧ store.conversions.get? id = none)
    ∨ ∃ user, Life id user (history.about id) (store.conversions.get? id)

section Invariant

variable {setting : Setting} {store next : Store} {history : History} {event : Event}

theorem Lived.unmade {id : ConversionId} (lived : Lived store history) (new : id ∉ history.made) :
    history.about id = [] := by
  rcases lived id with ⟨none, -⟩ | ⟨user, life⟩
  · exact none
  · obtain ⟨draft, moment, rest, begins, -⟩ := life.begins
    have creation : .creation id draft moment ∈ history.about id := begins ▸ List.mem_cons_self
    have made : id ∈ history.made :=
      List.mem_filterMap.2 ⟨_, (List.mem_filter.1 creation).1, rfl⟩
    exact absurd made new

theorem Lived.life {id : ConversionId} {stored : Conversion} (lived : Lived store history)
    (present : store.conversions.get? id = some stored) :
    Life id stored.user (history.about id) (some stored) := by
  rcases lived id with ⟨-, absent⟩ | ⟨user, life⟩
  · rw [present] at absent
    cases absent
  · rw [present] at life
    exact (life.stored stored rfl).2 ▸ life

theorem Lived.concat (lived : Lived store history) (lawful : event.exchange.request.IsLawful)
    (admitted : setting.Admits history event.exchange)
    (reacts : store.Reacts event.exchange next) : Lived next (history ++ [event]) := by
  intro id
  rw [History.about_concat]
  rcases reacts.conversions with ⟨still, same⟩ | ⟨write, written, applies⟩
  · rw [still, same]
    simpa using lived id
  rw [written, Option.toList_some]
  -- A change adds to the life of its subject, and to no other one.
  by_cases here : id = write.subject
  · have its : [write].filter (fun write => write.subject = id) = [write] := by simp [here]
    rw [its]
    have fresh := admitted.fresh id
    rw [written] at fresh
    generalize next.conversions = after at applies
    cases applies with
    | creation made draft moment =>
      obtain rfl : id = made := here
      rw [lived.unmade (fresh rfl), Table.get?_insert_self]
      exact .inr ⟨draft.user, .made rfl⟩
    | @commit made patch stored result present expected patched =>
      obtain rfl : id = made := here
      obtain ⟨-, -, rfl⟩ := Store.patched_eq_ok_iff.1 patched
      rw [Exchange.request_of_commit written] at lawful
      rw [Table.get?_insert_self]
      exact .inr ⟨_, (lived.life present).commit lawful expected⟩
    | @deletion made stored _ present _ =>
      obtain rfl : id = made := here
      rw [Table.get?_erase_self]
      exact .inr ⟨_, (lived.life present).deletion⟩
  · have apart : [write].filter (fun write => write.subject = id) = [] := by
      simp [Ne.symm here]
    rw [apart, List.append_nil, applies.get?_elsewhere here]
    exact lived id

def protocol (setting : Setting) (terms : Quota.Terms) : Protocol setting terms where
  conduct _ := ⟨fun _ request => request.IsLawful, fun _ _ => True⟩
  settles _ _ _ := True
  invariant := Lived
  kept operation _ := by
    refine Program.Asks.keeps (operation.lawful_action setting.service) ?_ fun _ _ _ _ => trivial
    exact fun _ _ request lawful => lawful
  opened _ := .inl ⟨rfl, rfl⟩
  preserved lived _ lawful admitted reacts := ⟨trivial, lived.concat lawful admitted reacts⟩

end Invariant

variable {setting : Setting} {terms : Quota.Terms} {scene : Scene} {id : ConversionId}
  {conversion : Conversion}

theorem lived_of_run (run : Run setting (.opened terms) scene) :
    Lived scene.store scene.history := by
  have orderly : (protocol setting terms).Orderly scene := Protocol.orderly_of_run run
  exact orderly.invariant

theorem Once.life (once : Once setting terms scene id conversion) :
    Life id conversion.user (scene.history.about id) (scene.store.conversions.get? id) := by
  obtain ⟨earlier, start, goesOn, present⟩ := once
  have life := (lived_of_run start).life present
  obtain ⟨more, extended⟩ := exists_history_of_run goesOn
  rcases lived_of_run (start.trans goesOn) id with ⟨none, -⟩ | ⟨user, longer⟩
  · -- What was made is told of for ever.
    obtain ⟨_, _, rest, begins, -⟩ := life.begins
    rw [extended, History.about_append, begins] at none
    cases none
  · have longer' := longer
    rw [extended, History.about_append] at longer'
    exact life.user_eq longer' ▸ longer

theorem Once.named (once : Once setting terms scene id conversion) : conversion.id = id := by
  obtain ⟨earlier, start, -, present⟩ := once
  exact (((lived_of_run start).life present).stored conversion rfl).1

theorem applies_of_mem (run : Run setting (.opened terms) scene) {write : Write}
    (member : write ∈ scene.history.writes) :
    ∃ earlier later : Scene, Run setting (.opened terms) earlier ∧ Step setting earlier later
      ∧ Run setting later scene
      ∧ write.Applies earlier.store.conversions later.store.conversions := by
  obtain ⟨event, inside, written⟩ := List.mem_filterMap.1 member
  obtain ⟨before, after, split⟩ := List.append_of_mem inside
  obtain ⟨earlier, later, start, goesOn, step, -, reacts⟩ := scene_of_split run split
  rcases reacts.conversions with ⟨still, -⟩ | ⟨same, made, applies⟩
  · rw [written] at still
    cases still
  · obtain rfl := Option.some.inj (written.symm.trans made)
    exact ⟨earlier, later, start, step, goesOn, applies⟩

/-- How conversions came to their end is told by the changes to them. -/
theorem ended_iff (run : Run setting (.opened terms) scene) {ending : Ending} {last : Conversion} :
    Ended setting terms scene id ending last
      ↔ (ending, last) ∈ (scene.history.about id).filterMap Write.ended? := by
  constructor
  · rintro ⟨earlier, next, stored, start, step, goesOn, before, after, ended⟩
    have orderly : (protocol setting terms).Orderly earlier := Protocol.orderly_of_run start
    obtain ⟨more, extended⟩ := exists_history_of_run goesOn
    -- The status is another one, so the step has committed a patch for this conversion.
    have unmoved (same : stored = last) : False := by
      subst same
      cases status : stored.status <;> simp [status, Ending.between?] at ended
    rcases orderly.step_cases step with ⟨same, -⟩ | ⟨operation, event, longer, -, -, reacts⟩
    · rw [same, before] at after
      exact (unmoved (Option.some.inj after)).elim
    rcases reacts.conversions with ⟨-, same⟩ | ⟨write, written, applies⟩
    · rw [same, before] at after
      exact (unmoved (Option.some.inj after)).elim
    rcases applies.came after with
      old | ⟨draft, moment, rfl, rfl⟩ | ⟨patch, found, rfl, there, expected, -⟩
    · exact (unmoved (Option.some.inj (before.symm.trans old))).elim
    · cases status : stored.status <;> simp [status, Conversion.ofDraft, Ending.between?] at ended
    · obtain rfl := Option.some.inj (before.symm.trans there)
      rw [expected] at ended
      refine List.mem_filterMap.2 ⟨.commit id patch last, ?_, by simp [Write.ended?, ended]⟩
      rw [extended, longer, History.about_append, History.about_concat, written]
      simp [Write.subject]
  · intro member
    obtain ⟨write, inside, ended⟩ := List.mem_filterMap.1 member
    obtain ⟨inside, subject⟩ := List.mem_filter.1 inside
    obtain ⟨earlier, later, start, step, goesOn, applies⟩ := applies_of_mem run inside
    cases write with
    | creation _ _ _ | deletion _ _ => cases ended
    | commit made patch result =>
      obtain rfl : made = id := of_decide_eq_true subject
      obtain ⟨_, between, same⟩ := Option.map_eq_some_iff.1 ended
      cases same
      generalize before : earlier.store.conversions = table at applies
      generalize after : later.store.conversions = next at applies
      cases applies with
      | commit present expected _ =>
        refine ⟨earlier, later, _, start, step, goesOn, before ▸ present, ?_, expected ▸ between⟩
        rw [after, Table.get?_insert_self]

theorem Once.ended (once : Once setting terms scene id conversion)
    (terminal : conversion.isTerminal = true) :
    ∃ ending, Ended setting terms scene id ending conversion := by
  obtain ⟨earlier, start, goesOn, present⟩ := once
  have accounts := ((lived_of_run start).life present).accounts
  obtain ⟨ending, last⟩ : ∃ ending, _ = [(ending, conversion)] := by
    simpa [terminal] using accounts.stands conversion rfl
  obtain ⟨more, extended⟩ := exists_history_of_run goesOn
  refine ⟨ending, (ended_iff (start.trans goesOn)).2 ?_⟩
  rw [extended, History.about_append, List.filterMap_append, last]
  exact List.mem_append_left _ List.mem_cons_self

theorem Ended.once {ending : Ending} {last : Conversion}
    (ended : Ended setting terms scene id ending last) : Once setting terms scene id last := by
  obtain ⟨earlier, next, stored, start, step, goesOn, -, after, -⟩ := ended
  exact ⟨next, start.tail step, goesOn, after⟩

theorem once_of_leaves (run : Run setting (.opened terms) scene) {write : Write}
    (member : write ∈ scene.history.writes) (leaves : write.leaves? = some conversion) :
    Once setting terms scene write.subject conversion := by
  obtain ⟨earlier, later, start, step, goesOn, applies⟩ := applies_of_mem run member
  exact ⟨later, start.tail step, goesOn, applies.leaves.trans leaves⟩

theorem Attests.once {user : UserId} {event : Event} (run : Run setting (.opened terms) scene)
    (member : event ∈ scene.history) (attests : Attests id user event.exchange) :
    ∃ conversion, Once setting terms scene id conversion ∧ conversion.user = user := by
  cases attests with
  | @read seen read own =>
    obtain ⟨before, after, split⟩ := List.append_of_mem member
    obtain ⟨earlier, later, start, goesOn, step, -, reacts⟩ := scene_of_split run split
    have present := Store.get_eq_ok_iff.1 (reacts.read read).symm
    exact ⟨seen, ⟨earlier, start, .head step goesOn, present⟩, own⟩
  | creation written own | commit written own =>
    exact ⟨_, once_of_leaves run (List.mem_filterMap.2 ⟨event, member, written⟩) rfl, own⟩

theorem exists_once_of_mem (run : Run setting (.opened terms) scene) {write : Write}
    (member : write ∈ scene.history.writes) :
    ∃ conversion, Once setting terms scene write.subject conversion := by
  cases write with
  | creation _ _ _ | commit _ _ _ => exact ⟨_, once_of_leaves run member rfl⟩
  | deletion id expected =>
    obtain ⟨earlier, later, start, step, goesOn, applies⟩ := applies_of_mem run member
    generalize before : earlier.store.conversions = table at applies
    generalize later.store.conversions = next at applies
    cases applies with
    | deletion present _ => exact ⟨_, earlier, start, .head step goesOn, before ▸ present⟩

end TryOn.Ledger
