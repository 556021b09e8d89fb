import TryOn.Proofs.Store.Acceptance
import TryOn.Service.Program

/-! Requests together with their answers, as the store may give them, and what of an answered
request can be told later: the change it made to the conversions, and the conversion it saw. -/

set_option autoImplicit false

namespace TryOn

/-- A request that was answered at a moment of the wall clock. -/
structure Exchange where
  moment : Timestamp
  request : Request
  answer : request.Answer

abbrev Log := List Exchange

inductive Write where
  | creation (id : ConversionId) (draft : Draft) (moment : Timestamp)
  | commit (id : ConversionId) (patch : Patch) (result : Conversion)
  | deletion (id : ConversionId) (expected : Status)
  deriving DecidableEq

namespace Write

def subject : Write → ConversionId
  | .creation id _ _ | .commit id _ _ | .deletion id _ => id

def made? : Write → Option ConversionId
  | .creation id _ _ => some id
  | .commit _ _ _ | .deletion _ _ => none

def leaves? : Write → Option Conversion
  | .creation id draft moment => some (.ofDraft id draft moment)
  | .commit _ _ result => some result
  | .deletion _ _ => none

/-- What a change comes to. A commit and a deletion are guarded by the status that is stored. -/
inductive Applies (before : Table ConversionId Conversion) :
    Write → Table ConversionId Conversion → Prop
  | creation (id : ConversionId) (draft : Draft) (moment : Timestamp) :
    Applies before (.creation id draft moment) (before.insert id (.ofDraft id draft moment))
  | commit {id : ConversionId} {patch : Patch} {stored result : Conversion}
    (present : before.get? id = some stored) (expected : stored.status = patch.expected)
    (patched : Store.patched stored patch = .ok result) :
    Applies before (.commit id patch result) (before.insert id result)
  | deletion {id : ConversionId} {stored : Conversion} {expected : Status}
    (present : before.get? id = some stored) (guarded : stored.status = expected) :
    Applies before (.deletion id expected) (before.erase id)

namespace Applies

variable {before after : Table ConversionId Conversion} {write : Write} {id : ConversionId}
  {conversion : Conversion}

theorem leaves (applies : write.Applies before after) :
    after.get? write.subject = write.leaves? := by
  cases applies with
  | creation _ _ _ | commit _ _ _ => exact Table.get?_insert_self _ _ _
  | deletion _ _ => exact Table.get?_erase_self _ _

theorem get?_elsewhere (applies : write.Applies before after) (elsewhere : id ≠ write.subject) :
    after.get? id = before.get? id := by
  cases applies with
  | creation _ _ _ | commit _ _ _ => exact Table.get?_insert_ne _ _ elsewhere
  | deletion _ _ => exact Table.get?_erase_ne _ elsewhere

theorem came (applies : write.Applies before after) (present : after.get? id = some conversion) :
    before.get? id = some conversion
      ∨ (∃ draft moment, write = .creation id draft moment
        ∧ conversion = .ofDraft id draft moment)
      ∨ ∃ patch stored, write = .commit id patch conversion ∧ before.get? id = some stored
        ∧ stored.status = patch.expected ∧ Store.patched stored patch = .ok conversion := by
  by_cases here : id = write.subject
  · subst here
    cases applies with
    | creation id draft moment =>
      exact .inr (.inl ⟨draft, moment, rfl, Table.eq_of_get?_insert_self present⟩)
    | commit found expected patched =>
      obtain rfl := Table.eq_of_get?_insert_self present
      exact .inr (.inr ⟨_, _, rfl, found, expected, patched⟩)
    | deletion _ _ => simp [subject] at present
  · exact .inl (applies.get?_elsewhere here ▸ present)

theorem became (applies : write.Applies before after)
    (present : before.get? id = some conversion) :
    after.get? id = some conversion ∨ write.made? = some id
      ∨ (∃ patch result, write = .commit id patch result ∧ after.get? id = some result
        ∧ conversion.status = patch.expected ∧ Store.patched conversion patch = .ok result)
      ∨ (write = .deletion id conversion.status ∧ after.get? id = none) := by
  by_cases here : id = write.subject
  · subst here
    cases applies with
    | creation id draft moment => exact .inr (.inl rfl)
    | commit found expected patched =>
      obtain rfl := Option.some.inj (found.symm.trans present)
      exact .inr (.inr (.inl ⟨_, _, rfl, Table.get?_insert_self _ _ _, expected, patched⟩))
    | deletion found guarded =>
      obtain rfl := Option.some.inj (found.symm.trans present)
      exact .inr (.inr (.inr ⟨guarded ▸ rfl, Table.get?_erase_self _ _⟩))
  · exact .inl ((applies.get?_elsewhere here).trans present)

end Applies

end Write

namespace Exchange

def write? : Exchange → Option Write
  | ⟨moment, .store (.create draft), (.ok created : Except StoreError Created)⟩ =>
    some (.creation created.conversion.id draft moment)
  | ⟨_, .store (.update id patch), (.ok result : Except StoreError Conversion)⟩ =>
    some (.commit id patch result)
  | ⟨_, .store (.delete id expected), (.ok () : Except StoreError Unit)⟩ =>
    some (.deletion id expected)
  | _ => none

def read? : Exchange → Option (ConversionId × Except StoreError Conversion)
  | ⟨_, .store (.get id), answer⟩ => some (id, answer)
  | ⟨_, .poll id _, answer⟩ =>
    (answer : Option (Except StoreError Conversion)).map fun found => (id, found)
  | _ => none

def shown : Exchange → List Conversion
  | ⟨_, .store (.get _), (.ok found : Except StoreError Conversion)⟩
  | ⟨_, .poll _ _, (some (.ok found) : Option (Except StoreError Conversion))⟩ => [found]
  | ⟨_, .store (.list _ _), (.ok page : Except StoreError Listing.Page)⟩ => page.items
  | _ => []

def clock? : Exchange → Option Timestamp
  | ⟨_, .wallClock, answer⟩ => some answer
  | _ => none

theorem request_of_creation {exchange : Exchange} {id : ConversionId} {draft : Draft}
    {moment : Timestamp} (written : exchange.write? = some (.creation id draft moment)) :
    exchange.request = .store (.create draft) ∧ exchange.moment = moment := by
  obtain ⟨asked, request, answer⟩ := exchange
  cases request with
  | store call =>
    cases call with
    | create _ =>
      cases answer <;> cases written
      exact ⟨rfl, rfl⟩
    | update _ _ | delete _ _ => cases answer <;> cases written
    | _ => cases written
  | _ => cases written

theorem request_of_commit {exchange : Exchange} {id : ConversionId} {patch : Patch}
    {result : Conversion} (written : exchange.write? = some (.commit id patch result)) :
    exchange.request = .store (.update id patch) := by
  obtain ⟨moment, request, answer⟩ := exchange
  cases request with
  | store call =>
    cases call with
    | update _ _ =>
      cases answer <;> cases written
      rfl
    | create _ | delete _ _ => cases answer <;> cases written
    | _ => cases written
  | _ => cases written

end Exchange

namespace Store

/-- Whether a store can come to give the answer of an exchange and be another one afterwards. What
is not asked of the store, nor of the wall clock, may be answered in any way. -/
def Reacts (store : Store) (exchange : Exchange) (next : Store) : Prop :=
  match exchange with
  | ⟨moment, .store call, answer⟩ => ∃ fresh, store.perform moment fresh call = (answer, next)
  | ⟨_, .poll id _, answer⟩ => next = store ∧ (answer = none ∨ answer = some (store.get id))
  | ⟨moment, .wallClock, answer⟩ => next = store ∧ answer = moment
  | _ => next = store

theorem Reacts.conversions {store next : Store} {exchange : Exchange}
    (reacts : store.Reacts exchange next) :
    (exchange.write? = none ∧ next.conversions = store.conversions)
      ∨ ∃ write, exchange.write? = some write
        ∧ write.Applies store.conversions next.conversions := by
  obtain ⟨moment, request, answer⟩ := exchange
  cases request with
  | store call =>
    obtain ⟨fresh, performed⟩ := reacts
    cases call with
    | create draft =>
      obtain ⟨rfl, rfl⟩ := Prod.mk.inj performed
      rcases store.create_cases draft fresh moment with
        ⟨created, ok, same, inserted⟩ | ⟨failure, refused, kept⟩
      · refine .inr ⟨.creation fresh draft moment, ?_, ?_⟩
        · show Exchange.write? ⟨moment, .store (.create draft), (store.create _ fresh _).1⟩ = _
          rw [ok]
          simp [Exchange.write?, same, Conversion.ofDraft]
        · show Write.Applies _ _ (store.create draft fresh moment).2.conversions
          rw [inserted]
          exact .creation fresh draft moment
      · refine .inl ⟨?_, kept⟩
        show Exchange.write? ⟨moment, .store (.create draft), (store.create _ fresh _).1⟩ = _
        rw [refused]
        rfl
    | update id patch =>
      rcases store.update_cases id patch with
        ⟨stored, result, present, expected, applied, whole⟩ | ⟨failure, refused⟩
      · obtain ⟨rfl, rfl⟩ := Prod.mk.inj (whole.symm.trans performed)
        exact .inr ⟨_, rfl, .commit present expected applied⟩
      · obtain ⟨rfl, rfl⟩ := Prod.mk.inj (refused.symm.trans performed)
        exact .inl ⟨rfl, rfl⟩
    | delete id expected =>
      rcases store.delete_cases id expected with
        ⟨stored, present, same, whole⟩ | ⟨failure, refused⟩
      · obtain ⟨rfl, rfl⟩ := Prod.mk.inj (whole.symm.trans performed)
        exact .inr ⟨_, rfl, .deletion present same⟩
      · obtain ⟨rfl, rfl⟩ := Prod.mk.inj (refused.symm.trans performed)
        exact .inl ⟨rfl, rfl⟩
    | get _ | list _ _ | balance _ | grant _ _ | setPlan _ _ _ =>
      -- Grants and plans change accounts, but no conversion.
      obtain ⟨-, rfl⟩ := Prod.mk.inj performed
      exact .inl ⟨rfl, rfl⟩
  | poll _ _ | wallClock => exact .inl ⟨rfl, congrArg Store.conversions reacts.1⟩
  | _ => exact .inl ⟨rfl, congrArg Store.conversions reacts⟩

theorem Reacts.read {store next : Store} {exchange : Exchange} {id : ConversionId}
    {found : Except StoreError Conversion} (reacts : store.Reacts exchange next)
    (read : exchange.read? = some (id, found)) : found = store.get id := by
  obtain ⟨moment, request, answer⟩ := exchange
  cases request with
  | store call =>
    obtain ⟨fresh, performed⟩ := reacts
    cases call with
    | get other =>
      obtain ⟨rfl, rfl⟩ := Prod.mk.inj (Option.some.inj read)
      exact (Prod.mk.inj performed).1.symm
    | _ => cases read
  | poll other stop =>
    obtain ⟨-, gaveUp | answered⟩ := reacts
    · subst gaveUp
      cases read
    · subst answered
      obtain ⟨rfl, rfl⟩ := Prod.mk.inj (Option.some.inj read)
      rfl
  | _ => cases read

theorem Reacts.clock {store next : Store} {exchange : Exchange} {time : Timestamp}
    (reacts : store.Reacts exchange next) (told : exchange.clock? = some time) :
    time = exchange.moment := by
  obtain ⟨moment, request, answer⟩ := exchange
  cases request with
  | wallClock =>
    obtain ⟨-, rfl⟩ := reacts
    exact (Option.some.inj told).symm
  | _ => cases told

theorem Reacts.shown {store next : Store} {exchange : Exchange} {conversion : Conversion}
    (reacts : store.Reacts exchange next) (shown : conversion ∈ exchange.shown) :
    ∃ id, store.conversions.get? id = some conversion := by
  obtain ⟨moment, request, answer⟩ := exchange
  cases request with
  | store call =>
    cases call with
    | get id =>
      rcases answer with failure | found
      · cases shown
      · obtain rfl := List.mem_singleton.1 shown
        exact ⟨id, get_eq_ok_iff.1 (reacts.read rfl).symm⟩
    | list filter pagination =>
      obtain ⟨fresh, performed⟩ := reacts
      obtain rfl := (Prod.mk.inj performed).1
      -- The items of a page are some of the stored conversions, in another order.
      have sorted := List.mem_of_mem_drop (List.mem_of_mem_take shown)
      have kept := (List.mem_filter.1 ((Listing.perm_sorted _).mem_iff.1 sorted)).1
      obtain ⟨⟨id, _⟩, entry, rfl⟩ := List.mem_map.1 kept
      exact ⟨id, (Table.get?_eq_some_iff _ _ _).2 entry⟩
    | _ => cases shown
  | poll id stop =>
    rcases answer with - | failure | found
    · cases shown
    · cases shown
    · obtain rfl := List.mem_singleton.1 shown
      exact ⟨id, get_eq_ok_iff.1 (reacts.read rfl).symm⟩
  | _ => cases shown

end Store

end TryOn
