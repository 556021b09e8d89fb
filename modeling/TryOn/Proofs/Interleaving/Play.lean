import TryOn.Proofs.Interleaving.Scene

/-! Runs that can be played. Given who comes next each time, and surroundings that answer what is
not asked of the store or the wall clock, everything else follows; what is played is a run. -/

set_option autoImplicit false

namespace TryOn

def Store.react (store : Store) (respond : (request : Request) → request.Answer)
    (moment : Timestamp) (fresh : ConversionId) : (request : Request) → request.Answer × Store
  | .store call => store.perform moment fresh call
  | .poll id _ => (some (store.get id), store)
  | .wallClock => (moment, store)
  | request => (respond request, store)

theorem Store.reacts_react (store : Store) (respond : (request : Request) → request.Answer)
    (moment : Timestamp) (fresh : ConversionId) (request : Request) :
    store.Reacts ⟨moment, request, (store.react respond moment fresh request).1⟩
      (store.react respond moment fresh request).2 := by
  cases request with
  | store call => exact ⟨fresh, rfl⟩
  | poll id stop => exact ⟨rfl, .inr rfl⟩
  | wallClock => exact ⟨rfl, rfl⟩
  | _ => exact rfl

namespace Interleaving

/-- Surroundings in which all goes well: every image that is looked up and every result of the
processor is the given one. -/
def obliging (image : Image) (result : ImageId) : (request : Request) → request.Answer
  | .store _ => .error (.storage "")
  | .poll _ _ => none
  | .image _ => .ok image
  | .checkRate _ | .enqueue _ | .deliver _ => .ok ()
  | .wallClock => ⟨0, 0⟩
  | .now | .draw _ => (0 : Nat)
  | .isCancelled => false
  | .wait _ _ => true
  | .process _ => .ok result
  | .recordRate _ | .post _ | .audit _ | .count _ => ()

/-- Who comes next: a new operation, or a task whose request is answered at a moment, with an
identifier for a conversion that is made. -/
inductive Turn where
  | begin (operation : Operation)
  | answer (task : Nat) (moment : Timestamp) (fresh : ConversionId)

def Turn.begun? : Turn → Option Operation
  | .begin operation => some operation
  | .answer _ _ _ => none

def Turn.IsTimely (history : History) : Turn → Prop
  | .begin _ => True
  | .answer _ moment fresh =>
    fresh ∉ history.made ∧ ∀ event ∈ history, event.exchange.moment ≤ moment

instance (history : History) (turn : Turn) : Decidable (turn.IsTimely history) :=
  match turn with
  | .begin _ => .isTrue trivial
  | .answer _ _ _ => inferInstanceAs (Decidable (_ ∧ _))

namespace Scene

/-- The scene after a turn. A turn that is not timely, or of a task that is done, is passed over. -/
def take (service : Service) (respond : (request : Request) → request.Answer) (scene : Scene)
    (turn : Turn) : Scene :=
  if turn.IsTimely scene.history then
    match turn with
    | .begin operation =>
      { scene with tasks := scene.tasks ++ [⟨operation, (operation.action service).run⟩] }
    | .answer index moment fresh =>
      match scene.tasks[index]? with
      | some ⟨operation, .ask request resume⟩ =>
        let (answer, next) := scene.store.react respond moment fresh request
        ⟨next, scene.tasks.set index ⟨operation, resume answer⟩,
          scene.history ++ [⟨index, moment, request, answer⟩]⟩
      | _ => scene
  else scene

def play (service : Service) (respond : (request : Request) → request.Answer) (scene : Scene)
    (turns : List Turn) : Scene :=
  turns.foldl (take service respond) scene

end Scene

def Setting.OffersAll (setting : Setting) (turns : List Turn) : Prop :=
  ∀ operation, .begin operation ∈ turns → setting.offers operation

theorem Setting.offersAll_iff {setting : Setting} {turns : List Turn} :
    setting.OffersAll turns
      ↔ ∀ operation ∈ turns.filterMap Turn.begun?, setting.offers operation := by
  constructor
  · intro offered operation member
    obtain ⟨turn, inside, begun⟩ := List.mem_filterMap.1 member
    cases turn with
    | begin other =>
      obtain rfl := Option.some.inj begun
      exact offered other inside
    | answer _ _ _ => cases begun
  · exact fun offered operation member =>
      offered operation (List.mem_filterMap.2 ⟨.begin operation, member, rfl⟩)

theorem admits_of_isTimely {setting : Setting} {scene : Scene} {request : Request}
    {respond : (request : Request) → request.Answer} {index : Nat} {moment : Timestamp}
    {fresh : ConversionId} (timely : (Turn.answer index moment fresh).IsTimely scene.history) :
    setting.Admits scene.history
      ⟨moment, request, (scene.store.react respond moment fresh request).1⟩ where
  fresh id made := by
    -- Only a creation that was accepted makes anything, and it takes the identifier of the turn.
    cases request with
    | store call =>
      cases call with
      | create draft =>
        rcases scene.store.create_cases draft fresh moment with
          ⟨created, accepted, same, -⟩ | ⟨failure, refused, -⟩
        · have new : created.conversion.id = id := by
            simpa [Store.react, Store.perform, accepted, Exchange.write?, Write.made?] using made
          rw [← new, same]
          exact timely.1
        · simp [Store.react, Store.perform, refused, Exchange.write?] at made
      | update other patch =>
        rcases scene.store.update_cases other patch with
          ⟨_, _, _, _, _, accepted⟩ | ⟨failure, refused⟩
        · simp [Store.react, Store.perform, accepted, Exchange.write?, Write.made?] at made
        · simp [Store.react, Store.perform, refused, Exchange.write?] at made
      | delete other expected =>
        rcases scene.store.delete_cases other expected with
          ⟨_, _, _, accepted⟩ | ⟨failure, refused⟩
        · simp [Store.react, Store.perform, accepted, Exchange.write?, Write.made?] at made
        · simp [Store.react, Store.perform, refused, Exchange.write?] at made
      | _ => cases made
    | _ => cases made
  onward _ event member := timely.2 event member

theorem run_take {setting : Setting} {respond : (request : Request) → request.Answer}
    {scene : Scene} {turn : Turn} (offered : setting.OffersAll [turn]) :
    Run setting scene (scene.take setting.service respond turn) := by
  unfold Scene.take
  split
  · rename_i timely
    cases turn with
    | begin operation => exact .single (.begins (offered operation List.mem_cons_self))
    | answer index moment fresh =>
      dsimp only
      split
      · rename_i operation request resume present
        exact .single (.answers present (admits_of_isTimely timely)
          (scene.store.reacts_react respond moment fresh request))
      · exact .refl
  · exact .refl

theorem run_play {setting : Setting} {respond : (request : Request) → request.Answer}
    {scene : Scene} {turns : List Turn} (offered : setting.OffersAll turns) :
    Run setting scene (scene.play setting.service respond turns) := by
  induction turns generalizing scene with
  | nil => exact .refl
  | cons turn rest ih =>
    refine (run_take fun operation here => offered operation ?_).trans
      (ih fun operation there => offered operation (List.mem_cons_of_mem _ there))
    exact List.mem_singleton.1 here ▸ List.mem_cons_self

end Interleaving

end TryOn
