import UsbxNxdk.SharingRuns
import UsbxNxdk.Unwinding

/-! Two groups of control blocks that pass different names. -/

namespace UsbxNxdk.NamedBlocks

open Execution Win32 ControlBlocks BlockSystem BlockIsolation SharedCells Unwinding

/-- Which blocks are on one side, and which names. -/
structure Sides where
  block : Nat → Bool
  name : String → Bool

namespace Sides

def key (sides : Sides) : Key → Bool
  | .named name => sides.name name
  | .alone address => sides.block address

def Respected (sides : Sides) : Request → Prop
  | .create address _ name _ => ∀ word ∈ name, sides.name word = sides.block address
  | _ => True

instance (sides : Sides) : DecidablePred sides.Respected
  | .create _ _ _ _ => inferInstanceAs (Decidable (∀ word ∈ _, _ = _))
  | .get _ _ _ => .isTrue trivial
  | .put _ _ => .isTrue trivial
  | .delete _ => .isTrue trivial

def own (sides : Sides) : Request → Bool
  | .create address _ _ _ => sides.block address
  | .get address _ _ => sides.block address
  | .put address _ => sides.block address
  | .delete address => sides.block address

def statuses (sides : Sides) (log : List Answer) : List UINT :=
  (log.filter fun answer => sides.block answer.address).map Answer.status

/-- The stores have the same blocks and objects on one side. -/
structure Alike (sides : Sides) (first second : BlockStore) : Prop where
  kind : ∀ address, sides.block address = true → first.kind address = second.kind address
  shared : Agree sides.block sides.key first.shared second.shared

end Sides

noncomputable def advance (store : BlockStore) (request : Request) : Option BlockStore :=
  (serve store request).map Prod.snd

noncomputable def told (store : BlockStore) (request : Request) : Option UINT :=
  (serve store request).map Prod.fst

variable {sides : Sides}

theorem key_respected {address : Nat} {semaphore : Bool} {name : Option String}
    {body : Option Body} (respected : sides.Respected (.create address semaphore name body)) :
    sides.key (keyOf address name) = sides.block address := by
  cases name with
  | some word => exact respected word rfl
  | none => rfl

theorem kind_update {first second : BlockStore} (alike : sides.Alike first second)
    (address : Nat) (kind : Option Bool) (other : Nat) (inside : sides.block other = true) :
    Function.update first.kind address kind other =
      Function.update second.kind address kind other :=
  update_agree address kind alike.kind other inside

theorem alike_write {first second : BlockStore} (alike : sides.Alike first second)
    {address : Nat} (inside : sides.block address = true) (body : Body) :
    sides.Alike { first with shared := first.shared.write address body }
      { second with shared := second.shared.write address body } :=
  ⟨alike.kind, agree_write alike.shared inside body⟩

theorem own_serve {first second : BlockStore} {request : Request}
    (alike : sides.Alike first second) (respected : sides.Respected request)
    (mine : sides.own request = true) :
    (serve first request = none ∧ serve second request = none) ∨
      ∃ status next other, serve first request = some (status, next) ∧
        serve second request = some (status, other) ∧ sides.Alike next other := by
  cases request with
  | create address semaphore name body =>
      have sided := key_respected respected
      have inside : sides.block address = true := mine
      have same := alike.shared.cells (keyOf address name) (sided.trans inside)
      refine Or.inr ⟨txSuccess, _, _, rfl, rfl, kind_update alike address _, ?_⟩
      rw [same]
      cases offered (second.shared.cells (keyOf address name)) body semaphore with
      | none => exact alike.shared
      | some made => exact agree_bind alike.shared sided made
  | get address thread waitOption =>
      have inside : sides.block address = true := mine
      have same := agree_cellOf alike.shared inside
      cases found : second.shared.cellOf address with
      | none =>
          rw [found] at same
          refine Or.inr ⟨txMutexError, first, second, ?_, ?_, alike⟩
          · simp only [serve, same]
          · simp only [serve, found]
      | some body =>
          rw [found] at same
          cases ended : body.wait thread waitOption with
          | none =>
              refine Or.inl ⟨?_, ?_⟩
              · simp only [serve, same, ended]
              · simp only [serve, found, ended]
          | some answer =>
              refine Or.inr ⟨waitStatus answer.1, _, _, ?_, ?_,
                alike_write alike inside answer.2⟩
              · simp only [serve, same, ended]
              · simp only [serve, found, ended]
  | put address thread =>
      have inside : sides.block address = true := mine
      have same := agree_cellOf alike.shared inside
      have sameKind := alike.kind address inside
      cases typed : second.kind address with
      | none =>
          rw [typed] at sameKind
          refine Or.inl ⟨?_, ?_⟩
          · simp only [serve, sameKind]
          · simp only [serve, typed]
      | some semaphore =>
          rw [typed] at sameKind
          cases found : second.shared.cellOf address with
          | none =>
              rw [found] at same
              refine Or.inr ⟨refusal semaphore, first, second, ?_, ?_, alike⟩
              · simp only [serve, sameKind, same]
              · simp only [serve, typed, found]
          | some body =>
              rw [found] at same
              let released := releaseOf semaphore thread body
              refine Or.inr ⟨if released.1 then txSuccess else refusal semaphore, _, _, ?_, ?_,
                alike_write alike inside released.2⟩
              · simp only [serve, sameKind, same, released]
              · simp only [serve, typed, found, released]
  | delete address =>
      exact Or.inr ⟨txSuccess, _, _, rfl, rfl, kind_update alike address none,
        agree_unbind alike.shared address⟩

theorem foreign_serve {first second next : BlockStore} {request : Request} {status : UINT}
    (alike : sides.Alike first second) (respected : sides.Respected request)
    (foreign : sides.own request = false) (served : serve first request = some (status, next)) :
    sides.Alike next second := by
  cases request with
  | create address semaphore name body =>
      have sided := key_respected respected
      have outside : sides.block address = false := foreign
      cases served
      refine ⟨update_foreign outside _ alike.kind, ?_⟩
      cases offered (first.shared.cells (keyOf address name)) body semaphore with
      | none => exact alike.shared
      | some made => exact agree_bind_foreign alike.shared outside sided made
  | get address thread waitOption =>
      have outside : sides.block address = false := foreign
      cases found : first.shared.cellOf address with
      | none =>
          simp only [serve, found] at served
          cases served
          exact alike
      | some body =>
          cases ended : body.wait thread waitOption with
          | none => simp [serve, found, ended] at served
          | some answer =>
              simp only [serve, found, ended] at served
              cases served
              exact ⟨alike.kind, agree_write_foreign alike.shared outside answer.2⟩
  | put address thread =>
      have outside : sides.block address = false := foreign
      cases typed : first.kind address with
      | none => simp [serve, typed] at served
      | some semaphore =>
          cases found : first.shared.cellOf address with
          | none =>
              simp only [serve, typed, found] at served
              cases served
              exact alike
          | some body =>
              simp only [serve, typed, found] at served
              cases served
              exact ⟨alike.kind, agree_write_foreign alike.shared outside _⟩
  | delete address =>
      have outside : sides.block address = false := foreign
      cases served
      exact ⟨update_foreign outside none alike.kind, agree_unbind_foreign alike.shared outside⟩

theorem sides_unwind (sides : Sides) :
    Unwinds advance sides.own sides.Respected told sides.Alike where
  owned := by
    intro first second request next alike respected mine stepped
    rcases own_serve alike respected mine with stuck | ⟨status, reached, other, one, two, still⟩
    · rw [advance, stuck.1] at stepped
      cases stepped
    · rw [advance, one] at stepped
      cases stepped
      refine ⟨?_, other, ?_, still⟩
      · rw [told, told, one, two]
        rfl
      · rw [advance, two, Option.map_some]
  foreign := by
    intro first second request next alike respected foreign stepped
    rcases Option.map_eq_some_iff.mp stepped with ⟨answered, served, rfl⟩
    exact foreign_serve alike respected foreign served

theorem own_requested (sides : Sides) (action : Action) :
    sides.own (requested action) = sides.block action.address := by
  cases action with
  | semaphoreCreate address handle name initialCount => rfl
  | mutexCreate address handle name => rfl
  | get address thread waitOption => rfl
  | put address thread => rfl
  | delete address => rfl

theorem statuses_append (sides : Sides) (log : List Answer) (answer : Answer) :
    sides.statuses (log ++ [answer]) =
      sides.statuses log ++ if sides.block answer.address then [answer.status] else [] := by
  rw [Sides.statuses, List.filter_append, List.map_append]
  by_cases mine : sides.block answer.address = true
  · simp [Sides.statuses, mine]
  · simp [Sides.statuses, mine]

theorem run_told (sides : Sides) {system final : System} {store : BlockStore}
    {schedule : List Action} (sharing : Sharing system) (stands : Stands system store)
    (orderly : Along step Orderly system schedule)
    (executed : run step system schedule = some final) :
    ∃ after, run advance store (schedule.map requested) = some after ∧
      Sharing final ∧ Stands final after ∧
      (sides.statuses final.log).map some = (sides.statuses system.log).map some ++
        observations advance sides.own told store (schedule.map requested) := by
  induction schedule generalizing system store with
  | nil =>
      cases executed
      exact ⟨store, rfl, sharing, stands, (List.append_nil _).symm⟩
  | cons action rest ih =>
      rcases run_cons_some step executed with ⟨next, stepped, remaining⟩
      have now := orderly next stepped
      have settled := step_serves sharing stands now.1 stepped
      rcases settled.served with ⟨status, middle, served, stood, log⟩
      rcases ih settled.sharing stood now.2 remaining with ⟨after, ran, shares, ends, shown⟩
      have first : advance store (requested action) = some middle := by
        rw [advance, served, Option.map_some]
      refine ⟨after, ?_, shares, ends, ?_⟩
      · rw [List.map_cons, run_cons, first, Option.bind_some, ran]
      · rw [shown, log, statuses_append, List.map_append, List.append_assoc, List.map_cons]
        simp only [observations, first, own_requested]
        cases sides.block action.address with
        | true =>
            have hears : told store (requested action) = some status := by
              rw [told, served, Option.map_some]
            rw [hears]
            rfl
        | false => rfl

theorem empty_alike (sides : Sides) : sides.Alike BlockStore.empty BlockStore.empty where
  kind _ _ := rfl
  shared :=
    { bound := fun _ _ => rfl
      cells := fun _ _ => rfl
      firstKeeps := fun _ _ bound => by cases bound
      secondKeeps := fun _ _ bound => by cases bound }

theorem run_side (sides : Sides) {schedule : List Action} {final : System}
    (orderly : Along step Orderly System.initial schedule)
    (respected : ∀ action ∈ schedule, sides.Respected (requested action))
    (executed : run step System.initial schedule = some final) :
    ∃ after other, Sharing final ∧ Stands final after ∧
      run advance BlockStore.empty ((schedule.map requested).filter sides.own) = some other ∧
      sides.Alike after other ∧
      (sides.statuses final.log).map some =
        observations advance sides.own told BlockStore.empty
          ((schedule.map requested).filter sides.own) := by
  rcases run_told sides sharing_initial stands_initial orderly executed with
    ⟨after, ran, sharing, stands, shown⟩
  have every : ∀ request ∈ schedule.map requested, sides.Respected request := by
    intro request member
    rcases List.mem_map.mp member with ⟨action, listed, rfl⟩
    exact respected action listed
  rcases unwinds_run (sides_unwind sides) (empty_alike sides) every ran with
    ⟨⟨other, ranOther, alike⟩, same⟩
  refine ⟨after, other, sharing, stands, ranOther, alike, ?_⟩
  calc
    (sides.statuses final.log).map some =
        observations advance sides.own told BlockStore.empty (schedule.map requested) := shown
    _ = observations advance sides.own told BlockStore.empty
          ((schedule.map requested).filter sides.own) := same

theorem alike_blocked {first second : BlockStore} (alike : sides.Alike first second)
    {address : Nat} (mine : sides.block address = true) {thread : Nat} {waitOption : ULONG} :
    serve first (.get address thread waitOption) = none ↔
      serve second (.get address thread waitOption) = none := by
  have respected : sides.Respected (.get address thread waitOption) := trivial
  rcases own_serve alike respected mine with stuck | ⟨status, next, other, one, two, _⟩
  · exact iff_of_true stuck.1 stuck.2
  · rw [one, two]
    exact iff_of_false (Option.some_ne_none _) (Option.some_ne_none _)

/-- In any two orderly runs whose creates pass no name or one of their own side,
a side that makes the same calls gets the same statuses, and a get on one of its
live blocks stays blocked after both or after neither, whatever the other side
does and whatever handles the kernel gives out. -/
theorem sides_undisturbed (sides : Sides) (schedule others : List Action)
    (orderly : Along step Orderly System.initial schedule)
    (othersOrderly : Along step Orderly System.initial others)
    (respected : ∀ action ∈ schedule, sides.Respected (requested action))
    (othersRespected : ∀ action ∈ others, sides.Respected (requested action))
    (same : (schedule.map requested).filter sides.own = (others.map requested).filter sides.own)
    (first second : System) (executed : run step System.initial schedule = some first)
    (othersExecuted : run step System.initial others = some second) :
    sides.statuses first.log = sides.statuses second.log ∧
      ∀ address thread waitOption, sides.block address = true → first.live address = true →
        (step first (.get address thread waitOption) = none ↔
          step second (.get address thread waitOption) = none) := by
  rcases run_side sides orderly respected executed with
    ⟨after, reached, sharing, stands, ran, alike, shown⟩
  rcases run_side sides othersOrderly othersRespected othersExecuted with
    ⟨othersAfter, othersReached, othersSharing, othersStands, othersRan, othersAlike,
      othersShown⟩
  rw [← same, ran] at othersRan
  cases othersRan
  constructor
  · apply List.map_injective_iff.mpr (Option.some_injective UINT)
    rw [shown, othersShown, same]
  · intro address thread waitOption mine live
    have liveOther : second.live address = true := by
      have kind : kindOf first address = kindOf second address := by
        rw [← stands.kind, ← othersStands.kind, alike.kind address mine,
          othersAlike.kind address mine]
      rcases held_block sharing live with ⟨block, _, keeps⟩
      rw [keeps.kind] at kind
      by_contra dead
      rw [kindOf, if_neg dead] at kind
      cases kind
    rw [get_waits sharing stands live, get_waits othersSharing othersStands liveOther,
      alike_blocked alike mine, alike_blocked othersAlike mine]

def usbSide : Sides := { block := fun address => address == 1, name := fun name => name == "usb" }

def usbAlone : List Action :=
  [.mutexCreate 1 4 (some "usb"), .get 1 1 txWaitForever, .get 1 2 txNoWait]

def usbBeside : List Action :=
  [.mutexCreate 2 4 (some "net"), .mutexCreate 1 8 (some "usb"), .get 2 2 txWaitForever,
    .get 1 1 txWaitForever, .put 2 2, .get 1 2 txNoWait, .delete 2]

theorem usb_undisturbed :
    ∃ alone beside, run step System.initial usbAlone = some alone ∧
      run step System.initial usbBeside = some beside ∧
      usbSide.statuses alone.log = usbSide.statuses beside.log ∧
      usbSide.statuses beside.log = [txSuccess, txSuccess, txNoInstance] := by
  have undisturbed := sides_undisturbed usbSide usbAlone usbBeside (by decide) (by decide)
    (by decide) (by decide) (by decide) _ _ rfl rfl
  exact ⟨_, _, rfl, rfl, undisturbed.1, rfl⟩

end UsbxNxdk.NamedBlocks
