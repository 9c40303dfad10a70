import UsbxNxdk.SharedBlocks

/-! Every run of calls on control blocks is one of a store of shared objects. -/

namespace UsbxNxdk.NamedBlocks

open Execution Win32 ControlBlocks BlockSystem BlockIsolation SharedCells

structure Serves (system next : System) (store : BlockStore) (action : Action) : Prop where
  sharing : Sharing next
  served : ∃ status after, serve store (requested action) = some (status, after) ∧
    Stands next after ∧ next.log = system.log ++
      [{ address := action.address, call := action.call, status := status }]

/-! ### Creates -/

theorem create_cases (handle : HANDLE) (name : Option String) (body : Option Body)
    (sameType : Body → Bool) (kernel : Kernel) :
    (∃ word object, name = some word ∧ kernel.named word = some object ∧
      if sameType (kernel.objects object).body = true then
        kernel.create handle name body sameType = (handle, kernel.openHandle handle object)
      else kernel.create handle name body sameType = (0, kernel)) ∨
    (name.bind kernel.named = none ∧
      ((body = none ∧ kernel.create handle name body sameType = (0, kernel)) ∨
        ∃ made, body = some made ∧ kernel.create handle name body sameType =
          (handle, (kernel.addObject name made).openHandle handle kernel.next))) := by
  cases found : name.bind kernel.named with
  | some object =>
      rcases Option.bind_eq_some_iff.mp found with ⟨word, rfl, named⟩
      refine Or.inl ⟨word, object, rfl, named, ?_⟩
      by_cases same : sameType (kernel.objects object).body = true
      · rw [if_pos same]
        simp only [Kernel.create, found, if_pos same]
      · rw [if_neg same]
        simp only [Kernel.create, found, if_neg same]
  | none =>
      refine Or.inr ⟨rfl, ?_⟩
      cases body with
      | none => exact Or.inl ⟨rfl, by simp only [Kernel.create, found]⟩
      | some made => exact Or.inr ⟨made, rfl, Kernel.create_fresh sameType found⟩

theorem cells_named {system : System} {store : BlockStore} (sharing : Sharing system)
    (stands : Stands system store) {name : String} {object : Nat}
    (found : system.kernel.named name = some object) :
    store.shared.cells (.named name) = some (system.kernel.objects object).body := by
  rcases named_some found with ⟨opened, member, rfl, bears⟩
  rcases opened_objectOf sharing member with ⟨address, behind⟩
  have bound : store.shared.bound address = some (.named name) := by
    rw [stands.bound, boundTo, behind, Option.map_some, bears]
    rfl
  rw [← Store.cellOf_bound store.shared bound, stands.cell, standing_object behind]

theorem cells_unused {system : System} {store : BlockStore} (stands : Stands system store)
    {name : Option String} {address : Nat} (unused : name.bind system.kernel.named = none)
    (unheld : handleOf system address = none) :
    store.shared.cells (keyOf address name) = none := by
  apply Store.cells_none
  intro holder bound
  rw [stands.bound, boundTo] at bound
  rcases Option.map_eq_some_iff.mp bound with ⟨object, behind, same⟩
  rcases objectOf_opened behind with ⟨handle, held, opened⟩
  cases name with
  | some word =>
      cases bears : (system.kernel.objects object).name with
      | some other =>
          rw [bears] at same
          cases same
          exact named_none unused opened bears
      | none =>
          rw [bears] at same
          cases same
  | none =>
      cases bears : (system.kernel.objects object).name with
      | some other =>
          rw [bears] at same
          cases same
      | none =>
          rw [bears] at same
          cases same
          rw [unheld] at held
          cases held

theorem create_serves {system : System} {store : BlockStore} {action : Action}
    {handle : HANDLE} {name : Option String} {body : Option Body} {sameType : Body → Bool}
    {block : ControlBlock} (sharing : Sharing system) (stands : Stands system store)
    (given : system.canGive handle) (fresh : system.live action.address = false)
    (typed : ∀ found : Body, sameType found = true ↔ found.isSemaphore = block.isSemaphore)
    (holds : block.handle = (system.kernel.create handle name body sameType).1)
    (asked : requested action = .create action.address block.isSemaphore name body) :
    Serves system
      (system.finish action true
        (txSuccess, block, (system.kernel.create handle name body sameType).2)) store action := by
  have unheld : handleOf system action.address = none := by
    rw [handleOf, fresh, if_neg Bool.false_ne_true]
  rcases create_cases handle name body sameType system.kernel with named | ⟨unused, made⟩
  · rcases named with ⟨word, object, rfl, found, answer⟩
    have cell := cells_named sharing stands found
    by_cases same : sameType (system.kernel.objects object).body = true
    · rw [if_pos same] at answer
      have opened := opened_named handle sharing.numbered sharing.named found
      rw [answer] at holds ⊢
      have bears : (system.kernel.objects object).name = some word := by
        rcases named_some found with ⟨_, _, _, bears⟩
        exact bears
      refine ⟨made_sharing sharing given unheld opened holds, txSuccess, _, ?_,
        made_stands sharing stands given unheld opened holds, rfl⟩
      rw [asked]
      simp only [serve, keyOf, cell, offered, if_pos ((typed _).mp same)]
      simp only [Kernel.openHandle, bears]
    · rw [if_neg same] at answer
      rw [answer] at holds ⊢
      refine ⟨refused_sharing sharing unheld holds, txSuccess, _, ?_,
        refused_stands sharing stands unheld holds, rfl⟩
      rw [asked]
      simp only [serve, keyOf, cell, offered, if_neg fun equal => same ((typed _).mpr equal)]
  · have cell := cells_unused stands unused unheld
    rcases made with ⟨rfl, answer⟩ | ⟨made, rfl, answer⟩
    · rw [answer] at holds ⊢
      refine ⟨refused_sharing sharing unheld holds, txSuccess, _, ?_,
        refused_stands sharing stands unheld holds, rfl⟩
      rw [asked]
      simp only [serve, cell, offered]
    · have opened := opened_fresh handle made sharing.numbered unused
      rw [answer] at holds ⊢
      refine ⟨made_sharing sharing given unheld opened holds, txSuccess, _, ?_,
        made_stands sharing stands given unheld opened holds, rfl⟩
      rw [asked]
      simp only [serve, cell, offered]
      simp [Kernel.openHandle, Kernel.addObject]

/-! ### Gets, puts and deletes -/

theorem held_block {system : System} (sharing : Sharing system) {address : Nat}
    (live : system.live address = true) :
    ∃ block, system.blocks address = some block ∧ KeepsBlock system address block := by
  rcases Option.isSome_iff_exists.mp (sharing.present address live) with ⟨block, present⟩
  refine ⟨block, present, ?_, ?_⟩
  · rw [handleOf, if_pos live, present, Option.map_some]
  · rw [kindOf, if_pos live, present, Option.map_some]

theorem held_objectOf {system : System} {address : Nat} {block : ControlBlock}
    (keeps : KeepsBlock system address block) :
    system.objectOf address = system.kernel.lookup block.handle := by
  rw [objectOf_handle, keeps.handle, Option.bind_some]

theorem get_failed (block : ControlBlock) (thread : Nat) (waitOption : ULONG) {kernel : Kernel}
    (closed : kernel.lookup block.handle = none) :
    ∃ after, block.get thread waitOption kernel = some (txMutexError, after, kernel) ∧
      after.handle = block.handle ∧ after.isSemaphore = block.isSemaphore := by
  cases block with
  | semaphore block =>
      have unopened : kernel.lookup block.semaphore = none := closed
      refine ⟨.semaphore { block with txSemaphoreCount := block.txSemaphoreCount - 1 }, ?_,
        rfl, rfl⟩
      simp [ControlBlock.get, txSemaphoreGet, Kernel.waitForSingleObject, unopened, waitStatus]
  | mutex block =>
      have unopened : kernel.lookup block.mutex = none := closed
      refine ⟨.mutex block, ?_, rfl, rfl⟩
      simp [ControlBlock.get, txMutexGet, Kernel.waitForSingleObject, unopened, waitStatus]

theorem put_released (block : ControlBlock) (thread : Nat) (kernel : Kernel) :
    ∃ after, block.put thread kernel =
        (if (kernel.releaseThrough (releaseOf block.isSemaphore thread) block.handle).1
          then txSuccess else refusal block.isSemaphore, after,
          (kernel.releaseThrough (releaseOf block.isSemaphore thread) block.handle).2) ∧
      after.handle = block.handle ∧ after.isSemaphore = block.isSemaphore := by
  cases block with
  | semaphore block => exact ⟨_, rfl, rfl, rfl⟩
  | mutex block => exact ⟨_, rfl, rfl, rfl⟩

theorem delete_closed (block : ControlBlock) (kernel : Kernel) :
    ∃ after, block.delete kernel = (txSuccess, after, kernel.closeHandle block.handle) := by
  cases block with
  | semaphore block => exact ⟨_, rfl⟩
  | mutex block => exact ⟨_, rfl⟩

theorem keeps_block {system : System} {address : Nat} {block after : ControlBlock}
    (keeps : KeepsBlock system address block) (handle : after.handle = block.handle)
    (kind : after.isSemaphore = block.isSemaphore) : KeepsBlock system address after := by
  constructor
  · rw [handle]
    exact keeps.handle
  · rw [kind]
    exact keeps.kind

theorem get_blocked {block : ControlBlock} {kernel : Kernel} {object thread : Nat}
    {waitOption : ULONG} (found : kernel.lookup block.handle = some object)
    (called : block.get thread waitOption kernel = none) :
    (kernel.objects object).body.wait thread waitOption = none := by
  cases ended : (kernel.objects object).body.wait thread waitOption with
  | none => rfl
  | some answer =>
      rw [← waitDuration_eq waitOption] at ended
      cases block with
      | semaphore block =>
          have opened : kernel.lookup block.semaphore = some object := found
          simp [ControlBlock.get, txSemaphoreGet, Kernel.waitForSingleObject, opened, ended]
            at called
      | mutex block =>
          have opened : kernel.lookup block.mutex = some object := found
          simp [ControlBlock.get, txMutexGet, Kernel.waitForSingleObject, opened, ended]
            at called

section Calls

variable {system : System} {store : BlockStore} {address : Nat} {block : ControlBlock}

theorem cellOf_found (stands : Stands system store) (keeps : KeepsBlock system address block)
    {object : Nat} (found : system.kernel.lookup block.handle = some object) :
    store.shared.cellOf address = some (system.kernel.objects object).body := by
  rw [stands.cell]
  exact standing_object ((held_objectOf keeps).trans found)

theorem cellOf_closed (stands : Stands system store) (keeps : KeepsBlock system address block)
    (closed : system.kernel.lookup block.handle = none) :
    store.shared.cellOf address = none := by
  rw [stands.cell, System.standing, held_objectOf keeps, closed]
  rfl

theorem get_serves {thread : Nat} {waitOption : ULONG} {returned : UINT × ControlBlock × Kernel}
    (sharing : Sharing system) (stands : Stands system store)
    (keeps : KeepsBlock system address block)
    (called : block.get thread waitOption system.kernel = some returned) :
    Serves system (system.finish (.get address thread waitOption) true returned) store
      (.get address thread waitOption) := by
  cases found : system.kernel.lookup block.handle with
  | none =>
      rcases get_failed block thread waitOption found with ⟨after, failed, handle, kind⟩
      rw [failed] at called
      cases called
      have kept := keeps_block keeps handle kind
      refine ⟨kept_sharing sharing kept (sameNames_refl system.kernel), txMutexError, store, ?_,
        failed_stands stands kept, rfl⟩
      simp only [requested, serve, cellOf_closed stands keeps found]
  | some object =>
      rcases block_get found called with ⟨result, body, ended, status, handle, kind, kernel⟩
      have kept := keeps_block keeps handle kind
      have same : SameNames system.kernel returned.2.2 := by
        rw [kernel]
        exact sameNames_setBody system.kernel object body
      refine ⟨kept_sharing sharing kept same, waitStatus result, _, ?_,
        touched_stands sharing stands kept ((held_objectOf keeps).trans found) kernel, ?_⟩
      · rw [waitDuration_eq] at ended
        simp only [requested, serve, cellOf_found stands keeps found, ended]
        rfl
      · rw [← status]
        rfl

theorem put_serves (thread : Nat) (sharing : Sharing system) (stands : Stands system store)
    (keeps : KeepsBlock system address block) :
    Serves system (system.finish (.put address thread) true (block.put thread system.kernel)) store
      (.put address thread) := by
  rcases put_released block thread system.kernel with ⟨after, answer, handle, kind⟩
  have kept := keeps_block keeps handle kind
  have typed : store.kind address = some block.isSemaphore := (stands.kind address).trans keeps.kind
  cases found : system.kernel.lookup block.handle with
  | none =>
      simp only [Kernel.releaseThrough, found, if_neg Bool.false_ne_true] at answer
      rw [answer]
      refine ⟨kept_sharing sharing kept (sameNames_refl system.kernel), _, store, ?_,
        failed_stands stands kept, rfl⟩
      simp only [requested, serve, typed, cellOf_closed stands keeps found]
  | some object =>
      simp only [Kernel.releaseThrough, found] at answer
      rw [answer]
      refine ⟨kept_sharing sharing kept (sameNames_setBody system.kernel object _), _, _, ?_,
        touched_stands sharing stands kept ((held_objectOf keeps).trans found) rfl, rfl⟩
      simp only [requested, serve, typed, cellOf_found stands keeps found]
      rfl

theorem delete_serves (sharing : Sharing system) (stands : Stands system store)
    (keeps : KeepsBlock system address block) :
    Serves system (system.finish (.delete address) false (block.delete system.kernel)) store
      (.delete address) := by
  rcases delete_closed block system.kernel with ⟨after, answer⟩
  rw [answer]
  exact ⟨deleted_sharing sharing keeps.handle, txSuccess, _, rfl,
    deleted_stands sharing stands keeps.handle, rfl⟩

end Calls

/-! ### Whole runs -/

theorem step_serves {system next : System} {store : BlockStore} {action : Action}
    (sharing : Sharing system) (stands : Stands system store) (orderly : Orderly system action)
    (stepped : step system action = some next) : Serves system next store action := by
  cases action with
  | semaphoreCreate address handle name initialCount =>
      by_cases given : system.canGive handle
      · simp only [step, if_pos given] at stepped
        cases stepped
        exact create_serves sharing stands given orderly (fun _ => Iff.rfl) rfl rfl
      · simp only [step, if_neg given] at stepped
        cases stepped
  | mutexCreate address handle name =>
      by_cases given : system.canGive handle
      · simp only [step, if_pos given] at stepped
        cases stepped
        exact create_serves sharing stands given orderly
          (fun _ => iff_of_eq (Bool.not_eq_true' _)) rfl rfl
      · simp only [step, if_neg given] at stepped
        cases stepped
  | get address thread waitOption =>
      have live : system.live address = true := orderly
      rcases held_block sharing live with ⟨block, present, keeps⟩
      cases called : block.get thread waitOption system.kernel with
      | none => simp [step, present, called] at stepped
      | some returned =>
          simp only [step, present, called, live] at stepped
          cases stepped
          exact get_serves sharing stands keeps called
  | put address thread =>
      have live : system.live address = true := orderly
      rcases held_block sharing live with ⟨block, present, keeps⟩
      simp only [step, present, live] at stepped
      cases stepped
      exact put_serves thread sharing stands keeps
  | delete address =>
      have live : system.live address = true := orderly
      rcases held_block sharing live with ⟨block, present, keeps⟩
      simp only [step, present] at stepped
      cases stepped
      exact delete_serves sharing stands keeps

theorem get_waits {system : System} {store : BlockStore} (sharing : Sharing system)
    (stands : Stands system store) {address : Nat} (live : system.live address = true)
    (thread : Nat) (waitOption : ULONG) :
    step system (.get address thread waitOption) = none ↔
      serve store (.get address thread waitOption) = none := by
  rcases held_block sharing live with ⟨block, present, keeps⟩
  constructor
  · intro stuck
    cases called : block.get thread waitOption system.kernel with
    | some returned => simp [step, present, called] at stuck
    | none =>
        cases found : system.kernel.lookup block.handle with
        | none =>
            rcases get_failed block thread waitOption found with ⟨after, failed, _⟩
            rw [called] at failed
            cases failed
        | some object =>
            simp only [serve, cellOf_found stands keeps found, get_blocked found called]
  · intro unanswered
    cases stepped : step system (.get address thread waitOption) with
    | none => rfl
    | some next =>
        have orderly : Orderly system (.get address thread waitOption) := live
        rcases (step_serves sharing stands orderly stepped).served with ⟨status, after, served, _⟩
        have answered : serve store (.get address thread waitOption) = some (status, after) :=
          served
        rw [unanswered] at answered
        cases answered

theorem run_serves {system final : System} {store : BlockStore} {schedule : List Action}
    (sharing : Sharing system) (stands : Stands system store)
    (orderly : Along step Orderly system schedule)
    (executed : run step system schedule = some final) :
    ∃ after, run answer (system.log.map Answer.status, store) (schedule.map requested) =
        some (final.log.map Answer.status, after) ∧
      Stands final after ∧ Sharing final := by
  induction schedule generalizing system store with
  | nil =>
      cases executed
      exact ⟨store, rfl, stands, sharing⟩
  | cons action rest ih =>
      rcases run_cons_some step executed with ⟨next, stepped, remaining⟩
      have now := orderly next stepped
      have settled := step_serves sharing stands now.1 stepped
      rcases settled.served with ⟨status, middle, served, stood, log⟩
      rcases ih settled.sharing stood now.2 remaining with ⟨after, ran, ends⟩
      have first : answer (system.log.map Answer.status, store) (requested action) =
          some (next.log.map Answer.status, middle) := by
        rw [log, List.map_append]
        simp only [answer, served]
        rfl
      refine ⟨after, ?_, ends⟩
      rw [List.map_cons, run_cons, first, Option.bind_some, ran]

theorem sharing_initial : Sharing System.initial where
  numbered _ member := absurd member List.not_mem_nil
  distinct := List.nodup_nil
  nonNull _ member := absurd member List.not_mem_nil
  present _ live := absurd live Bool.false_ne_true
  opens _ _ held := by cases held
  owned _ member := absurd member List.not_mem_nil
  apart _ _ _ held := by cases held
  named _ member := absurd member List.not_mem_nil
  unnamed _ member := absurd member List.not_mem_nil

theorem stands_initial : Stands System.initial BlockStore.empty where
  kind _ := rfl
  bound _ := rfl
  cell _ := rfl

/-- In every run that creates blocks that are not live and calls live ones,
whatever names the creates pass and whatever handles the kernel gives out, the
statuses are those of a store in which blocks of one name hold one object and a
block without a name its own, made by the first create, kept until the last
delete and refused to a block of the other type; and a get stays blocked exactly
when that store leaves it blocked. -/
theorem blocks_share_store (schedule : List Action)
    (orderly : Along step Orderly System.initial schedule) (final : System)
    (executed : run step System.initial schedule = some final) :
    ∃ store, run answer ([], BlockStore.empty) (schedule.map requested) =
        some (final.log.map Answer.status, store) ∧
      Stands final store ∧
      ∀ address thread waitOption, final.live address = true →
        (step final (.get address thread waitOption) = none ↔
          serve store (.get address thread waitOption) = none) := by
  rcases run_serves sharing_initial stands_initial orderly executed with
    ⟨store, ran, stands, sharing⟩
  exact ⟨store, ran, stands, fun _ thread waitOption live =>
    get_waits sharing stands live thread waitOption⟩

def sameNames : List Action :=
  [.mutexCreate 1 4 (some "usb"), .mutexCreate 2 8 (some "usb"),
    .semaphoreCreate 3 12 (some "usb") 1, .get 1 1 txWaitForever, .get 2 2 txNoWait,
    .get 3 1 txNoWait, .delete 1, .put 2 1, .get 2 2 txNoWait]

/-- The second thread is kept out by the other block, and gets the mutex when
that block is gone and the first thread has put it through its own. -/
theorem sameNames_share :
    ∃ final store, run step System.initial sameNames = some final ∧
      run answer ([], BlockStore.empty) (sameNames.map requested) =
        some ([txSuccess, txSuccess, txSuccess, txSuccess, txNoInstance, txMutexError, txSuccess,
          txSuccess, txSuccess], store) ∧ Stands final store := by
  have orderly : Along step Orderly System.initial sameNames := by decide
  rcases blocks_share_store sameNames orderly _ rfl with ⟨store, ran, stands, _⟩
  exact ⟨_, store, rfl, ran, stands⟩

end UsbxNxdk.NamedBlocks
