import UsbxNxdk.BlockSystem
import UsbxNxdk.ThreadTable

/-! Mutexes, semaphores and threads from creation to deletion, and the kernel
handles behind them. -/

namespace UsbxNxdk.ObjectLifecycle

open Execution LinkedRing Thread ThreadTable Win32 ControlBlocks
open BlockSystem (ControlBlock)

inductive Target where
  | block (address : Nat)
  | thread (address : Nat)
  deriving DecidableEq, Repr

/-- `live` is a history variable: the blocks whose creation returned
`TX_SUCCESS` and whose deletion has not, in creation order. -/
structure System where
  blocks : Nat → Option ControlBlock
  table : Table
  handles : HandleTable
  live : List Target

/-- Each call carries the kernel's answers to it; a creation, the handle it is
given, which is 0 for `NULL`. -/
inductive Action where
  | mutexCreate (address : Nat) (handle : HANDLE) (name : Option String)
  | semaphoreCreate (address : Nat) (handle : HANDLE) (name : Option String)
      (initialCount : ULONG)
  | threadCreate (thread : Nat) (arguments : CreateArguments) (answers : CreateAnswers)
  | get (address : Nat) (waitOption : ULONG) (waitResult : WaitResult)
  | put (address : Nat) (released : Bool)
  | suspend (thread : Nat) (status : ULONG)
  | resume (thread : Nat) (status : ULONG)
  | delete (address : Nat)
  | threadDelete (thread : Nat) (waitResult : WaitResult)
  deriving DecidableEq, Repr

namespace Action

def target : Action → Target
  | .mutexCreate address _ _ => .block address
  | .semaphoreCreate address _ _ _ => .block address
  | .threadCreate thread _ _ => .thread thread
  | .get address _ _ => .block address
  | .put address _ => .block address
  | .suspend thread _ => .thread thread
  | .resume thread _ => .thread thread
  | .delete address => .block address
  | .threadDelete thread _ => .thread thread

def created : Action → Option HANDLE
  | .mutexCreate _ handle _ => some handle
  | .semaphoreCreate _ handle _ initialCount =>
      some (if initialCount.toNat ≤ semaphoreMaximum then handle else 0)
  | .threadCreate _ _ answers => some answers.handle
  | _ => none

def deletes : Action → Bool
  | .delete _ => true
  | .threadDelete _ _ => true
  | _ => false

def liveAfter (action : Action) (status : UINT) (live : List Target) : List Target :=
  if status = txSuccess then
    if action.created.isSome then live ++ [action.target]
    else if action.deletes then live.erase action.target
    else live
  else live

end Action

namespace System

variable (system : System)

def initial (blocks : Nat → Option ControlBlock) (table : Table) : System :=
  { blocks := blocks
    table := table
    handles := HandleTable.initial
    live := [] }

def handleOf : Target → HANDLE
  | .block address =>
      match system.blocks address with
      | none => 0
      | some block => block.handle
  | .thread address => (system.table.blocks address).thread

def ValidId : Target → Prop
  | .block address =>
      match system.blocks address with
      | none => False
      | some (.mutex block) => block.txMutexId = txMutexId
      | some (.semaphore block) => block.txSemaphoreId = txSemaphoreId
  | .thread address => (system.table.blocks address).txThreadId = txThreadIdentifier

def storeBlock (address : Nat) (status : UINT) (block : ControlBlock) (handles : HandleTable) :
    UINT × System :=
  (status,
    { system with
      blocks := Function.update system.blocks address (some block)
      handles := handles })

def storeThread (thread : Nat) (returned : UINT × TxThread) : UINT × System :=
  (returned.1,
    { system with
      table :=
        { system.table with
          blocks := Function.update system.table.blocks thread returned.2 } })

def storeTable (returned : UINT × Table × HandleTable) : UINT × System :=
  (returned.1, { system with table := returned.2.1, handles := returned.2.2 })

def getBlock (address : Nat) (waitOption : ULONG) (waitResult : WaitResult) :
    ControlBlock → Option (UINT × System)
  | .semaphore block =>
      match txSemaphoreGet (fun handle timeout handles =>
          some (HandleTable.waitForSingleObject waitResult handle timeout handles, handles))
          block waitOption system.handles with
      | none => none
      | some (status, block, handles) =>
          some (system.storeBlock address status (.semaphore block) handles)
  | .mutex block =>
      match txMutexGet (fun handle timeout handles =>
          some (HandleTable.waitForSingleObject waitResult handle timeout handles, handles))
          block waitOption system.handles with
      | none => none
      | some (status, handles) => some (system.storeBlock address status (.mutex block) handles)

def putBlock (address : Nat) (released : Bool) : ControlBlock → UINT × System
  | .semaphore block =>
      match txSemaphorePut (HandleTable.releaseObject released) block system.handles with
      | (status, block, handles) => system.storeBlock address status (.semaphore block) handles
  | .mutex block =>
      match txMutexPut (HandleTable.releaseObject released) block system.handles with
      | (status, handles) => system.storeBlock address status (.mutex block) handles

def deleteBlock (address : Nat) : ControlBlock → UINT × System
  | .semaphore block =>
      match txSemaphoreDelete HandleTable.closeHandle block system.handles with
      | (status, block, handles) => system.storeBlock address status (.semaphore block) handles
  | .mutex block =>
      match txMutexDelete HandleTable.closeHandle block system.handles with
      | (status, block, handles) => system.storeBlock address status (.mutex block) handles

def call : Action → Option (UINT × System)
  | .mutexCreate address handle name =>
      match txMutexCreate (HandleTable.createMutexA handle) name txNoInherit system.handles with
      | (status, block, handles) =>
          some (system.storeBlock address status (.mutex block) handles)
  | .semaphoreCreate address handle name initialCount =>
      match txSemaphoreCreate (HandleTable.createSemaphore handle) name initialCount
          system.handles with
      | (status, block, handles) =>
          some (system.storeBlock address status (.semaphore block) handles)
  | .threadCreate thread arguments answers =>
      some (system.storeTable (system.table.createThread arguments answers thread system.handles))
  | .get address waitOption waitResult =>
      match system.blocks address with
      | none => none
      | some block => system.getBlock address waitOption waitResult block
  | .put address released =>
      match system.blocks address with
      | none => none
      | some block => some (system.putBlock address released block)
  | .suspend thread status =>
      some (system.storeThread thread (txThreadSuspend (system.table.blocks thread) status))
  | .resume thread status =>
      some (system.storeThread thread (txThreadResume (system.table.blocks thread) status))
  | .delete address =>
      match system.blocks address with
      | none => none
      | some block => some (system.deleteBlock address block)
  | .threadDelete thread waitResult =>
      some (system.storeTable (system.table.deleteThread thread system.handles waitResult))

/-- A creation is of a block that is not live, and the kernel gives out no
handle that is open; every other call is on a live block. -/
def Allowed (action : Action) : Prop :=
  match action.created with
  | some handle =>
      action.target ∉ system.live ∧ (handle = 0 ∨ ¬ system.handles.isOpen handle)
  | none => action.target ∈ system.live

instance (action : Action) : Decidable (system.Allowed action) := by
  unfold Allowed
  cases action.created <;> infer_instance

end System

def step (system : System) (action : Action) : Option System :=
  if system.Allowed action then
    (system.call action).map fun returned =>
      { returned.2 with live := action.liveAfter returned.1 system.live }
  else none

theorem step_some {system next : System} {action : Action}
    (stepped : step system action = some next) :
    system.Allowed action ∧ ∃ returned, system.call action = some returned ∧
      next = { returned.2 with live := action.liveAfter returned.1 system.live } := by
  unfold step at stepped
  by_cases allowed : system.Allowed action
  · rw [if_pos allowed] at stepped
    rcases Option.map_eq_some_iff.mp stepped with ⟨returned, called, same⟩
    exact ⟨allowed, returned, called, same.symm⟩
  · rw [if_neg allowed] at stepped
    cases stepped

/-! ### The handles of the blocks -/

section Store

variable (system : System) (address : Nat) (status : UINT) (handles : HandleTable)

theorem storeBlock_own (block : ControlBlock) :
    (system.storeBlock address status block handles).2.handleOf (.block address) =
      block.handle := by
  simp [System.storeBlock, System.handleOf]

theorem storeBlock_other (block : ControlBlock) {other : Target}
    (different : other ≠ .block address) :
    (system.storeBlock address status block handles).2.handleOf other =
      system.handleOf other := by
  cases other with
  | block elsewhere =>
      have apart : elsewhere ≠ address := fun same => different (same ▸ rfl)
      simp only [System.storeBlock, System.handleOf, Function.update_of_ne apart]
  | thread thread => rfl

theorem storeBlock_same {before : ControlBlock} (found : system.blocks address = some before)
    (block : ControlBlock) (kept : block.handle = before.handle) (target : Target) :
    (system.storeBlock address status block handles).2.handleOf target =
      system.handleOf target := by
  by_cases own : target = .block address
  · rw [own, storeBlock_own, kept, System.handleOf, found]
  · exact storeBlock_other system address status handles block own

theorem storeThread_same (thread : Nat) (returned : UINT × TxThread)
    (kept : returned.2.thread = (system.table.blocks thread).thread) (target : Target) :
    (system.storeThread thread returned).2.handleOf target = system.handleOf target := by
  cases target with
  | block elsewhere => rfl
  | thread other =>
      by_cases own : other = thread
      · rw [own]
        simp only [System.storeThread, System.handleOf, Function.update_self, kept]
      · simp only [System.storeThread, System.handleOf, Function.update_of_ne own]

end Store

/-! ### What each call does to the handles -/

structure Created (system : System) (action : Action) (handle : HANDLE)
    (returned : UINT × System) : Prop where
  status : returned.1 = txSuccess
  valid : returned.2.ValidId action.target
  own : returned.2.handleOf action.target = handle
  others : ∀ other ≠ action.target, returned.2.handleOf other = system.handleOf other
  opened : ∃ object,
    returned.2.handles.opened = (system.handles.makeObject handle object).2.opened

theorem call_created {system : System} {action : Action} {handle : HANDLE}
    {returned : UINT × System} (made : action.created = some handle)
    (called : system.call action = some returned) : Created system action handle returned := by
  cases action with
  | mutexCreate address answer name =>
      cases made
      cases called
      exact
        { status := rfl
          valid := by simp [Action.target, System.storeBlock, System.ValidId]
          own := (storeBlock_own ..).trans (HandleTable.makeObject_answer ..)
          others := fun other different => storeBlock_other _ _ _ _ _ different
          opened := ⟨.mutex, rfl⟩ }
  | semaphoreCreate address answer name initialCount =>
      cases made
      cases called
      exact
        { status := rfl
          valid := by simp [Action.target, System.storeBlock, System.ValidId]
          own := (storeBlock_own ..).trans (HandleTable.makeObject_answer ..)
          others := fun other different => storeBlock_other _ _ _ _ _ different
          opened := ⟨.semaphore, rfl⟩ }
  | threadCreate thread arguments answers =>
      cases made
      cases called
      rcases createThread_block arguments answers thread system.table system.handles with
        ⟨own, _, valid⟩
      exact
        { status := rfl
          valid := valid
          own := own
          others := by
            intro other different
            cases other with
            | block elsewhere => rfl
            | thread elsewhere =>
                have apart : elsewhere ≠ thread := fun same => different (same ▸ rfl)
                exact congrArg TxThread.thread
                  (createThread_other arguments answers thread system.table system.handles apart)
          opened := ⟨.thread answers.threadId thread,
            createThread_opened arguments answers thread system.table system.handles⟩ }
  | get address waitOption waitResult => cases made
  | put address released => cases made
  | suspend thread status => cases made
  | resume thread status => cases made
  | delete address => cases made
  | threadDelete thread waitResult => cases made

theorem call_used {system : System} {action : Action} {returned : UINT × System}
    (made : action.created = none) (kept : action.deletes = false)
    (called : system.call action = some returned) :
    returned.2.handles = system.handles ∧
      ∀ target, returned.2.handleOf target = system.handleOf target := by
  cases action with
  | mutexCreate address answer name => cases made
  | semaphoreCreate address answer name initialCount => cases made
  | threadCreate thread arguments answers => cases made
  | get address waitOption waitResult =>
      cases found : system.blocks address with
      | none => simp [System.call, found] at called
      | some block =>
          simp only [System.call, found] at called
          cases block with
          | mutex block =>
              cases called
              exact ⟨rfl, storeBlock_same system address _ _ found _ rfl⟩
          | semaphore block =>
              cases called
              exact ⟨rfl, storeBlock_same system address _ _ found _ rfl⟩
  | put address released =>
      cases found : system.blocks address with
      | none => simp [System.call, found] at called
      | some block =>
          simp only [System.call, found] at called
          cases called
          cases block with
          | mutex block => exact ⟨rfl, storeBlock_same system address _ _ found _ rfl⟩
          | semaphore block => exact ⟨rfl, storeBlock_same system address _ _ found _ rfl⟩
  | suspend thread status =>
      cases called
      refine ⟨rfl, storeThread_same system thread _ ?_⟩
      unfold txThreadSuspend
      split <;> rfl
  | resume thread status =>
      cases called
      refine ⟨rfl, storeThread_same system thread _ ?_⟩
      unfold txThreadResume
      split <;> rfl
  | delete address => cases kept
  | threadDelete thread waitResult => cases kept

theorem call_deleted {system : System} {action : Action} {returned : UINT × System}
    (deletes : action.deletes = true) (called : system.call action = some returned) :
    returned.1 ≠ txSuccess ∧ returned.2 = system ∨
      returned.1 = txSuccess ∧
        returned.2.handles = system.handles.closeHandle (system.handleOf action.target) ∧
        ∀ target, returned.2.handleOf target = system.handleOf target := by
  cases action with
  | mutexCreate address answer name => cases deletes
  | semaphoreCreate address answer name initialCount => cases deletes
  | threadCreate thread arguments answers => cases deletes
  | get address waitOption waitResult => cases deletes
  | put address released => cases deletes
  | suspend thread status => cases deletes
  | resume thread status => cases deletes
  | delete address =>
      right
      cases found : system.blocks address with
      | none => simp [System.call, found] at called
      | some block =>
          simp only [System.call, found] at called
          cases called
          have own : system.handleOf (.block address) = block.handle := by
            simp only [System.handleOf, found]
          rw [Action.target, own]
          cases block with
          | mutex block => exact ⟨rfl, rfl, storeBlock_same system address _ _ found _ rfl⟩
          | semaphore block => exact ⟨rfl, rfl, storeBlock_same system address _ _ found _ rfl⟩
  | threadDelete thread waitResult =>
      cases called
      by_cases ended :
          system.handles.isOpen (system.table.blocks thread).thread ∧ waitResult = .object0
      · right
        rcases ended with ⟨isOpen, rfl⟩
        rw [deleteThread_ended thread system.table system.handles isOpen]
        refine ⟨rfl, rfl, ?_⟩
        exact storeThread_same system thread (txSuccess, _) rfl
      · left
        rw [deleteThread_refused thread system.table system.handles (not_and_or.mp ended)]
        refine ⟨?_, rfl⟩
        intro success
        cases success

end UsbxNxdk.ObjectLifecycle
