import UsbxNxdk.ControlBlocks
import UsbxNxdk.Execution
import UsbxNxdk.Kernel

/-! Any number of semaphore and mutex control blocks over one kernel. -/

namespace UsbxNxdk.BlockSystem

open Execution Win32 ControlBlocks

inductive ControlBlock where
  | semaphore (block : TxSemaphore)
  | mutex (block : TxMutex)
  deriving DecidableEq, Repr

namespace ControlBlock

def handle : ControlBlock → HANDLE
  | .semaphore block => block.semaphore
  | .mutex block => block.mutex

def isSemaphore : ControlBlock → Bool
  | .semaphore _ => true
  | .mutex _ => false

def get (thread : Nat) (waitOption : ULONG) (kernel : Kernel) :
    ControlBlock → Option (UINT × ControlBlock × Kernel)
  | .semaphore block =>
      match txSemaphoreGet (Kernel.waitForSingleObject thread) block waitOption kernel with
      | none => none
      | some (status, block, kernel) => some (status, .semaphore block, kernel)
  | .mutex block =>
      match txMutexGet (Kernel.waitForSingleObject thread) block waitOption kernel with
      | none => none
      | some (status, kernel) => some (status, .mutex block, kernel)

def put (thread : Nat) (kernel : Kernel) : ControlBlock → UINT × ControlBlock × Kernel
  | .semaphore block =>
      match txSemaphorePut Kernel.releaseSemaphore block kernel with
      | (status, block, kernel) => (status, .semaphore block, kernel)
  | .mutex block =>
      match txMutexPut (Kernel.releaseMutex thread) block kernel with
      | (status, kernel) => (status, .mutex block, kernel)

def delete (kernel : Kernel) : ControlBlock → UINT × ControlBlock × Kernel
  | .semaphore block =>
      match txSemaphoreDelete Kernel.closeHandle block kernel with
      | (status, block, kernel) => (status, .semaphore block, kernel)
  | .mutex block =>
      match txMutexDelete Kernel.closeHandle block kernel with
      | (status, block, kernel) => (status, .mutex block, kernel)

end ControlBlock

inductive BlockCall where
  | semaphoreCreate (initialCount : ULONG)
  | mutexCreate
  | get (thread : Nat) (waitOption : ULONG)
  | put (thread : Nat)
  | delete
  deriving DecidableEq, Repr

structure Answer where
  address : Nat
  call : BlockCall
  status : UINT
  deriving DecidableEq, Repr

/-- A block is live from its creation to its deletion; its memory stays. `log`
is a history variable: the calls that returned, oldest first. -/
structure System where
  kernel : Kernel
  blocks : Nat → Option ControlBlock
  live : Nat → Bool
  log : List Answer

/-- A create carries the value the kernel gives the new handle. -/
inductive Action where
  | semaphoreCreate (address : Nat) (handle : HANDLE) (name : Option String)
      (initialCount : ULONG)
  | mutexCreate (address : Nat) (handle : HANDLE) (name : Option String)
  | get (address thread : Nat) (waitOption : ULONG)
  | put (address thread : Nat)
  | delete (address : Nat)
  deriving DecidableEq, Repr

namespace Action

def address : Action → Nat
  | .semaphoreCreate address _ _ _ => address
  | .mutexCreate address _ _ => address
  | .get address _ _ => address
  | .put address _ => address
  | .delete address => address

def call : Action → BlockCall
  | .semaphoreCreate _ _ _ initialCount => .semaphoreCreate initialCount
  | .mutexCreate _ _ _ => .mutexCreate
  | .get _ thread waitOption => .get thread waitOption
  | .put _ thread => .put thread
  | .delete _ => .delete

end Action

namespace System

def initial : System :=
  { kernel := Kernel.initial
    blocks := fun _ => none
    live := fun _ => false
    log := [] }

def finish (system : System) (action : Action) (live : Bool)
    (returned : UINT × ControlBlock × Kernel) : System :=
  { kernel := returned.2.2
    blocks := Function.update system.blocks action.address (some returned.2.1)
    live := Function.update system.live action.address live
    log := system.log ++
      [{ address := action.address, call := action.call, status := returned.1 }] }

/-- The kernel gives out no `NULL` handle and none that is open. -/
def canGive (system : System) (handle : HANDLE) : Prop :=
  handle ≠ 0 ∧ system.kernel.lookup handle = none

instance (system : System) (handle : HANDLE) : Decidable (system.canGive handle) :=
  inferInstanceAs (Decidable (_ ∧ _))

def objectOf (system : System) (address : Nat) : Option Nat :=
  if system.live address then
    (system.blocks address).bind fun block => system.kernel.lookup block.handle
  else none

def standing (system : System) (address : Nat) : Option Body :=
  (system.objectOf address).map fun object => (system.kernel.objects object).body

end System

/-- Each call acts on the kernel in a single kernel call; a get that stays
blocked is not a step yet. -/
def step (system : System) (action : Action) : Option System :=
  match action with
  | .semaphoreCreate _ handle name initialCount =>
      if system.canGive handle then
        match txSemaphoreCreate (Kernel.createSemaphore handle) name initialCount
            system.kernel with
        | (status, block, kernel) =>
            some (system.finish action true (status, .semaphore block, kernel))
      else none
  | .mutexCreate _ handle name =>
      if system.canGive handle then
        match txMutexCreate (Kernel.createMutexA handle) name txNoInherit system.kernel with
        | (status, block, kernel) =>
            some (system.finish action true (status, .mutex block, kernel))
      else none
  | .get address thread waitOption =>
      match system.blocks address with
      | none => none
      | some block =>
          match block.get thread waitOption system.kernel with
          | none => none
          | some returned => some (system.finish action (system.live address) returned)
  | .put address thread =>
      match system.blocks address with
      | none => none
      | some block =>
          some (system.finish action (system.live address) (block.put thread system.kernel))
  | .delete address =>
      match system.blocks address with
      | none => none
      | some block => some (system.finish action false (block.delete system.kernel))

end UsbxNxdk.BlockSystem
