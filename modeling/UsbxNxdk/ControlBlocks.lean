import UsbxNxdk.Win32

/-! Mutex and semaphore control blocks. Each operation takes the Win32 calls it
makes as parameters over the state of the kernel. -/

namespace UsbxNxdk.ControlBlocks

open Win32

variable {Kernel : Type}

def txMutexId : ULONG := 0x4D555445
def txSemaphoreId : ULONG := 0x53454D41

def semaphoreMaximum : Nat := 4096

structure TxMutex where
  mutex : HANDLE
  txMutexName : Option String
  txMutexOwnershipCount : UINT
  txMutexId : ULONG
  deriving DecidableEq, Repr

structure TxSemaphore where
  semaphore : HANDLE
  txSemaphoreId : ULONG
  txSemaphoreCount : ULONG
  deriving DecidableEq, Repr

/-- The duration passed to `WaitForSingleObject`, which both get functions
compute in the same two assignments. -/
def waitDuration (waitOption : ULONG) : ULONG :=
  let waitOption := if waitOption = txWaitForever then infinite else waitOption
  if waitOption = txNoWait then 0 else waitOption

/-- The status both get functions return; a semaphore, too, reports a failed
wait as `TX_MUTEX_ERROR`. -/
def waitStatus : WaitResult → UINT
  | .object0 => txSuccess
  | .timeout => txNoInstance
  | .abandoned => txMutexError
  | .failed => txMutexError

/-- The assertion that `inherit` is `TX_NO_INHERIT` does not stop the call. -/
def txMutexCreate (createMutexA : Option String → Kernel → HANDLE × Kernel)
    (name : Option String) (_inherit : UINT) (kernel : Kernel) : UINT × TxMutex × Kernel :=
  let created := createMutexA name kernel
  (txSuccess,
    { mutex := created.1
      txMutexName := name
      txMutexOwnershipCount := 0
      txMutexId := txMutexId },
    created.2)

def txMutexDelete (closeHandle : HANDLE → Kernel → Kernel) (block : TxMutex) (kernel : Kernel) :
    UINT × TxMutex × Kernel :=
  (txSuccess, { block with txMutexId := txClearId }, closeHandle block.mutex kernel)

def txMutexPut (releaseMutex : HANDLE → Kernel → Bool × Kernel) (block : TxMutex)
    (kernel : Kernel) : UINT × Kernel :=
  let released := releaseMutex block.mutex kernel
  (if released.1 then txSuccess else txMutexError, released.2)

/-- `none` while the wait stays blocked. -/
def txMutexGet (waitForSingleObject : HANDLE → ULONG → Kernel → Option (WaitResult × Kernel))
    (block : TxMutex) (waitOption : ULONG) (kernel : Kernel) : Option (UINT × Kernel) := do
  let (waitResult, kernel) ← waitForSingleObject block.mutex (waitDuration waitOption) kernel
  return (waitStatus waitResult, kernel)

def txSemaphoreCreate
    (createSemaphore : ULONG → Nat → Option String → Kernel → HANDLE × Kernel)
    (name : Option String) (initialCount : ULONG) (kernel : Kernel) :
    UINT × TxSemaphore × Kernel :=
  let created := createSemaphore initialCount semaphoreMaximum name kernel
  (txSuccess,
    { semaphore := created.1
      txSemaphoreId := txSemaphoreId
      txSemaphoreCount := initialCount },
    created.2)

def txSemaphoreDelete (closeHandle : HANDLE → Kernel → Kernel) (block : TxSemaphore)
    (kernel : Kernel) : UINT × TxSemaphore × Kernel :=
  (txSuccess, { block with txSemaphoreId := txClearId }, closeHandle block.semaphore kernel)

/-- The counter goes down whatever the wait brought. -/
def txSemaphoreGet (waitForSingleObject : HANDLE → ULONG → Kernel → Option (WaitResult × Kernel))
    (block : TxSemaphore) (waitOption : ULONG) (kernel : Kernel) :
    Option (UINT × TxSemaphore × Kernel) := do
  let (waitResult, kernel) ← waitForSingleObject block.semaphore (waitDuration waitOption) kernel
  let block := { block with txSemaphoreCount := block.txSemaphoreCount - 1 }
  return (waitStatus waitResult, block, kernel)

def txSemaphorePut (releaseSemaphore : HANDLE → Kernel → Bool × Kernel) (block : TxSemaphore)
    (kernel : Kernel) : UINT × TxSemaphore × Kernel :=
  let released := releaseSemaphore block.semaphore kernel
  (if released.1 then txSuccess else txSemaphoreError,
    { block with txSemaphoreCount := block.txSemaphoreCount + 1 }, released.2)

theorem waitDuration_eq (waitOption : ULONG) : waitDuration waitOption = waitOption := by
  unfold waitDuration
  by_cases forever : waitOption = txWaitForever
  · rw [forever]
    rfl
  · rw [if_neg forever]
    by_cases zero : waitOption = txNoWait
    · rw [zero]
      rfl
    · exact if_neg zero

end UsbxNxdk.ControlBlocks
