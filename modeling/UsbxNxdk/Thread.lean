import UsbxNxdk.TxApi

/-! Thread control blocks, and the calls that act on one block. -/

namespace UsbxNxdk.Thread

/-- The fields of `struct threadx` that the glue itself reads or writes; the
links of its `entry` field live in the thread list. -/
structure TxThread where
  thread : HANDLE
  win32ThreadId : ULONG
  txThreadStackStart : ULONG
  txThreadStackEnd : ULONG
  txThreadId : ULONG
  txThreadEntryParameter : ULONG
  txThreadName : Option String
  txThreadState : UINT
  txThreadSuspending : UINT
  txThreadEntry : ULONG
  deriving DecidableEq, Repr

def txThreadIdentifier : ULONG := 0x54485244
def createSuspended : ULONG := 0x4

structure CreateArguments where
  name : Option String
  entryFunction : ULONG
  entryInput : ULONG
  autoStart : UINT
  deriving DecidableEq, Repr

/-- What the kernel answers while a thread is created: the handle and the
identifier, and the stack limits when the object could be referenced. -/
structure CreateAnswers where
  handle : HANDLE
  threadId : ULONG
  stackLimits : Option (ULONG × ULONG)
  deriving DecidableEq, Repr

/-- The writes of `_tx_thread_create` to the block, in program order. The
kernel stores the identifier before the new thread runs; the handle is stored
by the assignment that follows. -/
inductive BlockWrite where
  | clear
  | entry
  | entryParameter
  | name
  | state
  | identifier
  | createThread
  | handle
  | stackStart
  | stackEnd
  deriving DecidableEq, Repr

def blockWrites : List BlockWrite :=
  [.clear, .entry, .entryParameter, .name, .state, .identifier, .createThread, .handle,
    .stackStart, .stackEnd]

def BlockWrite.run (arguments : CreateArguments) (answers : CreateAnswers) (block : TxThread) :
    BlockWrite → TxThread
  | .clear =>
      { thread := 0, win32ThreadId := 0, txThreadStackStart := 0, txThreadStackEnd := 0
        txThreadId := 0, txThreadEntryParameter := 0, txThreadName := none, txThreadState := 0
        txThreadSuspending := 0, txThreadEntry := 0 }
  | .entry => { block with txThreadEntry := arguments.entryFunction }
  | .entryParameter => { block with txThreadEntryParameter := arguments.entryInput }
  | .name => { block with txThreadName := arguments.name }
  | .state =>
      { block with txThreadState := if arguments.autoStart ≠ 0 then txReady else txSuspended }
  | .identifier => { block with txThreadId := txThreadIdentifier }
  | .createThread => { block with win32ThreadId := answers.threadId }
  | .handle => { block with thread := answers.handle }
  | .stackStart =>
      match answers.stackLimits with
      | none => block
      | some limits => { block with txThreadStackStart := limits.1 }
  | .stackEnd =>
      match answers.stackLimits with
      | none => block
      | some limits => { block with txThreadStackEnd := limits.2 }

def txThreadCreate (arguments : CreateArguments) (answers : CreateAnswers) (block : TxThread) :
    UINT × TxThread :=
  (txSuccess, blockWrites.foldl (BlockWrite.run arguments answers) block)

def creationFlags (arguments : CreateArguments) : ULONG :=
  if arguments.autoStart ≠ 0 then 0 else createSuspended

/-- The kernel's `NT_SUCCESS`: the status word is not negative. -/
def ntSuccess (status : ULONG) : Bool := decide (0 ≤ status.toInt)

def txThreadResume (block : TxThread) (status : ULONG) : UINT × TxThread :=
  if ntSuccess status then
    (txSuccess, { block with txThreadState := txReady, txThreadSuspending := txFalse })
  else (txResumeError, block)

/-- `status` is what `NtSuspendThread` returned. The mark is raised before
that call, and lowered only when the call succeeded. -/
def txThreadSuspend (block : TxThread) (status : ULONG) : UINT × TxThread :=
  let marked := { block with txThreadSuspending := txTrue }
  if ntSuccess status then
    (txSuccess, { marked with txThreadState := txSuspended, txThreadSuspending := txFalse })
  else (txResumeError, marked)

def txThreadSystemResume (block : TxThread) (status : ULONG) : TxThread :=
  (txThreadResume block status).2

def txThreadSystemSuspend (block : TxThread) (status : ULONG) : TxThread :=
  (txThreadSuspend block status).2

structure InfoPointers where
  name : Bool
  state : Bool
  runCount : Bool
  priority : Bool
  preemptionThreshold : Bool
  timeSlice : Bool
  nextThread : Bool
  nextSuspendedThread : Bool
  deriving DecidableEq, Repr

structure ThreadInfo where
  name : Option (Option String)
  state : Option UINT
  runCount : Option ULONG
  priority : Option UINT
  preemptionThreshold : Option UINT
  timeSlice : Option ULONG
  nextThread : Option Nat
  nextSuspendedThread : Option Nat
  deriving DecidableEq, Repr

def storeThrough {Value : Type} (pointer : Bool) (value : Value) : Option Value :=
  if pointer then some value else none

def txThreadInfoGet (block : TxThread) (pointers : InfoPointers) : UINT × ThreadInfo :=
  (txSuccess,
    { name := storeThrough pointers.name block.txThreadName
      state := storeThrough pointers.state block.txThreadState
      runCount := storeThrough pointers.runCount 0
      priority := storeThrough pointers.priority 1
      preemptionThreshold := storeThrough pointers.preemptionThreshold 0
      timeSlice := storeThrough pointers.timeSlice 0
      nextThread := storeThrough pointers.nextThread 0
      nextSuspendedThread := storeThrough pointers.nextSuspendedThread 0 })

/-- The kernel's suspend count of a new thread. -/
def createdSuspendCount (flags : ULONG) : Nat :=
  if flags &&& createSuspended ≠ 0 then 1 else 0

def ntResumeThread (suspendCount : Nat) (status : ULONG) : Nat :=
  if ntSuccess status then suspendCount - 1 else suspendCount

def ntSuspendThread (suspendCount : Nat) (status : ULONG) : Nat :=
  if ntSuccess status then suspendCount + 1 else suspendCount

theorem write_identifier {arguments : CreateArguments} {answers : CreateAnswers}
    {block : TxThread} {write : BlockWrite} (kept : write ≠ .clear)
    (stored : write ≠ .createThread → block.win32ThreadId = answers.threadId) :
    (write.run arguments answers block).win32ThreadId = answers.threadId := by
  cases write with
  | clear => exact absurd rfl kept
  | createThread => rfl
  | stackStart =>
      have before := stored (by decide)
      cases limits : answers.stackLimits <;> simp [BlockWrite.run, limits, before]
  | stackEnd =>
      have before := stored (by decide)
      cases limits : answers.stackLimits <;> simp [BlockWrite.run, limits, before]
  | _ => exact stored (by decide)

theorem txThreadCreate_state (arguments : CreateArguments) (answers : CreateAnswers)
    (block : TxThread) :
    (txThreadCreate arguments answers block).2.txThreadState =
        (if arguments.autoStart ≠ 0 then txReady else txSuspended) ∧
      (txThreadCreate arguments answers block).2.txThreadSuspending = txFalse := by
  rcases answers with ⟨handle, threadId, limits⟩
  cases limits <;> exact ⟨rfl, rfl⟩

end UsbxNxdk.Thread
