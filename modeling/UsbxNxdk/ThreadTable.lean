import UsbxNxdk.HandleTable
import UsbxNxdk.ThreadStart

/-! The thread list, and the calls that add, remove and look up a block. Each
takes the kernel calls it makes as parameters over the state of the kernel. -/

namespace UsbxNxdk.ThreadTable

open Execution LinkedRing Thread ThreadStart Win32

variable {Kernel : Type}

def deleteTimeout : ULONG := 100

namespace Table

/-- A `CreateThread` that fails stores no identifier: the cleared one stays. -/
def txThreadCreate
    (createThread : Nat → ULONG → Kernel → HANDLE × Option ULONG × Kernel)
    (obReferenceObjectByHandle : HANDLE → Kernel → Option (ULONG × ULONG) × Kernel)
    (arguments : CreateArguments) (thread : Nat) (table : Table) (kernel : Kernel) :
    UINT × Table × Kernel :=
  let created := createThread thread (creationFlags arguments) kernel
  let referenced := obReferenceObjectByHandle created.1 created.2.2
  let answers : CreateAnswers :=
    { handle := created.1
      threadId := created.2.1.getD 0
      stackLimits := referenced.1 }
  let returned := Thread.txThreadCreate arguments answers (table.blocks thread)
  (returned.1,
    { links := (clearEntry thread table.links).insertTail .head (.block thread)
      blocks := Function.update table.blocks thread returned.2 },
    referenced.2)

def txThreadDelete (waitForSingleObject : HANDLE → ULONG → Kernel → WaitResult)
    (closeHandle : HANDLE → Kernel → Kernel) (thread : Nat) (table : Table) (kernel : Kernel) :
    UINT × Table × Kernel :=
  let block := table.blocks thread
  let waitResult := waitForSingleObject block.thread deleteTimeout kernel
  if waitResult ≠ .object0 then (txDeleteError, table, kernel)
  else
    (txSuccess,
      { links := table.links.removeEntry (.block thread)
        blocks := Function.update table.blocks thread { block with txThreadId := txClearId } },
      closeHandle block.thread kernel)

/-- The loop of `_tx_thread_identify` on an entry just read; `none` when the
fuel runs out, or when the walk leaves the list. -/
def identifyLoop (win32ThreadId : ULONG) (table : Table) : Nat → Node → Option (Option Nat)
  | 0, _ => none
  | _ + 1, .null => none
  -- The assertion that fails here does not stop the call, which returns `TX_NULL`.
  | _ + 1, .head => some none
  | fuel + 1, .block thread =>
      if (table.blocks thread).win32ThreadId = win32ThreadId then some (some thread)
      else identifyLoop win32ThreadId table fuel (table.links.flink (.block thread))

def txThreadIdentify (win32ThreadId : ULONG) (fuel : Nat) (table : Table) : Option (Option Nat) :=
  table.identifyLoop win32ThreadId fuel (table.links.flink .head)

end Table

theorem txThreadDelete_refused {waitForSingleObject : HANDLE → ULONG → Kernel → WaitResult}
    {closeHandle : HANDLE → Kernel → Kernel} {thread : Nat} {table : Table} {kernel : Kernel}
    (pending :
      waitForSingleObject (table.blocks thread).thread deleteTimeout kernel ≠ .object0) :
    table.txThreadDelete waitForSingleObject closeHandle thread kernel =
      (txDeleteError, table, kernel) :=
  if_pos pending

theorem txThreadDelete_ended {waitForSingleObject : HANDLE → ULONG → Kernel → WaitResult}
    {closeHandle : HANDLE → Kernel → Kernel} {thread : Nat} {table : Table} {kernel : Kernel}
    (ended : waitForSingleObject (table.blocks thread).thread deleteTimeout kernel = .object0) :
    table.txThreadDelete waitForSingleObject closeHandle thread kernel =
      (txSuccess,
        { links := table.links.removeEntry (.block thread)
          blocks := Function.update table.blocks thread
            { table.blocks thread with txThreadId := txClearId } },
        closeHandle (table.blocks thread).thread kernel) :=
  if_neg fun pending => pending ended

theorem txThreadCreate_block (arguments : CreateArguments) (answers : CreateAnswers)
    (block : TxThread) :
    (Thread.txThreadCreate arguments answers block).2.thread = answers.handle ∧
      (Thread.txThreadCreate arguments answers block).2.win32ThreadId = answers.threadId ∧
      (Thread.txThreadCreate arguments answers block).2.txThreadId = txThreadIdentifier := by
  rcases answers with ⟨handle, threadId, limits⟩
  cases limits <;> exact ⟨rfl, rfl, rfl⟩

section Handles

variable (arguments : CreateArguments) (answers : CreateAnswers) (thread : Nat) (table : Table)
variable (handles : HandleTable)

def Table.createThread : UINT × Table × HandleTable :=
  table.txThreadCreate (HandleTable.createThread answers.handle answers.threadId)
    (HandleTable.obReferenceObjectByHandle answers.stackLimits) arguments thread handles

def Table.deleteThread (waitResult : WaitResult) : UINT × Table × HandleTable :=
  table.txThreadDelete (HandleTable.waitForSingleObject waitResult) HandleTable.closeHandle thread
    handles

theorem createThread_other {other : Nat} (different : other ≠ thread) :
    (table.createThread arguments answers thread handles).2.1.blocks other =
      table.blocks other :=
  Function.update_of_ne different _ _

theorem createThread_block :
    ((table.createThread arguments answers thread handles).2.1.blocks thread).thread =
        answers.handle ∧
      ((table.createThread arguments answers thread handles).2.1.blocks thread).win32ThreadId =
        (if answers.handle = 0 then 0 else answers.threadId) ∧
      ((table.createThread arguments answers thread handles).2.1.blocks thread).txThreadId =
        txThreadIdentifier := by
  unfold Table.createThread Table.txThreadCreate
  simp only [Function.update_self]
  rcases txThreadCreate_block arguments _ (table.blocks thread) with ⟨handle, identifier, valid⟩
  refine ⟨handle.trans (HandleTable.makeObject_answer handles _ _), identifier.trans ?_, valid⟩
  by_cases null : answers.handle = 0
  · simp [HandleTable.createThread, null]
  · simp [HandleTable.createThread, null]

theorem createThread_opened :
    (table.createThread arguments answers thread handles).2.2.opened =
      (handles.makeObject answers.handle (.thread answers.threadId thread)).2.opened :=
  HandleTable.obReference_opened _ answers.stackLimits _

theorem createThread_references (made : answers.handle ≠ 0) :
    (table.createThread arguments answers thread handles).2.2.references =
      handles.references + if answers.stackLimits.isSome then 1 else 0 := by
  have isOpen := HandleTable.makeObject_isOpen handles made (.thread answers.threadId thread)
  have same := HandleTable.makeObject_references handles answers.handle
    (.thread answers.threadId thread)
  have answer := HandleTable.makeObject_answer handles answers.handle
    (.thread answers.threadId thread)
  unfold Table.createThread Table.txThreadCreate HandleTable.createThread
    HandleTable.obReferenceObjectByHandle
  simp only [answer, isOpen, true_and]
  by_cases read : answers.stackLimits.isSome
  · rw [if_pos read, if_pos read, same]
  · rw [if_neg read, if_neg read, same, Nat.add_zero]

variable {waitResult : WaitResult}

theorem deleteThread_refused
    (pending : ¬ handles.isOpen (table.blocks thread).thread ∨ waitResult ≠ .object0) :
    table.deleteThread thread handles waitResult = (txDeleteError, table, handles) := by
  apply txThreadDelete_refused
  unfold HandleTable.waitForSingleObject
  by_cases isOpen : handles.isOpen (table.blocks thread).thread
  · rw [if_pos isOpen]
    exact pending.resolve_left fun closed => closed isOpen
  · rw [if_neg isOpen]
    decide

theorem deleteThread_ended (isOpen : handles.isOpen (table.blocks thread).thread) :
    table.deleteThread thread handles .object0 =
      (txSuccess,
        { links := table.links.removeEntry (.block thread)
          blocks := Function.update table.blocks thread
            { table.blocks thread with txThreadId := txClearId } },
        handles.closeHandle (table.blocks thread).thread) :=
  txThreadDelete_ended (if_pos isOpen)

end Handles

/-- Uninterrupted, the accesses of the creating thread are the whole call. -/
theorem create_uninterrupted_table (setting : Setting) (table : Table) :
    ∃ final, run (step setting) (creating table.links table.blocks)
        (List.replicate createSteps.length .create) = some final ∧
      final.links = (clearEntry setting.thread table.links).insertTail .head
        (.block setting.thread) ∧
      final.blocks setting.thread =
        (Thread.txThreadCreate setting.arguments setting.answers
          (table.blocks setting.thread)).2 := by
  apply Exists.intro
  apply And.intro (create_all setting createSteps (creating table.links table.blocks) rfl)
  constructor
  · rfl
  · exact writes_block setting blockWrites (creating table.links table.blocks)

theorem identifyLoop_linked {table : Table} {win32ThreadId : ULONG} {first : Node}
    {threads : List Nat} {fuel : Nat}
    (linked : Linked table.links.flink first (threads.map .block) .head)
    (enough : threads.length < fuel) :
    table.identifyLoop win32ThreadId fuel (table.links.flink first) =
      some (threads.find? fun thread => (table.blocks thread).win32ThreadId = win32ThreadId) := by
  induction threads generalizing first fuel with
  | nil =>
      have arrives : table.links.flink first = .head := linked
      cases fuel with
      | zero => cases enough
      | succ fuel =>
          rw [arrives]
          rfl
  | cons thread rest ih =>
      have next : table.links.flink first = .block thread := linked.1
      cases fuel with
      | zero => cases enough
      | succ fuel =>
          rw [next, Table.identifyLoop]
          by_cases same : (table.blocks thread).win32ThreadId = win32ThreadId
          · rw [if_pos same, List.find?_cons_of_pos (by simp [same])]
          · rw [if_neg same, List.find?_cons_of_neg (by simp [same])]
            exact ih linked.2 (Nat.lt_of_succ_lt_succ enough)

end UsbxNxdk.ThreadTable
