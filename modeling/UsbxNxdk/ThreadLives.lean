import UsbxNxdk.ThreadTable

/-! The lives of any number of threads, from `_tx_thread_create` over
`thread_entry` to `_tx_thread_delete`, interleaved. -/

namespace UsbxNxdk.ThreadLives

open Execution LinkedRing Thread ThreadStart ThreadTable Win32

/-- Where `thread_entry` is: it reads the entry function and its parameter from
the block, in either order, and calls the one with the other. -/
inductive Stage where
  | loading (entry parameter : Option ULONG)
  | running
  | ended
  deriving DecidableEq, Repr

inductive EntryField where
  | entry
  | parameter
  deriving DecidableEq, Repr

def Stage.load (block : TxThread) : EntryField → Stage → Option Stage
  | .entry, .loading none parameter => some (.loading (some block.txThreadEntry) parameter)
  | .parameter, .loading entry none => some (.loading entry (some block.txThreadEntryParameter))
  | _, _ => none

/-- A thread of the kernel; `block` is the parameter of its start routine, and
`serial` numbers the threads in the order of their creation. -/
structure KernelThread where
  block : Nat
  serial : Nat
  suspendCount : Nat
  stage : Stage
  deriving DecidableEq, Repr

inductive Phase where
  | free
  | creating (arguments : CreateArguments) (answers : CreateAnswers)
      (remaining : List BlockWrite)
  | live
  deriving DecidableEq, Repr

def Phase.Started : Phase → Prop
  | .free => False
  | .creating _ _ remaining => .createThread ∉ remaining
  | .live => True

instance : DecidablePred Phase.Started
  | .free => .isFalse id
  | .creating _ _ _ => inferInstanceAs (Decidable (_ ∉ _))
  | .live => .isTrue trivial

/-- `created`, `resumed` and `calls` are history variables: the arguments of the
creations that made a thread, the serials of the threads resumed, and the calls
of entry functions, each with the serial of the calling thread. -/
structure System where
  table : Table
  phase : Nat → Phase
  threads : HANDLE → Option KernelThread
  created : List CreateArguments
  resumed : List Nat
  calls : List (Nat × ULONG × ULONG)

/-- A creation carries the kernel's answers to it, a resume or a suspend the
status the kernel returns, a deletion how its wait ends. -/
inductive Action where
  | create (address : Nat) (arguments : CreateArguments) (answers : CreateAnswers)
  | proceed (address : Nat)
  | resume (address : Nat) (status : ULONG)
  | suspend (address : Nat) (status : ULONG)
  | load (handle : HANDLE) (field : EntryField)
  | call (handle : HANDLE)
  | finish (handle : HANDLE)
  | delete (address : Nat) (waitResult : WaitResult)
  deriving DecidableEq, Repr

namespace System

def initial (table : Table) : System :=
  { table := table
    phase := fun _ => .free
    threads := fun _ => none
    created := []
    resumed := []
    calls := [] }

def setPhase (system : System) (address : Nat) (phase : Phase) : System :=
  { system with phase := Function.update system.phase address phase }

def setBlock (system : System) (address : Nat) (block : TxThread) : System :=
  { system with
    table := { system.table with
      blocks := Function.update system.table.blocks address block } }

def setThread (system : System) (handle : HANDLE) (thread : Option KernelThread) : System :=
  { system with threads := Function.update system.threads handle thread }

def writeBlock (system : System) (address : Nat) (arguments : CreateArguments)
    (answers : CreateAnswers) (write : BlockWrite) : System :=
  { system with table := system.table.write address arguments answers write }

def makeThread (system : System) (address : Nat) (arguments : CreateArguments)
    (handle : HANDLE) : Option System :=
  if handle = 0 then some system
  else if system.threads handle ≠ none then none
  else
    some
      { system.setThread handle
          (some
            { block := address
              serial := system.created.length
              suspendCount := createdSuspendCount (creationFlags arguments)
              stage := .loading none none }) with
        created := system.created ++ [arguments] }

def proceed (system : System) (address : Nat) : Option System :=
  match system.phase address with
  | .creating arguments answers (write :: rest) =>
      let written := (system.writeBlock address arguments answers write).setPhase address
        (.creating arguments answers rest)
      if write = .createThread then written.makeThread address arguments answers.handle
      else some written
  | .creating _ _ [] =>
      some
        { system.setPhase address .live with
          table := { system.table with
            links := system.table.links.insertTail .head (.block address) } }
  | _ => none

def behind (system : System) (address : Nat) : Option KernelThread :=
  system.threads (system.table.blocks address).thread

def advance (system : System) (handle : HANDLE)
    (next : KernelThread → Option System) : Option System :=
  match system.threads handle with
  | none => none
  | some thread => if thread.suspendCount = 0 then next thread else none

end System

/-- The kernel resumes or suspends a thread only where there is one, and ends
the wait of a deletion by the thread's end only after it. A thread that was not
created has no identifier and no stack. -/
def step (system : System) : Action → Option System
  | .create address arguments answers =>
      if system.phase address = .free ∧
          (answers.handle = 0 → answers.threadId = 0 ∧ answers.stackLimits = none) then
        some (system.setPhase address (.creating arguments answers blockWrites))
      else none
  | .proceed address => system.proceed address
  | .resume address status =>
      if (system.phase address).Started then
        let block := system.table.blocks address
        let returned := txThreadResume block status
        match system.threads block.thread with
        | none =>
            if ntSuccess status then none else some (system.setBlock address returned.2)
        | some thread =>
            some
              { (system.setBlock address returned.2).setThread block.thread
                  (some { thread with
                    suspendCount := ntResumeThread thread.suspendCount status }) with
                resumed :=
                  if ntSuccess status then system.resumed ++ [thread.serial]
                  else system.resumed }
      else none
  | .suspend address status =>
      if (system.phase address).Started then
        let block := system.table.blocks address
        let returned := txThreadSuspend block status
        match system.threads block.thread with
        | none =>
            if ntSuccess status then none else some (system.setBlock address returned.2)
        | some thread =>
            some
              ((system.setBlock address returned.2).setThread block.thread
                (some { thread with
                  suspendCount := ntSuspendThread thread.suspendCount status }))
      else none
  | .load handle field =>
      system.advance handle fun thread =>
        (thread.stage.load (system.table.blocks thread.block) field).map fun stage =>
          system.setThread handle (some { thread with stage := stage })
  | .call handle =>
      system.advance handle fun thread =>
        match thread.stage with
        | .loading (some entry) (some parameter) =>
            some
              { system.setThread handle (some { thread with stage := .running }) with
                calls := system.calls ++ [(thread.serial, entry, parameter)] }
        | _ => none
  | .finish handle =>
      system.advance handle fun thread =>
        match thread.stage with
        | .running => some (system.setThread handle (some { thread with stage := .ended }))
        | _ => none
  | .delete address waitResult =>
      if system.phase address = .live ∧
          (waitResult = .object0 ↔
            ∃ thread ∈ system.behind address, thread.stage = .ended) then
        match system.table.txThreadDelete (fun _ _ _ => waitResult)
            (fun handle threads => Function.update threads handle none) address
            system.threads with
        | (status, table, threads) =>
            some
              { system with
                table := table
                threads := threads
                phase :=
                  if status = txSuccess then Function.update system.phase address .free
                  else system.phase }
      else none

/-- Each entry function is called at most once for each creation, by the
creation's own thread, with the function and the input that the creation was
given, and not before a thread that was created suspended is resumed. -/
structure CallsFaithful (system : System) : Prop where
  once : (system.calls.map Prod.fst).Nodup
  own : ∀ call ∈ system.calls, ∃ arguments, system.created[call.1]? = some arguments ∧
    call.2 = (arguments.entryFunction, arguments.entryInput) ∧
    (arguments.autoStart = 0 → call.1 ∈ system.resumed)

/-- No thread that the kernel still knows has lost its block: the block is not
free, `CreateThread` has been called for it and for no other thread, and it
holds what the thread's creation was given. -/
structure BlocksKept (system : System) : Prop where
  started : ∀ handle thread, system.threads handle = some thread →
    (system.phase thread.block).Started
  sole : ∀ first second one other, system.threads first = some one →
    system.threads second = some other → one.block = other.block → first = second
  given : ∀ handle thread, system.threads handle = some thread → ∃ arguments,
    system.created[thread.serial]? = some arguments ∧
      (system.table.blocks thread.block).txThreadEntry = arguments.entryFunction ∧
      (system.table.blocks thread.block).txThreadEntryParameter = arguments.entryInput

end UsbxNxdk.ThreadLives
