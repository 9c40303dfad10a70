import UsbxNxdk.LinkedRoutes
import UsbxNxdk.ThreadRegistry

/-! Lookups of the thread list by any number of threads, while one caller at a
time creates and deletes threads. Nothing locks the list: every access to it is
a step of its own. -/

namespace UsbxNxdk.ThreadLookups

open LinkedRing Thread ThreadTable

structure Creation where
  thread : Nat
  arguments : CreateArguments
  answers : CreateAnswers
  deriving DecidableEq, Repr

/-- The accesses of `_tx_thread_delete` to shared memory once its wait has
succeeded, in program order: the identifier, then `RemoveEntryList`. -/
inductive DeleteStep where
  | clearId
  | readFlink
  | readBlink
  | blinkFlink
  | flinkBlink
  deriving DecidableEq, Repr

def deleteSteps : List DeleteStep := [.clearId, .readFlink, .readBlink, .blinkFlink, .flinkBlink]

inductive Writer where
  | idle
  | creating (creation : Creation) (remaining : List CreateStep)
  | deleting (thread : Nat) (remaining : List DeleteStep)
  deriving DecidableEq, Repr

/-- Where the thread of a block is; the stages from `walking` on are those of
its own call of `_tx_thread_identify`. -/
inductive Stage where
  | unborn
  | ready
  | running
  | walking (entry : Node)
  | passed (entry : Node)
  | returned (thread : Nat)
  | asserted
  | ended
  deriving DecidableEq, Repr

/-- `visited` counts the entries that the call has reached; `allowance` remembers
how many the list held when it began. -/
structure Caller where
  stage : Stage
  visited : Nat
  allowance : Nat
  deriving DecidableEq, Repr

/-- `exFlink` and `exBlink` are the local variables of the list macros, and
`identifiers` what the kernel answers to `GetThreadId`. `listed` and `retired`
are history variables: the blocks that the forward links pass, in list order,
and those taken out since they were last created. -/
structure State where
  links : Links Node
  blocks : Nat → TxThread
  exFlink : Node
  exBlink : Node
  writer : Writer
  identifiers : Nat → ULONG
  callers : Nat → Caller
  listed : List Nat
  retired : List Nat

inductive Action where
  | create (creation : Creation)
  | delete (thread : Nat)
  | write
  | start (thread : Nat)
  | identify (thread : Nat)
  | compare (thread : Nat)
  | advance (thread : Nat)
  | resume (thread : Nat)
  | exit (thread : Nat)
  deriving DecidableEq, Repr

namespace State

variable (state : State)

def stage (thread : Nat) : Stage := (state.callers thread).stage

def setStage (thread : Nat) (stage : Stage) : State :=
  { state with
    callers := Function.update state.callers thread { state.callers thread with stage := stage } }

def createEffect (creation : Creation) (current : CreateStep) : State :=
  let table : Table := ⟨state.links, state.blocks⟩
  let after := table.access creation.thread creation.arguments creation.answers state.exBlink
    current
  { state with
    links := after.links
    blocks := after.blocks
    exBlink := table.tailRead state.exBlink current
    identifiers :=
      if current = .write .createThread then
        Function.update state.identifiers creation.thread creation.answers.threadId
      else state.identifiers
    callers :=
      if current = .write .createThread then
        Function.update state.callers creation.thread ⟨.ready, 0, 0⟩
      else state.callers
    listed :=
      if current = .tailFlink then state.listed ++ [creation.thread] else state.listed }

def deleteEffect (thread : Nat) : DeleteStep → State
  | .clearId =>
      { state with
        blocks := Function.update state.blocks thread
          { state.blocks thread with txThreadId := txClearId } }
  | .readFlink => { state with exFlink := state.links.flink (.block thread) }
  | .readBlink => { state with exBlink := state.links.blink (.block thread) }
  | .blinkFlink =>
      { state with
        links := state.links.setFlink state.exBlink state.exFlink
        listed := state.listed.erase thread
        retired := thread :: state.retired }
  | .flinkBlink => { state with links := state.links.setBlink state.exFlink state.exBlink }

def look (thread : Nat) (caller : Caller) (entry : Node) : State :=
  { state with
    callers := Function.update state.callers thread
      (if entry = .head then { caller with stage := .asserted }
        else { caller with stage := .walking entry, visited := caller.visited + 1 }) }

end State

/-- A creation, which `CreateThread` does not fail, begins on a block that is not
listed and has no live thread, with an identifier that no listed thread has; a
deletion begins on a listed block and ends at once with an error unless the
thread has ended. The kernel runs a new thread as soon as `CreateThread` has made
it, or when it is resumed. -/
def step (state : State) : Action → Option State
  | .create creation =>
      if state.writer = .idle ∧ creation.answers.handle ≠ 0 ∧ creation.thread ∉ state.listed ∧
          (state.stage creation.thread = .unborn ∨ state.stage creation.thread = .ended) ∧
          ∀ other ∈ state.listed, state.identifiers other ≠ creation.answers.threadId then
        some
          { state with
            writer := .creating creation createSteps
            retired := state.retired.filter fun other => other ≠ creation.thread }
      else none
  | .delete thread =>
      if state.writer = .idle ∧ thread ∈ state.listed then
        if state.stage thread = .ended then
          some { state with writer := .deleting thread deleteSteps }
        else some state
      else none
  | .write =>
      match state.writer with
      | .idle => none
      | .creating _ [] => none
      | .creating creation (current :: rest) =>
          some
            { state.createEffect creation current with
              writer := if rest = [] then .idle else .creating creation rest }
      | .deleting _ [] => none
      | .deleting thread (current :: rest) =>
          some
            { state.deleteEffect thread current with
              writer := if rest = [] then .idle else .deleting thread rest }
  | .start thread =>
      if state.stage thread = .ready then some (state.setStage thread .running) else none
  | .identify thread =>
      if state.stage thread = .running then
        some (state.look thread ⟨.running, 0, state.listed.length⟩ (state.links.flink .head))
      else none
  | .compare thread =>
      match state.stage thread with
      | .walking (.block other) =>
          some (state.setStage thread
            (if (state.blocks other).win32ThreadId = state.identifiers thread then
              .returned other
            else .passed (.block other)))
      | _ => none
  | .advance thread =>
      match state.stage thread with
      | .passed entry => some (state.look thread (state.callers thread) (state.links.flink entry))
      | _ => none
  | .resume thread =>
      match state.stage thread with
      | .returned _ => some (state.setStage thread .running)
      | _ => none
  | .exit thread =>
      if state.stage thread = .running then some (state.setStage thread .ended) else none

def State.initial (stale : Links Node) (blocks : Nat → TxThread) : State :=
  { links := (stale.setFlink .head .head).setBlink .head .head
    blocks := blocks
    exFlink := .null
    exBlink := .null
    writer := .idle
    identifiers := fun _ => 0
    callers := fun _ => ⟨.unborn, 0, 0⟩
    listed := []
    retired := [] }

def Stage.standing : Stage → Option Node
  | .walking entry => some entry
  | .passed entry => some entry
  | _ => none

/-- A thread looks itself up once its block is listed, and the memory of a
deleted block is used for a new thread only while no call stands on an entry
that is not listed. -/
def Orderly (state : State) : Action → Prop
  | .identify thread => thread ∈ state.listed
  | .create creation => creation.thread ∈ state.retired →
      ∀ thread entry, (state.stage thread).standing = some entry →
        ∃ other ∈ state.listed, entry = .block other
  | _ => True

def Stage.Alive (stage : Stage) : Prop := stage ≠ .unborn ∧ stage ≠ .ended

def State.Unlinked (state : State) (thread : Nat) : Prop :=
  ∃ creation remaining, state.writer = .creating creation remaining ∧
    creation.thread = thread ∧ .tailFlink ∈ remaining

/-- Every call of a thread ends with its own block, after at most one visit to
each entry that was in the list when the call began, and stands on blocks only
that are listed or were; no live thread is missing from the list, and between the
writer's calls the list is circular in both directions. -/
structure Undisturbed (state : State) : Prop where
  found : ∀ thread, state.stage thread ≠ .asserted ∧
    ∀ other, state.stage thread = .returned other → other = thread
  standing : ∀ thread entry, (state.stage thread).standing = some entry →
    ∃ other, entry = .block other ∧ (other ∈ state.listed ∨ other ∈ state.retired)
  bounded : ∀ thread, (state.callers thread).visited ≤ (state.callers thread).allowance
  present : ∀ thread, (state.stage thread).Alive → thread ∈ state.listed ∨ state.Unlinked thread
  ring : state.writer = .idle → Ring state.links .head (state.listed.map .block)

end UsbxNxdk.ThreadLookups
