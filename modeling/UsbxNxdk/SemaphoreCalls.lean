import UsbxNxdk.ControlBlocks
import UsbxNxdk.Execution
import Mathlib.Logic.Function.Basic

/-! Calls of any number of threads on one semaphore, interleaved at the kernel
call, the load and the store of the counter. -/

namespace UsbxNxdk.SemaphoreCalls

open Execution Win32 ControlBlocks

variable {Thread : Type} [DecidableEq Thread]

inductive CallKind where
  | get
  | put
  deriving DecidableEq, Repr

inductive Stage where
  | idle
  | waiting (waitOption : ULONG)
  | releasing
  | answered (kind : CallKind) (status : UINT)
  | loaded (kind : CallKind) (status : UINT) (count : ULONG)
  deriving DecidableEq, Repr

/-- `gets` and `puts` are history variables: the calls that returned
`TX_SUCCESS`. -/
structure State (Thread : Type) where
  object : SemaphoreObject
  block : TxSemaphore
  calls : Thread → Stage
  gets : Nat
  puts : Nat

inductive Action (Thread : Type) where
  | get (thread : Thread) (waitOption : ULONG)
  | put (thread : Thread)
  | wait (thread : Thread) (fault : Bool)
  | release (thread : Thread)
  | load (thread : Thread)
  | store (thread : Thread)
  deriving DecidableEq, Repr

def createAlone (handle : HANDLE) (initialCount : ULONG) (maximum : Nat) (_ : Option String)
    (_ : Option SemaphoreObject) : HANDLE × Option SemaphoreObject :=
  (handle, SemaphoreObject.create initialCount maximum)

/-- A wait can also fail, and then takes nothing. -/
def waitAlone (fault : Bool) (_ : HANDLE) (timeout : ULONG) (object : SemaphoreObject) :
    Option (WaitResult × SemaphoreObject) :=
  if fault then some (.failed, object) else object.wait timeout

def releaseAlone (_ : HANDLE) (object : SemaphoreObject) : Bool × SemaphoreObject :=
  object.release

def countAfter (kind : CallKind) (count : ULONG) : ULONG :=
  match kind with
  | .get => count - 1
  | .put => count + 1

def counted (kind returned : CallKind) (status : UINT) : Nat :=
  if kind = returned ∧ status = txSuccess then 1 else 0

def State.move (state : State Thread) (thread : Thread) (stage : Stage) : State Thread :=
  { state with calls := Function.update state.calls thread stage }

def step (state : State Thread) : Action Thread → Option (State Thread)
  | .get thread waitOption =>
      match state.calls thread with
      | .idle => some (state.move thread (.waiting waitOption))
      | _ => none
  | .put thread =>
      match state.calls thread with
      | .idle => some (state.move thread .releasing)
      | _ => none
  | .wait thread fault =>
      match state.calls thread with
      | .waiting waitOption =>
          match waitAlone fault state.block.semaphore (waitDuration waitOption) state.object with
          | none => none
          | some (result, object) =>
              some { state.move thread (.answered .get (waitStatus result)) with object := object }
      | _ => none
  | .release thread =>
      match state.calls thread with
      | .releasing =>
          let released := releaseAlone state.block.semaphore state.object
          some
            { state.move thread
                (.answered .put (if released.1 then txSuccess else txSemaphoreError)) with
              object := released.2 }
      | _ => none
  | .load thread =>
      match state.calls thread with
      | .answered kind status =>
          some (state.move thread (.loaded kind status state.block.txSemaphoreCount))
      | _ => none
  | .store thread =>
      match state.calls thread with
      | .loaded kind status count =>
          some
            { state.move thread .idle with
              block := { state.block with txSemaphoreCount := countAfter kind count }
              gets := state.gets + counted .get kind status
              puts := state.puts + counted .put kind status }
      | _ => none

def created (handle : HANDLE) (name : Option String) (initialCount : ULONG) :
    Option (State Thread) :=
  let (_, block, object) := txSemaphoreCreate (createAlone handle) name initialCount none
  object.map fun object =>
    { object := object, block := block, calls := fun _ => .idle, gets := 0, puts := 0 }

def Quiescent (state : State Thread) : Prop := ∀ thread, state.calls thread = .idle

def Stage.Loaded : Stage → Prop
  | .loaded _ _ _ => True
  | _ => False

/-- The kernel has answered a call of this kind, and the counter does not show
it yet. -/
def Stage.owes (kind : CallKind) : Stage → Bool
  | .answered called _ => called = kind
  | .loaded called _ _ => called = kind
  | _ => false

def Stage.Sound (count : ULONG) : Stage → Prop
  | .answered _ status => status = txSuccess
  | .loaded _ status value => status = txSuccess ∧ value = count
  | _ => True

theorem sound_unloaded {stage : Stage} {count : ULONG} (sound : stage.Sound count)
    (unloaded : ¬ stage.Loaded) (other : ULONG) : stage.Sound other := by
  cases stage with
  | loaded kind status value => exact absurd trivial unloaded
  | _ => exact sound

/-- What a loaded value allows the store to do. -/
def Stage.Fits (count : Nat) : Stage → Prop
  | .loaded .get _ _ => 0 < count
  | .loaded .put _ _ => count < semaphoreMaximum
  | _ => True

theorem fits_unloaded {stage : Stage} (unloaded : ¬ stage.Loaded) (count : Nat) :
    stage.Fits count := by
  cases stage with
  | loaded kind status value => exact absurd trivial unloaded
  | _ => trivial

/-! ### What one step can do -/

theorem get_some {state next : State Thread} {thread : Thread} {waitOption : ULONG}
    (stepped : step state (.get thread waitOption) = some next) :
    state.calls thread = .idle ∧ next = state.move thread (.waiting waitOption) := by
  cases stage : state.calls thread <;> simp only [step, stage] at stepped <;> cases stepped
  exact ⟨rfl, rfl⟩

theorem put_some {state next : State Thread} {thread : Thread}
    (stepped : step state (.put thread) = some next) :
    state.calls thread = .idle ∧ next = state.move thread .releasing := by
  cases stage : state.calls thread <;> simp only [step, stage] at stepped <;> cases stepped
  exact ⟨rfl, rfl⟩

theorem wait_some {state next : State Thread} {thread : Thread} {fault : Bool}
    (stepped : step state (.wait thread fault) = some next) :
    ∃ waitOption result object, state.calls thread = .waiting waitOption ∧
      waitAlone fault state.block.semaphore (waitDuration waitOption) state.object =
        some (result, object) ∧
      next = { state.move thread (.answered .get (waitStatus result)) with object := object } := by
  cases stage : state.calls thread with
  | waiting waitOption =>
      cases ended : waitAlone fault state.block.semaphore (waitDuration waitOption)
          state.object with
      | none => simp only [step, stage, ended] at stepped; cases stepped
      | some answer =>
          simp only [step, stage, ended] at stepped
          cases stepped
          exact ⟨waitOption, answer.1, answer.2, rfl, ended, rfl⟩
  | _ => simp only [step, stage] at stepped; cases stepped

theorem release_some {state next : State Thread} {thread : Thread}
    (stepped : step state (.release thread) = some next) :
    state.calls thread = .releasing ∧
      next =
        { state.move thread
            (.answered .put (if state.object.release.1 then txSuccess else txSemaphoreError)) with
          object := state.object.release.2 } := by
  cases stage : state.calls thread <;> simp only [step, stage] at stepped <;> cases stepped
  exact ⟨rfl, rfl⟩

theorem load_some {state next : State Thread} {thread : Thread}
    (stepped : step state (.load thread) = some next) :
    ∃ kind status, state.calls thread = .answered kind status ∧
      next = state.move thread (.loaded kind status state.block.txSemaphoreCount) := by
  cases stage : state.calls thread <;> simp only [step, stage] at stepped <;> cases stepped
  exact ⟨_, _, rfl, rfl⟩

theorem store_some {state next : State Thread} {thread : Thread}
    (stepped : step state (.store thread) = some next) :
    ∃ kind status count, state.calls thread = .loaded kind status count ∧
      next =
        { state.move thread .idle with
          block := { state.block with txSemaphoreCount := countAfter kind count }
          gets := state.gets + counted .get kind status
          puts := state.puts + counted .put kind status } := by
  cases stage : state.calls thread <;> simp only [step, stage] at stepped <;> cases stepped
  exact ⟨_, _, _, rfl, rfl⟩

/-! ### Whole calls, one at a time -/

inductive Call where
  | get (waitOption : ULONG) (fault : Bool)
  | put
  deriving DecidableEq, Repr

def callStep (state : State Thread) : Call → Option (State Thread)
  | .get waitOption fault =>
      match txSemaphoreGet (waitAlone fault) state.block waitOption state.object with
      | none => none
      | some (status, block, object) =>
          some
            { state with
              object := object
              block := block
              gets := state.gets + counted .get .get status }
  | .put =>
      match txSemaphorePut releaseAlone state.block state.object with
      | (status, block, object) =>
          some
            { state with
              object := object
              block := block
              puts := state.puts + counted .put .put status }

def callActions (thread : Thread) : Call → List (Action Thread)
  | .get waitOption fault =>
      [.get thread waitOption, .wait thread fault, .load thread, .store thread]
  | .put => [.put thread, .release thread, .load thread, .store thread]

theorem call_run {state next : State Thread} {thread : Thread} {call : Call}
    (idle : state.calls thread = .idle) (called : callStep state call = some next) :
    run step state (callActions thread call) = some next := by
  have restored : Function.update state.calls thread .idle = state.calls := by
    rw [← idle]
    exact Function.update_eq_self thread state.calls
  cases call with
  | get waitOption fault =>
      cases ended : waitAlone fault state.block.semaphore (waitDuration waitOption)
          state.object with
      | none => simp [callStep, txSemaphoreGet, ended] at called
      | some answer =>
          simp only [callStep, txSemaphoreGet, ended, Option.bind_eq_bind,
            Option.bind_some] at called
          cases called
          simp [callActions, step, idle, State.move, ended, restored, counted, countAfter]
  | put =>
      cases called
      simp [callActions, step, idle, State.move, restored, counted, countAfter]

end UsbxNxdk.SemaphoreCalls
