import UsbxNxdk.EventFlags
import UsbxNxdk.Execution
import Mathlib.Logic.Function.Basic

/-! Any number of threads on one event flags group. The steps are the critical
sections of the two calls; between its passes a getter stays in its loop. -/

namespace UsbxNxdk.EventFlagsSystem

open EventFlags

/-- A `_tx_event_flags_get` that is inside its polling loop. -/
structure GetCall where
  requestedFlags : ULONG
  getOption : UINT
  timeout : ULONG
  deriving DecidableEq, Repr

structure System where
  group : TxEventFlagsGroup
  calls : Nat → Option GetCall

inductive Action where
  | set (thread : Nat) (flagsToSet : ULONG) (setOption : UINT)
  | enter (thread : Nat) (requestedFlags : ULONG) (getOption : UINT)
      (waitOption stackTimeout tickCount : ULONG)
  | pass (thread : Nat) (tickCount : ULONG)
  deriving DecidableEq, Repr

def Action.thread : Action → Nat
  | .set thread _ _ => thread
  | .enter thread _ _ _ _ _ => thread
  | .pass thread _ => thread

def passStep (system : System) (thread : Nat) (call : GetCall) (tickCount : ULONG) : System :=
  let pass := loopPass system.group call.requestedFlags call.getOption
  { group := pass.group
    calls :=
      if pass.flagsSatisfied = 0 ∧ tickCount < call.timeout then system.calls
      else Function.update system.calls thread none }

def step (system : System) : Action → Option System
  | .set thread flagsToSet setOption =>
      if system.calls thread = none then
        some { system with group := (txEventFlagsSet system.group flagsToSet setOption).2 }
      else none
  | .enter thread requestedFlags getOption waitOption stackTimeout tickCount =>
      if system.calls thread = none then
        (initialTimeout waitOption stackTimeout [tickCount]).map fun timeout =>
          { system with
            calls := Function.update system.calls thread
              (some ⟨requestedFlags, getOption, timeout.1⟩) }
      else none
  | .pass thread tickCount =>
      (system.calls thread).map fun call => passStep system thread call tickCount

def created (name : Option String) : System :=
  { group := (txEventFlagsCreate name).2, calls := fun _ => none }

abbrev System.current (system : System) : ULONG := system.group.txEventFlagsGroupCurrent

theorem set_some {system next : System} {thread : Nat} {flagsToSet : ULONG} {setOption : UINT}
    (stepped : step system (.set thread flagsToSet setOption) = some next) :
    next = { system with group := (txEventFlagsSet system.group flagsToSet setOption).2 } := by
  simp only [step] at stepped
  split at stepped
  · exact (Option.some.inj stepped).symm
  · cases stepped

theorem enter_some {system next : System} {thread : Nat} {requestedFlags : ULONG}
    {getOption : UINT} {waitOption stackTimeout tickCount : ULONG}
    (stepped : step system
      (.enter thread requestedFlags getOption waitOption stackTimeout tickCount) = some next) :
    next.group = system.group := by
  simp only [step] at stepped
  split at stepped
  · rcases Option.map_eq_some_iff.mp stepped with ⟨timeout, _, rfl⟩
    rfl
  · cases stepped

theorem pass_some {system next : System} {thread : Nat} {tickCount : ULONG}
    (stepped : step system (.pass thread tickCount) = some next) :
    ∃ call, system.calls thread = some call ∧
      next.group = (loopPass system.group call.requestedFlags call.getOption).group := by
  rcases Option.map_eq_some_iff.mp stepped with ⟨call, present, rfl⟩
  exact ⟨call, present, rfl⟩

end UsbxNxdk.EventFlagsSystem
