import UsbxNxdk.EventFlagsCalls
import UsbxNxdk.Simulation

/-! The calls from entry to return do what their critical sections do alone, and
every run of critical sections is one of calls. -/

namespace UsbxNxdk.EventFlagsCalls

open EventFlags Execution Simulation

def Stage.inLoop : Stage → Option EventFlagsSystem.GetCall
  | .polling call => some call.toGetCall
  | _ => none

def Calls.inLoops (calls : Calls) : EventFlagsSystem.System where
  group := calls.group
  calls := fun thread => (calls.stages thread).inLoop

/-- The return from a get is no critical section. -/
def Action.critical : Action → List EventFlagsSystem.Action
  | .set thread flagsToSet setOption => [.set thread flagsToSet setOption]
  | .enter thread requestedFlags getOption waitOption stackTimeout tickCount =>
      [.enter thread requestedFlags getOption waitOption stackTimeout tickCount]
  | .pass thread tickCount => [.pass thread tickCount]
  | .leave _ _ => []

/-- A thread behind its last pass returns at once. -/
def returning (system : EventFlagsSystem.System) : EventFlagsSystem.Action → List Action
  | .set thread flagsToSet setOption => [.set thread flagsToSet setOption]
  | .enter thread requestedFlags getOption waitOption stackTimeout tickCount =>
      [.enter thread requestedFlags getOption waitOption stackTimeout tickCount]
  | .pass thread tickCount =>
      match system.calls thread with
      | none => []
      | some call =>
          if (loopPass system.group call.requestedFlags call.getOption).flagsSatisfied = 0 ∧
              tickCount < call.timeout then [.pass thread tickCount]
          else [.pass thread tickCount, .leave thread tickCount]

structure Returned (system : EventFlagsSystem.System) (calls : Calls) : Prop where
  same : calls.inLoops = system
  none : ∀ thread call actualFlags flagsSatisfied,
    calls.stages thread ≠ .leaving call actualFlags flagsSatisfied

theorem inLoops_update (calls : Calls) (group : TxEventFlagsGroup) (thread : Nat) (stage : Stage) :
    Calls.inLoops { group := group, stages := Function.update calls.stages thread stage } =
      { group := group, calls := Function.update calls.inLoops.calls thread stage.inLoop } := by
  have loops : (fun other => (Function.update calls.stages thread stage other).inLoop) =
      Function.update calls.inLoops.calls thread stage.inLoop := by
    funext other
    exact Function.apply_update (fun _ => Stage.inLoop) calls.stages thread stage other
  rw [Calls.inLoops, loops]

theorem idle_outside {calls : Calls} {thread : Nat} (idle : calls.stages thread = .idle) :
    calls.inLoops.calls thread = none := by
  simp only [Calls.inLoops, idle, Stage.inLoop]

theorem polling_inLoop {calls : Calls} {thread : Nat} {call : WaitingCall}
    (polling : calls.stages thread = .polling call) :
    calls.inLoops.calls thread = some call.toGetCall := by
  simp only [Calls.inLoops, polling, Stage.inLoop]

theorem passed_inLoops (calls : Calls) (thread : Nat) (call : WaitingCall) (tickCount : ULONG) :
    (passed calls thread call tickCount).inLoops =
      EventFlagsSystem.passStep calls.inLoops thread call.toGetCall tickCount := by
  have group : calls.inLoops.group = calls.group := rfl
  by_cases stays : (loopPass calls.group call.requestedFlags call.getOption).flagsSatisfied = 0 ∧
      tickCount < call.timeout
  · simp only [passed, EventFlagsSystem.passStep, group, if_pos stays]
    rfl
  · simp only [passed, EventFlagsSystem.passStep, group, if_neg stays, inLoops_update]
    rfl

theorem calls_mirror :
    Mirrors step EventFlagsSystem.step (fun calls system => calls.inLoops = system)
      (fun _ action => action.critical) := by
  intro calls action next system same stepped
  subst same
  refine ⟨next.inLoops, ?_, rfl⟩
  cases action with
  | set thread flagsToSet setOption =>
      rcases set_some stepped with ⟨idle, rfl⟩
      simp only [Action.critical, run_cons, run_nil, EventFlagsSystem.step,
        if_pos (idle_outside idle)]
      rfl
  | enter thread requestedFlags getOption waitOption stackTimeout tickCount =>
      rcases enter_some stepped with ⟨idle, timeout, made, rfl⟩
      simp only [Action.critical, run_cons, run_nil, EventFlagsSystem.step,
        if_pos (idle_outside idle), made, inLoops_update]
      rfl
  | pass thread tickCount =>
      rcases pass_some stepped with ⟨call, polling, rfl⟩
      simp only [Action.critical, run_cons, run_nil, EventFlagsSystem.step,
        polling_inLoop polling, Option.map_some, Option.bind_some, passed_inLoops]
  | leave thread tickCount =>
      rcases leave_some stepped with ⟨call, actualFlags, flagsSatisfied, leaving, rfl⟩
      have outside : calls.inLoops.calls thread = Stage.idle.inLoop := by
        simp only [Calls.inLoops, leaving, Stage.inLoop]
      rw [inLoops_update, ← outside, Function.update_eq_self]
      rfl

theorem returned_cases {system : EventFlagsSystem.System} {calls : Calls}
    (returned : Returned system calls) (thread : Nat) :
    (calls.stages thread = .idle ∧ system.calls thread = none) ∨
      ∃ call, calls.stages thread = .polling call ∧ system.calls thread = some call.toGetCall := by
  rw [← returned.same]
  cases stage : calls.stages thread with
  | idle => exact Or.inl ⟨rfl, idle_outside stage⟩
  | polling call => exact Or.inr ⟨call, rfl, polling_inLoop stage⟩
  | leaving call actualFlags flagsSatisfied =>
      exact absurd stage (returned.none thread call actualFlags flagsSatisfied)

theorem none_update {calls : Calls} {thread : Nat} {stage : Stage}
    (none : ∀ other call actualFlags flagsSatisfied,
      calls.stages other ≠ .leaving call actualFlags flagsSatisfied)
    (now : ∀ call actualFlags flagsSatisfied, stage ≠ .leaving call actualFlags flagsSatisfied)
    (other : Nat) (call : WaitingCall) (actualFlags flagsSatisfied : ULONG) :
    Function.update calls.stages thread stage other ≠
      .leaving call actualFlags flagsSatisfied := by
  by_cases own : other = thread
  · rw [own, Function.update_self]
    exact now call actualFlags flagsSatisfied
  · rw [Function.update_of_ne own]
    exact none other call actualFlags flagsSatisfied

theorem pass_returns {calls : Calls} {thread : Nat} {call : WaitingCall} (tickCount : ULONG)
    (polling : calls.stages thread = .polling call)
    (none : ∀ other held actualFlags flagsSatisfied,
      calls.stages other ≠ .leaving held actualFlags flagsSatisfied) :
    ∃ after, run step calls (returning calls.inLoops (.pass thread tickCount)) = some after ∧
      Returned (EventFlagsSystem.passStep calls.inLoops thread call.toGetCall tickCount) after := by
  have group : calls.inLoops.group = calls.group := rfl
  simp only [returning, polling_inLoop polling, ← passed_inLoops, group]
  by_cases stays : (loopPass calls.group call.requestedFlags call.getOption).flagsSatisfied = 0 ∧
      tickCount < call.timeout
  · simp only [if_pos stays, run_cons, run_nil, step, polling, Option.bind_some]
    refine ⟨_, rfl, rfl, ?_⟩
    simp only [passed, if_pos stays]
    exact none
  · simp only [if_neg stays, run_cons, run_nil, step, polling, Option.bind_some, passed,
      Function.update_self, Function.update_idem]
    refine ⟨_, rfl, ?_, none_update none (by simp)⟩
    simp only [inLoops_update]
    rfl

theorem sections_mirror : Mirrors EventFlagsSystem.step step Returned returning := by
  intro system action next calls returned stepped
  cases action with
  | set thread flagsToSet setOption =>
      rcases returned_cases returned thread with ⟨idle, outside⟩ | ⟨call, polling, inside⟩
      · simp only [EventFlagsSystem.step, if_pos outside] at stepped
        cases stepped
        simp only [returning, run_cons, run_nil, step, if_pos idle, Option.bind_some]
        refine ⟨_, rfl, ?_, returned.none⟩
        rw [← returned.same]
        rfl
      · simp [EventFlagsSystem.step, inside] at stepped
  | enter thread requestedFlags getOption waitOption stackTimeout tickCount =>
      rcases returned_cases returned thread with ⟨idle, outside⟩ | ⟨call, polling, inside⟩
      · simp only [EventFlagsSystem.step, if_pos outside] at stepped
        rcases Option.map_eq_some_iff.mp stepped with ⟨timeout, made, rfl⟩
        simp only [returning, run_cons, run_nil, step, if_pos idle, made, Option.map_some,
          Option.bind_some]
        refine ⟨_, rfl, ?_, none_update returned.none (by simp)⟩
        rw [inLoops_update, returned.same, ← returned.same]
        rfl
      · simp [EventFlagsSystem.step, inside] at stepped
  | pass thread tickCount =>
      rcases returned_cases returned thread with ⟨idle, outside⟩ | ⟨call, polling, inside⟩
      · simp [EventFlagsSystem.step, outside] at stepped
      · simp only [EventFlagsSystem.step, inside, Option.map_some] at stepped
        cases stepped
        rw [← returned.same]
        exact pass_returns tickCount polling returned.none

theorem created_inLoops (name : Option String) :
    (created name).inLoops = EventFlagsSystem.created name := rfl

/-- Without their returns the calls of a run are a run of critical sections. -/
theorem calls_are_sections {name : Option String} {schedule : List Action} {final : Calls}
    (executed : run step (created name) schedule = some final) :
    run EventFlagsSystem.step (EventFlagsSystem.created name)
      (mirrored step (fun _ action => action.critical) (created name) schedule) =
        some final.inLoops := by
  rcases mirrors_run calls_mirror (created_inLoops name) executed with ⟨after, ran, rfl⟩
  exact ran

/-- Every run of critical sections is one of calls that return from their loops at once. -/
theorem sections_are_calls {name : Option String} {schedule : List EventFlagsSystem.Action}
    {final : EventFlagsSystem.System}
    (executed : run EventFlagsSystem.step (EventFlagsSystem.created name) schedule = some final) :
    ∃ after, run step (created name)
        (mirrored EventFlagsSystem.step returning (EventFlagsSystem.created name) schedule) =
          some after ∧
      Returned final after :=
  mirrors_run sections_mirror ⟨created_inLoops name, fun _ _ _ _ stage => by cases stage⟩ executed

end UsbxNxdk.EventFlagsCalls
