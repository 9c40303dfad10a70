import UsbxNxdk.SuspendingMark
import UsbxNxdk.Simulation

/-! A thread that suspends itself makes the accesses of its suspend calls, and
those that resume it the accesses of their resume calls, as the kernel lets them. -/

namespace UsbxNxdk.SuspendingMark

open Execution Simulation Thread SelfSuspension

/-- The suspended thread is `none`, the others are those that resume it. -/
structure Scheduled where
  state : State (Option Nat)
  suspendCount : Nat

def Call.status : Call → ULONG
  | .suspend status => status
  | .resume status => status

def Call.counts (suspendCount : Nat) : Call → Nat
  | .suspend status => ntSuspendThread suspendCount status
  | .resume status => ntResumeThread suspendCount status

def task (state : State (Option Nat)) (caller : Option Nat) : Option (Call × List Access) :=
  (state.flights caller).map fun flight => (flight.call, flight.remaining)

def countBehind (suspendCount : Nat) : Option (Call × List Access) → Nat
  | some (call, .kernel :: _) => call.counts suspendCount
  | _ => suspendCount

/-- The kernel keeps the thread from running while its suspend count is positive. -/
def scheduledStep (scheduled : Scheduled) (caller : Option Nat) : Option Scheduled :=
  if caller = none ∧ 0 < scheduled.suspendCount then none
  else (step scheduled.state caller).map fun next =>
    ⟨next, countBehind scheduled.suspendCount (task scheduled.state caller)⟩

def suspendActions : Option (Call × List Access) → List Action
  | none => [.suspendCall]
  | some (_, .raise :: _) => [.raise]
  | some (call, .kernel :: _) => [.ntSuspend call.status]
  | some (_, .record _ :: _) => [.kernelReturn, .recordSuspended]
  | some (_, .lower :: _) => [.lower]
  | some (call, []) => [if call.succeeds then .suspendReturn else .suspendFail]

/-- The next step of another thread; no resume raises the mark. -/
def resumeActions (resumer : Nat) : Option (Call × List Access) → List Action
  | none => [.resumeCall resumer]
  | some (_, .raise :: _) => []
  | some (call, .kernel :: _) => [.ntResume resumer call.status]
  | some (_, .record _ :: _) => [.recordReady resumer]
  | some (_, .lower :: _) => [.resumerLower resumer]
  | some (call, []) => [if call.succeeds then .resumeReturn resumer else .resumeFail resumer]

def actions (scheduled : Scheduled) : Option Nat → List Action
  | none => suspendActions (task scheduled.state none)
  | some resumer => resumeActions resumer (task scheduled.state (some resumer))

def recording (state : UINT) (status : ULONG) : List Access :=
  if ntSuccess status then [.record state, .lower] else []

theorem suspend_accesses (status : ULONG) :
    (Call.suspend status).accesses = .raise :: .kernel :: recording txSuspended status := by
  simp only [Call.accesses, recording]
  split <;> rfl

theorem resume_accesses (status : ULONG) :
    (Call.resume status).accesses = .kernel :: recording txReady status := by
  simp only [Call.accesses, recording]
  split <;> rfl

inductive CallerAt : Option (Call × List Access) → CallerStage → Prop where
  | outside : CallerAt none .outside
  | entered (status : ULONG) :
      CallerAt (some (.suspend status, .raise :: .kernel :: recording txSuspended status)) .entered
  | marked (status : ULONG) :
      CallerAt (some (.suspend status, .kernel :: recording txSuspended status)) .marked
  | inKernel {status : ULONG} (accepted : ntSuccess status = true) :
      CallerAt (some (.suspend status, [.record txSuspended, .lower])) .inKernel
  | recorded {status : ULONG} (accepted : ntSuccess status = true) :
      CallerAt (some (.suspend status, [.lower])) .recorded
  | lowered {status : ULONG} (accepted : ntSuccess status = true) :
      CallerAt (some (.suspend status, [])) .lowered
  | refused {status : ULONG} (failed : ntSuccess status = false) :
      CallerAt (some (.suspend status, [])) .refused

inductive ResumerAt : Option (Call × List Access) → ResumerStage → Prop where
  | idle : ResumerAt none .idle
  | called (status : ULONG) :
      ResumerAt (some (.resume status, .kernel :: recording txReady status)) .called
  | answered {status : ULONG} (accepted : ntSuccess status = true) :
      ResumerAt (some (.resume status, [.record txReady, .lower])) .answered
  | recorded {status : ULONG} (accepted : ntSuccess status = true) :
      ResumerAt (some (.resume status, [.lower])) .recorded
  | lowered {status : ULONG} (accepted : ntSuccess status = true) :
      ResumerAt (some (.resume status, [])) .lowered
  | refused {status : ULONG} (failed : ntSuccess status = false) :
      ResumerAt (some (.resume status, [])) .refused

structure Plays (scheduled : Scheduled) (state : SelfSuspension.State) : Prop where
  block : state.block = scheduled.state.block
  count : state.suspendCount = scheduled.suspendCount
  suspends : ∀ call ∈ scheduled.state.programs none, ∃ status, call = .suspend status
  resumes : ∀ resumer, ∀ call ∈ scheduled.state.programs (some resumer),
    ∃ status, call = .resume status
  caller : CallerAt (task scheduled.state none) state.caller
  resumers : ∀ resumer,
    ResumerAt (task scheduled.state (some resumer)) (state.resumers resumer).stage

inductive Moves (state next : State (Option Nat)) (caller : Option Nat) : Prop where
  | begins (call : Call) (outside : task state caller = none)
      (member : call ∈ state.programs caller) (block : next.block = state.block)
      (tasks : task next = Function.update (task state) caller (some (call, call.accesses)))
  | accesses (call : Call) (access : Access) (remaining : List Access)
      (inside : task state caller = some (call, access :: remaining))
      (block : next.block = access.apply state.block)
      (tasks : task next = Function.update (task state) caller (some (call, remaining)))
  | returns (call : Call) (inside : task state caller = some (call, []))
      (block : next.block = state.block)
      (tasks : task next = Function.update (task state) caller none)

theorem task_update (state : State (Option Nat)) (block : TxThread)
    (programs : Option Nat → List Call) (caller : Option Nat) (flight : Option Flight) :
    task { block := block, programs := programs
           flights := Function.update state.flights caller flight } =
      Function.update (task state) caller
        (flight.map fun flight => (flight.call, flight.remaining)) := by
  funext other
  exact Function.apply_update (fun _ => Option.map fun flight : Flight =>
    (flight.call, flight.remaining)) state.flights caller flight other

theorem task_access (state : State (Option Nat)) (block : TxThread) (caller : Option Nat)
    (flight : Flight) (access : Access) (remaining : List Access) :
    task { state with
           block := block
           flights := accessFlights state.flights caller flight access remaining } =
      Function.update (task state) caller (some (flight.call, remaining)) := by
  funext other
  by_cases own : other = caller
  · simp only [task, accessFlights, own, Function.update_self, Option.map_some]
  · simp only [task, accessFlights, Function.update_of_ne own, Option.map_map]
    rfl

theorem step_moves {state next : State (Option Nat)} {caller : Option Nat}
    (taken : step state caller = some next) : Moves state next caller := by
  unfold step at taken
  split at taken
  · next outside =>
      have none : task state caller = none := by rw [task, outside, Option.map_none]
      split at taken
      · cases taken
      · next call rest program =>
          cases taken
          have member : call ∈ state.programs caller := program ▸ List.mem_cons_self
          exact .begins call none member rfl (task_update state _ _ caller _)
  · next flight inside =>
      have some : task state caller = some (flight.call, flight.remaining) := by
        rw [task, inside, Option.map_some]
      split at taken
      · next finished =>
          cases taken
          exact .returns flight.call (finished ▸ some) rfl (task_update state _ _ caller none)
      · next access remaining order =>
          cases taken
          exact .accesses flight.call access remaining (order ▸ some) rfl
            (task_access state _ caller flight access remaining)

section Steps

variable {scheduled : Scheduled} {state : SelfSuspension.State}

theorem plays_caller (plays : Plays scheduled state) {next : State (Option Nat)}
    (taken : step scheduled.state none = some next) {found : Option (Call × List Access)}
    (tasks : task next = Function.update (task scheduled.state) none found) {count : Nat}
    {after : SelfSuspension.State} (block : after.block = next.block)
    (counted : after.suspendCount = count) (resumers : after.resumers = state.resumers)
    (stands : CallerAt found after.caller) : Plays ⟨next, count⟩ after where
  block := block
  count := counted
  suspends := fun call member => plays.suspends call (step_programs taken none call member)
  resumes := fun resumer call member =>
    plays.resumes resumer call (step_programs taken (some resumer) call member)
  caller := by
    rw [tasks, Function.update_self]
    exact stands
  resumers := by
    intro resumer
    rw [tasks, Function.update_of_ne (Option.some_ne_none resumer), resumers]
    exact plays.resumers resumer

theorem plays_resumer (plays : Plays scheduled state) {next : State (Option Nat)} {resumer : Nat}
    (taken : step scheduled.state (some resumer) = some next)
    {found : Option (Call × List Access)}
    (tasks : task next = Function.update (task scheduled.state) (some resumer) found)
    {count : Nat} {after : SelfSuspension.State} {entry : Resumer}
    (block : after.block = next.block) (counted : after.suspendCount = count)
    (caller : after.caller = state.caller)
    (resumers : after.resumers = Function.update state.resumers resumer entry)
    (stands : ResumerAt found entry.stage) : Plays ⟨next, count⟩ after where
  block := block
  count := counted
  suspends := fun call member => plays.suspends call (step_programs taken none call member)
  resumes := fun other call member =>
    plays.resumes other call (step_programs taken (some other) call member)
  caller := by
    rw [tasks, Function.update_of_ne (Option.some_ne_none resumer).symm, caller]
    exact plays.caller
  resumers := by
    intro other
    rw [tasks, resumers]
    by_cases own : other = resumer
    · subst own
      rw [Function.update_self, Function.update_self]
      exact stands
    · rw [Function.update_of_ne own, Function.update_of_ne (fun same => own (Option.some.inj same))]
      exact plays.resumers other

theorem suspend_access (plays : Plays scheduled state) {next : State (Option Nat)}
    (taken : step scheduled.state none = some next) (runs : scheduled.suspendCount = 0)
    {call : Call} {access : Access} {remaining : List Access}
    (inside : task scheduled.state none = some (call, access :: remaining))
    (block : next.block = access.apply scheduled.state.block)
    (tasks : task next = Function.update (task scheduled.state) none (some (call, remaining))) :
    ∃ after,
      run SelfSuspension.step state (suspendActions (some (call, access :: remaining))) =
        some after ∧
      Plays ⟨next, countBehind scheduled.suspendCount (some (call, access :: remaining))⟩
        after := by
  have zero : state.suspendCount = 0 := plays.count.trans runs
  have stands := plays.caller
  rw [inside] at stands
  rw [← plays.block] at block
  rw [← plays.count]
  generalize stage : state.caller = current at stands
  cases stands with
  | entered status =>
      simp only [suspendActions, run_cons, run_nil, SelfSuspension.step, State.fromCaller, zero,
        stage, and_self, if_true, Option.bind_some]
      exact ⟨_, rfl, plays_caller plays taken tasks block.symm rfl rfl (.marked status)⟩
  | marked status =>
      simp only [suspendActions, Call.status, run_cons, run_nil, SelfSuspension.step,
        State.fromCaller, stage, zero, and_self, if_true, Option.bind_some]
      refine ⟨_, rfl, plays_caller plays taken tasks block.symm rfl rfl ?_⟩
      cases accepted : ntSuccess status with
      | true =>
          simp only [recording, accepted, if_true]
          exact .inKernel accepted
      | false =>
          simp only [recording, accepted, Bool.false_eq_true, if_false]
          exact .refused accepted
  | inKernel accepted =>
      simp only [suspendActions, run_cons, run_nil, SelfSuspension.step, State.fromCaller, zero,
        stage, and_self, if_true, Option.bind_some]
      exact ⟨_, rfl, plays_caller plays taken tasks block.symm rfl rfl (.recorded accepted)⟩
  | recorded accepted =>
      simp only [suspendActions, run_cons, run_nil, SelfSuspension.step, State.fromCaller, zero,
        stage, and_self, if_true, Option.bind_some]
      exact ⟨_, rfl, plays_caller plays taken tasks block.symm rfl rfl (.lowered accepted)⟩

theorem suspend_mirrors (plays : Plays scheduled state) {next : State (Option Nat)}
    (taken : step scheduled.state none = some next) (runs : scheduled.suspendCount = 0) :
    ∃ after,
      run SelfSuspension.step state (suspendActions (task scheduled.state none)) = some after ∧
      Plays ⟨next, countBehind scheduled.suspendCount (task scheduled.state none)⟩ after := by
  have zero : state.suspendCount = 0 := plays.count.trans runs
  have stands := plays.caller
  cases step_moves taken with
  | begins call outside member block tasks =>
      rcases plays.suspends call member with ⟨status, rfl⟩
      rw [outside] at stands ⊢
      generalize stage : state.caller = current at stands
      cases stands
      simp only [suspendActions, run_cons, run_nil, SelfSuspension.step, State.fromCaller, zero,
        stage, and_self, if_true, Option.bind_some]
      rw [suspend_accesses] at tasks
      exact ⟨_, rfl, plays_caller plays taken tasks (plays.block.trans block.symm) runs.symm rfl
        (.entered status)⟩
  | accesses call access remaining inside block tasks =>
      rw [inside]
      exact suspend_access plays taken runs inside block tasks
  | returns call inside block tasks =>
      rw [inside] at stands ⊢
      generalize stage : state.caller = current at stands
      cases stands with
      | lowered accepted =>
          simp only [suspendActions, Call.succeeds, accepted, if_true, run_cons, run_nil,
            SelfSuspension.step, State.fromCaller, zero, stage, and_self, Option.bind_some]
          exact ⟨_, rfl, plays_caller plays taken tasks (plays.block.trans block.symm) runs.symm
            rfl .outside⟩
      | refused failed =>
          simp only [suspendActions, Call.succeeds, failed, Bool.false_eq_true, if_false, run_cons,
            run_nil, SelfSuspension.step, State.fromCaller, zero, stage, and_self, if_true,
            Option.bind_some]
          exact ⟨_, rfl, plays_caller plays taken tasks (plays.block.trans block.symm) runs.symm
            rfl .outside⟩

theorem resume_access (plays : Plays scheduled state) {next : State (Option Nat)} {resumer : Nat}
    (taken : step scheduled.state (some resumer) = some next) {call : Call} {access : Access}
    {remaining : List Access}
    (inside : task scheduled.state (some resumer) = some (call, access :: remaining))
    (block : next.block = access.apply scheduled.state.block)
    (tasks : task next =
      Function.update (task scheduled.state) (some resumer) (some (call, remaining))) :
    ∃ after,
      run SelfSuspension.step state (resumeActions resumer (some (call, access :: remaining))) =
        some after ∧
      Plays ⟨next, countBehind scheduled.suspendCount (some (call, access :: remaining))⟩
        after := by
  have stands := plays.resumers resumer
  rw [inside] at stands
  rw [← plays.block] at block
  rw [← plays.count]
  generalize stage : (state.resumers resumer).stage = current at stands
  cases stands with
  | called status =>
      simp only [resumeActions, Call.status, run_cons, run_nil, SelfSuspension.step,
        State.fromResumer, stage, if_true, Option.bind_some]
      refine ⟨_, rfl, plays_resumer plays taken tasks block.symm rfl rfl rfl ?_⟩
      cases accepted : ntSuccess status with
      | true =>
          simp only [recording, accepted, if_true]
          exact .answered accepted
      | false =>
          simp only [recording, accepted, Bool.false_eq_true, if_false]
          exact .refused accepted
  | answered accepted =>
      simp only [resumeActions, run_cons, run_nil, SelfSuspension.step, State.fromResumer, stage,
        if_true, Option.bind_some]
      exact ⟨_, rfl, plays_resumer plays taken tasks block.symm rfl rfl rfl (.recorded accepted)⟩
  | recorded accepted =>
      simp only [resumeActions, run_cons, run_nil, SelfSuspension.step, State.fromResumer, stage,
        if_true, Option.bind_some]
      exact ⟨_, rfl, plays_resumer plays taken tasks block.symm rfl rfl rfl (.lowered accepted)⟩

theorem resume_mirrors (plays : Plays scheduled state) {next : State (Option Nat)}
    {resumer : Nat} (taken : step scheduled.state (some resumer) = some next) :
    ∃ after,
      run SelfSuspension.step state
        (resumeActions resumer (task scheduled.state (some resumer))) = some after ∧
      Plays ⟨next, countBehind scheduled.suspendCount (task scheduled.state (some resumer))⟩
        after := by
  have stands := plays.resumers resumer
  cases step_moves taken with
  | begins call outside member block tasks =>
      rcases plays.resumes resumer call member with ⟨status, rfl⟩
      rw [outside] at stands ⊢
      generalize stage : (state.resumers resumer).stage = current at stands
      cases stands
      simp only [resumeActions, run_cons, run_nil, SelfSuspension.step, stage, if_true,
        Option.bind_some]
      rw [resume_accesses] at tasks
      exact ⟨_, rfl, plays_resumer plays taken tasks (plays.block.trans block.symm) plays.count rfl
        rfl (.called status)⟩
  | accesses call access remaining inside block tasks =>
      rw [inside]
      exact resume_access plays taken inside block tasks
  | returns call inside block tasks =>
      rw [inside] at stands ⊢
      generalize stage : (state.resumers resumer).stage = current at stands
      cases stands with
      | lowered accepted =>
          simp only [resumeActions, Call.succeeds, accepted, if_true, run_cons, run_nil,
            SelfSuspension.step, State.fromResumer, stage, Option.bind_some]
          exact ⟨_, rfl, plays_resumer plays taken tasks (plays.block.trans block.symm) plays.count
            rfl rfl .idle⟩
      | refused failed =>
          simp only [resumeActions, Call.succeeds, failed, Bool.false_eq_true, if_false, run_cons,
            run_nil, SelfSuspension.step, State.fromResumer, stage, if_true, Option.bind_some]
          exact ⟨_, rfl, plays_resumer plays taken tasks (plays.block.trans block.symm) plays.count
            rfl rfl .idle⟩

end Steps

theorem scheduled_mirrors :
    Mirrors scheduledStep SelfSuspension.step Plays actions := by
  intro scheduled caller next state plays stepped
  unfold scheduledStep at stepped
  split at stepped
  · cases stepped
  · next allowed =>
      rcases Option.map_eq_some_iff.mp stepped with ⟨after, taken, rfl⟩
      cases caller with
      | none =>
          have runs : scheduled.suspendCount = 0 :=
            Nat.eq_zero_of_not_pos fun positive => allowed ⟨rfl, positive⟩
          exact suspend_mirrors plays taken runs
      | some resumer => exact resume_mirrors plays taken

def resting (block : TxThread) (programs : Option Nat → List Call) : Scheduled where
  state := quiet
    { block with txThreadState := txReady, txThreadSuspending := txFalse } programs
  suspendCount := 0

theorem resting_plays (block : TxThread) (programs : Option Nat → List Call)
    (suspends : ∀ call ∈ programs none, ∃ status, call = .suspend status)
    (resumes : ∀ resumer, ∀ call ∈ programs (some resumer), ∃ status, call = .resume status) :
    Plays (resting block programs) (running block) where
  block := rfl
  count := rfl
  suspends := suspends
  resumes := resumes
  caller := .outside
  resumers := fun _ => .idle

/-- The interleavings of the calls' accesses are runs of the thread and those that
resume it. -/
theorem accesses_are_run {block : TxThread} {programs : Option Nat → List Call}
    (suspends : ∀ call ∈ programs none, ∃ status, call = .suspend status)
    (resumes : ∀ resumer, ∀ call ∈ programs (some resumer), ∃ status, call = .resume status)
    {schedule : List (Option Nat)} {final : Scheduled}
    (executed : run scheduledStep (resting block programs) schedule = some final) :
    ∃ after,
      run SelfSuspension.step (running block)
        (mirrored scheduledStep actions (resting block programs) schedule) = some after ∧
      Plays final after :=
  mirrors_run scheduled_mirrors (resting_plays block programs suspends resumes) executed

end UsbxNxdk.SuspendingMark
