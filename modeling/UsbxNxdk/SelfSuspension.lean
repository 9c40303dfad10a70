import UsbxNxdk.Execution
import UsbxNxdk.Thread
import Mathlib.Logic.Function.Basic

/-! A thread that suspends itself, and any number of other threads that resume
it, interleaved at their field writes and kernel calls. -/

namespace UsbxNxdk.SelfSuspension

open Execution Thread

def raiseMark (block : TxThread) : TxThread := { block with txThreadSuspending := txTrue }
def lowerMark (block : TxThread) : TxThread := { block with txThreadSuspending := txFalse }
def recordState (state : UINT) (block : TxThread) : TxThread :=
  { block with txThreadState := state }

inductive CallerStage where
  | outside
  | entered
  | marked
  | inKernel
  | woken
  | recorded
  | lowered
  | refused
  deriving DecidableEq, Repr

inductive ResumerStage where
  | idle
  | called
  | answered
  | recorded
  | lowered
  | refused
  deriving DecidableEq, Repr

/-- `marks` remembers how often the mark had been raised when the call began. -/
structure Resumer where
  stage : ResumerStage
  marks : Nat
  deriving DecidableEq, Repr

/-- `marks` and `released` are history variables: how often the mark was
raised, and whether a resume that began since then has returned `TX_SUCCESS`. -/
structure State where
  block : TxThread
  suspendCount : Nat
  caller : CallerStage
  resumers : Nat → Resumer
  marks : Nat
  released : Bool

inductive Action where
  | suspendCall
  | raise
  | ntSuspend (status : ULONG)
  | kernelReturn
  | recordSuspended
  | lower
  | suspendReturn
  | suspendFail
  | resumeCall (resumer : Nat)
  | ntResume (resumer : Nat) (status : ULONG)
  | recordReady (resumer : Nat)
  | resumerLower (resumer : Nat)
  | resumeReturn (resumer : Nat)
  | resumeFail (resumer : Nat)
  deriving DecidableEq, Repr

/-- The thread's own step from a stage; it takes none while its suspend count
is positive, which is what keeps it inside `NtSuspendThread`. -/
def State.fromCaller (state : State) (stage : CallerStage) (after : State) : Option State :=
  if state.suspendCount = 0 ∧ state.caller = stage then some after else none

def State.fromResumer (state : State) (resumer : Nat) (stage next : ResumerStage)
    (after : State) : Option State :=
  if (state.resumers resumer).stage = stage then
    some { after with
      resumers := Function.update state.resumers resumer
        { state.resumers resumer with stage := next } }
  else none

def step (state : State) : Action → Option State
  | .suspendCall => state.fromCaller .outside { state with caller := .entered }
  | .raise =>
      state.fromCaller .entered
        { state with
          block := raiseMark state.block
          caller := .marked
          marks := state.marks + 1
          released := false }
  | .ntSuspend status =>
      state.fromCaller .marked
        { state with
          suspendCount := ntSuspendThread state.suspendCount status
          caller := if ntSuccess status then .inKernel else .refused }
  | .kernelReturn => state.fromCaller .inKernel { state with caller := .woken }
  | .recordSuspended =>
      state.fromCaller .woken
        { state with block := recordState txSuspended state.block, caller := .recorded }
  | .lower =>
      state.fromCaller .recorded { state with block := lowerMark state.block, caller := .lowered }
  | .suspendReturn => state.fromCaller .lowered { state with caller := .outside }
  | .suspendFail => state.fromCaller .refused { state with caller := .outside }
  | .resumeCall resumer =>
      if (state.resumers resumer).stage = .idle then
        some { state with
          resumers := Function.update state.resumers resumer ⟨.called, state.marks⟩ }
      else none
  | .ntResume resumer status =>
      state.fromResumer resumer .called (if ntSuccess status then .answered else .refused)
        { state with suspendCount := ntResumeThread state.suspendCount status }
  | .recordReady resumer =>
      state.fromResumer resumer .answered .recorded
        { state with block := recordState txReady state.block }
  | .resumerLower resumer =>
      state.fromResumer resumer .recorded .lowered
        { state with block := lowerMark state.block }
  | .resumeReturn resumer =>
      state.fromResumer resumer .lowered .idle
        { state with
          released := state.released || decide ((state.resumers resumer).marks = state.marks) }
  | .resumeFail resumer => state.fromResumer resumer .refused .idle state

def running (block : TxThread) : State :=
  { block := { block with txThreadState := txReady, txThreadSuspending := txFalse }
    suspendCount := 0
    caller := .outside
    resumers := fun _ => ⟨.idle, 0⟩
    marks := 0
    released := false }

theorem suspend_writes (block : TxThread) (status : ULONG) (succeeded : ntSuccess status = true) :
    (txThreadSuspend block status).2 =
      lowerMark (recordState txSuspended (raiseMark block)) := by
  simp [txThreadSuspend, succeeded, lowerMark, recordState, raiseMark]

theorem suspend_refused (block : TxThread) (status : ULONG) (failed : ntSuccess status = false) :
    (txThreadSuspend block status).2 = raiseMark block := by
  simp [txThreadSuspend, failed, raiseMark]

theorem resume_writes (block : TxThread) (status : ULONG) (succeeded : ntSuccess status = true) :
    (txThreadResume block status).2 = lowerMark (recordState txReady block) := by
  simp [txThreadResume, succeeded, lowerMark, recordState]

/-- The thread is kernel-suspended by a suspend call although a resume that
began after that call raised its mark has returned `TX_SUCCESS`. -/
def LostWakeup (state : State) : Prop :=
  state.caller = .inKernel ∧ 0 < state.suspendCount ∧ state.released = true

/-- No resume that began after the mark was raised reaches its successful
`NtResumeThread` before the suspend call reaches its `NtSuspendThread`. -/
def NoEarlyResume (state : State) : Action → Prop
  | .ntResume resumer status =>
      ntSuccess status = true → state.caller = .marked →
        (state.resumers resumer).marks ≠ state.marks
  | _ => True

def Resumer.Resumed (resumer : Resumer) (marks : Nat) : Prop :=
  (resumer.stage = .answered ∨ resumer.stage = .recorded ∨ resumer.stage = .lowered) ∧
    resumer.marks = marks

def Unreleased (state : State) : Prop :=
  state.released = false ∧ ∀ resumer, ¬ (state.resumers resumer).Resumed state.marks

def Pending (state : State) : Prop :=
  state.caller = .marked ∨ (state.caller = .inKernel ∧ 0 < state.suspendCount)

structure Invariant (state : State) : Prop where
  counted : state.caller ≠ .inKernel → state.suspendCount = 0
  single : state.suspendCount ≤ 1
  began : ∀ resumer, (state.resumers resumer).marks ≤ state.marks
  unreleased : Pending state → Unreleased state

theorem running_invariant (block : TxThread) : Invariant (running block) where
  counted _ := rfl
  single := Nat.zero_le 1
  began _ := Nat.le_refl 0
  unreleased pending := by
    rcases pending with marked | inKernel
    · cases marked
    · cases inKernel.1

theorem fromCaller_some {state after next : State} {stage : CallerStage}
    (taken : state.fromCaller stage after = some next) :
    state.suspendCount = 0 ∧ state.caller = stage ∧ after = next := by
  unfold State.fromCaller at taken
  split at taken
  case isTrue guard => exact ⟨guard.1, guard.2, Option.some.inj taken⟩
  case isFalse => cases taken

theorem fromResumer_some {state after next : State} {resumer : Nat} {stage last : ResumerStage}
    (taken : state.fromResumer resumer stage last after = some next) :
    (state.resumers resumer).stage = stage ∧
      { after with
        resumers := Function.update state.resumers resumer
          { state.resumers resumer with stage := last } } = next := by
  unfold State.fromResumer at taken
  split at taken
  case isTrue guard => exact ⟨guard, Option.some.inj taken⟩
  case isFalse => cases taken

theorem resumeCall_some {state next : State} {resumer : Nat}
    (stepped : step state (.resumeCall resumer) = some next) :
    { state with
      resumers := Function.update state.resumers resumer ⟨.called, state.marks⟩ } = next := by
  simp only [step] at stepped
  split at stepped
  · exact Option.some.inj stepped
  · cases stepped

def Action.write : Action → TxThread → TxThread
  | .raise => raiseMark
  | .recordSuspended => recordState txSuspended
  | .lower => lowerMark
  | .recordReady _ => recordState txReady
  | .resumerLower _ => lowerMark
  | _ => id

theorem step_block {state next : State} {action : Action}
    (stepped : step state action = some next) : next.block = action.write state.block := by
  cases action with
  | resumeCall resumer => rw [← resumeCall_some stepped]; rfl
  | ntResume resumer status => rw [← (fromResumer_some stepped).2]; rfl
  | recordReady resumer => rw [← (fromResumer_some stepped).2]; rfl
  | resumerLower resumer => rw [← (fromResumer_some stepped).2]; rfl
  | resumeReturn resumer => rw [← (fromResumer_some stepped).2]; rfl
  | resumeFail resumer => rw [← (fromResumer_some stepped).2]; rfl
  | suspendCall => rw [← (fromCaller_some stepped).2.2]; rfl
  | raise => rw [← (fromCaller_some stepped).2.2]; rfl
  | ntSuspend status => rw [← (fromCaller_some stepped).2.2]; rfl
  | kernelReturn => rw [← (fromCaller_some stepped).2.2]; rfl
  | recordSuspended => rw [← (fromCaller_some stepped).2.2]; rfl
  | lower => rw [← (fromCaller_some stepped).2.2]; rfl
  | suspendReturn => rw [← (fromCaller_some stepped).2.2]; rfl
  | suspendFail => rw [← (fromCaller_some stepped).2.2]; rfl

private theorem quiet_invariant {state next : State} (quiet : state.suspendCount = 0)
    (invariant : Invariant state) (count : next.suspendCount = state.suspendCount)
    (resumers : next.resumers = state.resumers) (marks : next.marks = state.marks)
    (elsewhere : next.caller ≠ .marked) : Invariant next where
  counted _ := count.trans quiet
  single := by omega
  began := by
    rw [resumers, marks]
    exact invariant.began
  unreleased pending := by
    rcases pending with marked | inKernel
    · exact absurd marked elsewhere
    · have positive := inKernel.2
      omega

private theorem raise_invariant (state : State) (quiet : state.suspendCount = 0)
    (invariant : Invariant state) :
    Invariant { state with
      block := raiseMark state.block
      caller := .marked
      marks := state.marks + 1
      released := false } where
  counted _ := quiet
  single := invariant.single
  began resumer := Nat.le_succ_of_le (invariant.began resumer)
  unreleased _ := by
    apply And.intro rfl
    intro resumer resumed
    have bound := invariant.began resumer
    have same : (state.resumers resumer).marks = state.marks + 1 := resumed.2
    omega

private theorem ntSuspend_invariant (state : State) (status : ULONG)
    (quiet : state.suspendCount = 0) (marked : state.caller = .marked)
    (invariant : Invariant state) :
    Invariant { state with
      suspendCount := ntSuspendThread state.suspendCount status
      caller := if ntSuccess status then .inKernel else .refused } := by
  have unreleased := invariant.unreleased (Or.inl marked)
  cases succeeded : ntSuccess status with
  | true =>
      exact
        { counted := fun elsewhere => absurd (by simp) elsewhere
          single := by simp [ntSuspendThread, succeeded, quiet]
          began := invariant.began
          unreleased := fun _ => unreleased }
  | false =>
      exact
        { counted := fun _ => by simpa [ntSuspendThread, succeeded] using quiet
          single := by simpa [ntSuspendThread, succeeded] using invariant.single
          began := invariant.began
          unreleased := fun _ => unreleased }

/-- A resumer's step keeps the invariant when it does not raise the suspend
count and does not add a resume under the current mark while one is pending. -/
private theorem resumer_invariant {state next : State} {resumer : Nat} {entry : Resumer}
    (invariant : Invariant state) (count : next.suspendCount ≤ state.suspendCount)
    (caller : next.caller = state.caller) (marks : next.marks = state.marks)
    (resumers : next.resumers = Function.update state.resumers resumer entry)
    (began : entry.marks ≤ state.marks)
    (released : Pending next → Unreleased state →
      next.released = false ∧ ¬ entry.Resumed state.marks) :
    Invariant next where
  counted elsewhere := by
    have zero := invariant.counted (caller ▸ elsewhere)
    omega
  single := Nat.le_trans count invariant.single
  began := by
    rw [resumers, marks]
    exact (Function.forall_update_iff state.resumers fun _ entry => entry.marks ≤ state.marks).mpr
      ⟨began, fun other _ => invariant.began other⟩
  unreleased pending := by
    have before : Unreleased state := by
      apply invariant.unreleased
      rcases pending with marked | inKernel
      · exact Or.inl (caller ▸ marked)
      · exact Or.inr ⟨caller ▸ inKernel.1, Nat.lt_of_lt_of_le inKernel.2 count⟩
    apply And.intro (released pending before).1
    rw [resumers, marks]
    exact (Function.forall_update_iff state.resumers
      fun _ entry => ¬ entry.Resumed state.marks).mpr
        ⟨(released pending before).2, fun other _ => before.2 other⟩

private theorem later_unresumed {state : State} {resumer : Nat} {stage : ResumerStage}
    (unreleased : Unreleased state)
    (earlier : (state.resumers resumer).stage = .answered ∨
      (state.resumers resumer).stage = .recorded) :
    ¬ Resumer.Resumed { state.resumers resumer with stage := stage } state.marks := by
  intro resumed
  apply unreleased.2 resumer
  rcases earlier with answered | recorded
  · exact ⟨Or.inl answered, resumed.2⟩
  · exact ⟨Or.inr (Or.inl recorded), resumed.2⟩

private theorem ntResume_invariant {state next : State} {resumer : Nat} {status : ULONG}
    (invariant : Invariant state) (allowed : NoEarlyResume state (.ntResume resumer status))
    (stepped : step state (.ntResume resumer status) = some next) : Invariant next := by
  rcases fromResumer_some stepped with ⟨_, rfl⟩
  cases succeeded : ntSuccess status with
  | true =>
      have count : ntResumeThread state.suspendCount status = state.suspendCount - 1 := by
        simp [ntResumeThread, succeeded]
      have single := invariant.single
      have fewer : ntResumeThread state.suspendCount status ≤ state.suspendCount := by omega
      refine resumer_invariant invariant fewer rfl rfl rfl (invariant.began resumer) ?_
      intro pending before
      apply And.intro before.1
      intro resumed
      rcases pending with marked | inKernel
      · exact allowed succeeded marked resumed.2
      · have positive : 0 < ntResumeThread state.suspendCount status := inKernel.2
        omega
  | false =>
      have count : ntResumeThread state.suspendCount status = state.suspendCount := by
        simp [ntResumeThread, succeeded]
      refine resumer_invariant invariant (Nat.le_of_eq count) rfl rfl rfl
        (invariant.began resumer) ?_
      intro _ before
      exact ⟨before.1, by simp [Resumer.Resumed]⟩

theorem step_invariant (state : State) (action : Action) (next : State)
    (invariant : Invariant state) (allowed : NoEarlyResume state action)
    (stepped : step state action = some next) : Invariant next := by
  cases action with
  | suspendCall =>
      rcases fromCaller_some stepped with ⟨quiet, _, rfl⟩
      exact quiet_invariant quiet invariant rfl rfl rfl (by simp)
  | raise =>
      rcases fromCaller_some stepped with ⟨quiet, _, rfl⟩
      exact raise_invariant state quiet invariant
  | ntSuspend status =>
      rcases fromCaller_some stepped with ⟨quiet, marked, rfl⟩
      exact ntSuspend_invariant state status quiet marked invariant
  | kernelReturn =>
      rcases fromCaller_some stepped with ⟨quiet, _, rfl⟩
      exact quiet_invariant quiet invariant rfl rfl rfl (by simp)
  | recordSuspended =>
      rcases fromCaller_some stepped with ⟨quiet, _, rfl⟩
      exact quiet_invariant quiet invariant rfl rfl rfl (by simp)
  | lower =>
      rcases fromCaller_some stepped with ⟨quiet, _, rfl⟩
      exact quiet_invariant quiet invariant rfl rfl rfl (by simp)
  | suspendReturn =>
      rcases fromCaller_some stepped with ⟨quiet, _, rfl⟩
      exact quiet_invariant quiet invariant rfl rfl rfl (by simp)
  | suspendFail =>
      rcases fromCaller_some stepped with ⟨quiet, _, rfl⟩
      exact quiet_invariant quiet invariant rfl rfl rfl (by simp)
  | resumeCall resumer =>
      rcases resumeCall_some stepped with rfl
      refine resumer_invariant invariant (Nat.le_refl _) rfl rfl rfl (Nat.le_refl _) ?_
      intro _ before
      exact ⟨before.1, by simp [Resumer.Resumed]⟩
  | ntResume resumer status => exact ntResume_invariant invariant allowed stepped
  | recordReady resumer =>
      rcases fromResumer_some stepped with ⟨answered, rfl⟩
      refine resumer_invariant invariant (Nat.le_refl _) rfl rfl rfl (invariant.began resumer) ?_
      intro _ before
      exact ⟨before.1, later_unresumed before (Or.inl answered)⟩
  | resumerLower resumer =>
      rcases fromResumer_some stepped with ⟨recorded, rfl⟩
      refine resumer_invariant invariant (Nat.le_refl _) rfl rfl rfl (invariant.began resumer) ?_
      intro _ before
      exact ⟨before.1, later_unresumed before (Or.inr recorded)⟩
  | resumeReturn resumer =>
      rcases fromResumer_some stepped with ⟨lowered, rfl⟩
      refine resumer_invariant invariant (Nat.le_refl _) rfl rfl rfl (invariant.began resumer) ?_
      intro _ before
      have earlier : (state.resumers resumer).marks ≠ state.marks := by
        intro same
        exact before.2 resumer ⟨Or.inr (Or.inr lowered), same⟩
      exact ⟨by simp [before.1, earlier], by simp [Resumer.Resumed]⟩
  | resumeFail resumer =>
      rcases fromResumer_some stepped with ⟨_, rfl⟩
      refine resumer_invariant invariant (Nat.le_refl _) rfl rfl rfl (invariant.began resumer) ?_
      intro _ before
      exact ⟨before.1, by simp [Resumer.Resumed]⟩

theorem invariant_not_lost (state : State) (invariant : Invariant state) :
    ¬ LostWakeup state := by
  intro lost
  have unreleased := (invariant.unreleased (Or.inr ⟨lost.1, lost.2.1⟩)).1
  rw [lost.2.2] at unreleased
  cases unreleased

/-- Without early resumes no interleaving loses a wakeup. -/
theorem no_lost_wakeup (block : TxThread) (schedule : List Action)
    (timely : Along step NoEarlyResume (running block) schedule) :
    Always step (fun state => ¬ LostWakeup state) (running block) schedule := by
  apply always_mono step invariant_not_lost
  exact always_of_along step Invariant NoEarlyResume step_invariant (running block) schedule
    (running_invariant block) timely

def earlyResume : List Action :=
  [.suspendCall, .raise, .resumeCall 1, .ntResume 1 0, .recordReady 1, .resumerLower 1,
    .resumeReturn 1, .ntSuspend 0]

def idleBlock : TxThread := ⟨4, 8, 0, 0, txThreadIdentifier, 0, none, txReady, txFalse, 0x1000⟩

theorem wakeup_lost :
    ∃ state, run step (running idleBlock) earlyResume = some state ∧ LostWakeup state :=
  ⟨_, rfl, rfl, Nat.one_pos, rfl⟩

/-- A resume that runs in full while the thread is suspended. -/
theorem wakeup_kept :
    Always step (fun state => ¬ LostWakeup state) (running idleBlock)
      [.suspendCall, .raise, .ntSuspend 0, .resumeCall 1, .ntResume 1 0, .recordReady 1,
        .resumerLower 1, .resumeReturn 1, .kernelReturn] := by
  apply no_lost_wakeup
  refine along_cons step rfl trivial (along_cons step rfl trivial (along_cons step rfl trivial
    (along_cons step rfl trivial (along_cons step rfl ?_ (along_cons step rfl trivial
      (along_cons step rfl trivial (along_cons step rfl trivial
        (along_cons step rfl trivial trivial))))))))
  intro _ marked
  cases marked

end UsbxNxdk.SelfSuspension
