import UsbxNxdk.Execution
import UsbxNxdk.Thread

/-! The recorded thread state against the kernel's suspend count, over calls
made by other threads. -/

namespace UsbxNxdk.SuspendCount

open Execution Thread

structure Suspension where
  block : TxThread
  suspendCount : Nat
  deriving DecidableEq, Repr

/-- The calls, each with the status of its kernel call. -/
inductive Call where
  | suspend (status : ULONG)
  | resume (status : ULONG)
  | systemSuspend (status : ULONG)
  | systemResume (status : ULONG)
  deriving DecidableEq, Repr

def step (thread : Suspension) : Call → Option Suspension
  | .suspend status =>
      some ⟨(txThreadSuspend thread.block status).2, ntSuspendThread thread.suspendCount status⟩
  | .resume status =>
      some ⟨(txThreadResume thread.block status).2, ntResumeThread thread.suspendCount status⟩
  | .systemSuspend status =>
      some ⟨txThreadSystemSuspend thread.block status, ntSuspendThread thread.suspendCount status⟩
  | .systemResume status =>
      some ⟨txThreadSystemResume thread.block status, ntResumeThread thread.suspendCount status⟩

def created (arguments : CreateArguments) (answers : CreateAnswers) (block : TxThread) :
    Suspension :=
  ⟨(txThreadCreate arguments answers block).2, createdSuspendCount (creationFlags arguments)⟩

def Agrees (thread : Suspension) : Prop :=
  thread.suspendCount = 0 ↔ thread.block.txThreadState = txReady

/-- A successful resume takes the kernel's last suspension away. -/
def LastSuspension (thread : Suspension) : Call → Prop
  | .resume status => ntSuccess status = true → thread.suspendCount ≤ 1
  | .systemResume status => ntSuccess status = true → thread.suspendCount ≤ 1
  | .suspend _ => True
  | .systemSuspend _ => True

theorem created_agrees (arguments : CreateArguments) (answers : CreateAnswers)
    (block : TxThread) : Agrees (created arguments answers block) := by
  have state := (txThreadCreate_state arguments answers block).1
  have apart : txSuspended ≠ txReady := by decide
  unfold Agrees created
  rw [state]
  by_cases started : arguments.autoStart ≠ 0
  · have flags : creationFlags arguments = 0 := if_pos started
    rw [flags, if_pos started]
    exact iff_of_true rfl rfl
  · have flags : creationFlags arguments = createSuspended := if_neg started
    rw [flags, if_neg started]
    exact iff_of_false Nat.one_ne_zero apart

theorem suspend_agrees (thread : Suspension) (status : ULONG) (agrees : Agrees thread) :
    Agrees ⟨(txThreadSuspend thread.block status).2,
      ntSuspendThread thread.suspendCount status⟩ := by
  have apart : txSuspended ≠ txReady := by decide
  cases succeeded : ntSuccess status with
  | true => simp [Agrees, txThreadSuspend, ntSuspendThread, succeeded, apart]
  | false => simpa [Agrees, txThreadSuspend, ntSuspendThread, succeeded] using agrees

theorem resume_agrees_iff (thread : Suspension) (status : ULONG) (agrees : Agrees thread) :
    Agrees ⟨(txThreadResume thread.block status).2,
      ntResumeThread thread.suspendCount status⟩ ↔
      (ntSuccess status = true → thread.suspendCount ≤ 1) := by
  cases succeeded : ntSuccess status with
  | true =>
      simp only [Agrees, txThreadResume, ntResumeThread, succeeded, if_true, iff_true,
        forall_const]
      omega
  | false => simpa [Agrees, txThreadResume, ntResumeThread, succeeded] using agrees

theorem step_agrees_iff (thread next : Suspension) (call : Call) (agrees : Agrees thread)
    (stepped : step thread call = some next) : Agrees next ↔ LastSuspension thread call := by
  cases call with
  | suspend status =>
      cases stepped
      exact iff_of_true (suspend_agrees thread status agrees) trivial
  | resume status =>
      cases stepped
      exact resume_agrees_iff thread status agrees
  | systemSuspend status =>
      cases stepped
      exact iff_of_true (suspend_agrees thread status agrees) trivial
  | systemResume status =>
      cases stepped
      exact resume_agrees_iff thread status agrees

theorem suspends_counted (thread : Suspension) (status : ULONG) (times : Nat)
    (succeeded : ntSuccess status = true) :
    ∃ stopped, run step thread (List.replicate times (.suspend status)) = some stopped ∧
      stopped.suspendCount = thread.suspendCount + times := by
  induction times generalizing thread with
  | zero => exact ⟨thread, rfl, rfl⟩
  | succ times ih =>
      obtain ⟨stopped, executed, count⟩ :=
        ih ⟨(txThreadSuspend thread.block status).2, ntSuspendThread thread.suspendCount status⟩
      refine ⟨stopped, executed, ?_⟩
      rw [count]
      simp only [ntSuspendThread, succeeded, if_true]
      omega

/-- The recorded state and the kernel count agree throughout a run exactly when
no successful resume meets a second suspension; one resume after some suspends
makes the thread runnable only when there was one suspension in all. -/
theorem uncounted_iff_last_suspension (arguments : CreateArguments) (answers : CreateAnswers)
    (block : TxThread) :
    (∀ calls, Always step Agrees (created arguments answers block) calls ↔
      Along step LastSuspension (created arguments answers block) calls) ∧
    (∀ times suspended resumed, ntSuccess suspended = true → ntSuccess resumed = true →
      ∃ final, run step (created arguments answers block)
          (List.replicate times (.suspend suspended) ++ [.resume resumed]) = some final ∧
        (final.suspendCount = 0 ↔ createdSuspendCount (creationFlags arguments) + times ≤ 1)) := by
  constructor
  · intro calls
    apply always_iff_along step Agrees Agrees LastSuspension
    · intro thread agrees
      exact agrees
    · intro thread call next agrees last stepped
      exact (step_agrees_iff thread next call agrees stepped).mpr last
    · intro thread call next agrees stepped after
      exact (step_agrees_iff thread next call agrees stepped).mp after
    · exact created_agrees arguments answers block
  · intro times suspended resumed suspends resumes
    obtain ⟨stopped, executed, count⟩ :=
      suspends_counted (created arguments answers block) suspended times suspends
    refine ⟨⟨(txThreadResume stopped.block resumed).2,
      ntResumeThread stopped.suspendCount resumed⟩, ?_, ?_⟩
    · rw [run_append, executed]
      rfl
    · have initial : (created arguments answers block).suspendCount =
          createdSuspendCount (creationFlags arguments) := rfl
      simp only [ntResumeThread, resumes, if_true, count, initial]
      omega

/-- Two suspends and one resume of a started thread: recorded ready, suspended. -/
theorem second_suspension_hidden :
    ∃ final, run step (created ⟨none, 0x1000, 0, 1⟩ ⟨4, 8, none⟩ ⟨0, 0, 0, 0, 0, 0, none, 0, 0, 0⟩)
        [.suspend 0, .suspend 0, .resume 0] = some final ∧
      final.suspendCount = 1 ∧ final.block.txThreadState = txReady ∧ ¬ Agrees final := by
  refine ⟨_, rfl, rfl, rfl, ?_⟩
  intro agrees
  exact absurd (agrees.mpr rfl) (by decide)

end UsbxNxdk.SuspendCount
