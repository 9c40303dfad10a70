import UsbxNxdk.SelfSuspension

/-! The recorded state of a thread that suspended itself, once it runs again. -/

namespace UsbxNxdk.RecordedState

open Execution Thread SelfSuspension

def Runs (state : State) : Prop := state.caller = .outside ∧ state.suspendCount = 0

def RecordedReady (state : State) : Prop :=
  Runs state → state.block.txThreadState = txReady ∧
    ∀ pointers, (txThreadInfoGet state.block pointers).2.state ≠ some txSuspended

/-- In the order of the steps: between the thread's write of `TX_SUSPENDED` and
the return of that call some resumer writes `TX_READY`. The flag tells whether
the last such write was a resumer's. -/
def ReadyBeforeReturn : Bool → List Action → Prop
  | _, [] => True
  | _, .recordSuspended :: rest => ReadyBeforeReturn false rest
  | _, .recordReady _ :: rest => ReadyBeforeReturn true rest
  | ready, .suspendReturn :: rest => ready = true ∧ ReadyBeforeReturn ready rest
  | ready, _ :: rest => ReadyBeforeReturn ready rest

theorem recordedReady_iff (state : State) :
    RecordedReady state ↔ (Runs state → state.block.txThreadState = txReady) := by
  constructor
  · intro recorded runs
    exact (recorded runs).1
  · intro recorded runs
    constructor
    · exact recorded runs
    · intro pointers
      have apart : txReady ≠ txSuspended := by decide
      cases wanted : pointers.state with
      | true => simp [txThreadInfoGet, storeThrough, wanted, recorded runs, apart]
      | false => simp [txThreadInfoGet, storeThrough, wanted]

def readyAfter (ready : Bool) : Action → Bool
  | .recordSuspended => false
  | .recordReady _ => true
  | _ => ready

theorem readyBeforeReturn_cons (ready : Bool) (action : Action) (rest : List Action) :
    ReadyBeforeReturn ready (action :: rest) ↔
      (action = .suspendReturn → ready = true) ∧
        ReadyBeforeReturn (readyAfter ready action) rest := by
  cases action <;> simp [ReadyBeforeReturn, readyAfter]

theorem readyAfter_state {state next : State} {action : Action}
    (stepped : step state action = some next) (ready : Bool)
    (last : ready = true ↔ state.block.txThreadState = txReady) :
    readyAfter ready action = true ↔ next.block.txThreadState = txReady := by
  have apart : txSuspended ≠ txReady := by decide
  rw [step_block stepped]
  cases action with
  | recordSuspended => exact iff_of_false Bool.false_ne_true apart
  | recordReady resumer => exact iff_of_true rfl rfl
  | _ => exact last

def Overwritten (stage : CallerStage) : Prop := stage = .recorded ∨ stage = .lowered

theorem step_overwritten {state next : State} {action : Action}
    (stepped : step state action = some next) (clear : ¬ Overwritten next.caller) :
    action = .suspendReturn ∨ (action ≠ .recordSuspended ∧ ¬ Overwritten state.caller) := by
  have resumed : ∀ {resumer : Nat} {stage last : ResumerStage} {after : State},
      state.fromResumer resumer stage last after = some next → after.caller = state.caller →
      ¬ Overwritten state.caller := by
    intro resumer stage last after taken same
    rw [← (fromResumer_some taken).2] at clear
    exact same ▸ clear
  have moved : ∀ {stage : CallerStage} {after : State}, ¬ Overwritten stage →
      state.fromCaller stage after = some next → ¬ Overwritten state.caller := by
    intro stage after early taken
    exact (fromCaller_some taken).2.1 ▸ early
  cases action with
  | suspendReturn => exact Or.inl rfl
  | recordSuspended =>
      rw [← (fromCaller_some stepped).2.2] at clear
      exact absurd (Or.inl rfl) clear
  | lower =>
      rw [← (fromCaller_some stepped).2.2] at clear
      exact absurd (Or.inr rfl) clear
  | suspendCall => exact Or.inr ⟨by simp, moved (by simp [Overwritten]) stepped⟩
  | raise => exact Or.inr ⟨by simp, moved (by simp [Overwritten]) stepped⟩
  | ntSuspend status => exact Or.inr ⟨by simp, moved (by simp [Overwritten]) stepped⟩
  | kernelReturn => exact Or.inr ⟨by simp, moved (by simp [Overwritten]) stepped⟩
  | suspendFail => exact Or.inr ⟨by simp, moved (by simp [Overwritten]) stepped⟩
  | resumeCall resumer =>
      rw [← resumeCall_some stepped] at clear
      exact Or.inr ⟨by simp, clear⟩
  | ntResume resumer status => exact Or.inr ⟨by simp, resumed stepped rfl⟩
  | recordReady resumer => exact Or.inr ⟨by simp, resumed stepped rfl⟩
  | resumerLower resumer => exact Or.inr ⟨by simp, resumed stepped rfl⟩
  | resumeReturn resumer => exact Or.inr ⟨by simp, resumed stepped rfl⟩
  | resumeFail resumer => exact Or.inr ⟨by simp, resumed stepped rfl⟩

/-- What the flag knows: the last write to the state, and that only a thread
past its own write can be recorded suspended. -/
structure Tracks (ready : Bool) (state : State) : Prop where
  last : ready = true ↔ state.block.txThreadState = txReady
  early : ¬ Overwritten state.caller → ready = true

theorem tracks_ready {ready : Bool} {state : State} (tracks : Tracks ready state) :
    RecordedReady state := by
  apply (recordedReady_iff state).mpr
  intro runs
  apply tracks.last.mp
  apply tracks.early
  rw [runs.1]
  simp [Overwritten]

theorem tracks_step {ready : Bool} {state next : State} {action : Action}
    (tracks : Tracks ready state) (stepped : step state action = some next)
    (returning : action = .suspendReturn → ready = true) :
    Tracks (readyAfter ready action) next where
  last := readyAfter_state stepped ready tracks.last
  early clear := by
    rcases step_overwritten stepped clear with rfl | ⟨other, before⟩
    · exact returning rfl
    · have now := tracks.early before
      cases action with
      | recordSuspended => exact absurd rfl other
      | recordReady resumer => rfl
      | _ => exact now

theorem return_ready {ready : Bool} {state next : State} (tracks : Tracks ready state)
    (stepped : step state .suspendReturn = some next) (recorded : RecordedReady next) :
    ready = true := by
  apply tracks.last.mpr
  rcases fromCaller_some stepped with ⟨quiet, _, rfl⟩
  exact (recorded ⟨rfl, quiet⟩).1

/-- A running thread is recorded ready throughout a run exactly when every
return from its suspend calls is preceded by a resumer's late write. -/
theorem recorded_ready_iff (block : TxThread) (schedule : List Action) (final : State)
    (executed : run step (running block) schedule = some final) :
    Always step RecordedReady (running block) schedule ↔ ReadyBeforeReturn true schedule := by
  have initial : Tracks true (running block) := ⟨iff_of_true rfl rfl, fun _ => rfl⟩
  revert executed initial
  generalize running block = state
  generalize true = ready
  intro executed tracks
  induction schedule generalizing state ready with
  | nil => exact iff_of_true (tracks_ready tracks) trivial
  | cons action rest ih =>
      rcases run_cons_some step executed with ⟨next, stepped, remaining⟩
      rw [readyBeforeReturn_cons]
      constructor
      · intro all
        have later := all.2 next stepped
        have returning : action = .suspendReturn → ready = true := by
          rintro rfl
          exact return_ready tracks stepped (always_head step RecordedReady next rest later)
        exact ⟨returning,
          (ih next (readyAfter ready action) remaining
            (tracks_step tracks stepped returning)).mp later⟩
      · intro ordered
        apply And.intro (tracks_ready tracks)
        intro other same
        obtain rfl : next = other := Option.some.inj (stepped.symm.trans same)
        exact (ih next (readyAfter ready action) remaining
          (tracks_step tracks stepped ordered.1)).mpr ordered.2

def overwritten : List Action :=
  [.suspendCall, .raise, .ntSuspend 0, .resumeCall 1, .ntResume 1 0, .recordReady 1,
    .resumerLower 1, .resumeReturn 1, .kernelReturn, .recordSuspended, .lower, .suspendReturn]

theorem running_recorded_suspended :
    ∃ state, run step (running idleBlock) overwritten = some state ∧ Runs state ∧
      state.block.txThreadState = txSuspended ∧ ¬ RecordedReady state := by
  refine ⟨_, rfl, ⟨rfl, rfl⟩, rfl, ?_⟩
  intro recorded
  exact absurd (recorded ⟨rfl, rfl⟩).1 (by decide)

/-- The resumer's write falls between the thread's own write and its return. -/
theorem late_ready_kept :
    Always step RecordedReady (running idleBlock)
        [.suspendCall, .raise, .ntSuspend 0, .resumeCall 1, .ntResume 1 0, .kernelReturn,
          .recordSuspended, .recordReady 1, .lower, .suspendReturn] ↔
      ReadyBeforeReturn true
        [.suspendCall, .raise, .ntSuspend 0, .resumeCall 1, .ntResume 1 0, .kernelReturn,
          .recordSuspended, .recordReady 1, .lower, .suspendReturn] :=
  recorded_ready_iff idleBlock _ _ rfl

end UsbxNxdk.RecordedState
