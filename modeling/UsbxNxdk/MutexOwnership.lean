import UsbxNxdk.ControlBlocks
import UsbxNxdk.Execution
import Mathlib.Logic.Function.Basic

/-! Who owns a mutex, and what the statuses of its get and put calls tell. -/

namespace UsbxNxdk.MutexOwnership

open Execution Win32 ControlBlocks

/-- `taken` and `given` are history variables: the gets and the puts of each
thread that returned `TX_SUCCESS`. -/
structure State where
  object : MutexObject
  block : TxMutex
  ended : Nat → Bool
  taken : Nat → Nat
  given : Nat → Nat

inductive Action where
  | get (thread : Nat) (waitOption : ULONG) (fault : Bool)
  | put (thread : Nat)
  | exit (thread : Nat)
  deriving DecidableEq, Repr

def createAlone (handle : HANDLE) (_ : Option String) (_ : Unit) : HANDLE × Unit := (handle, ())

def waitAlone (thread : Nat) (fault : Bool) (_ : HANDLE) (timeout : ULONG)
    (object : MutexObject) : Option (WaitResult × MutexObject) :=
  if fault then some (.failed, object) else object.wait thread timeout

def releaseAlone (thread : Nat) (_ : HANDLE) (object : MutexObject) : Bool × MutexObject :=
  object.release thread

def counted (calls : Nat → Nat) (thread : Nat) (status : UINT) : Nat → Nat :=
  if status = txSuccess then Function.update calls thread (calls thread + 1) else calls

def step (state : State) : Action → Option State
  | .get thread waitOption fault =>
      if state.ended thread then none
      else
        match txMutexGet (waitAlone thread fault) state.block waitOption state.object with
        | none => none
        | some (status, object) =>
            some { state with object := object, taken := counted state.taken thread status }
  | .put thread =>
      if state.ended thread then none
      else
        match txMutexPut (releaseAlone thread) state.block state.object with
        | (status, object) =>
            some { state with object := object, given := counted state.given thread status }
  | .exit thread =>
      if state.ended thread then none
      else
        some
          { state with
            object := state.object.ownerEnds thread
            ended := Function.update state.ended thread true }

def created (handle : HANDLE) (name : Option String) : State where
  object := .free false
  block := (txMutexCreate (createAlone handle) name txNoInherit ()).2.1
  ended := fun _ => false
  taken := fun _ => 0
  given := fun _ => 0

/-- The status of a call tells what became of the caller's ownership. -/
def StatusFaithful (state : State) : Action → Prop
  | .get thread waitOption fault => ∀ status object,
      txMutexGet (waitAlone thread fault) state.block waitOption state.object =
        some (status, object) →
      (status = txSuccess ↔ object.recursion thread = state.object.recursion thread + 1) ∧
        (status ≠ txSuccess → object = state.object)
  | .put thread => ∀ status object,
      txMutexPut (releaseAlone thread) state.block state.object = (status, object) →
      (status = txSuccess ↔ 0 < state.object.recursion thread ∧
        object.recursion thread + 1 = state.object.recursion thread)
  | .exit _ => True

/-- A live thread that gave the mutex back once for each get that told it of
success does not own it. -/
def Aware (state : State) : Prop :=
  ∀ thread, state.ended thread = false → state.given thread = state.taken thread →
    state.object.recursion thread = 0

/-- No get that reaches the mutex finds it abandoned. -/
def Unabandoned (state : State) : Action → Prop
  | .get _ _ fault => fault = false → state.object ≠ .free true
  | _ => True

theorem get_some {thread : Nat} {fault : Bool} {block : TxMutex} {waitOption : ULONG}
    {object after : MutexObject} {status : UINT}
    (called : txMutexGet (waitAlone thread fault) block waitOption object = some (status, after)) :
    ∃ result, waitAlone thread fault block.mutex (waitDuration waitOption) object =
      some (result, after) ∧ status = waitStatus result := by
  cases ended : waitAlone thread fault block.mutex (waitDuration waitOption) object with
  | none => simp [txMutexGet, ended] at called
  | some answer =>
      simp only [txMutexGet, ended, Option.bind_eq_bind, Option.bind_some] at called
      cases called
      exact ⟨answer.1, rfl, rfl⟩

theorem put_success (thread : Nat) (block : TxMutex) (object : MutexObject) :
    (txMutexPut (releaseAlone thread) block object).1 = txSuccess ↔
      (object.release thread).1 = true := by
  cases accepted : (object.release thread).1 with
  | true => simp [txMutexPut, releaseAlone, accepted]
  | false => simp [txMutexPut, releaseAlone, accepted, txMutexError, txSuccess]

theorem get_outcome {thread : Nat} {fault : Bool} {block : TxMutex} {waitOption : ULONG}
    {object after : MutexObject} {status : UINT}
    (called : txMutexGet (waitAlone thread fault) block waitOption object = some (status, after)) :
    (status = txSuccess ∧
        ∀ other, after.recursion other = object.recursion other + if thread = other then 1 else 0) ∨
      (status ≠ txSuccess ∧ after = object) ∨
      (status ≠ txSuccess ∧ fault = false ∧ object = .free true ∧ after = .held thread 0) := by
  rcases get_some called with ⟨result, ended, rfl⟩
  cases fault with
  | true =>
      cases ended
      exact Or.inr (Or.inl ⟨by decide, rfl⟩)
  | false =>
      rw [waitAlone, if_neg Bool.false_ne_true] at ended
      cases result with
      | object0 => exact Or.inl ⟨rfl, mutex_wait_granted ended (by decide)⟩
      | timeout => exact Or.inr (Or.inl ⟨by decide, mutex_wait_refused ended⟩)
      | failed => exact absurd rfl (mutex_wait_failed ended)
      | abandoned =>
          have found := (mutex_wait_abandoned ended).mp rfl
          rw [found] at ended
          cases ended
          exact Or.inr (Or.inr ⟨by decide, rfl, found, rfl⟩)

theorem statusFaithful_iff {state next : State} {action : Action}
    (stepped : step state action = some next) :
    StatusFaithful state action ↔ Unabandoned state action := by
  cases action with
  | get thread waitOption fault =>
      constructor
      · intro faithful reached abandoned
        have granted : txMutexGet (waitAlone thread fault) state.block waitOption state.object =
            some (txMutexError, .held thread 0) := by
          rw [abandoned, reached]
          rfl
        have kept := (faithful _ _ granted).2 (by decide)
        rw [abandoned] at kept
        cases kept
      · intro unabandoned status object called
        rcases get_outcome called with success | unchanged | abandoned
        · have rose : object.recursion thread = state.object.recursion thread + 1 := by
            rw [success.2 thread, if_pos rfl]
          exact ⟨iff_of_true success.1 rose, fun refused => absurd success.1 refused⟩
        · have level : object.recursion thread ≠ state.object.recursion thread + 1 := by
            rw [unchanged.2]
            omega
          exact ⟨iff_of_false unchanged.1 level, fun _ => unchanged.2⟩
        · exact absurd abandoned.2.2.1 (unabandoned abandoned.2.1)
  | put thread =>
      apply iff_of_true _ trivial
      intro status object called
      have released := mutex_release_recursion thread state.object thread
      have accepted := mutex_release_accepted thread state.object
      have success := put_success thread state.block state.object
      have after : (state.object.release thread).2 = object := congrArg Prod.snd called
      rw [called, accepted] at success
      rw [after] at released
      constructor
      · intro told
        have owned := success.mp told
        rw [if_pos ⟨rfl, accepted.mpr owned⟩] at released
        exact ⟨owned, released⟩
      · intro fell
        exact success.mpr fell.1
  | exit thread => exact iff_of_true trivial trivial

def Balanced (state : State) : Prop :=
  ∀ thread, state.ended thread = false →
    state.object.recursion thread + state.given thread = state.taken thread

theorem counted_success (calls : Nat → Nat) (thread : Nat) {status : UINT}
    (success : status = txSuccess) (other : Nat) :
    counted calls thread status other = calls other + if thread = other then 1 else 0 := by
  rw [counted, if_pos success]
  by_cases same : thread = other
  · rw [if_pos same, same, Function.update_self]
  · rw [if_neg same, Function.update_of_ne (Ne.symm same)]
    omega

theorem step_get {state next : State} {thread : Nat} {waitOption : ULONG} {fault : Bool}
    (stepped : step state (.get thread waitOption fault) = some next) :
    state.ended thread = false ∧ ∃ status object,
      txMutexGet (waitAlone thread fault) state.block waitOption state.object =
        some (status, object) ∧
      next = { state with object := object, taken := counted state.taken thread status } := by
  cases ended : state.ended thread with
  | true => simp [step, ended] at stepped
  | false =>
      cases called : txMutexGet (waitAlone thread fault) state.block waitOption state.object with
      | none => simp [step, ended, called] at stepped
      | some answer =>
          simp only [step, ended, called] at stepped
          cases stepped
          exact ⟨rfl, answer.1, answer.2, rfl, rfl⟩

theorem step_put {state next : State} {thread : Nat}
    (stepped : step state (.put thread) = some next) :
    next =
      { state with
        object := (state.object.release thread).2
        given := counted state.given thread
          (txMutexPut (releaseAlone thread) state.block state.object).1 } := by
  cases ended : state.ended thread with
  | true => simp [step, ended] at stepped
  | false =>
      simp only [step, ended] at stepped
      cases stepped
      rfl

theorem step_exit {state next : State} {thread : Nat}
    (stepped : step state (.exit thread) = some next) :
    next =
      { state with
        object := state.object.ownerEnds thread
        ended := Function.update state.ended thread true } := by
  cases ended : state.ended thread with
  | true => simp [step, ended] at stepped
  | false =>
      simp only [step, ended] at stepped
      cases stepped
      rfl

/-- A step keeps the account of a live thread, which is what the thread owns and
has put back against what it was told to have got, unless a get is granted an
abandoned mutex. -/
theorem step_account {state next : State} {action : Action} {other : Nat}
    (stepped : step state action = some next) (live : next.ended other = false) :
    state.ended other = false ∧
      (next.object.recursion other + next.given other + state.taken other =
          state.object.recursion other + state.given other + next.taken other ∨
        (¬ Unabandoned state action ∧ state.object = .free true ∧
          next.taken other = state.taken other ∧ next.given other = state.given other)) := by
  cases action with
  | get thread waitOption fault =>
      rcases step_get stepped with ⟨_, status, object, called, rfl⟩
      refine ⟨live, ?_⟩
      rcases get_outcome called with success | unchanged | ⟨refused, reached, free, _⟩
      · apply Or.inl
        simp only [counted_success state.taken thread success.1 other, success.2 other]
        omega
      · apply Or.inl
        simp only [counted, if_neg unchanged.1, unchanged.2]
      · refine Or.inr ⟨fun unabandoned => unabandoned reached free, free, ?_, rfl⟩
        simp only [counted, if_neg refused]
  | put thread =>
      rcases step_put stepped with rfl
      refine ⟨live, Or.inl ?_⟩
      have released := mutex_release_recursion thread state.object other
      have told := put_success thread state.block state.object
      by_cases accepted : (state.object.release thread).1 = true
      · simp only [counted_success state.given thread (told.mpr accepted) other]
        simp only [accepted, and_true] at released
        omega
      · have refused := fun success => accepted (told.mp success)
        simp only [counted, if_neg refused]
        simp only [accepted, and_false, Bool.false_eq_true, if_false] at released
        omega
  | exit thread =>
      rcases step_exit stepped with rfl
      have different : thread ≠ other := by
        intro same
        simp [same] at live
      simp only [Function.update_of_ne (Ne.symm different)] at live
      refine ⟨live, Or.inl ?_⟩
      simp only [mutex_ownerEnds_recursion different]

theorem balanced_step {state next : State} {action : Action} (balanced : Balanced state)
    (unabandoned : Unabandoned state action) (stepped : step state action = some next) :
    Balanced next := by
  intro other live
  rcases step_account stepped live with ⟨before, kept | abandoned⟩
  · have level := balanced other before
    omega
  · exact absurd unabandoned abandoned.1

theorem aware_unabandoned {state next : State} {action : Action} (balanced : Balanced state)
    (stepped : step state action = some next) (aware : Aware next) :
    Unabandoned state action := by
  cases action with
  | get thread waitOption fault =>
      intro reached abandoned
      rcases step_get stepped with ⟨live, status, object, called, rfl⟩
      have before := balanced thread live
      have unaware := aware thread live
      rw [abandoned, reached] at called
      cases called
      rw [abandoned] at before
      simp [MutexObject.recursion] at before
      simp [counted, waitStatus, txMutexError, txSuccess, MutexObject.recursion, before] at unaware
  | _ => trivial

/-- In every run of gets, puts and thread exits, the statuses tell who owns the
mutex, and no live thread owns it unaware, exactly when no get finds the mutex
abandoned. -/
theorem status_tells_ownership (handle : HANDLE) (name : Option String) (schedule : List Action) :
    (Along step StatusFaithful (created handle name) schedule ↔
        Along step Unabandoned (created handle name) schedule) ∧
      (Always step Aware (created handle name) schedule ↔
        Along step Unabandoned (created handle name) schedule) := by
  constructor
  · exact along_iff step (fun _ _ _ stepped => statusFaithful_iff stepped) _ schedule
  · apply always_iff_along step Balanced Aware Unabandoned
    · intro state balanced thread live even
      have before := balanced thread live
      omega
    · exact fun _ _ _ balanced unabandoned stepped => balanced_step balanced unabandoned stepped
    · exact fun _ _ _ balanced stepped aware => aware_unabandoned balanced stepped aware
    · exact fun _ _ => rfl

/-- Thread 1 ends owning the mutex; the get of thread 2 takes it and reports an
error. -/
theorem abandoned_get_owns :
    ∃ state next, run step (created 1 none) [.get 1 txWaitForever false, .exit 1] = some state ∧
      step state (.get 2 txNoWait false) = some next ∧
      txMutexGet (waitAlone 2 false) state.block txNoWait state.object =
        some (txMutexError, next.object) ∧
      next.object.recursion 2 = state.object.recursion 2 + 1 ∧
      ¬ StatusFaithful state (.get 2 txNoWait false) ∧ ¬ Aware next := by
  refine ⟨_, _, rfl, rfl, rfl, rfl, ?_, ?_⟩
  · intro faithful
    exact absurd ((faithful _ _ rfl).1.mpr rfl) (by decide)
  · intro aware
    exact absurd (aware 2 rfl rfl) (by decide)

end UsbxNxdk.MutexOwnership
