import UsbxNxdk.MutexOwnership

/-! Mutual exclusion between threads that go by the statuses of their calls, and
when a get is granted at once. -/

namespace UsbxNxdk.MutexOwnership

open Execution Win32 ControlBlocks

/-- The thread got the mutex, by the statuses of its calls, more often than it
put it back. -/
def Inside (state : State) (thread : Nat) : Prop := state.given thread < state.taken thread

def Exclusive (state : State) : Prop :=
  ∀ first second, state.ended first = false → state.ended second = false →
    Inside state first → Inside state second → first = second

def Granted (state : State) (thread : Nat) (waitOption : ULONG) : Prop :=
  ∃ object, txMutexGet (waitAlone thread false) state.block waitOption state.object =
    some (txSuccess, object)

/-- While the mutex is not abandoned, a get is granted at once exactly when no
other live thread is inside. -/
def Available (state : State) : Prop :=
  state.object ≠ .free true → ∀ thread waitOption, state.ended thread = false →
    (Granted state thread waitOption ↔
      ∀ other, other ≠ thread → state.ended other = false → ¬ Inside state other)

/-- A live thread owns the mutex at least as often as its statuses tell it. -/
def Covered (state : State) : Prop :=
  ∀ thread, state.ended thread = false →
    state.taken thread ≤ state.object.recursion thread + state.given thread

def Settled (state : State) : Prop :=
  ∀ thread, state.ended thread = true → state.object.recursion thread = 0

theorem recursion_owner {object : MutexObject} {thread : Nat}
    (owned : 0 < object.recursion thread) : ∃ again, object = .held thread again := by
  cases object with
  | free abandoned => exact absurd owned (Nat.lt_irrefl 0)
  | held owner again =>
      by_cases own : owner = thread
      · exact ⟨again, by rw [own]⟩
      · rw [MutexObject.recursion, if_neg own] at owned
        exact absurd owned (Nat.lt_irrefl 0)

theorem recursion_exclusive {object : MutexObject} {first second : Nat}
    (firstOwned : 0 < object.recursion first) (secondOwned : 0 < object.recursion second) :
    first = second := by
  rcases recursion_owner firstOwned with ⟨again, held⟩
  rcases recursion_owner secondOwned with ⟨others, same⟩
  rw [held] at same
  cases same
  rfl

theorem mutex_ownerEnds_own (thread : Nat) (object : MutexObject) :
    (object.ownerEnds thread).recursion thread = 0 := by
  cases object with
  | free abandoned => rfl
  | held owner again =>
      by_cases own : owner = thread
      · rw [MutexObject.ownerEnds, if_pos own]
        rfl
      · rw [MutexObject.ownerEnds, if_neg own, MutexObject.recursion, if_neg own]

theorem inside_owner {state : State} (covered : Covered state) {thread : Nat}
    (live : state.ended thread = false) (inside : Inside state thread) :
    0 < state.object.recursion thread := by
  have bound := covered thread live
  have above : state.given thread < state.taken thread := inside
  omega

theorem covered_exclusive {state : State} (covered : Covered state) : Exclusive state := by
  intro first second firstLive secondLive firstInside secondInside
  exact recursion_exclusive (inside_owner covered firstLive firstInside)
    (inside_owner covered secondLive secondInside)

theorem covered_step {state next : State} {action : Action} (covered : Covered state)
    (stepped : step state action = some next) : Covered next := by
  intro other live
  rcases step_account stepped live with ⟨before, kept | ⟨_, free, taken, given⟩⟩
  · have bound := covered other before
    omega
  · have bound := covered other before
    have none : state.object.recursion other = 0 := by
      rw [free]
      rfl
    omega

theorem settled_step {state next : State} {action : Action} (settled : Settled state)
    (stepped : step state action = some next) : Settled next := by
  cases action with
  | get thread waitOption fault =>
      rcases step_get stepped with ⟨live, status, object, called, rfl⟩
      intro other ended
      have before := settled other ended
      have different : thread ≠ other := by
        intro same
        rw [same] at live
        exact absurd (live.symm.trans ended) Bool.false_ne_true
      rcases get_outcome called with success | unchanged | abandoned
      · simp only [success.2 other, if_neg different]
        exact before
      · simp only [unchanged.2]
        exact before
      · simp only [abandoned.2.2.2, MutexObject.recursion, if_neg different]
  | put thread =>
      rcases step_put stepped with rfl
      intro other ended
      have before := settled other ended
      have released := mutex_release_recursion thread state.object other
      simp only at released ⊢
      omega
  | exit thread =>
      rcases step_exit stepped with rfl
      intro other ended
      by_cases same : thread = other
      · rw [← same]
        exact mutex_ownerEnds_own thread state.object
      · simp only [Function.update_of_ne (Ne.symm same)] at ended
        simp only [mutex_ownerEnds_recursion same]
        exact settled other ended

theorem granted_iff {state : State} (kept : state.object ≠ .free true) (thread : Nat)
    (waitOption : ULONG) :
    Granted state thread waitOption ↔
      ∀ other, other ≠ thread → state.object.recursion other = 0 := by
  constructor
  · intro granted other different
    rcases granted with ⟨object, called⟩
    rcases get_some called with ⟨result, ended, success⟩
    rw [waitAlone, if_neg Bool.false_ne_true] at ended
    rcases mutex_wait_cases ended with free | own | refused
    · rcases free with ⟨abandoned, found, _⟩
      rw [found]
      rfl
    · rcases own with ⟨again, found, _⟩
      rw [found, MutexObject.recursion, if_neg (Ne.symm different)]
    · rcases refused with ⟨owner, again, _, _, rfl, _⟩
      exact absurd success (by decide)
  · intro alone
    cases found : state.object with
    | free abandoned =>
        cases abandoned with
        | true => exact absurd found kept
        | false =>
            refine ⟨.held thread 0, ?_⟩
            rw [found]
            rfl
    | held owner again =>
        by_cases own : owner = thread
        · refine ⟨.held thread (again + 1), ?_⟩
          simp [txMutexGet, waitAlone, MutexObject.wait, own, found, waitStatus]
        · have none := alone owner own
          rw [found, MutexObject.recursion, if_pos rfl] at none
          exact absurd none (Nat.succ_ne_zero again)

theorem balanced_available {state : State} (balanced : Balanced state) (settled : Settled state) :
    Available state := by
  intro kept thread waitOption live
  rw [granted_iff kept thread waitOption]
  constructor
  · intro alone other different otherLive inside
    have above : state.given other < state.taken other := inside
    have owned := balanced other otherLive
    have none := alone other different
    omega
  · intro outside other different
    cases ended : state.ended other with
    | true => exact settled other ended
    | false =>
        have owned := balanced other ended
        have level : ¬ state.given other < state.taken other := outside other different ended
        omega

/-- In every run of gets, puts and thread exits at most one live thread is
inside; and while no get has found the mutex abandoned, a get is granted at once
exactly when no other live thread is inside. -/
theorem mutual_exclusion (handle : HANDLE) (name : Option String) (schedule : List Action) :
    Always step Exclusive (created handle name) schedule ∧
      (Along step Unabandoned (created handle name) schedule →
        Always step Available (created handle name) schedule) := by
  constructor
  · apply always_mono step fun _ covered => covered_exclusive covered
    apply always_invariant step Covered
    · exact fun _ _ _ covered stepped => covered_step covered stepped
    · exact fun _ _ => Nat.zero_le _
  · intro unabandoned
    apply always_mono step fun _ (both : Balanced _ ∧ Settled _) =>
      balanced_available both.1 both.2
    apply always_of_along step _ Unabandoned _ _ schedule _ unabandoned
    · intro state action next both allowed stepped
      exact ⟨balanced_step both.1 allowed stepped, settled_step both.2 stepped⟩
    · exact ⟨fun _ _ => rfl, fun _ _ => rfl⟩

/-- Thread 1 is inside; a get by thread 2 waits. -/
theorem contended_get_waits :
    ∃ next, run step (created 1 none) [.get 1 txWaitForever false, .get 2 txNoWait false] =
        some next ∧
      Inside next 1 ∧ Exclusive next ∧ ¬ Granted next 2 txWaitForever := by
  have both := mutual_exclusion 1 none [.get 1 txWaitForever false, .get 2 txNoWait false]
  have available := both.2 (by
    intro next stepped
    cases stepped
    refine ⟨fun _ => by decide, ?_⟩
    intro last stepped
    cases stepped
    exact ⟨fun _ => by decide, trivial⟩)
  refine ⟨_, rfl, Nat.zero_lt_one, ?_, ?_⟩
  · exact (both.1.2 _ rfl).2 _ rfl
  · intro granted
    have outside := ((available.2 _ rfl).2 _ rfl (by decide) 2 txWaitForever rfl).mp granted
    exact outside 1 (by decide) rfl Nat.zero_lt_one

end UsbxNxdk.MutexOwnership
