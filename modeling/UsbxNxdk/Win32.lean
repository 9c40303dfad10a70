import UsbxNxdk.TxApi

/-! The Win32 synchronization objects under the glue: semaphores and mutexes,
and how the kernel answers a wait or a release on one of them. -/

namespace UsbxNxdk.Win32

inductive WaitResult where
  | object0
  | abandoned
  | timeout
  | failed
  deriving DecidableEq, Repr

structure SemaphoreObject where
  available : Nat
  maximum : Nat
  deriving DecidableEq, Repr

/-- A mutex nobody owns, whose last owner may have ended without releasing it,
or one that a thread acquired and then acquired `again` times more. -/
inductive MutexObject where
  | free (abandoned : Bool)
  | held (owner again : Nat)
  deriving DecidableEq, Repr

namespace SemaphoreObject

def create (initialCount : ULONG) (maximum : Nat) : Option SemaphoreObject :=
  if initialCount.toNat ≤ maximum then
    some { available := initialCount.toNat, maximum := maximum }
  else none

def wait (timeout : ULONG) (object : SemaphoreObject) : Option (WaitResult × SemaphoreObject) :=
  if 0 < object.available then
    some (.object0, { object with available := object.available - 1 })
  else if timeout = infinite then none
  else some (.timeout, object)

def release (object : SemaphoreObject) : Bool × SemaphoreObject :=
  if object.available < object.maximum then
    (true, { object with available := object.available + 1 })
  else (false, object)

end SemaphoreObject

namespace MutexObject

def recursion (thread : Nat) : MutexObject → Nat
  | .free _ => 0
  | .held owner again => if owner = thread then again + 1 else 0

def wait (thread : Nat) (timeout : ULONG) : MutexObject → Option (WaitResult × MutexObject)
  | .free abandoned => some (if abandoned then .abandoned else .object0, .held thread 0)
  | .held owner again =>
      if owner = thread then some (.object0, .held owner (again + 1))
      else if timeout = infinite then none
      else some (.timeout, .held owner again)

def release (thread : Nat) : MutexObject → Bool × MutexObject
  | .free abandoned => (false, .free abandoned)
  | .held owner again =>
      if owner = thread then
        match again with
        | 0 => (true, .free false)
        | again + 1 => (true, .held owner again)
      else (false, .held owner again)

/-- A thread ends: the mutex it still owns becomes abandoned. -/
def ownerEnds (thread : Nat) : MutexObject → MutexObject
  | .free abandoned => .free abandoned
  | .held owner again => if owner = thread then .free true else .held owner again

end MutexObject

theorem semaphore_wait_present (timeout : ULONG) {object : SemaphoreObject}
    (present : 0 < object.available) :
    object.wait timeout =
      some (.object0, { object with available := object.available - 1 }) :=
  if_pos present

theorem semaphore_wait_empty {timeout : ULONG} {object after : SemaphoreObject}
    {result : WaitResult} (empty : ¬ 0 < object.available)
    (ended : object.wait timeout = some (result, after)) :
    result = .timeout ∧ after = object := by
  rw [SemaphoreObject.wait, if_neg empty] at ended
  by_cases forever : timeout = infinite
  · rw [if_pos forever] at ended
    cases ended
  · rw [if_neg forever] at ended
    cases ended
    exact ⟨rfl, rfl⟩

theorem semaphore_release_room {object : SemaphoreObject}
    (room : object.available < object.maximum) :
    object.release = (true, { object with available := object.available + 1 }) :=
  if_pos room

theorem semaphore_release_full {object : SemaphoreObject}
    (full : ¬ object.available < object.maximum) : object.release = (false, object) :=
  if_neg full

theorem mutex_wait_cases {thread : Nat} {timeout : ULONG} {object after : MutexObject}
    {result : WaitResult} (ended : object.wait thread timeout = some (result, after)) :
    (∃ abandoned, object = .free abandoned ∧
        result = (if abandoned then .abandoned else .object0) ∧ after = .held thread 0) ∨
      (∃ again, object = .held thread again ∧ result = .object0 ∧
        after = .held thread (again + 1)) ∨
      (∃ owner again, owner ≠ thread ∧ object = .held owner again ∧ result = .timeout ∧
        after = object) := by
  cases object with
  | free abandoned =>
      cases ended
      exact Or.inl ⟨abandoned, rfl, rfl, rfl⟩
  | held owner again =>
      by_cases own : owner = thread
      · simp only [MutexObject.wait, if_pos own] at ended
        cases ended
        exact Or.inr (Or.inl ⟨again, by rw [own], rfl, by rw [own]⟩)
      · by_cases forever : timeout = infinite
        · simp [MutexObject.wait, own, forever] at ended
        · simp only [MutexObject.wait, if_neg own, if_neg forever] at ended
          cases ended
          exact Or.inr (Or.inr ⟨owner, again, own, rfl, rfl, rfl⟩)

theorem mutex_wait_granted {thread : Nat} {timeout : ULONG} {object after : MutexObject}
    {result : WaitResult} (ended : object.wait thread timeout = some (result, after))
    (granted : result ≠ .timeout) (other : Nat) :
    after.recursion other = object.recursion other + if thread = other then 1 else 0 := by
  rcases mutex_wait_cases ended with free | own | refused
  · rcases free with ⟨abandoned, rfl, _, rfl⟩
    simp [MutexObject.recursion]
  · rcases own with ⟨again, rfl, _, rfl⟩
    by_cases same : thread = other
    · simp [MutexObject.recursion, same]
    · simp [MutexObject.recursion, same]
  · rcases refused with ⟨_, _, _, _, timedOut, _⟩
    exact absurd timedOut granted

theorem mutex_wait_refused {thread : Nat} {timeout : ULONG} {object after : MutexObject}
    (ended : object.wait thread timeout = some (.timeout, after)) : after = object := by
  rcases mutex_wait_cases ended with free | own | refused
  · rcases free with ⟨abandoned, _, result, _⟩
    cases abandoned <;> cases result
  · rcases own with ⟨_, _, result, _⟩
    cases result
  · rcases refused with ⟨_, _, _, _, _, same⟩
    exact same

theorem mutex_wait_abandoned {thread : Nat} {timeout : ULONG} {object after : MutexObject}
    {result : WaitResult} (ended : object.wait thread timeout = some (result, after)) :
    result = .abandoned ↔ object = .free true := by
  rcases mutex_wait_cases ended with free | own | refused
  · rcases free with ⟨abandoned, rfl, rfl, _⟩
    cases abandoned <;> decide
  · rcases own with ⟨_, rfl, rfl, _⟩
    simp
  · rcases refused with ⟨_, _, _, rfl, rfl, _⟩
    simp

theorem mutex_wait_failed {thread : Nat} {timeout : ULONG} {object after : MutexObject}
    {result : WaitResult} (ended : object.wait thread timeout = some (result, after)) :
    result ≠ .failed := by
  rcases mutex_wait_cases ended with free | own | refused
  · rcases free with ⟨abandoned, _, rfl, _⟩
    cases abandoned <;> decide
  · rcases own with ⟨_, _, rfl, _⟩
    decide
  · rcases refused with ⟨_, _, _, _, rfl, _⟩
    decide

theorem mutex_release_recursion (thread : Nat) (object : MutexObject) (other : Nat) :
    (object.release thread).2.recursion other +
        (if thread = other ∧ (object.release thread).1 = true then 1 else 0) =
      object.recursion other := by
  cases object with
  | free abandoned => simp [MutexObject.release]
  | held owner again =>
      by_cases own : owner = thread
      · by_cases same : owner = other
        · cases again <;> simp [MutexObject.release, MutexObject.recursion, ← own, same]
        · cases again <;> simp [MutexObject.release, MutexObject.recursion, ← own, same]
      · simp [MutexObject.release, own]

theorem mutex_release_accepted (thread : Nat) (object : MutexObject) :
    (object.release thread).1 = true ↔ 0 < object.recursion thread := by
  cases object with
  | free abandoned => simp [MutexObject.release, MutexObject.recursion]
  | held owner again =>
      by_cases own : owner = thread
      · cases again <;> simp [MutexObject.release, MutexObject.recursion, own]
      · simp [MutexObject.release, MutexObject.recursion, own]

theorem mutex_ownerEnds_recursion {thread other : Nat} (different : thread ≠ other)
    (object : MutexObject) :
    (object.ownerEnds thread).recursion other = object.recursion other := by
  cases object with
  | free abandoned => rfl
  | held owner again =>
      by_cases own : owner = thread
      · simp [MutexObject.ownerEnds, MutexObject.recursion, own, different]
      · simp [MutexObject.ownerEnds, own]

end UsbxNxdk.Win32
