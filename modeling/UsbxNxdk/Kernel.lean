import UsbxNxdk.Win32
import Mathlib.Data.List.Basic
import Mathlib.Logic.Function.Basic

/-! The kernel's objects, their names, and the handles open on them. -/

namespace UsbxNxdk.Win32

inductive Body where
  | semaphore (object : SemaphoreObject)
  | mutex (object : MutexObject)
  deriving DecidableEq, Repr

structure NamedObject where
  name : Option String
  body : Body
  deriving DecidableEq, Repr

/-- Objects are numbered in the order of their creation, `next` being the next
number; an object lives while some handle is open on it. -/
structure Kernel where
  handles : List (HANDLE × Nat)
  objects : Nat → NamedObject
  next : Nat

namespace Body

def wait (thread : Nat) (timeout : ULONG) : Body → Option (WaitResult × Body)
  | .semaphore object =>
      match object.wait timeout with
      | none => none
      | some (result, object) => some (result, .semaphore object)
  | .mutex object =>
      match object.wait thread timeout with
      | none => none
      | some (result, object) => some (result, .mutex object)

def releaseSemaphore : Body → Bool × Body
  | .semaphore object => (object.release.1, .semaphore object.release.2)
  | .mutex object => (false, .mutex object)

def releaseMutex (thread : Nat) : Body → Bool × Body
  | .semaphore object => (false, .semaphore object)
  | .mutex object => ((object.release thread).1, .mutex (object.release thread).2)

def isSemaphore : Body → Bool
  | .semaphore _ => true
  | .mutex _ => false

end Body

theorem Body.wait_type {body after : Body} {thread : Nat} {timeout : ULONG} {result : WaitResult}
    (ended : body.wait thread timeout = some (result, after)) :
    after.isSemaphore = body.isSemaphore := by
  cases body with
  | semaphore object =>
      cases answer : object.wait timeout with
      | none => simp [Body.wait, answer] at ended
      | some reached =>
          simp only [Body.wait, answer] at ended
          cases ended
          rfl
  | mutex object =>
      cases answer : object.wait thread timeout with
      | none => simp [Body.wait, answer] at ended
      | some reached =>
          simp only [Body.wait, answer] at ended
          cases ended
          rfl

namespace Kernel

def initial : Kernel :=
  { handles := []
    objects := fun _ => { name := none, body := .mutex (.free false) }
    next := 0 }

def lookup (kernel : Kernel) (handle : HANDLE) : Option Nat := kernel.handles.lookup handle

def named (kernel : Kernel) (name : String) : Option Nat :=
  (kernel.handles.find? fun opened => (kernel.objects opened.2).name = some name).map Prod.snd

def setBody (kernel : Kernel) (object : Nat) (body : Body) : Kernel :=
  { kernel with
    objects := Function.update kernel.objects object { kernel.objects object with body := body } }

def openHandle (kernel : Kernel) (handle : HANDLE) (object : Nat) : Kernel :=
  { kernel with handles := (handle, object) :: kernel.handles }

def addObject (kernel : Kernel) (name : Option String) (body : Body) : Kernel :=
  { kernel with
    objects := Function.update kernel.objects kernel.next { name := name, body := body }
    next := kernel.next + 1 }

/-- A name in use by a live object of the same type opens that object; in use by
one of the other type it fails. A fresh object is made only otherwise. -/
def create (handle : HANDLE) (name : Option String) (body : Option Body)
    (sameType : Body → Bool) (kernel : Kernel) : HANDLE × Kernel :=
  match name.bind kernel.named with
  | some object =>
      if sameType (kernel.objects object).body then (handle, kernel.openHandle handle object)
      else (0, kernel)
  | none =>
      match body with
      | some body => (handle, (kernel.addObject name body).openHandle handle kernel.next)
      | none => (0, kernel)

def createSemaphore (handle : HANDLE) (initialCount : ULONG) (maximum : Nat)
    (name : Option String) (kernel : Kernel) : HANDLE × Kernel :=
  kernel.create handle name ((SemaphoreObject.create initialCount maximum).map .semaphore)
    Body.isSemaphore

def createMutexA (handle : HANDLE) (name : Option String) (kernel : Kernel) : HANDLE × Kernel :=
  kernel.create handle name (some (.mutex (.free false))) fun body => !body.isSemaphore

def waitForSingleObject (thread : Nat) (handle : HANDLE) (timeout : ULONG) (kernel : Kernel) :
    Option (WaitResult × Kernel) :=
  match kernel.lookup handle with
  | none => some (.failed, kernel)
  | some object =>
      match (kernel.objects object).body.wait thread timeout with
      | none => none
      | some (result, body) => some (result, kernel.setBody object body)

def releaseThrough (release : Body → Bool × Body) (handle : HANDLE) (kernel : Kernel) :
    Bool × Kernel :=
  match kernel.lookup handle with
  | none => (false, kernel)
  | some object =>
      let released := release (kernel.objects object).body
      (released.1, kernel.setBody object released.2)

def releaseSemaphore : HANDLE → Kernel → Bool × Kernel := releaseThrough Body.releaseSemaphore

def releaseMutex (thread : Nat) : HANDLE → Kernel → Bool × Kernel :=
  releaseThrough (Body.releaseMutex thread)

def closeHandle (handle : HANDLE) (kernel : Kernel) : Kernel :=
  { kernel with handles := kernel.handles.filter fun opened => opened.1 ≠ handle }

def Numbered (kernel : Kernel) : Prop := ∀ opened ∈ kernel.handles, opened.2 < kernel.next

theorem lookup_below {kernel : Kernel} (numbered : kernel.Numbered) {handle : HANDLE}
    {object : Nat} (found : kernel.lookup handle = some object) : object < kernel.next := by
  unfold lookup at found
  rcases List.lookup_eq_some_iff.mp found with ⟨before, after, split, _⟩
  apply numbered (handle, object)
  rw [split]
  simp

theorem setBody_self (kernel : Kernel) (object : Nat) (body : Body) :
    ((kernel.setBody object body).objects object).body = body := by
  simp [setBody]

theorem setBody_other (kernel : Kernel) {object other : Nat} (different : other ≠ object)
    (body : Body) : (kernel.setBody object body).objects other = kernel.objects other := by
  simp [setBody, different]

theorem closeHandle_lookup (kernel : Kernel) {handle other : HANDLE} (different : other ≠ handle) :
    (kernel.closeHandle handle).lookup other = kernel.lookup other := by
  simp only [lookup, closeHandle]
  induction kernel.handles with
  | nil => rfl
  | cons opened rest ih =>
      rcases opened with ⟨value, object⟩
      by_cases closed : value = handle
      · have missed : (other == value) = false := by
          rw [closed]
          exact beq_eq_false_iff_ne.mpr different
        rw [List.filter_cons_of_neg (by simp [closed]), ih, List.lookup_cons, missed]
      · rw [List.filter_cons_of_pos (by simp [closed]), List.lookup_cons, List.lookup_cons, ih]

theorem setBody_numbered {kernel : Kernel} (numbered : kernel.Numbered) (object : Nat)
    (body : Body) : (kernel.setBody object body).Numbered := numbered

theorem fresh_numbered {kernel : Kernel} (numbered : kernel.Numbered) (name : Option String)
    (body : Body) (handle : HANDLE) :
    ((kernel.addObject name body).openHandle handle kernel.next).Numbered := by
  intro opened member
  rcases List.mem_cons.mp member with rfl | before
  · exact Nat.lt_succ_self kernel.next
  · exact Nat.lt_succ_of_lt (numbered opened before)

theorem closeHandle_numbered {kernel : Kernel} (numbered : kernel.Numbered) (handle : HANDLE) :
    (kernel.closeHandle handle).Numbered := by
  intro opened member
  exact numbered opened (List.mem_filter.mp member).1

theorem openHandle_lookup (kernel : Kernel) (handle : HANDLE) (object : Nat) :
    (kernel.openHandle handle object).lookup handle = some object := by
  simp [lookup, openHandle]

theorem openHandle_other (kernel : Kernel) {handle other : HANDLE} (different : other ≠ handle)
    (object : Nat) : (kernel.openHandle handle object).lookup other = kernel.lookup other := by
  have missed : (other == handle) = false := beq_eq_false_iff_ne.mpr different
  rw [lookup, openHandle, List.lookup_cons, missed]
  rfl

theorem create_fresh {handle : HANDLE} {name : Option String} {body : Body}
    (sameType : Body → Bool) {kernel : Kernel} (unused : name.bind kernel.named = none) :
    kernel.create handle name (some body) sameType =
      (handle, (kernel.addObject name body).openHandle handle kernel.next) := by
  simp only [create, unused]

end Kernel

end UsbxNxdk.Win32
