import UsbxNxdk.Win32
import Mathlib.Data.List.Basic
import Mathlib.Data.List.Nodup

/-! The handles open on kernel objects, and the object references taken besides
them. Each call carries the kernel's answer to it. -/

namespace UsbxNxdk.Win32

/-- A thread is known by its identifier and by the parameter of its start routine. -/
inductive KernelObject where
  | mutex
  | semaphore
  | thread (id : ULONG) (parameter : Nat)
  deriving DecidableEq, Repr

def KernelObject.identifier : KernelObject → Option ULONG
  | .mutex => none
  | .semaphore => none
  | .thread id _ => some id

structure HandleTable where
  opened : List (HANDLE × KernelObject)
  references : Nat
  deriving DecidableEq, Repr

theorem filter_distinct {Entry Value Key : Type} [DecidableEq Entry] [DecidableEq Key]
    (value : Entry → Value) (key : Value → Key) {entries : List Entry} {entry : Entry}
    (distinct : (entries.map fun other => key (value other)).Nodup) (member : entry ∈ entries) :
    (entries.map value).filter (fun other => key other ≠ key (value entry)) =
      (entries.erase entry).map value := by
  rw [List.filter_map, List.Nodup.erase_eq_filter (List.Nodup.of_map _ distinct)]
  congr 1
  apply List.filter_congr
  intro other listed
  by_cases same : other = entry
  · simp [same]
  · have different : key (value other) ≠ key (value entry) := fun equal =>
      same (List.inj_on_of_nodup_map distinct listed member equal)
    simp [same, different]

namespace HandleTable

def initial : HandleTable := { opened := [], references := 0 }

def isOpen (handles : HandleTable) (handle : HANDLE) : Prop :=
  handle ∈ handles.opened.map Prod.fst

instance (handles : HandleTable) (handle : HANDLE) : Decidable (handles.isOpen handle) :=
  inferInstanceAs (Decidable (_ ∈ _))

/-- A call that makes an object opens one handle on it; `NULL` says that it failed. -/
def makeObject (answer : HANDLE) (object : KernelObject) (handles : HandleTable) :
    HANDLE × HandleTable :=
  if answer = 0 then (0, handles)
  else (answer, { handles with opened := handles.opened ++ [(answer, object)] })

def createMutexA (answer : HANDLE) (_name : Option String) (handles : HandleTable) :
    HANDLE × HandleTable :=
  handles.makeObject answer .mutex

def createSemaphore (answer : HANDLE) (initialCount : ULONG) (maximum : Nat)
    (_name : Option String) (handles : HandleTable) : HANDLE × HandleTable :=
  handles.makeObject (if initialCount.toNat ≤ maximum then answer else 0) .semaphore

/-- The handle, and what the call has stored as the thread's identifier. -/
def createThread (answer : HANDLE) (id : ULONG) (parameter : Nat) (_flags : ULONG)
    (handles : HandleTable) : HANDLE × Option ULONG × HandleTable :=
  let made := handles.makeObject answer (.thread id parameter)
  (made.1, if answer = 0 then none else some id, made.2)

/-- A reference that succeeds is counted until the object is dereferenced; the
answer is the thread's stack limits. -/
def obReferenceObjectByHandle (answer : Option (ULONG × ULONG)) (handle : HANDLE)
    (handles : HandleTable) : Option (ULONG × ULONG) × HandleTable :=
  if handles.isOpen handle ∧ answer.isSome then
    (answer, { handles with references := handles.references + 1 })
  else (none, handles)

def waitForSingleObject (answer : WaitResult) (handle : HANDLE) (_timeout : ULONG)
    (handles : HandleTable) : WaitResult :=
  if handles.isOpen handle then answer else .failed

def releaseObject (answer : Bool) (handle : HANDLE) (handles : HandleTable) : Bool × HandleTable :=
  (if handles.isOpen handle then answer else false, handles)

def closeHandle (handle : HANDLE) (handles : HandleTable) : HandleTable :=
  { handles with opened := handles.opened.filter fun opened => opened.1 ≠ handle }

variable (handles : HandleTable)

theorem makeObject_null (object : KernelObject) : handles.makeObject 0 object = (0, handles) :=
  if_pos rfl

theorem makeObject_opened {answer : HANDLE} (made : answer ≠ 0) (object : KernelObject) :
    handles.makeObject answer object =
      (answer, { handles with opened := handles.opened ++ [(answer, object)] }) :=
  if_neg made

theorem makeObject_answer (answer : HANDLE) (object : KernelObject) :
    (handles.makeObject answer object).1 = answer := by
  by_cases null : answer = 0
  · rw [null, makeObject_null]
  · rw [makeObject_opened handles null]

theorem makeObject_references (answer : HANDLE) (object : KernelObject) :
    (handles.makeObject answer object).2.references = handles.references := by
  by_cases null : answer = 0
  · rw [null, makeObject_null]
  · rw [makeObject_opened handles null]

theorem makeObject_isOpen {answer : HANDLE} (made : answer ≠ 0) (object : KernelObject) :
    (handles.makeObject answer object).2.isOpen answer := by
  rw [makeObject_opened handles made, isOpen, List.map_append]
  exact List.mem_append_right _ (List.mem_singleton_self answer)

theorem close_opened (handle : HANDLE) :
    (handles.closeHandle handle).opened.map Prod.fst =
      (handles.opened.map Prod.fst).filter fun other => other ≠ handle := by
  rw [List.filter_map]
  rfl

theorem obReference_opened (answer : Option (ULONG × ULONG)) (handle : HANDLE) :
    (handles.obReferenceObjectByHandle answer handle).2.opened = handles.opened := by
  unfold obReferenceObjectByHandle
  by_cases referenced : handles.isOpen handle ∧ answer.isSome
  · rw [if_pos referenced]
  · rw [if_neg referenced]

end HandleTable

end UsbxNxdk.Win32
