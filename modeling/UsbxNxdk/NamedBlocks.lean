import UsbxNxdk.BlockIsolation
import UsbxNxdk.SharedCells

/-! Control blocks whose names may repeat: what each call does to the objects
that live blocks share. -/

namespace UsbxNxdk.NamedBlocks

open Execution Win32 ControlBlocks BlockSystem SharedCells

/-- A name stands for one object; without a name a block has an object of its
own. -/
inductive Key where
  | named (name : String)
  | alone (address : Nat)
  deriving DecidableEq, Repr

def keyOf (address : Nat) : Option String → Key
  | some name => .named name
  | none => .alone address

inductive Request where
  | create (address : Nat) (semaphore : Bool) (name : Option String) (body : Option Body)
  | get (address thread : Nat) (waitOption : ULONG)
  | put (address thread : Nat)
  | delete (address : Nat)
  deriving DecidableEq, Repr

def requested : Action → Request
  | .semaphoreCreate address _ name initialCount =>
      .create address true name
        ((SemaphoreObject.create initialCount semaphoreMaximum).map .semaphore)
  | .mutexCreate address _ name => .create address false name (some (.mutex (.free false)))
  | .get address thread waitOption => .get address thread waitOption
  | .put address thread => .put address thread
  | .delete address => .delete address

/-- The live blocks with their types, and the objects they share. -/
structure BlockStore where
  kind : Nat → Option Bool
  shared : Store Nat Key Body

def BlockStore.empty : BlockStore := { kind := fun _ => none, shared := Store.empty }

def releaseOf (semaphore : Bool) (thread : Nat) : Body → Bool × Body :=
  if semaphore then Body.releaseSemaphore else Body.releaseMutex thread

def refusal (semaphore : Bool) : UINT := if semaphore then txSemaphoreError else txMutexError

def offered (found body : Option Body) (semaphore : Bool) : Option Body :=
  match found with
  | some body => if body.isSemaphore = semaphore then some body else none
  | none => body

/-- The store answers a request; a get that stays blocked is not answered. A
create that is offered no object reports success all the same, and leaves a
block on which every get and put fails. -/
noncomputable def serve (store : BlockStore) : Request → Option (UINT × BlockStore)
  | .create address semaphore name body =>
      let key := keyOf address name
      some (txSuccess,
        { kind := Function.update store.kind address (some semaphore)
          shared :=
            match offered (store.shared.cells key) body semaphore with
            | some body => store.shared.bind address key body
            | none => store.shared })
  | .get address thread waitOption =>
      match store.shared.cellOf address with
      | none => some (txMutexError, store)
      | some body =>
          match body.wait thread waitOption with
          | none => none
          | some (result, body) =>
              some (waitStatus result, { store with shared := store.shared.write address body })
  | .put address thread =>
      match store.kind address with
      | none => none
      | some semaphore =>
          match store.shared.cellOf address with
          | none => some (refusal semaphore, store)
          | some body =>
              let released := releaseOf semaphore thread body
              some (if released.1 then txSuccess else refusal semaphore,
                { store with shared := store.shared.write address released.2 })
  | .delete address =>
      some (txSuccess,
        { kind := Function.update store.kind address none
          shared := store.shared.unbind address })

noncomputable def answer (answered : List UINT × BlockStore) (request : Request) :
    Option (List UINT × BlockStore) :=
  match serve answered.2 request with
  | none => none
  | some (status, store) => some (answered.1 ++ [status], store)

/-- Creates are made on blocks that are not live, all other calls on live ones. -/
def Orderly (system : System) : Action → Prop
  | .semaphoreCreate address _ _ _ => system.live address = false
  | .mutexCreate address _ _ => system.live address = false
  | .get address _ _ => system.live address = true
  | .put address _ => system.live address = true
  | .delete address => system.live address = true

instance (system : System) : DecidablePred (Orderly system)
  | .semaphoreCreate _ _ _ _ => inferInstanceAs (Decidable (_ = _))
  | .mutexCreate _ _ _ => inferInstanceAs (Decidable (_ = _))
  | .get _ _ _ => inferInstanceAs (Decidable (_ = _))
  | .put _ _ => inferInstanceAs (Decidable (_ = _))
  | .delete _ => inferInstanceAs (Decidable (_ = _))

def handleOf (system : System) (address : Nat) : Option HANDLE :=
  if system.live address then (system.blocks address).map ControlBlock.handle else none

def kindOf (system : System) (address : Nat) : Option Bool :=
  if system.live address then (system.blocks address).map ControlBlock.isSemaphore else none

def boundTo (system : System) (address : Nat) : Option Key :=
  (system.objectOf address).map fun object => keyOf address (system.kernel.objects object).name

structure Stands (system : System) (store : BlockStore) : Prop where
  kind : ∀ address, store.kind address = kindOf system address
  bound : ∀ address, store.shared.bound address = boundTo system address
  cell : ∀ address, store.shared.cellOf address = system.standing address

structure Sharing (system : System) : Prop where
  numbered : system.kernel.Numbered
  distinct : (system.kernel.handles.map Prod.fst).Nodup
  nonNull : ∀ opened ∈ system.kernel.handles, opened.1 ≠ 0
  present : ∀ address, system.live address = true → (system.blocks address).isSome = true
  opens : ∀ address handle, handleOf system address = some handle → handle ≠ 0 →
    (system.kernel.lookup handle).isSome = true
  owned : ∀ opened ∈ system.kernel.handles, ∃ address,
    handleOf system address = some opened.1
  apart : ∀ first second handle, handleOf system first = some handle →
    handleOf system second = some handle → handle ≠ 0 → first = second
  named : ∀ first ∈ system.kernel.handles, ∀ second ∈ system.kernel.handles, ∀ name,
    (system.kernel.objects first.2).name = some name →
    (system.kernel.objects second.2).name = some name → first.2 = second.2
  unnamed : ∀ first ∈ system.kernel.handles, ∀ second ∈ system.kernel.handles,
    (system.kernel.objects first.2).name = none → first.2 = second.2 → first = second

/-! ### Handles and the objects behind them -/

theorem lookup_mem {kernel : Kernel} {handle : HANDLE} {object : Nat}
    (found : kernel.lookup handle = some object) : (handle, object) ∈ kernel.handles := by
  rcases List.lookup_eq_some_iff.mp found with ⟨before, after, split, _⟩
  rw [split]
  simp

theorem mem_lookup {kernel : Kernel} (distinct : (kernel.handles.map Prod.fst).Nodup)
    {handle : HANDLE} {object : Nat} (opened : (handle, object) ∈ kernel.handles) :
    kernel.lookup handle = some object := by
  have listed : handle ∈ kernel.handles.map Prod.fst := List.mem_map_of_mem opened
  cases found : kernel.lookup handle with
  | none =>
      have missing := List.lookup_eq_none_iff.mp found (handle, object) opened
      simp at missing
  | some other =>
      have member := lookup_mem found
      have same := List.inj_on_of_nodup_map distinct member opened rfl
      rw [Prod.mk.injEq] at same
      rw [same.2]

theorem lookup_null {system : System} (sharing : Sharing system) :
    system.kernel.lookup 0 = none := by
  cases found : system.kernel.lookup 0 with
  | none => rfl
  | some object => exact absurd rfl (sharing.nonNull _ (lookup_mem found))

theorem objectOf_handle (system : System) (address : Nat) :
    system.objectOf address = (handleOf system address).bind system.kernel.lookup := by
  rw [System.objectOf, handleOf]
  by_cases live : system.live address = true
  · rw [if_pos live, if_pos live]
    cases system.blocks address with
    | none => rfl
    | some block => rfl
  · rw [if_neg live, if_neg live]
    rfl

theorem objectOf_opened {system : System} {address object : Nat}
    (behind : system.objectOf address = some object) :
    ∃ handle, handleOf system address = some handle ∧
      (handle, object) ∈ system.kernel.handles := by
  rw [objectOf_handle] at behind
  rcases Option.bind_eq_some_iff.mp behind with ⟨handle, held, found⟩
  exact ⟨handle, held, lookup_mem found⟩

theorem opened_objectOf {system : System} (sharing : Sharing system) {opened : HANDLE × Nat}
    (member : opened ∈ system.kernel.handles) :
    ∃ address, system.objectOf address = some opened.2 := by
  rcases sharing.owned opened member with ⟨address, held⟩
  refine ⟨address, ?_⟩
  rw [objectOf_handle, held]
  exact mem_lookup sharing.distinct member

theorem standing_object {system : System} {address object : Nat}
    (behind : system.objectOf address = some object) :
    system.standing address = some (system.kernel.objects object).body := by
  rw [System.standing, behind, Option.map_some]

theorem keyOf_same {system : System} (sharing : Sharing system) {first second one other : Nat}
    (firstBehind : system.objectOf first = some one)
    (secondBehind : system.objectOf second = some other) :
    keyOf first (system.kernel.objects one).name =
        keyOf second (system.kernel.objects other).name ↔ one = other := by
  rcases objectOf_opened firstBehind with ⟨handle, held, opened⟩
  rcases objectOf_opened secondBehind with ⟨otherHandle, otherHeld, otherOpened⟩
  cases firstName : (system.kernel.objects one).name with
  | some name =>
      cases secondName : (system.kernel.objects other).name with
      | some otherName =>
          constructor
          · intro same
            cases same
            exact sharing.named _ opened _ otherOpened name firstName secondName
          · intro same
            rw [same, secondName] at firstName
            cases firstName
            rfl
      | none =>
          apply iff_of_false
          · intro same
            cases same
          · intro same
            rw [same, secondName] at firstName
            cases firstName
  | none =>
      cases secondName : (system.kernel.objects other).name with
      | some otherName =>
          apply iff_of_false
          · intro same
            cases same
          · intro same
            rw [same, secondName] at firstName
            cases firstName
      | none =>
          constructor
          · intro same
            cases same
            rw [firstBehind] at secondBehind
            exact Option.some.inj secondBehind
          · intro same
            have equal := sharing.unnamed _ opened _ otherOpened firstName same
            cases equal
            have nonNull := sharing.nonNull _ opened
            rw [sharing.apart first second handle held otherHeld nonNull]

theorem named_some {kernel : Kernel} {name : String} {object : Nat}
    (found : kernel.named name = some object) :
    ∃ opened ∈ kernel.handles, opened.2 = object ∧ (kernel.objects object).name = some name := by
  rcases Option.map_eq_some_iff.mp found with ⟨opened, first, rfl⟩
  have bears := List.find?_some first
  exact ⟨opened, List.mem_of_find?_eq_some first, rfl, of_decide_eq_true bears⟩

theorem named_none {kernel : Kernel} {name : String} (found : kernel.named name = none)
    {opened : HANDLE × Nat} (member : opened ∈ kernel.handles) :
    (kernel.objects opened.2).name ≠ some name := by
  have missing := List.find?_eq_none.mp (Option.map_eq_none_iff.mp found) opened member
  simpa using missing

end UsbxNxdk.NamedBlocks
