import UsbxNxdk.NamedBlocks

/-! Control blocks with any names are holders of shared objects. -/

namespace UsbxNxdk.NamedBlocks

open Execution Win32 ControlBlocks BlockSystem SharedCells

/-! ### What a finished call leaves of the other blocks -/

section Finish

variable {system : System} {action : Action} {live : Bool}
  {returned : UINT × ControlBlock × Kernel}

theorem handleOf_own :
    handleOf (system.finish action live returned) action.address =
      if live then some returned.2.1.handle else none := by
  simp only [handleOf, System.finish, Function.update_self, Option.map_some]

theorem handleOf_other {other : Nat} (different : other ≠ action.address) :
    handleOf (system.finish action live returned) other = handleOf system other := by
  simp only [handleOf, System.finish, Function.update_of_ne different]

theorem kindOf_own :
    kindOf (system.finish action live returned) action.address =
      if live then some returned.2.1.isSemaphore else none := by
  simp only [kindOf, System.finish, Function.update_self, Option.map_some]

theorem kindOf_other {other : Nat} (different : other ≠ action.address) :
    kindOf (system.finish action live returned) other = kindOf system other := by
  simp only [kindOf, System.finish, Function.update_of_ne different]

theorem kindOf_finish :
    kindOf (system.finish action live returned) =
      Function.update (kindOf system) action.address
        (if live then some returned.2.1.isSemaphore else none) := by
  funext other
  by_cases own : other = action.address
  · rw [own, Function.update_self, kindOf_own]
  · rw [Function.update_of_ne own, kindOf_other own]

theorem present_finish (sharing : Sharing system) (address : Nat)
    (alive : (system.finish action live returned).live address = true) :
    ((system.finish action live returned).blocks address).isSome = true := by
  by_cases own : address = action.address
  · simp [System.finish, own]
  · simp only [System.finish, Function.update_of_ne own] at alive ⊢
    exact sharing.present address alive

theorem objectOf_other {other : Nat} (different : other ≠ action.address)
    (found : ∀ handle, handleOf system other = some handle →
      returned.2.2.lookup handle = system.kernel.lookup handle) :
    (system.finish action live returned).objectOf other = system.objectOf other := by
  rw [objectOf_handle, objectOf_handle, handleOf_other different]
  cases held : handleOf system other with
  | none => rfl
  | some handle => exact found handle held

end Finish

/-! ### A call that opens and closes no handle -/

structure SameNames (kernel other : Kernel) : Prop where
  handles : other.handles = kernel.handles
  next : other.next = kernel.next
  names : ∀ object, (other.objects object).name = (kernel.objects object).name

theorem sameNames_refl (kernel : Kernel) : SameNames kernel kernel := ⟨rfl, rfl, fun _ => rfl⟩

theorem sameNames_setBody (kernel : Kernel) (object : Nat) (body : Body) :
    SameNames kernel (kernel.setBody object body) := by
  refine ⟨rfl, rfl, ?_⟩
  intro other
  by_cases same : other = object
  · simp [same, Kernel.setBody]
  · rw [Kernel.setBody_other kernel same]

section Kept

variable {system : System} {action : Action} {returned : UINT × ControlBlock × Kernel}

structure KeepsBlock (system : System) (address : Nat) (block : ControlBlock) : Prop where
  handle : handleOf system address = some block.handle
  kind : kindOf system address = some block.isSemaphore

theorem kept_handles (keeps : KeepsBlock system action.address returned.2.1) :
    handleOf (system.finish action true returned) = handleOf system := by
  funext other
  by_cases own : other = action.address
  · rw [own, handleOf_own, if_pos rfl, keeps.handle]
  · exact handleOf_other own

theorem kept_kinds (keeps : KeepsBlock system action.address returned.2.1) :
    kindOf (system.finish action true returned) = kindOf system := by
  rw [kindOf_finish, if_pos rfl, ← keeps.kind, Function.update_eq_self]

theorem kept_objectOf (keeps : KeepsBlock system action.address returned.2.1)
    (same : SameNames system.kernel returned.2.2) :
    (system.finish action true returned).objectOf = system.objectOf := by
  have found : returned.2.2.lookup = system.kernel.lookup := by
    funext handle
    rw [Kernel.lookup, Kernel.lookup, same.handles]
  funext address
  rw [objectOf_handle, objectOf_handle, kept_handles keeps]
  exact congrArg _ found

theorem kept_bound (keeps : KeepsBlock system action.address returned.2.1)
    (same : SameNames system.kernel returned.2.2) :
    boundTo (system.finish action true returned) = boundTo system := by
  funext address
  rw [boundTo, boundTo, kept_objectOf keeps same]
  cases system.objectOf address with
  | none => rfl
  | some object => exact congrArg (fun name => some (keyOf address name)) (same.names object)

theorem kept_sharing (sharing : Sharing system)
    (keeps : KeepsBlock system action.address returned.2.1)
    (same : SameNames system.kernel returned.2.2) :
    Sharing (system.finish action true returned) := by
  have kernel : (system.finish action true returned).kernel = returned.2.2 := rfl
  constructor
  · rw [kernel]
    intro opened member
    rw [same.handles] at member
    rw [same.next]
    exact sharing.numbered opened member
  · rw [kernel, same.handles]
    exact sharing.distinct
  · rw [kernel, same.handles]
    exact sharing.nonNull
  · exact present_finish sharing
  · rw [kept_handles keeps, kernel]
    intro address handle held nonNull
    rw [Kernel.lookup, same.handles]
    exact sharing.opens address handle held nonNull
  · rw [kept_handles keeps, kernel, same.handles]
    exact sharing.owned
  · rw [kept_handles keeps]
    exact sharing.apart
  · simp only [kernel, same.handles, same.names]
    exact sharing.named
  · simp only [kernel, same.handles, same.names]
    exact sharing.unnamed

end Kept

theorem failed_stands {system : System} {store : BlockStore} {action : Action}
    {status : UINT} {block : ControlBlock} (stands : Stands system store)
    (keeps : KeepsBlock system action.address block) :
    Stands (system.finish action true (status, block, system.kernel)) store := by
  have same := sameNames_refl system.kernel
  constructor
  · rw [kept_kinds keeps]
    exact stands.kind
  · rw [kept_bound keeps same]
    exact stands.bound
  · intro address
    rw [System.standing, kept_objectOf keeps same]
    exact stands.cell address

theorem touched_stands {system : System} {store : BlockStore} {action : Action}
    {returned : UINT × ControlBlock × Kernel} {object : Nat} {body : Body}
    (sharing : Sharing system) (stands : Stands system store)
    (keeps : KeepsBlock system action.address returned.2.1)
    (behind : system.objectOf action.address = some object)
    (kernel : returned.2.2 = system.kernel.setBody object body) :
    Stands (system.finish action true returned)
      { store with shared := store.shared.write action.address body } := by
  have same : SameNames system.kernel returned.2.2 := by
    rw [kernel]
    exact sameNames_setBody system.kernel object body
  have ownKey : store.shared.bound action.address =
      some (keyOf action.address (system.kernel.objects object).name) := by
    rw [stands.bound, boundTo, behind, Option.map_some]
  constructor
  · rw [kept_kinds keeps]
    exact stands.kind
  · rw [kept_bound keeps same]
    exact stands.bound
  · intro address
    have found : (system.finish action true returned).standing address =
        (system.objectOf address).map fun object => (returned.2.2.objects object).body := by
      rw [System.standing, kept_objectOf keeps same]
      rfl
    rw [found, kernel]
    cases others : system.objectOf address with
    | none =>
        have unbound : store.shared.bound address = none := by
          rw [stands.bound, boundTo, others, Option.map_none]
        have apart : store.shared.bound address ≠ store.shared.bound action.address := by
          rw [unbound, ownKey]
          exact (Option.some_ne_none _).symm
        rw [Store.write_apart _ apart, stands.cell, System.standing, others]
        rfl
    | some other =>
        have otherKey : store.shared.bound address =
            some (keyOf address (system.kernel.objects other).name) := by
          rw [stands.bound, boundTo, others, Option.map_some]
        have keys := keyOf_same sharing others behind
        rw [Option.map_some]
        by_cases shares : other = object
        · rw [keys.mpr shares] at otherKey
          rw [Store.write_shared _ ownKey otherKey, shares, Kernel.setBody_self]
        · have apart : store.shared.bound address ≠ store.shared.bound action.address := by
            rw [otherKey, ownKey]
            intro equal
            exact shares (keys.mp (Option.some.inj equal))
          rw [Store.write_apart _ apart, stands.cell, standing_object others,
            Kernel.setBody_other _ shares]

/-! ### A create that gets no handle -/

section Refused

variable {system : System} {action : Action} {status : UINT} {block : ControlBlock}

theorem refused_objectOf (status : UINT) (sharing : Sharing system)
    (unheld : handleOf system action.address = none) (null : block.handle = 0) :
    (system.finish action true (status, block, system.kernel)).objectOf = system.objectOf := by
  funext address
  by_cases own : address = action.address
  · rw [own, objectOf_handle, objectOf_handle, handleOf_own, if_pos rfl, null, unheld]
    calc
      system.kernel.lookup 0 = none := lookup_null sharing
      _ = (none : Option HANDLE).bind system.kernel.lookup := rfl
  · exact objectOf_other own fun _ _ => rfl

theorem refused_sharing (sharing : Sharing system)
    (unheld : handleOf system action.address = none) (null : block.handle = 0) :
    Sharing (system.finish action true (status, block, system.kernel)) := by
  have own : ∀ address handle, handle ≠ 0 →
      handleOf (system.finish action true (status, block, system.kernel)) address = some handle →
      handleOf system address = some handle := by
    intro address handle nonNull held
    by_cases same : address = action.address
    · rw [same, handleOf_own, if_pos rfl, null] at held
      exact absurd (Option.some.inj held).symm nonNull
    · rw [handleOf_other same] at held
      exact held
  constructor
  · exact sharing.numbered
  · exact sharing.distinct
  · exact sharing.nonNull
  · exact present_finish sharing
  · intro address handle held nonNull
    exact sharing.opens address handle (own address handle nonNull held) nonNull
  · intro opened member
    rcases sharing.owned opened member with ⟨address, held⟩
    have different : address ≠ action.address := by
      intro same
      rw [same, unheld] at held
      cases held
    exact ⟨address, (handleOf_other different).trans held⟩
  · intro first second handle firstHeld secondHeld nonNull
    exact sharing.apart first second handle (own first handle nonNull firstHeld)
      (own second handle nonNull secondHeld) nonNull
  · exact sharing.named
  · exact sharing.unnamed

theorem refused_stands {store : BlockStore} (sharing : Sharing system)
    (stands : Stands system store) (unheld : handleOf system action.address = none)
    (null : block.handle = 0) :
    Stands (system.finish action true (status, block, system.kernel))
      { store with
        kind := Function.update store.kind action.address (some block.isSemaphore) } := by
  have same := refused_objectOf status sharing unheld null
  constructor
  · rw [kindOf_finish, if_pos rfl, funext stands.kind]
    exact fun _ => rfl
  · intro address
    rw [boundTo, same]
    exact stands.bound address
  · intro address
    rw [System.standing, same]
    exact stands.cell address

end Refused

/-! ### A create that gets a handle -/

/-- One handle more, on an object that no other handle is open on, or that they
are open on under its name. -/
structure Opened (kernel : Kernel) (handle : HANDLE) (object : Nat) (after : Kernel) : Prop where
  handles : after.handles = (handle, object) :: kernel.handles
  below : object < after.next
  grows : kernel.next ≤ after.next
  keeps : ∀ opened ∈ kernel.handles, after.objects opened.2 = kernel.objects opened.2
  meets : ∀ opened ∈ kernel.handles, ∀ name, (after.objects object).name = some name →
    (kernel.objects opened.2).name = some name → opened.2 = object
  own : ∀ opened ∈ kernel.handles, opened.2 = object → (after.objects object).name ≠ none

theorem opened_named (handle : HANDLE) {kernel : Kernel} {name : String} {object : Nat}
    (numbered : kernel.Numbered)
    (distinct : ∀ first ∈ kernel.handles, ∀ second ∈ kernel.handles, ∀ name,
      (kernel.objects first.2).name = some name →
      (kernel.objects second.2).name = some name → first.2 = second.2)
    (found : kernel.named name = some object) :
    Opened kernel handle object (kernel.openHandle handle object) := by
  rcases named_some found with ⟨opened, member, rfl, bears⟩
  constructor
  · rfl
  · exact numbered opened member
  · exact Nat.le_refl kernel.next
  · exact fun _ _ => rfl
  · intro other otherMember name' same otherBears
    exact distinct other otherMember opened member name' otherBears same
  · intro other _ _ unnamed
    exact Option.some_ne_none name (bears.symm.trans unnamed)

theorem opened_fresh (handle : HANDLE) {kernel : Kernel} {name : Option String} (body : Body)
    (numbered : kernel.Numbered) (unused : name.bind kernel.named = none) :
    Opened kernel handle kernel.next
      ((kernel.addObject name body).openHandle handle kernel.next) := by
  have made : (((kernel.addObject name body).openHandle handle kernel.next).objects
      kernel.next).name = name := by
    simp [Kernel.openHandle, Kernel.addObject]
  constructor
  · rfl
  · exact Nat.lt_succ_self kernel.next
  · exact Nat.le_succ kernel.next
  · intro opened member
    have older := Nat.ne_of_lt (numbered opened member)
    exact Function.update_of_ne older _ _
  · intro opened member other bears same
    rw [made] at bears
    rw [bears] at unused
    exact absurd same (named_none unused member)
  · intro opened member same
    exact absurd same (Nat.ne_of_lt (numbered opened member))

section Made

variable {system : System} {action : Action} {handle : HANDLE} {object : Nat}
  {returned : UINT × ControlBlock × Kernel}

theorem made_lookup (sharing : Sharing system) (given : system.canGive handle)
    (opened : Opened system.kernel handle object returned.2.2) {address : Nat} {other : HANDLE}
    (held : handleOf system address = some other) :
    other ≠ handle ∧ returned.2.2.lookup other = system.kernel.lookup other := by
  have different : other ≠ handle := by
    intro same
    rw [same] at held
    have present := sharing.opens address handle held given.1
    rw [given.2] at present
    cases present
  refine ⟨different, ?_⟩
  have missed : (other == handle) = false := beq_eq_false_iff_ne.mpr different
  rw [Kernel.lookup, Kernel.lookup, opened.handles, List.lookup_cons, missed]

theorem made_objectOf (action : Action) (sharing : Sharing system) (given : system.canGive handle)
    (opened : Opened system.kernel handle object returned.2.2)
    (holds : returned.2.1.handle = handle) :
    (system.finish action true returned).objectOf =
      Function.update system.objectOf action.address (some object) := by
  funext address
  by_cases own : address = action.address
  · rw [own, Function.update_self, objectOf_handle, handleOf_own, if_pos rfl, holds]
    calc
      returned.2.2.lookup handle = ((handle, object) :: system.kernel.handles).lookup handle := by
        rw [Kernel.lookup, opened.handles]
      _ = some object := List.lookup_cons_self
  · rw [Function.update_of_ne own]
    exact objectOf_other own fun other held => (made_lookup sharing given opened held).2

theorem made_distinct (sharing : Sharing system) (given : system.canGive handle)
    (opened : Opened system.kernel handle object returned.2.2) :
    (returned.2.2.handles.map Prod.fst).Nodup := by
  rw [opened.handles, List.map_cons, List.nodup_cons]
  refine ⟨?_, sharing.distinct⟩
  intro listed
  rcases List.mem_map.mp listed with ⟨other, member, same⟩
  have found := mem_lookup sharing.distinct member
  rw [same, given.2] at found
  cases found

theorem made_held (sharing : Sharing system) (given : system.canGive handle)
    (opened : Opened system.kernel handle object returned.2.2)
    (holds : returned.2.1.handle = handle) {address : Nat} {other : HANDLE}
    (holding : handleOf (system.finish action true returned) address = some other) :
    (address = action.address ∧ other = handle) ∨
      (address ≠ action.address ∧ other ≠ handle ∧ handleOf system address = some other) := by
  by_cases own : address = action.address
  · rw [own, handleOf_own, if_pos rfl, holds] at holding
    exact Or.inl ⟨own, (Option.some.inj holding).symm⟩
  · rw [handleOf_other own] at holding
    exact Or.inr ⟨own, (made_lookup sharing given opened holding).1, holding⟩

theorem made_opens (sharing : Sharing system) (given : system.canGive handle)
    (opened : Opened system.kernel handle object returned.2.2)
    (holds : returned.2.1.handle = handle) {address : Nat} {other : HANDLE}
    (holding : handleOf (system.finish action true returned) address = some other)
    (nonNull : other ≠ 0) : (returned.2.2.lookup other).isSome = true := by
  rcases made_held sharing given opened holds holding with ⟨_, rfl⟩ | ⟨_, _, before⟩
  · rw [Kernel.lookup, opened.handles, List.lookup_cons_self]
    rfl
  · rw [(made_lookup sharing given opened before).2]
    exact sharing.opens address other before nonNull

theorem made_owned (sharing : Sharing system) (unheld : handleOf system action.address = none)
    (holds : returned.2.1.handle = handle) {other : HANDLE × Nat}
    (member : other ∈ (handle, object) :: system.kernel.handles) :
    ∃ address, handleOf (system.finish action true returned) address = some other.1 := by
  rcases List.mem_cons.mp member with rfl | before
  · refine ⟨action.address, ?_⟩
    rw [handleOf_own, if_pos rfl, holds]
  · rcases sharing.owned other before with ⟨address, holding⟩
    have different : address ≠ action.address := by
      intro same
      rw [same, unheld] at holding
      cases holding
    exact ⟨address, (handleOf_other different).trans holding⟩

theorem made_apart (sharing : Sharing system) (given : system.canGive handle)
    (opened : Opened system.kernel handle object returned.2.2)
    (holds : returned.2.1.handle = handle) {first second : Nat} {other : HANDLE}
    (firstHolding : handleOf (system.finish action true returned) first = some other)
    (secondHolding : handleOf (system.finish action true returned) second = some other)
    (nonNull : other ≠ 0) : first = second := by
  rcases made_held sharing given opened holds firstHolding with ⟨rfl, own⟩ | ⟨_, older, before⟩
  · rcases made_held sharing given opened holds secondHolding with ⟨rfl, _⟩ | ⟨_, older, _⟩
    · rfl
    · exact absurd own older
  · rcases made_held sharing given opened holds secondHolding with ⟨_, own⟩ | ⟨_, _, also⟩
    · exact absurd own older
    · exact sharing.apart first second other before also nonNull

theorem made_named (sharing : Sharing system)
    (opened : Opened system.kernel handle object returned.2.2) {first second : HANDLE × Nat}
    (firstMember : first ∈ (handle, object) :: system.kernel.handles)
    (secondMember : second ∈ (handle, object) :: system.kernel.handles) (name : String)
    (firstBears : (returned.2.2.objects first.2).name = some name)
    (secondBears : (returned.2.2.objects second.2).name = some name) : first.2 = second.2 := by
  rcases List.mem_cons.mp firstMember with rfl | firstOld
  · rcases List.mem_cons.mp secondMember with rfl | secondOld
    · rfl
    · rw [opened.keeps second secondOld] at secondBears
      exact (opened.meets second secondOld name firstBears secondBears).symm
  · rw [opened.keeps first firstOld] at firstBears
    rcases List.mem_cons.mp secondMember with rfl | secondOld
    · exact opened.meets first firstOld name secondBears firstBears
    · rw [opened.keeps second secondOld] at secondBears
      exact sharing.named first firstOld second secondOld name firstBears secondBears

theorem made_unnamed (sharing : Sharing system)
    (opened : Opened system.kernel handle object returned.2.2) {first second : HANDLE × Nat}
    (firstMember : first ∈ (handle, object) :: system.kernel.handles)
    (secondMember : second ∈ (handle, object) :: system.kernel.handles)
    (unnamed : (returned.2.2.objects first.2).name = none) (same : first.2 = second.2) :
    first = second := by
  rcases List.mem_cons.mp firstMember with rfl | firstOld
  · rcases List.mem_cons.mp secondMember with rfl | secondOld
    · rfl
    · exact absurd unnamed (opened.own second secondOld same.symm)
  · rcases List.mem_cons.mp secondMember with rfl | secondOld
    · rw [same] at unnamed
      exact absurd unnamed (opened.own first firstOld same)
    · rw [opened.keeps first firstOld] at unnamed
      exact sharing.unnamed first firstOld second secondOld unnamed same

theorem made_sharing (sharing : Sharing system) (given : system.canGive handle)
    (unheld : handleOf system action.address = none)
    (opened : Opened system.kernel handle object returned.2.2)
    (holds : returned.2.1.handle = handle) :
    Sharing (system.finish action true returned) := by
  have kernel : (system.finish action true returned).kernel = returned.2.2 := rfl
  constructor
  · intro other member
    rw [kernel, opened.handles] at member
    rcases List.mem_cons.mp member with rfl | before
    · exact opened.below
    · exact Nat.lt_of_lt_of_le (sharing.numbered other before) opened.grows
  · exact made_distinct sharing given opened
  · rw [kernel, opened.handles]
    intro other member
    rcases List.mem_cons.mp member with rfl | before
    · exact given.1
    · exact sharing.nonNull other before
  · exact present_finish sharing
  · exact fun _ _ => made_opens sharing given opened holds
  · rw [kernel, opened.handles]
    exact fun _ => made_owned sharing unheld holds
  · exact fun _ _ _ => made_apart sharing given opened holds
  · rw [kernel, opened.handles]
    exact fun _ firstMember _ => made_named sharing opened firstMember
  · rw [kernel, opened.handles]
    exact fun _ firstMember _ => made_unnamed sharing opened firstMember

theorem made_keeps (opened : Opened system.kernel handle object returned.2.2) {address other : Nat}
    (found : system.objectOf address = some other) :
    returned.2.2.objects other = system.kernel.objects other := by
  rcases objectOf_opened found with ⟨_, _, member⟩
  exact opened.keeps _ member

theorem made_boundTo (action : Action) (sharing : Sharing system) (given : system.canGive handle)
    (opened : Opened system.kernel handle object returned.2.2)
    (holds : returned.2.1.handle = handle) {address : Nat} (different : address ≠ action.address) :
    boundTo (system.finish action true returned) address = boundTo system address := by
  rw [boundTo, boundTo, made_objectOf action sharing given opened holds,
    Function.update_of_ne different]
  cases found : system.objectOf address with
  | none => rfl
  | some other =>
      exact congrArg (fun made => some (keyOf address made.name)) (made_keeps opened found)

theorem made_cell {store : BlockStore} (sharing : Sharing system) (stands : Stands system store)
    (given : system.canGive handle) (unheld : handleOf system action.address = none)
    (opened : Opened system.kernel handle object returned.2.2)
    (holds : returned.2.1.handle = handle) {address other : Nat}
    (own : address ≠ action.address) (found : system.objectOf address = some other) :
    (store.shared.bind action.address (keyOf action.address (returned.2.2.objects object).name)
        (returned.2.2.objects object).body).cellOf address =
      some (returned.2.2.objects other).body := by
  have behind := made_objectOf action sharing given opened holds
  have still : (system.finish action true returned).objectOf address = some other := by
    rw [behind, Function.update_of_ne own, found]
  have mine : (system.finish action true returned).objectOf action.address = some object := by
    rw [behind, Function.update_self]
  have bound : store.shared.bound address =
      some (keyOf address (returned.2.2.objects other).name) := by
    rw [stands.bound, boundTo, found, Option.map_some, made_keeps opened found]
  have keys : keyOf address (returned.2.2.objects other).name =
      keyOf action.address (returned.2.2.objects object).name ↔ other = object :=
    keyOf_same (made_sharing sharing given unheld opened holds) still mine
  by_cases shares : other = object
  · rw [keys.mpr shares] at bound
    rw [Store.bind_shared _ own bound, shares]
  · have apart : store.shared.bound address ≠
        some (keyOf action.address (returned.2.2.objects object).name) := by
      rw [bound]
      intro same
      exact shares (keys.mp (Option.some.inj same))
    rw [Store.bind_apart _ own apart, stands.cell, standing_object found]
    exact congrArg (fun made => some made.body) (made_keeps opened found).symm

theorem made_stands {store : BlockStore} (sharing : Sharing system)
    (stands : Stands system store) (given : system.canGive handle)
    (unheld : handleOf system action.address = none)
    (opened : Opened system.kernel handle object returned.2.2)
    (holds : returned.2.1.handle = handle) :
    Stands (system.finish action true returned)
      { kind := Function.update store.kind action.address (some returned.2.1.isSemaphore)
        shared := store.shared.bind action.address
          (keyOf action.address (returned.2.2.objects object).name)
          (returned.2.2.objects object).body } := by
  have behind := made_objectOf action sharing given opened holds
  constructor
  · rw [kindOf_finish, if_pos rfl, funext stands.kind]
    exact fun _ => rfl
  · intro address
    by_cases own : address = action.address
    · rw [own, Store.bind_bound, Function.update_self, boundTo, behind, Function.update_self]
      rfl
    · rw [Store.bind_bound, Function.update_of_ne own,
        made_boundTo action sharing given opened holds own]
      exact stands.bound address
  · intro address
    by_cases own : address = action.address
    · rw [own, Store.bind_own, System.standing, behind, Function.update_self]
      rfl
    · cases found : system.objectOf address with
      | none =>
          have unbound : store.shared.bound address = none := by
            rw [stands.bound, boundTo, found, Option.map_none]
          have apart : store.shared.bound address ≠
              some (keyOf action.address (returned.2.2.objects object).name) := by
            rw [unbound]
            exact (Option.some_ne_none _).symm
          rw [Store.bind_apart _ own apart, stands.cell, System.standing, System.standing, behind,
            Function.update_of_ne own, found]
          rfl
      | some other =>
          have still : (system.finish action true returned).objectOf address = some other := by
            rw [behind, Function.update_of_ne own, found]
          rw [standing_object still]
          exact made_cell sharing stands given unheld opened holds own found

end Made

/-! ### A delete -/

section Deleted

variable {system : System} {action : Action} {status : UINT} {block after : ControlBlock}

theorem deleted_lookup (sharing : Sharing system)
    (held : handleOf system action.address = some block.handle) {address : Nat} {other : HANDLE}
    (different : address ≠ action.address) (holding : handleOf system address = some other) :
    (system.kernel.closeHandle block.handle).lookup other = system.kernel.lookup other := by
  by_cases same : other = block.handle
  · have null : block.handle = 0 := by
      by_contra nonNull
      rw [same] at holding
      exact different (sharing.apart address action.address block.handle holding held nonNull)
    have every : (system.kernel.closeHandle block.handle).handles = system.kernel.handles := by
      apply List.filter_eq_self.mpr
      intro opened member
      rw [null]
      exact decide_eq_true (sharing.nonNull opened member)
    rw [Kernel.lookup, Kernel.lookup, every]
  · exact Kernel.closeHandle_lookup system.kernel same

theorem deleted_objectOf (status : UINT) (after : ControlBlock) (sharing : Sharing system)
    (held : handleOf system action.address = some block.handle) :
    (system.finish action false
      (status, after, system.kernel.closeHandle block.handle)).objectOf =
      Function.update system.objectOf action.address none := by
  funext address
  by_cases own : address = action.address
  · rw [own, Function.update_self, objectOf_handle, handleOf_own, if_neg Bool.false_ne_true]
    rfl
  · rw [Function.update_of_ne own]
    exact objectOf_other own fun other holding => deleted_lookup sharing held own holding

theorem deleted_sharing (sharing : Sharing system)
    (held : handleOf system action.address = some block.handle) :
    Sharing (system.finish action false
      (status, after, system.kernel.closeHandle block.handle)) := by
  have remains : ∀ address other,
      handleOf (system.finish action false
        (status, after, system.kernel.closeHandle block.handle)) address = some other →
      address ≠ action.address ∧ handleOf system address = some other := by
    intro address other holding
    by_cases own : address = action.address
    · rw [own, handleOf_own, if_neg Bool.false_ne_true] at holding
      cases holding
    · rw [handleOf_other own] at holding
      exact ⟨own, holding⟩
  have older : ∀ opened ∈ (system.kernel.closeHandle block.handle).handles,
      opened ∈ system.kernel.handles := fun _ member => (List.mem_filter.mp member).1
  constructor
  · exact Kernel.closeHandle_numbered sharing.numbered block.handle
  · exact sharing.distinct.sublist ((List.filter_sublist).map Prod.fst)
  · exact fun opened member => sharing.nonNull opened (older opened member)
  · exact present_finish sharing
  · intro address other holding nonNull
    rcases remains address other holding with ⟨different, before⟩
    have found := deleted_lookup sharing held different before
    exact (congrArg Option.isSome found).trans (sharing.opens address other before nonNull)
  · intro opened member
    rcases sharing.owned opened (older opened member) with ⟨address, holding⟩
    have different : address ≠ action.address := by
      intro same
      rw [same, held] at holding
      have closed := of_decide_eq_true (List.mem_filter.mp member).2
      exact closed (Option.some.inj holding).symm
    exact ⟨address, (handleOf_other different).trans holding⟩
  · intro first second other firstHolding secondHolding nonNull
    exact sharing.apart first second other (remains first other firstHolding).2
      (remains second other secondHolding).2 nonNull
  · intro first firstMember second secondMember
    exact sharing.named first (older first firstMember) second (older second secondMember)
  · intro first firstMember second secondMember
    exact sharing.unnamed first (older first firstMember) second (older second secondMember)

theorem deleted_stands {store : BlockStore} (sharing : Sharing system)
    (stands : Stands system store)
    (held : handleOf system action.address = some block.handle) :
    Stands (system.finish action false
        (status, after, system.kernel.closeHandle block.handle))
      { kind := Function.update store.kind action.address none
        shared := store.shared.unbind action.address } := by
  have behind := deleted_objectOf status after sharing held
  constructor
  · rw [kindOf_finish, if_neg Bool.false_ne_true, funext stands.kind]
    exact fun _ => rfl
  · intro address
    rw [Store.unbind_bound, boundTo, behind]
    by_cases own : address = action.address
    · rw [own, Function.update_self, Function.update_self]
      rfl
    · rw [Function.update_of_ne own, Function.update_of_ne own]
      exact stands.bound address
  · intro address
    rw [System.standing, behind]
    by_cases own : address = action.address
    · rw [own, Function.update_self, Store.cellOf, Store.unbind_bound, Function.update_self]
      rfl
    · rw [Function.update_of_ne own, Store.unbind_other _ own]
      exact stands.cell address

end Deleted

end UsbxNxdk.NamedBlocks
