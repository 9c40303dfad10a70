import UsbxNxdk.ObjectLifecycle

/-! What creations report about the kernel objects behind their blocks, and the
balance of handles and references over any history. -/

namespace UsbxNxdk.ObjectAccounts

open Execution Thread ThreadTable Win32 ControlBlocks ObjectLifecycle

/-- Every call on a live block passes the kernel a handle that is open. -/
def Backed (system : System) : Prop :=
  ∀ target ∈ system.live, system.handles.isOpen (system.handleOf target)

def Makes (action : Action) : Prop := action.created ≠ some 0

/-- A creation returns `TX_SUCCESS` if and only if an object stands behind the
block; after any other status the block has no valid identifier and the list of
threads is as before. -/
def Reported (system : System) (action : Action) : Prop :=
  action.created.isSome → ∀ returned, system.call action = some returned →
    (returned.1 = txSuccess ↔
        returned.2.handles.isOpen (returned.2.handleOf action.target)) ∧
      (returned.1 ≠ txSuccess →
        ¬ returned.2.ValidId action.target ∧
          returned.2.table.links = system.table.links)

structure Paired (system : System) : Prop where
  handles : (system.live.map system.handleOf).Nodup
  opened : system.handles.opened.map Prod.fst = system.live.map system.handleOf
  nonNull : ¬ system.handles.isOpen 0

theorem paired_backed {system : System} (paired : Paired system) : Backed system := by
  intro target listed
  rw [HandleTable.isOpen, paired.opened]
  exact List.mem_map_of_mem listed

theorem created_live {system : System} {action : Action} {handle : HANDLE}
    {returned : UINT × System} (made : action.created = some handle)
    (called : system.call action = some returned) (live : List Target) :
    action.liveAfter returned.1 live = live ++ [action.target] := by
  rw [Action.liveAfter, (call_created made called).status, made]
  rfl

theorem created_paired {system : System} {action : Action} {handle : HANDLE}
    {returned : UINT × System} (paired : Paired system) (made : action.created = some handle)
    (present : handle ≠ 0) (dead : action.target ∉ system.live)
    (closed : ¬ system.handles.isOpen handle) (called : system.call action = some returned) :
    Paired { returned.2 with live := action.liveAfter returned.1 system.live } := by
  have spec := call_created made called
  rcases spec.opened with ⟨object, opened⟩
  rw [HandleTable.makeObject_opened system.handles present] at opened
  have handles : (system.live ++ [action.target]).map returned.2.handleOf =
      system.live.map system.handleOf ++ [handle] := by
    rw [List.map_append, List.map_singleton, spec.own]
    congr 1
    apply List.map_congr_left
    intro other listed
    apply spec.others
    rintro rfl
    exact dead listed
  have names : returned.2.handles.opened.map Prod.fst =
      system.handles.opened.map Prod.fst ++ [handle] := by
    rw [opened, List.map_append, List.map_singleton]
  rw [created_live made called]
  constructor
  · change ((system.live ++ [action.target]).map returned.2.handleOf).Nodup
    have fresh : handle ∉ system.live.map system.handleOf := by
      rw [← paired.opened]
      exact closed
    rw [handles]
    simpa using List.Nodup.concat fresh paired.handles
  · change returned.2.handles.opened.map Prod.fst =
      (system.live ++ [action.target]).map returned.2.handleOf
    rw [names, handles, paired.opened]
  · change 0 ∉ returned.2.handles.opened.map Prod.fst
    rw [names]
    have absent := paired.nonNull
    simpa [HandleTable.isOpen, present.symm] using absent

theorem used_paired {system : System} {action : Action} {returned : UINT × System}
    (paired : Paired system) (made : action.created = none) (kept : action.deletes = false)
    (called : system.call action = some returned) :
    Paired { returned.2 with live := action.liveAfter returned.1 system.live } := by
  rcases call_used made kept called with ⟨handles, same⟩
  have live : action.liveAfter returned.1 system.live = system.live := by
    simp [Action.liveAfter, made, kept]
  have named : returned.2.handleOf = system.handleOf := funext same
  rw [live]
  constructor
  · change (system.live.map returned.2.handleOf).Nodup
    rw [named]
    exact paired.handles
  · change returned.2.handles.opened.map Prod.fst = system.live.map returned.2.handleOf
    rw [handles, named]
    exact paired.opened
  · change ¬ returned.2.handles.isOpen 0
    rw [handles]
    exact paired.nonNull

theorem deleted_paired {system : System} {action : Action} {returned : UINT × System}
    (paired : Paired system) (made : action.created = none) (deletes : action.deletes = true)
    (listed : action.target ∈ system.live) (called : system.call action = some returned) :
    Paired { returned.2 with live := action.liveAfter returned.1 system.live } := by
  rcases call_deleted deletes called with ⟨failed, same⟩ | ⟨status, handles, same⟩
  · rw [Action.liveAfter, if_neg failed, same]
    exact paired
  · have live : action.liveAfter returned.1 system.live = system.live.erase action.target := by
      simp [Action.liveAfter, status, made, deletes]
    have named : returned.2.handleOf = system.handleOf := funext same
    have remaining : returned.2.handles.opened.map Prod.fst =
        (system.live.erase action.target).map system.handleOf := by
      rw [handles, HandleTable.close_opened, paired.opened]
      exact filter_distinct system.handleOf id paired.handles listed
    have shorter : (system.live.erase action.target).Sublist system.live := List.erase_sublist
    rw [live]
    constructor
    · change ((system.live.erase action.target).map returned.2.handleOf).Nodup
      rw [named]
      exact List.Nodup.sublist (shorter.map system.handleOf) paired.handles
    · change returned.2.handles.opened.map Prod.fst =
        (system.live.erase action.target).map returned.2.handleOf
      rw [named]
      exact remaining
    · change 0 ∉ returned.2.handles.opened.map Prod.fst
      rw [remaining]
      intro null
      apply paired.nonNull
      rw [HandleTable.isOpen, paired.opened]
      exact (shorter.map system.handleOf).subset null

theorem paired_step {system next : System} {action : Action} (paired : Paired system)
    (makes : Makes action) (stepped : step system action = some next) : Paired next := by
  rcases step_some stepped with ⟨allowed, returned, called, rfl⟩
  unfold System.Allowed at allowed
  cases made : action.created with
  | some handle =>
      rw [made] at allowed
      have present : handle ≠ 0 := by
        rintro rfl
        exact makes made
      exact created_paired paired made present allowed.1 (allowed.2.resolve_left present) called
  | none =>
      rw [made] at allowed
      cases deletes : action.deletes with
      | false => exact used_paired paired made deletes called
      | true => exact deleted_paired paired made deletes allowed called

theorem initial_paired (blocks : Nat → Option BlockSystem.ControlBlock) (table : Table) :
    Paired (System.initial blocks table) where
  handles := List.nodup_nil
  opened := rfl
  nonNull := List.not_mem_nil

/-! ### Reports -/

theorem step_nonNull {system next : System} {action : Action}
    (nonNull : ¬ system.handles.isOpen 0) (stepped : step system action = some next) :
    ¬ next.handles.isOpen 0 := by
  rcases step_some stepped with ⟨_, returned, called, rfl⟩
  change 0 ∉ returned.2.handles.opened.map Prod.fst
  cases made : action.created with
  | some handle =>
      rcases (call_created made called).opened with ⟨object, opened⟩
      rw [opened]
      by_cases null : handle = 0
      · rw [null, HandleTable.makeObject_null]
        exact nonNull
      · rw [HandleTable.makeObject_opened system.handles null, List.map_append]
        have absent := nonNull
        simpa [HandleTable.isOpen, Ne.symm null] using absent
  | none =>
      cases deletes : action.deletes with
      | false =>
          rw [(call_used made deletes called).1]
          exact nonNull
      | true =>
          rcases call_deleted deletes called with ⟨_, same⟩ | ⟨_, handles, _⟩
          · rw [same]
            exact nonNull
          · rw [handles, HandleTable.close_opened]
            exact fun null => nonNull (List.mem_of_mem_filter null)

theorem reported_iff {system next : System} {action : Action}
    (nonNull : ¬ system.handles.isOpen 0) (stepped : step system action = some next) :
    Reported system action ↔ Makes action := by
  have absent := step_nonNull nonNull stepped
  rcases step_some stepped with ⟨_, returned, called, rfl⟩
  unfold Reported Makes
  cases made : action.created with
  | none =>
      constructor
      · intro _ null
        cases null
      · intro _ created
        cases created
  | some handle =>
      have spec := call_created made called
      constructor
      · intro reported null
        cases null
        have isOpen := (reported rfl returned called).1.mp spec.status
        rw [spec.own] at isOpen
        exact absent isOpen
      · intro makes _ other same
        rw [called] at same
        cases same
        have present : handle ≠ 0 := by
          rintro rfl
          exact makes rfl
        have isOpen : returned.2.handles.isOpen handle := by
          rcases spec.opened with ⟨object, opened⟩
          rw [HandleTable.isOpen, opened]
          exact HandleTable.makeObject_isOpen system.handles present object
        rw [spec.own]
        exact ⟨iff_of_true spec.status isOpen, fun failed => absurd spec.status failed⟩

theorem backed_makes {system next : System} {action : Action}
    (nonNull : ¬ system.handles.isOpen 0) (stepped : step system action = some next)
    (backed : Backed next) : Makes action := by
  have absent := step_nonNull nonNull stepped
  rcases step_some stepped with ⟨_, returned, called, rfl⟩
  intro made
  have isOpen := backed action.target (by
    rw [created_live made called]
    exact List.mem_append_right _ (List.mem_singleton_self _))
  have own : System.handleOf { returned.2 with
      live := action.liveAfter returned.1 system.live } action.target = 0 :=
    (call_created made called).own
  rw [own] at isOpen
  exact absent isOpen

/-- In every run, creations report the truth and every later call finds its
object exactly when the kernel serves every creation. -/
theorem creations_reported_iff (blocks : Nat → Option BlockSystem.ControlBlock) (table : Table)
    (schedule : List Action) :
    (Along step Reported (System.initial blocks table) schedule ∧
        Always step Backed (System.initial blocks table) schedule) ↔
      Along step (fun _ action => Makes action) (System.initial blocks table) schedule := by
  have nonNull : Always step (fun system => ¬ system.handles.isOpen 0)
      (System.initial blocks table) schedule :=
    always_invariant step _ (fun _ _ _ => step_nonNull) _ schedule
      (initial_paired blocks table).nonNull
  have backed : Always step Backed (System.initial blocks table) schedule ↔
      Along step (fun _ action => Makes action) (System.initial blocks table) schedule :=
    always_iff_along step Paired Backed _ (fun _ => paired_backed)
      (fun _ _ _ paired makes stepped => paired_step paired makes stepped)
      (fun _ _ _ paired stepped after => backed_makes paired.nonNull stepped after)
      _ schedule (initial_paired blocks table)
  have reported : Along step Reported (System.initial blocks table) schedule ↔
      Along step (fun _ action => Makes action) (System.initial blocks table) schedule := by
    refine along_iff_of_always step ?_ _ schedule nonNull
    intro _ _ _ absent stepped
    exact reported_iff absent stepped
  rw [reported, backed]
  exact and_self_iff

def unused : Table :=
  { links := ThreadStart.emptyList
    blocks := fun _ => ThreadStart.noBlock }

def overfull : Action := .semaphoreCreate 1 4 none 4097

theorem refused_semaphore_reported :
    (∃ returned, (System.initial (fun _ => none) unused).call overfull = some returned ∧
      returned.1 = txSuccess ∧ returned.2.handleOf (.block 1) = 0 ∧
      returned.2.ValidId (.block 1)) ∧
    ¬ (Along step Reported (System.initial (fun _ => none) unused) [overfull] ∧
      Always step Backed (System.initial (fun _ => none) unused) [overfull]) := by
  constructor
  · exact ⟨_, rfl, rfl, rfl, rfl⟩
  · rintro ⟨_, backed⟩
    have after := always_head step Backed _ _ (backed.2 _ rfl)
    have isOpen := after (.block 1) (List.mem_singleton_self _)
    exact absurd isOpen (by decide)

/-! ### Balance -/

/-- Open handles and object references together are as many as live blocks. -/
def Balanced (system : System) : Prop :=
  system.handles.opened.length + system.handles.references = system.live.length

/-- The call's `ObReferenceObjectByHandle` succeeds. -/
def TakesReference : Action → Prop
  | .threadCreate _ _ answers => answers.stackLimits.isSome
  | _ => False

instance (action : Action) : Decidable (Makes action) := inferInstanceAs (Decidable (_ ≠ _))

instance (action : Action) : Decidable (TakesReference action) := by
  cases action <;> unfold TakesReference <;> infer_instance

def successfulStep (system : System) (action : Action) : Option System :=
  if Makes action then step system action else none

theorem successful_some {system next : System} {action : Action}
    (stepped : successfulStep system action = some next) :
    Makes action ∧ step system action = some next := by
  unfold successfulStep at stepped
  by_cases makes : Makes action
  · rw [if_pos makes] at stepped
    exact ⟨makes, stepped⟩
  · rw [if_neg makes] at stepped
    cases stepped

theorem call_references {system : System} {action : Action} {returned : UINT × System}
    (makes : Makes action) (called : system.call action = some returned) :
    returned.2.handles.references =
      system.handles.references + if TakesReference action then 1 else 0 := by
  cases made : action.created with
  | none =>
      have untaken : ¬ TakesReference action := by
        intro takes
        cases action with
        | threadCreate thread arguments answers => cases made
        | _ => exact takes
      rw [if_neg untaken, Nat.add_zero]
      cases deletes : action.deletes with
      | false => rw [(call_used made deletes called).1]
      | true =>
          rcases call_deleted deletes called with ⟨_, same⟩ | ⟨_, handles, _⟩
          · rw [same]
          · rw [handles]
            rfl
  | some handle =>
      cases action with
      | mutexCreate address answer name =>
          cases called
          exact HandleTable.makeObject_references system.handles answer .mutex
      | semaphoreCreate address answer name initialCount =>
          cases called
          exact HandleTable.makeObject_references system.handles _ .semaphore
      | threadCreate thread arguments answers =>
          cases called
          have present : answers.handle ≠ 0 := fun null => makes (congrArg some null)
          exact createThread_references arguments answers thread system.table system.handles present
      | get address waitOption waitResult => cases made
      | put address released => cases made
      | suspend thread status => cases made
      | resume thread status => cases made
      | delete address => cases made
      | threadDelete thread waitResult => cases made

theorem paired_balanced {system : System} (paired : Paired system) :
    Balanced system ↔ system.handles.references = 0 := by
  have count : system.handles.opened.length = system.live.length := by
    calc
      system.handles.opened.length = (system.handles.opened.map Prod.fst).length :=
        (List.length_map ..).symm
      _ = (system.live.map system.handleOf).length := by rw [paired.opened]
      _ = system.live.length := List.length_map ..
  unfold Balanced
  omega

/-- Over successful creations and deletions the accounts balance exactly as long
as no creation of a thread references its object. -/
theorem references_balanced_iff (blocks : Nat → Option BlockSystem.ControlBlock) (table : Table)
    (schedule : List Action) :
    Always successfulStep Balanced (System.initial blocks table) schedule ↔
      Along successfulStep (fun _ action => ¬ TakesReference action)
        (System.initial blocks table) schedule := by
  have step_references : ∀ system action next, successfulStep system action = some next →
      next.handles.references =
        system.handles.references + if TakesReference action then 1 else 0 := by
    intro system action next stepped
    rcases successful_some stepped with ⟨makes, taken⟩
    rcases step_some taken with ⟨_, returned, called, rfl⟩
    exact call_references makes called
  have step_paired : ∀ system action next, Paired system →
      successfulStep system action = some next → Paired next := by
    intro system action next paired stepped
    rcases successful_some stepped with ⟨makes, taken⟩
    exact paired_step paired makes taken
  refine always_iff_along successfulStep
    (fun system => Paired system ∧ system.handles.references = 0) Balanced _ ?_ ?_ ?_ _ schedule
    ⟨initial_paired blocks table, rfl⟩
  · rintro system ⟨paired, none⟩
    exact (paired_balanced paired).mpr none
  · rintro system action next ⟨paired, none⟩ untaken stepped
    have references := step_references system action next stepped
    rw [none, if_neg untaken] at references
    exact ⟨step_paired system action next paired stepped, references⟩
  · rintro system action next ⟨paired, none⟩ stepped balanced takes
    have references := step_references system action next stepped
    rw [none, if_pos takes] at references
    have zero := (paired_balanced (step_paired system action next paired stepped)).mp balanced
    omega

def oneThread : List Action :=
  [.threadCreate 1 { name := none, entryFunction := 0x1000, entryInput := 0, autoStart := 1 }
      { handle := 4, threadId := 7, stackLimits := some (0x2000, 0x6000) },
    .threadDelete 1 .object0]

theorem ended_thread_still_referenced :
    (∃ system, run successfulStep (System.initial (fun _ => none) unused) oneThread = some system ∧
      system.live = [] ∧ system.handles = { opened := [], references := 1 }) ∧
    ¬ Always successfulStep Balanced (System.initial (fun _ => none) unused) oneThread := by
  constructor
  · exact ⟨_, rfl, rfl, rfl⟩
  · intro balanced
    have after := always_head _ _ _ _ ((balanced.2 _ rfl).2 _ rfl)
    cases after

end UsbxNxdk.ObjectAccounts
