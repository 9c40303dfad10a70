import UsbxNxdk.NvnetInstances

/-! Which slot serves which interface, over any sequence of requests. -/

namespace UsbxNxdk.NvnetPairs

open Execution NxApi NvnetDriver NvnetTransmit NvnetInstances

/-- `removed` is a history variable: the pairs that have been detached or
uninitialized and not attached since. -/
structure Traced where
  driver : Driver
  removed : List (Nat × Nat)

def removedAfter (request : NxIpDriver) (status : NxStatus) (removed : List (Nat × Nat)) :
    List (Nat × Nat) :=
  if status = .success then
    match request.command with
    | .interfaceAttach => removed.filter fun pair => pair ≠ pairOf request
    | .interfaceDetach => pairOf request :: removed
    | .uninitializeLink => pairOf request :: removed
    | _ => removed
  else removed

def tracedStep (traced : Traced) (submission : Submission) : Option Traced :=
  (submission.run traced.driver).map fun returned =>
    { driver := returned.driver
      removed := removedAfter submission.request returned.status traced.removed }

def Traced.initial (interfaces : Interfaces) : Traced :=
  { driver := Driver.initial interfaces
    removed := [] }

def UniquePairs (table : DriverTable) : Prop :=
  ∀ first second pair, Holds table first pair → Holds table second pair → first = second

def Refused (driver : Driver) (pair : Nat × Nat) : Prop :=
  ∀ (submission : Submission) returned, pairOf submission.request = pair →
    submission.request.command ≠ .interfaceAttach → submission.run driver = some returned →
      returned = report submission.netx driver .invalidInterface none

def Unreached (driver : Driver) (pair : Nat × Nat) : Prop :=
  ∀ (submission : Submission) returned, submission.run driver = some returned →
    ∀ copy slot entry ipPtr packet,
      .received copy slot entry ipPtr packet ∈ returned.events →
        (ipPtr, packet.interfacePtr) ≠ pair

structure Mapped (traced : Traced) : Prop where
  unique : UniquePairs traced.driver.table
  removed : ∀ pair ∈ traced.removed, Refused traced.driver pair ∧ Unreached traced.driver pair

def OwnSlot (traced : Traced) (submission : Submission) : Prop :=
  submission.request.command ≠ .interfaceAttach →
    ∀ returned, submission.run traced.driver = some returned →
      ∀ slot, ¬ Holds traced.driver.table slot (pairOf submission.request) →
        returned.driver.table slot = traced.driver.table slot

/-- An attach is of a pair that no slot holds yet, unless the table is full. -/
def FreshAttach (traced : Traced) (submission : Submission) : Prop :=
  submission.request.command = .interfaceAttach →
    findAvailable traced.driver.table = none ∨
      Absent traced.driver.table (pairOf submission.request)

/-- The second search of `NX_LINK_SET_PHYSICAL_ADDRESS` stops at a slot of the
pair itself, or at one that has the new address already. -/
def OwnInterface (traced : Traced) (submission : Submission) : Prop :=
  submission.request.command = .setPhysicalAddress →
    ¬ Absent traced.driver.table (pairOf submission.request) →
      ∀ slot, findInterface traced.driver.table submission.request.interfacePtr = some slot →
        Holds traced.driver.table slot (pairOf submission.request) ∨
          (traced.driver.table slot).macAddress = requestAddress submission.request

/-! ### Absent pairs -/

theorem absent_refused {driver : Driver} {pair : Nat × Nat} (absent : Absent driver.table pair) :
    Refused driver pair := by
  rintro submission returned rfl other ran
  rw [run_absent (run_given ran) other absent] at ran
  exact (Option.some.inj ran).symm

theorem received_recipient {submission : Submission} {driver : Driver} {returned : Returned}
    (ran : submission.run driver = some returned) {copy : Nat} {slot : Slot}
    {entry : ReceiveEntry} {ipPtr : Nat} {packet : NxPacket}
    (member : .received copy slot entry ipPtr packet ∈ returned.events) :
    Holds driver.table slot (ipPtr, packet.interfacePtr) := by
  obtain quiet | ⟨sender, send, found, sent⟩ := run_events ran
  · rw [quiet] at member
    cases member
  · rw [sent, sendPacket_events, List.mem_append, List.mem_singleton] at member
    obtain copied | released := member
    · obtain ⟨number, place, packetCopy, made, same | handed⟩ :=
        (mem_copyEvents _ _ _ _ _ _).mp copied
      · cases same
      · obtain ⟨rfl, ip, interface⟩ := receive_packet handed
        have listed := List.mem_of_getElem? made.recipient
        have used := ((mem_recipients _ _ _ _).mp listed).2.1
        exact ⟨used, ip.symm, interface.symm⟩
    · cases released

theorem absent_unreached {driver : Driver} {pair : Nat × Nat} (absent : Absent driver.table pair) :
    Unreached driver pair := by
  intro submission returned ran copy slot entry ipPtr packet member same
  apply absent slot
  rw [← same]
  exact received_recipient ran member

/-! ### The invariant -/

structure Kept (traced : Traced) : Prop where
  unique : UniquePairs traced.driver.table
  absent : ∀ pair ∈ traced.removed, Absent traced.driver.table pair

theorem kept_mapped {traced : Traced} (kept : Kept traced) : Mapped traced := by
  constructor
  · exact kept.unique
  · intro pair member
    exact ⟨absent_refused (kept.absent pair member), absent_unreached (kept.absent pair member)⟩

theorem tracedStep_some {traced next : Traced} {submission : Submission}
    (stepped : tracedStep traced submission = some next) :
    ∃ returned, submission.run traced.driver = some returned ∧
      next = { driver := returned.driver
               removed := removedAfter submission.request returned.status traced.removed } := by
  obtain ⟨returned, ran, same⟩ := Option.map_eq_some_iff.mp stepped
  exact ⟨returned, ran, same.symm⟩

def Removal (command : LinkCommand) : Prop :=
  command = .interfaceDetach ∨ command = .uninitializeLink

theorem removal_other {command : LinkCommand} (removal : Removal command) :
    command ≠ .interfaceAttach := by
  intro attaches
  obtain detach | uninitialize := removal
  · cases attaches.symm.trans detach
  · cases attaches.symm.trans uninitialize

theorem removal_found {submission : Submission} {driver : Driver} {returned : Returned}
    (ran : submission.run driver = some returned) (removal : Removal submission.request.command)
    (success : returned.status = .success) :
    ∃ slot, findInstance driver.table submission.request.ipPtr
      submission.request.interfacePtr = some slot := by
  apply present_found
  intro absent
  rw [run_absent (run_given ran) (removal_other removal) absent] at ran
  cases ran
  cases success

theorem mem_removedAfter {request : NxIpDriver} {status : NxStatus} {removed : List (Nat × Nat)}
    {pair : Nat × Nat} (member : pair ∈ removedAfter request status removed) :
    pair ∈ removed ∨
      pair = pairOf request ∧ Removal request.command ∧ status = .success := by
  unfold removedAfter at member
  by_cases success : status = .success
  · rw [if_pos success] at member
    split at member
    · exact Or.inl (List.mem_of_mem_filter member)
    · next detach =>
        obtain own | before := List.mem_cons.mp member
        · exact Or.inr ⟨own, Or.inl detach, success⟩
        · exact Or.inl before
    · next uninitialize =>
        obtain own | before := List.mem_cons.mp member
        · exact Or.inr ⟨own, Or.inr uninitialize, success⟩
        · exact Or.inl before
    · exact Or.inl member
  · rw [if_neg success] at member
    exact Or.inl member

theorem rewrites_owner {request : NxIpDriver} {table : DriverTable} {slot : Slot}
    {changed : DriverInstance} (rewrites : Rewrites request table slot changed) :
    (request.command = .interfaceAttach ∧ findAvailable table = some slot ∧
        changed = attached slot request (table slot)) ∨
      (Removal request.command ∧
        findInstance table request.ipPtr request.interfacePtr = some slot ∧
        changed = DriverInstance.zero) ∨
      (¬ Removal request.command ∧ changed.inUse = (table slot).inUse ∧
        changed.ipPtr = (table slot).ipPtr ∧ changed.interfacePtr = (table slot).interfacePtr) := by
  cases rewrites with
  | attach command found => exact Or.inl ⟨command, found, rfl⟩
  | remove command found => exact Or.inr (Or.inl ⟨command, found, rfl⟩)
  | join command found free =>
      exact Or.inr (Or.inr ⟨by simp [Removal, command], rfl, rfl, rfl⟩)
  | leave command found held =>
      exact Or.inr (Or.inr ⟨by simp [Removal, command], rfl, rfl, rfl⟩)
  | readdress command found second =>
      exact Or.inr (Or.inr ⟨by simp [Removal, command], rfl, rfl, rfl⟩)

theorem attach_run {submission : Submission} {driver : Driver} {returned : Returned}
    (ran : submission.run driver = some returned)
    (command : submission.request.command = .interfaceAttach) {slot : Slot}
    (available : findAvailable driver.table = some slot) :
    returned =
      rewrite submission.netx driver slot (attached slot submission.request) := by
  have target : requestSlot submission.request driver = some 0 := if_pos command
  rw [run_found (run_given ran) target] at ran
  have made := Option.some.inj ran
  simp only [processRequest, command, available] at made
  exact made.symm

theorem attached_removedAfter {request : NxIpDriver} (command : request.command = .interfaceAttach)
    {removed : List (Nat × Nat)} {pair : Nat × Nat}
    (member : pair ∈ removedAfter request .success removed) : pair ≠ pairOf request := by
  unfold removedAfter at member
  rw [if_pos rfl, command] at member
  simpa using List.of_mem_filter member

theorem holds_zero {table : DriverTable} {place : Slot} {pair : Nat × Nat} :
    ¬ Holds (Function.update table place DriverInstance.zero) place pair := by
  rw [Holds, Function.update_self]
  exact fun holds => holds.1 rfl

theorem holds_attached {table : DriverTable} {place : Slot} {request : NxIpDriver}
    {pair : Nat × Nat} :
    Holds (Function.update table place (attached place request (table place))) place pair ↔
      pair = pairOf request := by
  rw [Holds, Function.update_self]
  constructor
  · rintro ⟨_, ip, interface⟩
    exact Prod.ext ip.symm interface.symm
  · rintro rfl
    exact ⟨by simp [attached], rfl, rfl⟩

theorem attach_kept {traced : Traced} (kept : Kept traced) {request : NxIpDriver} {place : Slot}
    (command : request.command = .interfaceAttach)
    (absent : Absent traced.driver.table (pairOf request)) {next : Traced}
    (table : next.driver.table = Function.update traced.driver.table place
      (attached place request (traced.driver.table place)))
    (removed : next.removed = removedAfter request .success traced.removed) : Kept next := by
  have holds : ∀ slot pair, Holds next.driver.table slot pair →
      slot = place ∧ pair = pairOf request ∨
        slot ≠ place ∧ Holds traced.driver.table slot pair := by
    intro slot pair held
    rw [table] at held
    by_cases own : slot = place
    · subst own
      exact Or.inl ⟨rfl, holds_attached.mp held⟩
    · exact Or.inr ⟨own, (holds_update own).mp held⟩
  constructor
  · intro first second pair holdsFirst holdsSecond
    obtain ⟨rfl, rfl⟩ | ⟨_, before⟩ := holds first pair holdsFirst
    · obtain ⟨same, _⟩ | ⟨_, before⟩ := holds second _ holdsSecond
      · exact same.symm
      · exact absurd before (absent second)
    · obtain ⟨_, rfl⟩ | ⟨_, also⟩ := holds second pair holdsSecond
      · exact absurd before (absent first)
      · exact kept.unique first second pair before also
  · intro pair member slot held
    rw [removed] at member
    obtain ⟨_, same⟩ | ⟨_, before⟩ := holds slot pair held
    · exact attached_removedAfter command member same
    · obtain listed | ⟨_, removal, _⟩ := mem_removedAfter member
      · exact kept.absent pair listed slot before
      · exact removal_other removal command

theorem removal_kept {traced : Traced} (kept : Kept traced) {request : NxIpDriver} {place : Slot}
    (held : Holds traced.driver.table place (pairOf request)) {next : Traced} {status : NxStatus}
    (table : next.driver.table =
      Function.update traced.driver.table place DriverInstance.zero)
    (removed : next.removed = removedAfter request status traced.removed) : Kept next := by
  have gone : ∀ slot pair, Holds next.driver.table slot pair →
      slot ≠ place ∧ Holds traced.driver.table slot pair := by
    intro slot pair holds
    rw [table] at holds
    by_cases own : slot = place
    · subst own
      exact absurd holds holds_zero
    · exact ⟨own, (holds_update own).mp holds⟩
  constructor
  · intro first second pair holdsFirst holdsSecond
    exact kept.unique first second pair (gone first pair holdsFirst).2
      (gone second pair holdsSecond).2
  · intro pair member slot holds
    rw [removed] at member
    rcases gone slot pair holds with ⟨apart, before⟩
    rcases mem_removedAfter member with listed | ⟨rfl, _⟩
    · exact kept.absent pair listed slot before
    · exact apart (kept.unique slot place _ before held)

theorem unmoved_kept {traced : Traced} (kept : Kept traced) {request : NxIpDriver}
    {next : Traced} {status : NxStatus}
    (holds : ∀ slot pair, Holds next.driver.table slot pair ↔
      Holds traced.driver.table slot pair)
    (other : ¬ (Removal request.command ∧ status = .success))
    (removed : next.removed = removedAfter request status traced.removed) : Kept next := by
  constructor
  · intro first second pair holdsFirst holdsSecond
    exact kept.unique first second pair ((holds first pair).mp holdsFirst)
      ((holds second pair).mp holdsSecond)
  · intro pair member slot held
    rw [removed] at member
    rcases mem_removedAfter member with listed | ⟨_, removal⟩
    · exact kept.absent pair listed slot ((holds slot pair).mp held)
    · exact other removal

theorem step_kept {traced next : Traced} {submission : Submission} (kept : Kept traced)
    (fresh : FreshAttach traced submission)
    (stepped : tracedStep traced submission = some next) : Kept next := by
  rcases tracedStep_some stepped with ⟨returned, ran, rfl⟩
  rcases run_table ran with ⟨same, nothing⟩ | ⟨place, changed, rewrites, table⟩
  · have holds : ∀ slot pair, Holds returned.driver.table slot pair ↔
        Holds traced.driver.table slot pair := by
      intro slot pair
      rw [same]
    apply unmoved_kept kept holds ?_ rfl
    intro removal
    rcases removal_found ran removal.1 removal.2 with ⟨slot, found⟩
    exact nothing slot DriverInstance.zero (.remove removal.1 found)
  · rcases rewrites_owner rewrites with
      ⟨command, available, rfl⟩ | ⟨removal, found, rfl⟩ | ⟨other, used, ip, interface⟩
    · have absent : Absent traced.driver.table (pairOf submission.request) := by
        rcases fresh command with full | absent
        · rw [available] at full
          cases full
        · exact absent
      have success : returned.status = .success := by rw [attach_run ran command available]; rfl
      exact attach_kept kept command absent table (by rw [success])
    · exact removal_kept kept (findInstance_holds found) table rfl
    · have holds : ∀ slot pair, Holds returned.driver.table slot pair ↔
          Holds traced.driver.table slot pair := by
        rw [table]
        exact holds_kept used ip interface
      exact unmoved_kept kept holds (fun removal => other removal.1) rfl

/-- After an attach of a pair that a slot holds already, two slots hold it. -/
theorem unique_fresh {traced next : Traced} {submission : Submission}
    (stepped : tracedStep traced submission = some next)
    (unique : UniquePairs next.driver.table) : FreshAttach traced submission := by
  obtain ⟨returned, ran, rfl⟩ := tracedStep_some stepped
  intro command
  cases available : findAvailable traced.driver.table with
  | none => exact Or.inl rfl
  | some place =>
      refine Or.inr ?_
      intro slot held
      have table := run_rewrites ran (.attach command available)
      have apart : slot ≠ place := by
        intro same
        exact held.1 (same ▸ findAvailable_unused available)
      have also : Holds returned.driver.table place (pairOf submission.request) := by
        rw [table]
        exact holds_attached.mpr rfl
      have still : Holds returned.driver.table slot (pairOf submission.request) := by
        rw [table]
        exact (holds_update apart).mpr held
      exact apart (unique slot place _ still also)

theorem mapped_iff_fresh (interfaces : Interfaces) (schedule : List Submission) :
    Always tracedStep Mapped (Traced.initial interfaces) schedule ↔
      Along tracedStep FreshAttach (Traced.initial interfaces) schedule := by
  apply always_iff_along tracedStep Kept Mapped FreshAttach
  · intro traced kept
    exact kept_mapped kept
  · intro traced submission next kept fresh stepped
    exact step_kept kept fresh stepped
  · intro traced submission next _ stepped mapped
    exact unique_fresh stepped mapped.unique
  · constructor
    · intro first second pair held
      exact absurd rfl held.1
    · intro pair member
      cases member

/-! ### The slot that a request changes -/

theorem own_interface {traced : Traced} {submission : Submission} {returned : Returned}
    (ran : submission.run traced.driver = some returned) (own : OwnSlot traced submission) :
    OwnInterface traced submission := by
  intro command present slot second
  obtain ⟨owner, found⟩ := present_found present
  by_cases held : Holds traced.driver.table slot (pairOf submission.request)
  · exact Or.inl held
  · have same := own (by simp [command]) returned ran slot held
    rw [run_rewrites ran (.readdress command found second), Function.update_self] at same
    exact Or.inr (congrArg DriverInstance.macAddress same).symm

theorem own_slot {traced : Traced} {submission : Submission}
    (interface : OwnInterface traced submission) : OwnSlot traced submission := by
  intro other returned ran slot apart
  obtain ⟨same, _⟩ | ⟨place, changed, rewrites, table⟩ := run_table ran
  · rw [same]
  · rw [table]
    by_cases own : slot = place
    · subst own
      rw [Function.update_self]
      cases rewrites with
      | attach command found => exact absurd command other
      | remove command found => exact absurd (findInstance_holds found) apart
      | join command found free => exact absurd (findInstance_holds found) apart
      | leave command found held => exact absurd (findInstance_holds found) apart
      | @readdress owner slot command found second =>
          have present : ¬ Absent traced.driver.table (pairOf submission.request) :=
            fun absent => absent owner (findInstance_holds found)
          obtain held | already := interface command present slot second
          · exact absurd held apart
          · rw [← already]
    · exact Function.update_of_ne own changed traced.driver.table

/-- The table maps every interface to one slot, over any sequence of requests,
exactly when no attach repeats a pair that a slot holds already and every second
search of `NX_LINK_SET_PHYSICAL_ADDRESS` ends at the pair of the request. -/
theorem one_slot_iff (interfaces : Interfaces) (schedule : List Submission) :
    (Always tracedStep Mapped (Traced.initial interfaces) schedule ∧
        Along tracedStep OwnSlot (Traced.initial interfaces) schedule) ↔
      Along tracedStep (fun traced submission =>
          FreshAttach traced submission ∧ OwnInterface traced submission)
        (Traced.initial interfaces) schedule := by
  rw [along_and, mapped_iff_fresh]
  apply and_congr_right'
  apply along_iff
  intro traced submission next stepped
  obtain ⟨returned, ran, _⟩ := tracedStep_some stepped
  exact ⟨own_interface ran, own_slot⟩

/-- Two attaches of one interface fill two slots. -/
theorem attached_twice :
    ¬ Always tracedStep Mapped (Traced.initial plainInterfaces)
        [plainRequest .interfaceAttach 1 1 ⟨0, 0⟩, plainRequest .interfaceAttach 1 1 ⟨0, 0⟩] := by
  intro always
  have mapped := (always.2 _ rfl).2 _ rfl
  have same := mapped.unique 0 1 (1, 1) (by decide) (by decide)
  cases same

end UsbxNxdk.NvnetPairs
