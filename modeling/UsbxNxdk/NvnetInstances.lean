import UsbxNxdk.Execution
import UsbxNxdk.NvnetTransmit

/-! The table of driver instances over any sequence of requests. -/

namespace UsbxNxdk.NvnetInstances

open Execution NxApi NvnetDriver NvnetTransmit

structure Submission where
  netx : NetX
  request : NxIpDriver

def Submission.run (submission : Submission) (driver : Driver) : Option Returned :=
  nxNvnetNetworkDriver submission.netx submission.request driver

/-- A request without an interface is no step. -/
def step (driver : Driver) (submission : Submission) : Option Driver :=
  (submission.run driver).map Returned.driver

def Driver.initial (interfaces : Interfaces) : Driver :=
  { table := fun _ => DriverInstance.zero
    interfaces := interfaces }

def pairOf (request : NxIpDriver) : Nat × Nat := (request.ipPtr, request.interfacePtr)

def Holds (table : DriverTable) (slot : Slot) (pair : Nat × Nat) : Prop :=
  (table slot).inUse ≠ 0 ∧ (table slot).ipPtr = pair.1 ∧ (table slot).interfacePtr = pair.2

instance (table : DriverTable) (slot : Slot) (pair : Nat × Nat) :
    Decidable (Holds table slot pair) :=
  inferInstanceAs (Decidable (_ ∧ _))

def Absent (table : DriverTable) (pair : Nat × Nat) : Prop := ∀ slot, ¬ Holds table slot pair

def plainNetX : NetX where
  packetCopy := fun _ _ packet => some packet
  ipInterface := fun ipPtr index => ipPtr + index.toNat
  interfaceMtuSet := fun _ _ _ interfaces => interfaces
  interfacePhysicalAddressSet := fun _ _ _ _ _ interfaces => interfaces
  interfaceAddressMappingConfigure := fun _ _ _ interfaces => interfaces
  preemptionChange := fun threshold _ own => (own, threshold)
  preemptThreshold := 0

def emptyPacket : NxPacket :=
  { data := fun _ => 0
    prependPtr := 0
    length := 0
    ipVersion := 4
    interfacePtr := 0 }

def plainRequest (command : LinkCommand) (ipPtr interfacePtr : Nat) (address : MacAddress) :
    Submission :=
  { netx := plainNetX
    request :=
      { command := command
        ipPtr := ipPtr
        interfacePtr := interfacePtr
        packet := emptyPacket
        physicalAddressMsw := address.msw
        physicalAddressLsw := address.lsw } }

def plainInterfaces : Interfaces := fun _ =>
  { index := 0
    linkUp := nxFalse
    physicalAddressMsw := 0
    physicalAddressLsw := 0 }

def FirstHolder (table : DriverTable) (pair : Nat × Nat) (slot : Slot) : Prop :=
  Holds table slot pair ∧ ∀ earlier < slot, ¬ Holds table earlier pair

theorem holds_update {table : DriverTable} {place slot : Slot} {changed : DriverInstance}
    {pair : Nat × Nat} (other : slot ≠ place) :
    Holds (Function.update table place changed) slot pair ↔ Holds table slot pair := by
  rw [Holds, Function.update_of_ne other, Holds]

theorem holds_kept {table : DriverTable} {place : Slot} {changed : DriverInstance}
    (used : changed.inUse = (table place).inUse) (ip : changed.ipPtr = (table place).ipPtr)
    (interface : changed.interfacePtr = (table place).interfacePtr) (slot : Slot)
    (pair : Nat × Nat) :
    Holds (Function.update table place changed) slot pair ↔ Holds table slot pair := by
  by_cases own : slot = place
  · subst own
    rw [Holds, Function.update_self, used, ip, interface, Holds]
  · exact holds_update own

/-! ### What a request does to the table -/

/-- The rewriting of one instance that a request asks for. -/
inductive Rewrites (request : NxIpDriver) (table : DriverTable) : Slot → DriverInstance → Prop where
  | attach {slot : Slot} (command : request.command = .interfaceAttach)
      (found : findAvailable table = some slot) :
      Rewrites request table slot (attached slot request (table slot))
  | remove {slot : Slot}
      (command : request.command = .interfaceDetach ∨ request.command = .uninitializeLink)
      (found : findInstance table request.ipPtr request.interfacePtr = some slot) :
      Rewrites request table slot DriverInstance.zero
  | join {slot : Slot} {index : Fin 3} (command : request.command = .multicastJoin)
      (found : findInstance table request.ipPtr request.interfacePtr = some slot)
      (free : findMcast (table slot) ⟨0, 0⟩ = some index) :
      Rewrites request table slot (setMcast index (requestAddress request) (table slot))
  | leave {slot : Slot} {index : Fin 3} (command : request.command = .multicastLeave)
      (found : findInstance table request.ipPtr request.interfacePtr = some slot)
      (held : findMcast (table slot) (requestAddress request) = some index) :
      Rewrites request table slot (setMcast index ⟨0, 0⟩ (table slot))
  | readdress {owner slot : Slot} (command : request.command = .setPhysicalAddress)
      (found : findInstance table request.ipPtr request.interfacePtr = some owner)
      (second : findInterface table request.interfacePtr = some slot) :
      Rewrites request table slot { table slot with macAddress := requestAddress request }

theorem run_unfound {submission : Submission} {driver : Driver}
    (given : submission.request.interfacePtr ≠ 0)
    (unfound : requestSlot submission.request driver = none) :
    submission.run driver = some (report submission.netx driver .invalidInterface none) := by
  rw [Submission.run, nxNvnetNetworkDriver, if_neg given, unfound]

theorem run_found {submission : Submission} {driver : Driver} {slot : Slot}
    (given : submission.request.interfacePtr ≠ 0)
    (found : requestSlot submission.request driver = some slot) :
    submission.run driver =
      some (processRequest submission.netx submission.request driver slot) := by
  rw [Submission.run, nxNvnetNetworkDriver, if_neg given, found]

theorem run_given {submission : Submission} {driver : Driver} {returned : Returned}
    (ran : submission.run driver = some returned) : submission.request.interfacePtr ≠ 0 := by
  intro null
  rw [Submission.run, nxNvnetNetworkDriver, if_pos null] at ran
  cases ran

theorem run_cases {submission : Submission} {driver : Driver} {returned : Returned}
    (ran : submission.run driver = some returned) :
    returned = report submission.netx driver .invalidInterface none ∨
      ∃ slot, requestSlot submission.request driver = some slot ∧
        returned = processRequest submission.netx submission.request driver slot := by
  have given := run_given ran
  cases target : requestSlot submission.request driver with
  | none =>
      rw [run_unfound given target] at ran
      exact Or.inl (Option.some.inj ran).symm
  | some slot =>
      rw [run_found given target] at ran
      exact Or.inr ⟨slot, rfl, (Option.some.inj ran).symm⟩

theorem requestSlot_instance {request : NxIpDriver} (driver : Driver)
    (other : request.command ≠ .interfaceAttach) :
    requestSlot request driver = findInstance driver.table request.ipPtr request.interfacePtr :=
  if_neg other

theorem run_instance {submission : Submission} {driver : Driver} {slot : Slot}
    (given : submission.request.interfacePtr ≠ 0)
    (other : submission.request.command ≠ .interfaceAttach)
    (found : findInstance driver.table submission.request.ipPtr
      submission.request.interfacePtr = some slot) :
    submission.run driver =
      some (processRequest submission.netx submission.request driver slot) :=
  run_found given ((requestSlot_instance driver other).trans found)

theorem run_rewrites {submission : Submission} {driver : Driver} {returned : Returned}
    (ran : submission.run driver = some returned) {place : Slot} {changed : DriverInstance}
    (rewrites : Rewrites submission.request driver.table place changed) :
    returned.driver.table = Function.update driver.table place changed := by
  have processed : ∀ slot, submission.request.command ≠ .interfaceAttach →
      findInstance driver.table submission.request.ipPtr submission.request.interfacePtr =
        some slot →
      returned = processRequest submission.netx submission.request driver slot := by
    intro slot other found
    rw [run_instance (run_given ran) other found] at ran
    exact (Option.some.inj ran).symm
  cases rewrites with
  | attach command available =>
      rw [run_found (run_given ran) (if_pos command)] at ran
      cases ran
      simp only [processRequest, command, available]
      rfl
  | remove command found =>
      rcases command with command | command
      · rw [processed place (by simp [command]) found]
        simp only [processRequest, command]
        rfl
      · rw [processed place (by simp [command]) found]
        simp only [processRequest, command]
        rfl
  | join command found free =>
      rw [processed place (by simp [command]) found]
      simp only [processRequest, command, free]
      rfl
  | leave command found held =>
      rw [processed place (by simp [command]) found]
      simp only [processRequest, command, held]
      rfl
  | readdress command found second =>
      rw [processed _ (by simp [command]) found]
      simp only [processRequest, command, second]
      rfl

theorem process_unasked {netx : NetX} {request : NxIpDriver} {driver : Driver} {slot : Slot}
    (target : requestSlot request driver = some slot)
    (nothing : ∀ place changed, ¬ Rewrites request driver.table place changed) :
    (processRequest netx request driver slot).driver.table = driver.table := by
  have found : request.command ≠ .interfaceAttach →
      findInstance driver.table request.ipPtr request.interfacePtr = some slot :=
    fun other => (requestSlot_instance driver other).symm.trans target
  unfold processRequest
  cases command : request.command with
  | interfaceAttach =>
      cases available : findAvailable driver.table with
      | some place => exact absurd (.attach command available) (nothing place _)
      | none => rfl
  | interfaceDetach =>
      exact absurd (.remove (Or.inl command) (found (by simp [command]))) (nothing slot _)
  | uninitializeLink =>
      exact absurd (.remove (Or.inr command) (found (by simp [command]))) (nothing slot _)
  | multicastJoin =>
      cases free : findMcast (driver.table slot) ⟨0, 0⟩ with
      | some index =>
          exact absurd (.join command (found (by simp [command])) free) (nothing slot _)
      | none => rfl
  | multicastLeave =>
      cases held : findMcast (driver.table slot) (requestAddress request) with
      | some index =>
          exact absurd (.leave command (found (by simp [command])) held) (nothing slot _)
      | none => rfl
  | setPhysicalAddress =>
      cases second : findInterface driver.table request.interfacePtr with
      | some place =>
          exact absurd (.readdress command (found (by simp [command])) second) (nothing place _)
      | none => rfl
  | _ => rfl

theorem run_table {submission : Submission} {driver : Driver} {returned : Returned}
    (ran : submission.run driver = some returned) :
    (returned.driver.table = driver.table ∧
        ∀ slot changed, ¬ Rewrites submission.request driver.table slot changed) ∨
      ∃ slot changed, Rewrites submission.request driver.table slot changed ∧
        returned.driver.table = Function.update driver.table slot changed := by
  by_cases asked : ∃ slot changed, Rewrites submission.request driver.table slot changed
  · obtain ⟨slot, changed, rewrites⟩ := asked
    exact Or.inr ⟨slot, changed, rewrites, run_rewrites ran rewrites⟩
  · have nothing : ∀ slot changed, ¬ Rewrites submission.request driver.table slot changed :=
      fun slot changed rewrites => asked ⟨slot, changed, rewrites⟩
    refine Or.inl ⟨?_, nothing⟩
    rcases run_cases ran with rfl | ⟨slot, target, rfl⟩
    · rfl
    · exact process_unasked target nothing

theorem step_some {driver next : Driver} {submission : Submission}
    (stepped : step driver submission = some next) :
    ∃ returned, submission.run driver = some returned ∧ returned.driver = next :=
  Option.map_eq_some_iff.mp stepped

/-! ### Transmissions -/

def sending : LinkCommand → Bool
  | .packetSend => true
  | .packetBroadcast => true
  | .arpSend => true
  | .arpResponseSend => true
  | .rarpSend => true
  | _ => false

theorem process_sends {netx : NetX} {request : NxIpDriver} {driver : Driver} {slot : Slot}
    (send : sending request.command = true) :
    processRequest netx request driver slot = sendPacket netx request driver slot := by
  unfold processRequest
  cases command : request.command <;> first | rfl | (rw [command] at send; cases send)

theorem process_quiet {netx : NetX} {request : NxIpDriver} {driver : Driver} {slot : Slot}
    (quiet : sending request.command = false) :
    (processRequest netx request driver slot).events = [] := by
  unfold processRequest
  cases command : request.command <;>
    first | rfl | (dsimp only; split <;> rfl) | (rw [command] at quiet; cases quiet)

theorem sending_other {request : NxIpDriver} (send : sending request.command = true) :
    request.command ≠ .interfaceAttach := by
  intro command
  rw [command] at send
  cases send

def Submission.frame (submission : Submission) (driver : Driver) : NxPacket :=
  addHeader submission.request (driver.interfaces submission.request.interfacePtr)

theorem run_sends {submission : Submission} {driver : Driver} {sender : Slot}
    (given : submission.request.interfacePtr ≠ 0)
    (send : sending submission.request.command = true)
    (found : findInstance driver.table submission.request.ipPtr
      submission.request.interfacePtr = some sender) :
    submission.run driver =
      some (sendPacket submission.netx submission.request driver sender) := by
  rw [run_instance given (sending_other send) found, process_sends send]

theorem sendPacket_events (submission : Submission) (driver : Driver) (sender : Slot) :
    (sendPacket submission.netx submission.request driver sender).events =
      copyEvents submission.netx driver.table (submission.frame driver) 0
        (recipients driver.table sender (destinationAddress (submission.frame driver))) ++
        [.transmitReleased (removeHeader (submission.frame driver))] :=
  output_events submission.netx driver.table (submission.frame driver) sender

theorem run_events {submission : Submission} {driver : Driver} {returned : Returned}
    (ran : submission.run driver = some returned) :
    returned.events = [] ∨
      ∃ sender, sending submission.request.command = true ∧
        findInstance driver.table submission.request.ipPtr
          submission.request.interfacePtr = some sender ∧
        returned = sendPacket submission.netx submission.request driver sender := by
  rcases run_cases ran with rfl | ⟨slot, target, rfl⟩
  · exact Or.inl rfl
  · cases send : sending submission.request.command with
    | false => exact Or.inl (process_quiet send)
    | true =>
        rw [requestSlot_instance driver (sending_other send)] at target
        exact Or.inr ⟨slot, rfl, target, process_sends send⟩

/-! ### The searches -/

theorem findInstance_holds {table : DriverTable} {request : NxIpDriver} {slot : Slot}
    (found : findInstance table request.ipPtr request.interfacePtr = some slot) :
    Holds table slot (pairOf request) := by
  have holds := List.find?_some found
  simpa [Holds, pairOf] using holds

theorem findInstance_none {table : DriverTable} {request : NxIpDriver} :
    findInstance table request.ipPtr request.interfacePtr = none ↔
      Absent table (pairOf request) := by
  unfold findInstance
  rw [List.find?_eq_none]
  simp [Absent, Holds, pairOf, List.mem_finRange]

theorem run_absent {submission : Submission} {driver : Driver}
    (given : submission.request.interfacePtr ≠ 0)
    (other : submission.request.command ≠ .interfaceAttach)
    (absent : Absent driver.table (pairOf submission.request)) :
    submission.run driver = some (report submission.netx driver .invalidInterface none) :=
  run_unfound given ((requestSlot_instance driver other).trans (findInstance_none.mpr absent))

theorem present_found {table : DriverTable} {request : NxIpDriver}
    (present : ¬ Absent table (pairOf request)) :
    ∃ slot, findInstance table request.ipPtr request.interfacePtr = some slot := by
  apply Option.ne_none_iff_exists'.mp
  exact fun unfound => present (findInstance_none.mp unfound)

theorem findInstance_first {table : DriverTable} {ipPtr interfacePtr : Nat} {slot : Slot} :
    findInstance table ipPtr interfacePtr = some slot ↔
      FirstHolder table (ipPtr, interfacePtr) slot := by
  unfold findInstance
  rw [List.find?_eq_some_iff_getElem]
  simp only [FirstHolder, Holds, decide_eq_true_eq, Bool.not_eq_true',
    decide_eq_false_iff_not]
  apply and_congr_right'
  constructor
  · rintro ⟨index, bound, same, before⟩ earlier below
    rw [List.getElem_finRange] at same
    have place := before earlier.val (by rw [← same] at below; exact below)
    rw [List.getElem_finRange] at place
    exact place
  · intro before
    refine ⟨slot.val, by simp, by simp, ?_⟩
    intro earlier below
    rw [List.getElem_finRange]
    exact before _ below

theorem findInstance_congr {first second : DriverTable} {ipPtr interfacePtr : Nat}
    (same : ∀ slot, Holds first slot (ipPtr, interfacePtr) ↔
      Holds second slot (ipPtr, interfacePtr)) :
    findInstance first ipPtr interfacePtr = findInstance second ipPtr interfacePtr := by
  unfold findInstance
  congr 1
  funext slot
  exact decide_eq_decide.mpr (same slot)

theorem findAvailable_unused {table : DriverTable} {slot : Slot}
    (found : findAvailable table = some slot) : (table slot).inUse = 0 := by
  simpa using List.find?_some found

theorem findInterface_found {table : DriverTable} {interfacePtr : Nat} {slot : Slot}
    (found : findInterface table interfacePtr = some slot) :
    (table slot).interfacePtr = interfacePtr := by
  simpa using List.find?_some found

theorem findMcast_found {driver : DriverInstance} {address : MacAddress} {index : Fin 3}
    (found : findMcast driver address = some index) : driver.mcastAddress index = address := by
  have matched := List.find?_some found
  simp only [decide_eq_true_eq] at matched
  exact (address_matches _ _).mp ⟨matched.1.symm, matched.2.symm⟩

theorem findMcast_none {driver : DriverInstance} {address : MacAddress}
    (unfound : findMcast driver address = none) (index : Fin 3) :
    driver.mcastAddress index ≠ address := by
  intro held
  have passed := List.find?_eq_none.mp unfound index (List.mem_finRange index)
  rw [decide_eq_true_eq] at passed
  exact passed ((address_matches _ _).mpr held.symm)

/-! ### Recycled slots -/

def slotAddress (slot : Slot) : MacAddress :=
  ⟨simulatedAddressMsw, simulatedAddressLsw + BitVec.ofNat 32 slot.val⟩

def Clean (table : DriverTable) : Prop :=
  ∀ slot, (table slot).inUse = 0 → table slot = DriverInstance.zero

def Addressed (table : DriverTable) : Prop :=
  ∀ slot, (table slot).inUse ≠ 0 → (table slot).macAddress = slotAddress slot

def DistinctAddresses (table : DriverTable) : Prop :=
  ∀ first second, first ≠ second → (table first).inUse ≠ 0 → (table second).inUse ≠ 0 →
    (table first).macAddress ≠ (table second).macAddress

/-- A successful attach takes a slot that was not in use, and its instance has
an empty multicast table and the address of the slot. -/
def AttachesClean (driver : Driver) (submission : Submission) : Prop :=
  ∀ returned, submission.run driver = some returned →
    submission.request.command = .interfaceAttach → returned.status = .success →
      ∃ slot, (driver.table slot).inUse = 0 ∧
        returned.driver.table = Function.update driver.table slot
          { inUse := 1
            id := BitVec.ofNat 32 slot.val
            interfacePtr := submission.request.interfacePtr
            ipPtr := submission.request.ipPtr
            macAddress := slotAddress slot
            mcastAddress := fun _ => ⟨0, 0⟩ }

theorem findInterface_used {table : DriverTable} {interfacePtr : Nat} {slot : Slot}
    (clean : Clean table) (given : interfacePtr ≠ 0)
    (found : findInterface table interfacePtr = some slot) : (table slot).inUse ≠ 0 := by
  intro unused
  have holder := findInterface_found found
  rw [clean slot unused] at holder
  exact given holder.symm

theorem rewrites_clean {request : NxIpDriver} {table : DriverTable} {slot : Slot}
    {changed : DriverInstance} (clean : Clean table) (given : request.interfacePtr ≠ 0)
    (rewrites : Rewrites request table slot changed) (unused : changed.inUse = 0) :
    changed = DriverInstance.zero := by
  cases rewrites with
  | attach command found => cases unused
  | remove command found => rfl
  | join command found free => exact absurd unused (findInstance_holds found).1
  | leave command found held => exact absurd unused (findInstance_holds found).1
  | readdress command found second =>
      exact absurd unused (findInterface_used clean given second)

theorem step_clean {driver next : Driver} {submission : Submission} (clean : Clean driver.table)
    (stepped : step driver submission = some next) : Clean next.table := by
  obtain ⟨returned, ran, rfl⟩ := step_some stepped
  rcases run_table ran with ⟨same, _⟩ | ⟨slot, changed, rewrites, table⟩
  · rw [same]
    exact clean
  · intro other unused
    rw [table] at unused ⊢
    by_cases own : other = slot
    · subst own
      rw [Function.update_self] at unused ⊢
      exact rewrites_clean clean (run_given ran) rewrites unused
    · rw [Function.update_of_ne own] at unused ⊢
      exact clean other unused

theorem step_addressed {driver next : Driver} {submission : Submission}
    (addressed : Addressed driver.table)
    (kept : submission.request.command ≠ .setPhysicalAddress)
    (stepped : step driver submission = some next) : Addressed next.table := by
  obtain ⟨returned, ran, rfl⟩ := step_some stepped
  rcases run_table ran with ⟨same, _⟩ | ⟨slot, changed, rewrites, table⟩
  · rw [same]
    exact addressed
  · intro other used
    rw [table] at used ⊢
    by_cases own : other = slot
    · subst own
      rw [Function.update_self] at used ⊢
      cases rewrites with
      | attach command found => rfl
      | remove command found => exact absurd rfl used
      | join command found free => exact addressed other used
      | leave command found held => exact addressed other used
      | readdress command found second => exact absurd command kept
    · rw [Function.update_of_ne own] at used ⊢
      exact addressed other used

theorem slotAddress_injective : Function.Injective slotAddress := by
  decide

theorem addressed_distinct {table : DriverTable} (addressed : Addressed table) :
    DistinctAddresses table := by
  intro first second different usedFirst usedSecond same
  rw [addressed first usedFirst, addressed second usedSecond] at same
  exact different (slotAddress_injective same)

theorem clean_attaches {driver : Driver} (clean : Clean driver.table) (submission : Submission) :
    AttachesClean driver submission := by
  intro returned ran command success
  have given := run_given ran
  have target : requestSlot submission.request driver = some 0 := if_pos command
  rw [run_found given target] at ran
  cases ran
  cases available : findAvailable driver.table with
  | none =>
      simp only [processRequest, command, available] at success
      cases success
  | some slot =>
      have unused := findAvailable_unused available
      refine ⟨slot, unused, ?_⟩
      simp only [processRequest, command, available]
      change Function.update driver.table slot (attached slot submission.request
        (driver.table slot)) = _
      rw [clean slot unused]
      rfl

/-- Over any sequence of requests: unused slots are all zero, every attach
yields a fresh instance, and without `NX_LINK_SET_PHYSICAL_ADDRESS` the addresses
of the instances differ. -/
theorem slots_recycled (interfaces : Interfaces) (schedule : List Submission) :
    Always step (fun driver => Clean driver.table) (Driver.initial interfaces) schedule ∧
      Along step AttachesClean (Driver.initial interfaces) schedule ∧
      ((∃ submission ∈ schedule, submission.request.command = .setPhysicalAddress) ∨
        Always step (fun driver => DistinctAddresses driver.table) (Driver.initial interfaces)
          schedule) := by
  have clean : Always step (fun driver => Clean driver.table) (Driver.initial interfaces)
      schedule :=
    always_invariant step _ (fun _ _ _ => step_clean) _ schedule fun _ _ => rfl
  refine ⟨clean, ?_, ?_⟩
  · refine along_of_always step ?_ _ schedule clean
    intro driver submission _ now _
    exact clean_attaches now submission
  · by_cases readdressed :
        ∃ submission ∈ schedule, submission.request.command = .setPhysicalAddress
    · exact Or.inl readdressed
    · have kept : ∀ submission ∈ schedule,
          submission.request.command ≠ .setPhysicalAddress :=
        fun submission member command => readdressed ⟨submission, member, command⟩
      have addressed := always_of_along step (fun driver => Addressed driver.table)
        (fun _ submission => submission.request.command ≠ .setPhysicalAddress)
        (fun _ _ _ => step_addressed) (Driver.initial interfaces) schedule
        (fun _ used => absurd rfl used) (along_of_labels step schedule kept _)
      exact Or.inr (always_mono step (fun _ => addressed_distinct) _ schedule addressed)

end UsbxNxdk.NvnetInstances
