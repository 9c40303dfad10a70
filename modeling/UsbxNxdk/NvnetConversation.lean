import UsbxNxdk.NvnetDelivery
import UsbxNxdk.NvnetPairs

/-! Replies to the source address of a frame, over any sequence of requests. -/

namespace UsbxNxdk.NvnetConversation

open Execution NxApi NvnetDriver NvnetTransmit NvnetInstances NvnetFrame NvnetDelivery
open NvnetPairs (Removal removal_found removal_other rewrites_owner)

/-- `ready` and `sent` are history variables: the interfaces initialized since
they were attached, and the frames these have sent since, each as the interface
and the source address of the frame. -/
structure Conversation where
  driver : Driver
  ready : List Nat
  sent : List (Nat × MacAddress)

def Conversation.initial (interfaces : Interfaces) : Conversation where
  driver := Driver.initial interfaces
  ready := []
  sent := []

def readyAfter (request : NxIpDriver) (ready : List Nat) : List Nat :=
  match request.command with
  | .initializeLink => request.interfacePtr :: ready
  | .interfaceDetach => ready.filter fun interface => interface ≠ request.interfacePtr
  | .uninitializeLink => ready.filter fun interface => interface ≠ request.interfacePtr
  | _ => ready

def sentAfter (conversation : Conversation) (submission : Submission) :
    List (Nat × MacAddress) :=
  let interface := submission.request.interfacePtr
  match submission.request.command with
  | .interfaceDetach => conversation.sent.filter fun entry => entry.1 ≠ interface
  | .uninitializeLink => conversation.sent.filter fun entry => entry.1 ≠ interface
  | command =>
      if sending command = true ∧ interface ∈ conversation.ready then
        (interface, sourceAddress (submission.frame conversation.driver)) :: conversation.sent
      else conversation.sent

def after (conversation : Conversation) (submission : Submission) (returned : Returned) :
    Conversation :=
  if returned.status = .success then
    { driver := returned.driver
      ready := readyAfter submission.request conversation.ready
      sent := sentAfter conversation submission }
  else { conversation with driver := returned.driver }

def conversationStep (conversation : Conversation) (submission : Submission) :
    Option Conversation :=
  (submission.run conversation.driver).map (after conversation submission)

def Serves (table : DriverTable) (slot : Slot) (interface : Nat) : Prop :=
  (table slot).inUse ≠ 0 ∧ (table slot).interfacePtr = interface

instance (table : DriverTable) (slot : Slot) (interface : Nat) :
    Decidable (Serves table slot interface) :=
  inferInstanceAs (Decidable (_ ∧ _))

/-! ### What is asked of the requests -/

/-- NetX sets the address of the entry of `nx_ip_interface` that it is called
for, and no address besides. -/
structure SetsAddresses (netx : NetX) : Prop where
  mtu : ∀ ipPtr index size interfaces place,
    interfaceAddress (netx.interfaceMtuSet ipPtr index size interfaces place) =
      interfaceAddress (interfaces place)
  mapping : ∀ ipPtr index needed interfaces place,
    interfaceAddress (netx.interfaceAddressMappingConfigure ipPtr index needed interfaces place) =
      interfaceAddress (interfaces place)
  entry : ∀ ipPtr index msw lsw update interfaces,
    interfaceAddress (netx.interfacePhysicalAddressSet ipPtr index msw lsw update interfaces
      (netx.ipInterface ipPtr index)) = ⟨msw, lsw⟩
  elsewhere : ∀ ipPtr index msw lsw update interfaces place,
    place ≠ netx.ipInterface ipPtr index →
      interfaceAddress (netx.interfacePhysicalAddressSet ipPtr index msw lsw update interfaces
        place) = interfaceAddress (interfaces place)

/-- The lowest bit of the first byte of an address marks a group. -/
def Group (address : MacAddress) : Prop := address.msw &&& 0x00000100 ≠ 0

instance (address : MacAddress) : Decidable (Group address) :=
  inferInstanceAs (Decidable (_ ≠ _))

def FreeOrGroup (address : MacAddress) : Prop := address = ⟨0, 0⟩ ∨ Group address

/-- A request about an entry of `nx_ip_interface`, which is attached once at most.
It joins groups only, and leaves the addresses as the driver gives them. -/
structure Ordinary (conversation : Conversation) (submission : Submission) : Prop where
  sets : SetsAddresses submission.netx
  entry : submission.request.command = .initializeLink →
    submission.netx.ipInterface submission.request.ipPtr
      (conversation.driver.interfaces submission.request.interfacePtr).index =
        submission.request.interfacePtr
  fresh : submission.request.command = .interfaceAttach →
    findAvailable conversation.driver.table = none ∨
      ∀ slot, ¬ Serves conversation.driver.table slot submission.request.interfacePtr
  given : submission.request.command ≠ .setPhysicalAddress
  group : submission.request.command = .multicastJoin → Group (requestAddress submission.request)

/-! ### Replies -/

structure Reply (conversation : Conversation) (submission : Submission) (interface : Nat) :
    Prop where
  send : sending submission.request.command = true
  attached : ∃ sender, Holds conversation.driver.table sender (pairOf submission.request)
  other : submission.request.interfacePtr ≠ interface
  known : (interface, requestAddress submission.request) ∈ conversation.sent
  room : submission.request.packet.length.toNat + ethernetSize < 2 ^ 32
  succeed : CopiesSucceed submission.netx
  faithful : CopiesFaithful submission.netx

/-- The reply reaches the interface that sent the frame as it was, and no other. -/
def Answered (conversation : Conversation) (submission : Submission) : Prop :=
  ∀ interface, Reply conversation submission interface →
    ∀ returned, submission.run conversation.driver = some returned →
      ∃ slot, Serves conversation.driver.table slot interface ∧
        returned.events.filterMap Event.receiver = [slot] ∧
        Delivered conversation.driver submission.request slot returned

/-! ### The invariant -/

def Named (driver : Driver) (interface : Nat) : Prop :=
  ∃ slot, Serves driver.table slot interface ∧
    interfaceAddress (driver.interfaces interface) = slotAddress slot

structure Consistent (conversation : Conversation) : Prop where
  clean : Clean conversation.driver.table
  addressed : Addressed conversation.driver.table
  single : ∀ first second interface, Serves conversation.driver.table first interface →
    Serves conversation.driver.table second interface → first = second
  groups : ∀ slot index, FreeOrGroup ((conversation.driver.table slot).mcastAddress index)
  ready : ∀ interface ∈ conversation.ready, Named conversation.driver interface
  sent : ∀ entry ∈ conversation.sent, ∃ slot,
    Serves conversation.driver.table slot entry.1 ∧ entry.2 = slotAddress slot

/-! ### Who is served -/

theorem attached_serves {table : DriverTable} {place slot : Slot} {request : NxIpDriver}
    {interface : Nat}
    (serves : Serves (Function.update table place (attached place request (table place))) slot
      interface) :
    slot = place ∧ interface = request.interfacePtr ∨
      slot ≠ place ∧ Serves table slot interface := by
  by_cases own : slot = place
  · subst own
    rw [Serves, Function.update_self] at serves
    exact Or.inl ⟨rfl, serves.2.symm⟩
  · rw [Serves, Function.update_of_ne own] at serves
    exact Or.inr ⟨own, serves⟩

theorem serves_kept {submission : Submission} {driver : Driver} {returned : Returned}
    (ran : submission.run driver = some returned) {slot : Slot} {interface : Nat}
    (serves : Serves driver.table slot interface)
    (stays : Removal submission.request.command → returned.status = .success →
      interface ≠ submission.request.interfacePtr) :
    Serves returned.driver.table slot interface := by
  rcases run_table ran with ⟨same, _⟩ | ⟨place, changed, rewrites, table⟩
  · rw [same]
    exact serves
  · rw [table, Serves]
    by_cases own : slot = place
    · subst own
      rw [Function.update_self]
      rcases rewrites_owner rewrites with
        ⟨_, available, rfl⟩ | ⟨removal, found, rfl⟩ | ⟨_, used, _, kept⟩
      · exact absurd (findAvailable_unused available) serves.1
      · have held := (findInstance_holds found).2.2
        have success : returned.status = .success := by
          rw [run_instance (run_given ran) (removal_other removal) found] at ran
          cases ran
          rcases removal with command | command <;> simp only [processRequest, command] <;> rfl
        exact absurd (serves.2.symm.trans held) (stays removal success)
      · rw [used, kept]
        exact serves
    · rw [Function.update_of_ne own]
      exact serves

theorem serves_before {table : DriverTable} {place slot : Slot} {changed : DriverInstance}
    {interface : Nat}
    (kept : changed.inUse ≠ 0 →
      (table place).inUse ≠ 0 ∧ (table place).interfacePtr = changed.interfacePtr)
    (serves : Serves (Function.update table place changed) slot interface) :
    Serves table slot interface := by
  by_cases own : slot = place
  · subst own
    rw [Serves, Function.update_self] at serves
    have before := kept serves.1
    exact ⟨before.1, before.2.trans serves.2⟩
  · rw [Serves, Function.update_of_ne own] at serves
    exact serves

theorem step_single {conversation : Conversation} {submission : Submission} {returned : Returned}
    (consistent : Consistent conversation) (ordinary : Ordinary conversation submission)
    (ran : submission.run conversation.driver = some returned) (first second : Slot)
    (interface : Nat) (servesFirst : Serves returned.driver.table first interface)
    (servesSecond : Serves returned.driver.table second interface) : first = second := by
  rcases run_table ran with ⟨same, _⟩ | ⟨place, changed, rewrites, table⟩
  · rw [same] at servesFirst servesSecond
    exact consistent.single first second interface servesFirst servesSecond
  · rw [table] at servesFirst servesSecond
    rcases rewrites_owner rewrites with
      ⟨command, available, rfl⟩ | ⟨_, _, rfl⟩ | ⟨_, used, _, kept⟩
    · rcases ordinary.fresh command with full | absent
      · cases available.symm.trans full
      · rcases attached_serves servesFirst with ⟨rfl, own⟩ | ⟨_, before⟩
        · rcases attached_serves servesSecond with ⟨same, _⟩ | ⟨_, also⟩
          · exact same.symm
          · exact absurd (own ▸ also) (absent second)
        · rcases attached_serves servesSecond with ⟨_, own⟩ | ⟨_, also⟩
          · exact absurd (own ▸ before) (absent first)
          · exact consistent.single first second interface before also
    · have zeroed : DriverInstance.zero.inUse ≠ 0 →
          (conversation.driver.table place).inUse ≠ 0 ∧
            (conversation.driver.table place).interfacePtr = DriverInstance.zero.interfacePtr :=
        fun inUse => absurd rfl inUse
      exact consistent.single first second interface (serves_before zeroed servesFirst)
        (serves_before zeroed servesSecond)
    · have owned : changed.inUse ≠ 0 →
          (conversation.driver.table place).inUse ≠ 0 ∧
            (conversation.driver.table place).interfacePtr = changed.interfacePtr :=
        fun inUse => ⟨used ▸ inUse, kept.symm⟩
      exact consistent.single first second interface (serves_before owned servesFirst)
        (serves_before owned servesSecond)

/-! ### The multicast tables -/

theorem setMcast_groups {driver : DriverInstance} {entry : Fin 3} {written : MacAddress}
    (kept : ∀ index, FreeOrGroup (driver.mcastAddress index)) (entered : FreeOrGroup written)
    (index : Fin 3) : FreeOrGroup ((setMcast entry written driver).mcastAddress index) := by
  change FreeOrGroup (Function.update driver.mcastAddress entry written index)
  by_cases own : index = entry
  · subst own
    rw [Function.update_self]
    exact entered
  · rw [Function.update_of_ne own]
    exact kept index

theorem step_groups {conversation : Conversation} {submission : Submission} {returned : Returned}
    (consistent : Consistent conversation) (ordinary : Ordinary conversation submission)
    (ran : submission.run conversation.driver = some returned) (slot : Slot) (index : Fin 3) :
    FreeOrGroup ((returned.driver.table slot).mcastAddress index) := by
  have before := consistent.groups slot
  rcases run_table ran with ⟨same, _⟩ | ⟨place, changed, rewrites, table⟩
  · rw [same]
    exact before index
  · rw [table]
    by_cases own : slot = place
    · subst own
      rw [Function.update_self]
      cases rewrites with
      | attach command available => exact before index
      | remove command found => exact Or.inl rfl
      | join command found free =>
          exact setMcast_groups before (Or.inr (ordinary.group command)) index
      | leave command found held => exact setMcast_groups before (Or.inl rfl) index
      | readdress command found second => exact before index
    · rw [Function.update_of_ne own]
      exact before index

/-! ### The addresses of the interfaces -/

theorem setLink_address (netx : NetX) (request : NxIpDriver) (driver : Driver) (up : UINT)
    (place : Nat) :
    interfaceAddress ((setLink netx request driver up).driver.interfaces place) =
      interfaceAddress (driver.interfaces place) := by
  by_cases own : place = request.interfacePtr
  · subst own
    simp [setLink, withInterfaces, report, interfaceAddress]
  · simp [setLink, withInterfaces, report, Function.update_of_ne own]

theorem address_kept {submission : Submission} {driver : Driver} {returned : Returned}
    (ran : submission.run driver = some returned)
    (other : submission.request.command ≠ .initializeLink) (place : Nat) :
    interfaceAddress (returned.driver.interfaces place) =
      interfaceAddress (driver.interfaces place) := by
  rcases run_cases ran with rfl | ⟨slot, _, rfl⟩
  · rfl
  · unfold processRequest
    cases command : submission.request.command with
    | initializeLink => exact absurd command other
    | enable => exact setLink_address _ _ _ _ _
    | disable => exact setLink_address _ _ _ _ _
    | _ => first | rfl | (dsimp only; split <;> rfl)

theorem initialize_address {netx : NetX} (sets : SetsAddresses netx) (request : NxIpDriver)
    (driver : Driver) (slot : Slot) (place : Nat) :
    interfaceAddress ((initializeInterface netx request driver slot).driver.interfaces place) =
      if place = netx.ipInterface request.ipPtr (driver.interfaces request.interfacePtr).index then
        (driver.table slot).macAddress
      else interfaceAddress (driver.interfaces place) := by
  refine (sets.mapping _ _ _ _ place).trans ?_
  by_cases own :
      place = netx.ipInterface request.ipPtr (driver.interfaces request.interfacePtr).index
  · rw [if_pos own, own]
    exact sets.entry _ _ _ _ _ _
  · rw [if_neg own, sets.elsewhere _ _ _ _ _ _ _ own]
    exact sets.mtu _ _ _ _ place

theorem initialize_named {conversation : Conversation} {submission : Submission}
    {returned : Returned} (consistent : Consistent conversation)
    (ordinary : Ordinary conversation submission)
    (ran : submission.run conversation.driver = some returned)
    (command : submission.request.command = .initializeLink)
    (success : returned.status = .success) {interface : Nat}
    (ready : interface ∈ submission.request.interfacePtr :: conversation.ready) :
    Named returned.driver interface := by
  rcases run_cases ran with refused | ⟨slot, target, processed⟩
  · rw [refused] at success
    cases success
  · have made : returned =
        initializeInterface submission.netx submission.request conversation.driver slot := by
      rw [processed]
      simp only [processRequest, command]
    have table : returned.driver.table = conversation.driver.table := by rw [made]; rfl
    rw [requestSlot_instance _ (by simp [command])] at target
    have held := findInstance_holds target
    have address := initialize_address ordinary.sets submission.request conversation.driver slot
      interface
    rw [ordinary.entry command, ← made] at address
    rw [Named, table, address]
    by_cases own : interface = submission.request.interfacePtr
    · rw [if_pos own, own]
      exact ⟨slot, ⟨held.1, held.2.2⟩, consistent.addressed slot held.1⟩
    · rw [if_neg own]
      exact consistent.ready interface ((List.mem_cons.mp ready).resolve_left own)

theorem named_kept {conversation : Conversation} {submission : Submission} {returned : Returned}
    (ran : submission.run conversation.driver = some returned)
    (other : submission.request.command ≠ .initializeLink) {interface : Nat}
    (stays : Removal submission.request.command → returned.status = .success →
      interface ≠ submission.request.interfacePtr)
    (named : Named conversation.driver interface) : Named returned.driver interface := by
  rcases named with ⟨slot, serves, address⟩
  exact ⟨slot, serves_kept ran serves stays, (address_kept ran other interface).trans address⟩

theorem step_ready {conversation : Conversation} {submission : Submission} {returned : Returned}
    (consistent : Consistent conversation) (ordinary : Ordinary conversation submission)
    (ran : submission.run conversation.driver = some returned)
    (success : returned.status = .success) {interface : Nat}
    (ready : interface ∈ readyAfter submission.request conversation.ready) :
    Named returned.driver interface := by
  unfold readyAfter at ready
  split at ready
  · next command => exact initialize_named consistent ordinary ran command success ready
  · next command =>
      rcases List.mem_filter.mp ready with ⟨before, apart⟩
      exact named_kept ran (by simp [command]) (fun _ _ => of_decide_eq_true apart)
        (consistent.ready interface before)
  · next command =>
      rcases List.mem_filter.mp ready with ⟨before, apart⟩
      exact named_kept ran (by simp [command]) (fun _ _ => of_decide_eq_true apart)
        (consistent.ready interface before)
  · next other detach uninitialize =>
      have stays : Removal submission.request.command → returned.status = .success →
          interface ≠ submission.request.interfacePtr := by
        intro removal
        rcases removal with removal | removal
        · exact absurd removal detach
        · exact absurd removal uninitialize
      exact named_kept ran other stays (consistent.ready interface ready)

/-! ### The frames sent -/

theorem slotAddress_whole (slot : Slot) : onWire (slotAddress slot) = slotAddress slot :=
  onWire_whole (show simulatedAddressMsw.toNat < 2 ^ 16 by decide)

theorem frame_source {conversation : Conversation} (consistent : Consistent conversation)
    {submission : Submission} (ready : submission.request.interfacePtr ∈ conversation.ready) :
    ∃ slot, Serves conversation.driver.table slot submission.request.interfacePtr ∧
      sourceAddress (submission.frame conversation.driver) = slotAddress slot := by
  rcases consistent.ready _ ready with ⟨slot, serves, address⟩
  refine ⟨slot, serves, ?_⟩
  calc sourceAddress (submission.frame conversation.driver)
      = onWire (interfaceAddress
          (conversation.driver.interfaces submission.request.interfacePtr)) := header_source _ _
    _ = onWire (slotAddress slot) := by rw [address]
    _ = slotAddress slot := slotAddress_whole slot

theorem mem_sentAfter {conversation : Conversation} {submission : Submission}
    {entry : Nat × MacAddress} (member : entry ∈ sentAfter conversation submission) :
    (entry ∈ conversation.sent ∧ (Removal submission.request.command →
        entry.1 ≠ submission.request.interfacePtr)) ∨
      (¬ Removal submission.request.command ∧
        submission.request.interfacePtr ∈ conversation.ready ∧
        entry = (submission.request.interfacePtr,
          sourceAddress (submission.frame conversation.driver))) := by
  unfold sentAfter at member
  dsimp only at member
  split at member
  · rcases List.mem_filter.mp member with ⟨before, apart⟩
    exact Or.inl ⟨before, fun _ => of_decide_eq_true apart⟩
  · rcases List.mem_filter.mp member with ⟨before, apart⟩
    exact Or.inl ⟨before, fun _ => of_decide_eq_true apart⟩
  · next detach uninitialize =>
      have other : ¬ Removal submission.request.command := by
        intro removal
        rcases removal with removal | removal
        · exact detach removal
        · exact uninitialize removal
      split at member
      · next sends =>
          rcases List.mem_cons.mp member with own | before
          · exact Or.inr ⟨other, sends.2, own⟩
          · exact Or.inl ⟨before, fun removal => absurd removal other⟩
      · exact Or.inl ⟨member, fun removal => absurd removal other⟩

theorem step_sent {conversation : Conversation} {submission : Submission} {returned : Returned}
    (consistent : Consistent conversation)
    (ran : submission.run conversation.driver = some returned) {entry : Nat × MacAddress}
    (member : entry ∈ sentAfter conversation submission) :
    ∃ slot, Serves returned.driver.table slot entry.1 ∧ entry.2 = slotAddress slot := by
  rcases mem_sentAfter member with ⟨before, apart⟩ | ⟨other, ready, rfl⟩
  · rcases consistent.sent entry before with ⟨slot, serves, address⟩
    exact ⟨slot, serves_kept ran serves fun removal _ => apart removal, address⟩
  · rcases frame_source consistent ready with ⟨slot, serves, address⟩
    exact ⟨slot, serves_kept ran serves fun removal => absurd removal other, address⟩

theorem failed_unchanged {submission : Submission} {driver : Driver} {returned : Returned}
    (ran : submission.run driver = some returned) (failed : returned.status ≠ .success) :
    returned.driver = driver := by
  rcases run_cases ran with rfl | ⟨slot, _, rfl⟩
  · rfl
  · unfold processRequest at failed ⊢
    cases command : submission.request.command with
    | interfaceAttach =>
        cases available : findAvailable driver.table with
        | some place =>
            simp only [command, available] at failed
            exact absurd rfl failed
        | none => rfl
    | multicastJoin =>
        cases free : findMcast (driver.table slot) ⟨0, 0⟩ with
        | some index =>
            simp only [command, free] at failed
            exact absurd rfl failed
        | none => rfl
    | multicastLeave =>
        cases held : findMcast (driver.table slot) (requestAddress submission.request) with
        | some index =>
            simp only [command, held] at failed
            exact absurd rfl failed
        | none => rfl
    | setPhysicalAddress =>
        cases second : findInterface driver.table submission.request.interfacePtr with
        | some place =>
            simp only [command, second] at failed
            exact absurd rfl failed
        | none => rfl
    | other code => rfl
    | _ => exact absurd (by rw [command]; rfl) failed

theorem step_consistent {conversation next : Conversation} {submission : Submission}
    (consistent : Consistent conversation) (ordinary : Ordinary conversation submission)
    (stepped : conversationStep conversation submission = some next) : Consistent next := by
  rcases Option.map_eq_some_iff.mp stepped with ⟨returned, ran, rfl⟩
  by_cases success : returned.status = .success
  · have moved : step conversation.driver submission = some returned.driver := by
      rw [step, ran]
      rfl
    rw [after, if_pos success]
    exact {
      clean := step_clean consistent.clean moved
      addressed := step_addressed consistent.addressed ordinary.given moved
      single := step_single consistent ordinary ran
      groups := step_groups consistent ordinary ran
      ready := fun _ => step_ready consistent ordinary ran success
      sent := fun _ => step_sent consistent ran }
  · rw [after, if_neg success, failed_unchanged ran success]
    exact consistent

/-! ### Who hears a reply -/

theorem slotAddress_single (slot : Slot) : ¬ FreeOrGroup (slotAddress slot) := by
  intro stored
  rcases stored with free | group
  · exact absurd (congrArg MacAddress.msw free) (show simulatedAddressMsw ≠ 0 by decide)
  · exact absurd (show simulatedAddressMsw &&& 0x00000100 = 0 by decide) group

theorem accepts_slotAddress {conversation : Conversation} (consistent : Consistent conversation)
    {slot target : Slot} (used : (conversation.driver.table slot).inUse ≠ 0) :
    Accepts (conversation.driver.table slot) (slotAddress target) ↔ slot = target := by
  have address := consistent.addressed slot used
  constructor
  · intro accepts
    rcases accepts with (broadcast | own | multicast | zero) | ⟨index, held⟩
    · exact absurd broadcast.1 (show simulatedAddressMsw ≠ 0x0000FFFF by decide)
    · have same := (address_matches _ _).mp own
      exact slotAddress_injective (address.symm.trans same)
    · exact absurd multicast (show simulatedAddressMsw ≠ 0x00003333 by decide)
    · exact absurd zero.1 (show simulatedAddressMsw ≠ 0 by decide)
    · exact absurd (held ▸ consistent.groups slot index) (slotAddress_single target)
  · rintro rfl
    exact Or.inl (Or.inr (Or.inl ((address_matches _ _).mpr address)))

theorem recipients_single {conversation : Conversation} (consistent : Consistent conversation)
    {sender target : Slot} (other : target ≠ sender)
    (used : (conversation.driver.table target).inUse ≠ 0) :
    recipients conversation.driver.table sender (slotAddress target) = [target] := by
  apply List.perm_singleton.mp
  apply List.perm_iff_count.mpr
  intro slot
  rw [count_recipients, List.count_singleton]
  by_cases own : slot = target
  · subst own
    have direct : acceptsDirectly (conversation.driver.table slot) (slotAddress slot) :=
      Or.inr (Or.inl ((address_matches _ _).mpr (consistent.addressed slot used)))
    rw [if_neg (not_or.mpr ⟨other, used⟩), copiesFor, if_pos direct, if_pos (beq_self_eq_true slot)]
  · rw [if_neg (show ¬ (target == slot) = true by simp [Ne.symm own])]
    split
    · rfl
    · next heard =>
        have deaf := (accepts_slotAddress consistent (not_or.mp heard).2).not.mpr own
        have none := (copiesFor_positive _ _).not.mpr deaf
        omega

theorem consistent_answered {conversation : Conversation} (consistent : Consistent conversation)
    (submission : Submission) : Answered conversation submission := by
  intro interface reply returned ran
  rcases reply.attached with ⟨holder, held⟩
  rcases present_found fun absent => absent holder held with ⟨sender, found⟩
  rcases consistent.sent _ reply.known with ⟨target, serves, address⟩
  have sender_held := findInstance_holds found
  have foreign : target ≠ sender := by
    rintro rfl
    exact reply.other (sender_held.2.2.symm.trans serves.2)
  have exchange : Exchange conversation.driver submission sender target := {
    send := reply.send
    attached := sender_held
    other := foreign
    used := serves.1
    destination := (consistent.addressed target serves.1).trans address.symm
    address := by
      have msw : submission.request.physicalAddressMsw = simulatedAddressMsw :=
        congrArg MacAddress.msw address
      rw [msw]
      decide
    room := reply.room
    succeed := reply.succeed
    faithful := reply.faithful }
  rw [run_sends (run_given ran) reply.send found] at ran
  cases ran
  refine ⟨target, serves, ?_, exchange_delivered exchange foreign⟩
  calc (sendPacket submission.netx submission.request conversation.driver sender).events.filterMap
          Event.receiver
      = recipients conversation.driver.table sender
          (destinationAddress (submission.frame conversation.driver)) :=
        output_receivers reply.succeed _ _ _
    _ = recipients conversation.driver.table sender (slotAddress target) := by
        rw [exchange_destination exchange, ← address]
    _ = [target] := recipients_single consistent foreign serves.1

/-! ### Runs -/

theorem initial_consistent (interfaces : Interfaces) :
    Consistent (Conversation.initial interfaces) where
  clean := fun _ _ => rfl
  addressed := fun _ used => absurd rfl used
  single := fun _ _ _ serves => absurd rfl serves.1
  groups := fun _ _ => Or.inl rfl
  ready := fun _ member => absurd member List.not_mem_nil
  sent := fun _ member => absurd member List.not_mem_nil

/-- Over any sequence of ordinary requests, a packet sent to the source address
of a frame reaches the interface that sent the frame, as it was, and no other. -/
theorem replies_answered (interfaces : Interfaces) (schedule : List Submission)
    (ordinary : Along conversationStep Ordinary (Conversation.initial interfaces) schedule) :
    Along conversationStep Answered (Conversation.initial interfaces) schedule := by
  have consistent := always_of_along conversationStep Consistent Ordinary
    (fun _ _ _ => step_consistent) _ schedule (initial_consistent interfaces) ordinary
  apply along_of_always conversationStep ?_ _ schedule consistent
  intro conversation submission _ now _
  exact consistent_answered now submission

def settingNetX : NetX :=
  { plainNetX with
    interfacePhysicalAddressSet := fun ipPtr index msw lsw _ interfaces =>
      let place := ipPtr + index.toNat
      Function.update interfaces place
        { interfaces place with
          physicalAddressMsw := msw
          physicalAddressLsw := lsw } }

theorem settingNetX_sets : SetsAddresses settingNetX where
  mtu := fun _ _ _ _ _ => rfl
  mapping := fun _ _ _ _ _ => rfl
  entry := by
    intro ipPtr index msw lsw _ interfaces
    simp [settingNetX, plainNetX, interfaceAddress]
  elsewhere := by
    intro ipPtr index msw lsw _ interfaces place other
    have apart : place ≠ ipPtr + index.toNat := other
    simp [settingNetX, Function.update_of_ne apart]

def settingRequest (command : LinkCommand) (ipPtr interfacePtr : Nat) (address : MacAddress) :
    Submission :=
  { plainRequest command ipPtr interfacePtr address with netx := settingNetX }

def greeting : List Submission :=
  [settingRequest .interfaceAttach 1 1 ⟨0, 0⟩, settingRequest .interfaceAttach 2 2 ⟨0, 0⟩,
    settingRequest .initializeLink 1 1 ⟨0, 0⟩, settingRequest .initializeLink 2 2 ⟨0, 0⟩,
    settingRequest .packetBroadcast 1 1 ⟨0x0000FFFF, 0xFFFFFFFF⟩]

def greetingReply : Submission :=
  settingRequest .packetSend 2 2 (slotAddress ⟨0, Nat.zero_lt_succ 3⟩)

/-- The second interface replies to the first one. -/
theorem greeting_answered :
    ∃ conversation, run conversationStep (Conversation.initial plainInterfaces) greeting =
        some conversation ∧
      Reply conversation greetingReply 1 ∧ Answered conversation greetingReply := by
  have ordinary : Along conversationStep Ordinary (Conversation.initial plainInterfaces)
      (greeting ++ [greetingReply]) := by
    refine along_cons conversationStep rfl ?_ (along_cons conversationStep rfl ?_
      (along_cons conversationStep rfl ?_ (along_cons conversationStep rfl ?_
        (along_cons conversationStep rfl ?_ (along_cons conversationStep rfl ?_ trivial)))))
    all_goals
      exact {
        sets := settingNetX_sets
        entry := by decide
        fresh := by decide
        given := by decide
        group := by decide }
  have answered := replies_answered plainInterfaces _ ordinary
  have last := (((((answered _ rfl).2 _ rfl).2 _ rfl).2 _ rfl).2 _ rfl).2 _ rfl
  refine ⟨_, rfl, ?_, last.1⟩
  exact {
    send := rfl
    attached := ⟨1, by decide⟩
    other := by decide
    known := by decide
    room := by decide
    succeed := fun _ _ _ => rfl
    faithful := plain_faithful }

end UsbxNxdk.NvnetConversation
