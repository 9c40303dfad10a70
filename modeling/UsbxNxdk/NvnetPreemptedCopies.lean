import UsbxNxdk.NvnetPreempted

/-! Where the copies of a preempted transmission go, and where they come from. -/

namespace UsbxNxdk.NvnetPreempted

open BroadcastNetwork NxApi NvnetDriver NvnetTransmit NvnetFrame NvnetNetwork

/-! ### The copies for one slot -/

section Slots

variable (tables : Tables) (destination : MacAddress) (sender : Slot)

theorem mcastHandovers_slot (slot : Slot) (nextIp : Nat) (indices : List (Fin 3)) (read : Nat) :
    (∀ handover ∈ (mcastHandovers tables destination slot nextIp indices read).1,
        handover.slot = slot) ∧
      (mcastHandovers tables destination slot nextIp indices read).1.length ≤ indices.length := by
  induction indices generalizing read with
  | nil => exact ⟨fun _ member => absurd member List.not_mem_nil, Nat.le_refl 0⟩
  | cons index rest ih =>
      rw [mcastHandovers]
      cases (matchesAt tables (fun driver => driver.mcastAddress index) slot destination
          read).1 with
      | false =>
          rcases ih _ with ⟨own, short⟩
          exact ⟨own, short.trans (Nat.le_succ _)⟩
      | true =>
          rcases ih _ with ⟨own, short⟩
          constructor
          · intro handover listed
            rcases List.mem_cons.mp listed with rfl | later
            · rfl
            · exact own handover later
          · exact Nat.succ_le_succ short

theorem slotHandovers_slot (slot : Slot) (read : Nat) :
    (∀ handover ∈ (slotHandovers tables destination sender slot read).1, handover.slot = slot) ∧
      (slotHandovers tables destination sender slot read).1.length ≤ 3 := by
  rw [slotHandovers]
  split
  · exact ⟨fun _ member => absurd member List.not_mem_nil, Nat.zero_le 3⟩
  · split
    · exact ⟨fun _ member => absurd member List.not_mem_nil, Nat.zero_le 3⟩
    · simp only
      split
      · refine ⟨fun handover listed => ?_, Nat.le_add_left 1 2⟩
        rw [List.mem_singleton.mp listed]
      · exact mcastHandovers_slot tables destination slot _ (List.finRange 3) _

theorem handovers_elsewhere {slot : Slot} {slots : List Slot} (absent : slot ∉ slots)
    (read : Nat) :
    (handovers tables destination sender slots read).filter (fun handover => handover.slot = slot) =
      [] := by
  induction slots generalizing read with
  | nil => rfl
  | cons first rest ih =>
      have apart := List.ne_of_not_mem_cons absent
      rw [handovers, List.filter_append, ih (List.not_mem_of_not_mem_cons absent), List.append_nil]
      apply List.filter_eq_nil_iff.mpr
      intro handover listed same
      have own := (slotHandovers_slot tables destination sender first read).1 handover listed
      exact apart ((of_decide_eq_true same).symm.trans own)

theorem handovers_own {slot : Slot} {slots : List Slot} (distinct : slots.Nodup)
    (listed : slot ∈ slots) (read : Nat) :
    ∃ start, (handovers tables destination sender slots read).filter
        (fun handover => handover.slot = slot) =
      (slotHandovers tables destination sender slot start).1 := by
  induction slots generalizing read with
  | nil => cases listed
  | cons first rest ih =>
      rcases List.nodup_cons.mp distinct with ⟨absent, others⟩
      have visited := (slotHandovers_slot tables destination sender first read).1
      rw [handovers, List.filter_append]
      rcases List.mem_cons.mp listed with rfl | later
      · refine ⟨read, ?_⟩
        rw [handovers_elsewhere tables destination sender absent, List.append_nil]
        apply List.filter_eq_self.mpr
        exact fun handover member => decide_eq_true (visited handover member)
      · have apart : first ≠ slot := fun same => absent (same ▸ later)
        have nothing : (slotHandovers tables destination sender first read).1.filter
            (fun handover => handover.slot = slot) = [] := by
          apply List.filter_eq_nil_iff.mpr
          intro handover member same
          exact apart ((visited handover member).symm.trans (of_decide_eq_true same))
        rw [nothing, List.nil_append]
        exact ih others later _

end Slots

theorem deliver_stable {tables : Tables} {slot : Slot} {driver : DriverInstance}
    (stable : ∀ read, tables read slot = driver) (packet : NxPacket) (destination : MacAddress)
    (sender : Slot) :
    (deliver tables packet (handovers tables destination sender (List.finRange 4) 0)).filter
        (fun delivery => delivery.place = slot) =
      match frameOf packet with
      | none => []
      | some frame =>
          List.replicate (share driver sender slot destination)
            ⟨slot, (driver.ipPtr, driver.interfacePtr), frame⟩ := by
  rw [deliver]
  cases frameOf packet with
  | none => rfl
  | some frame =>
      rcases handovers_own tables destination sender (List.nodup_finRange 4)
        (List.mem_finRange slot) 0 with ⟨start, own⟩
      have same : ∀ handover ∈ (slotHandovers tables destination sender slot start).1,
          deliveryAt tables frame handover =
            ⟨handover.slot, (handover.ipPtr, driver.interfacePtr), frame⟩ := by
        intro handover listed
        have place := (slotHandovers_slot tables destination sender slot start).1 handover listed
        rw [deliveryAt, place, stable]
      calc
        _ = ((handovers tables destination sender (List.finRange 4) 0).filter
              fun handover => handover.slot = slot).map (deliveryAt tables frame) :=
            List.filter_map
        _ = (slotHandovers tables destination sender slot start).1.map
              (fun handover => ⟨handover.slot, (handover.ipPtr, driver.interfacePtr), frame⟩) := by
            rw [own]
            exact List.map_congr_left same
        _ = ((slotHandovers tables destination sender slot start).1.map
              fun handover => (handover.slot, handover.ipPtr)).map
              (fun pair => ⟨pair.1, (pair.2, driver.interfacePtr), frame⟩) := by
            rw [List.map_map]
            rfl
        _ = List.replicate (share driver sender slot destination)
              ⟨slot, (driver.ipPtr, driver.interfacePtr), frame⟩ := by
            rw [slotHandovers_stable stable, List.map_replicate]

/-! ### Where a copy comes from -/

inductive Field where
  | station
  | group (index : Fin 3)

def Field.address : Field → DriverInstance → MacAddress
  | .station => DriverInstance.macAddress
  | .group index => fun driver => driver.mcastAddress index

/-- The destination is for all, or the halves of an entry have matched in two reads
between the two given. -/
def Addressed (tables : Tables) (slot : Slot) (destination : MacAddress) (after before : Nat) :
    Prop :=
  destination ∈ medium.common ∨ ∃ (field : Field) (read : Nat), after < read ∧ read + 1 < before ∧
    destination.msw = (field.address (tables read slot)).msw ∧
    destination.lsw = (field.address (tables (read + 1) slot)).lsw

/-- The slot was in use, then named the IP instance, then had the address, and last
named the interface. -/
def Held (tables : Tables) (destination : MacAddress) (slot : Slot) (ipPtr last : Nat) : Prop :=
  ∃ first, first + 1 < last ∧ (tables first slot).inUse ≠ 0 ∧
    (tables (first + 1) slot).ipPtr = ipPtr ∧ Addressed tables slot destination (first + 1) last

section Origins

variable {tables : Tables} {destination : MacAddress} {slot : Slot} {read : Nat}

theorem matchesAt_field (field : Field)
    (matched : (matchesAt tables field.address slot destination read).1 = true) :
    (matchesAt tables field.address slot destination read).2 = read + 2 ∧
      destination.msw = (field.address (tables read slot)).msw ∧
      destination.lsw = (field.address (tables (read + 1) slot)).lsw := by
  rw [matchesAt] at matched ⊢
  split at matched
  · next first =>
      rw [if_pos first]
      exact ⟨rfl, first, of_decide_eq_true matched⟩
  · cases matched

theorem matchesAt_later (address : DriverInstance → MacAddress) :
    read < (matchesAt tables address slot destination read).2 := by
  rw [matchesAt]
  split
  · exact Nat.lt_add_of_pos_right Nat.zero_lt_two
  · exact Nat.lt_succ_self read

theorem acceptsAt_later : read ≤ (acceptsAt tables slot destination read).2 := by
  rw [acceptsAt]
  split
  · exact Nat.le_refl read
  · simp only
    split
    · exact (matchesAt_later _).le
    · exact (matchesAt_later _).le

theorem acceptsAt_addressed {after : Nat} (later : after < read)
    (accepted : (acceptsAt tables slot destination read).1 = true) :
    Addressed tables slot destination after (acceptsAt tables slot destination read).2 := by
  rw [acceptsAt] at accepted ⊢
  split at accepted
  · next broadcast =>
      have common : destination = ⟨0x0000FFFF, 0xFFFFFFFF⟩ := by
        rw [← broadcast.1, ← broadcast.2]
      exact Or.inl (Or.inl common)
  · next other =>
      rw [if_neg other]
      simp only at accepted ⊢
      split at accepted
      · next own =>
          rcases matchesAt_field .station own with ⟨reads, msw, lsw⟩
          rw [if_pos own]
          refine Or.inr ⟨.station, read, later, ?_, msw, lsw⟩
          exact (Nat.lt_succ_self _).trans_eq reads.symm
      · rcases of_decide_eq_true accepted with group | zero
        · exact Or.inl (Or.inr (Or.inl group))
        · have free := (address_matches NvnetMulticast.freeAddress destination).mp zero
          exact Or.inl (Or.inr (Or.inr free.symm))

theorem mcastHandovers_addressed {nextIp after : Nat} {indices : List (Fin 3)}
    (later : after < read) {handover : Handover}
    (listed : handover ∈ (mcastHandovers tables destination slot nextIp indices read).1) :
    handover.ipPtr = nextIp ∧ after < handover.read ∧
      Addressed tables slot destination after handover.read := by
  induction indices generalizing read with
  | nil => cases listed
  | cons index rest ih =>
      have grown : read < (matchesAt tables (Field.group index).address slot destination read).2 :=
        matchesAt_later _
      rw [mcastHandovers] at listed
      cases matched : (matchesAt tables (fun driver => driver.mcastAddress index) slot destination
          read).1 with
      | false =>
          simp only [matched, Bool.false_eq_true, if_false] at listed
          exact ih (later.trans grown) listed
      | true =>
          simp only [matched, if_true] at listed
          rcases List.mem_cons.mp listed with rfl | others
          · rcases matchesAt_field (.group index) matched with ⟨reads, msw, lsw⟩
            refine ⟨rfl, later.trans grown, Or.inr ⟨.group index, read, later, ?_, msw, lsw⟩⟩
            exact (Nat.lt_succ_self _).trans_eq reads.symm
          · exact ih (later.trans (grown.trans (Nat.lt_succ_self _))) others

theorem slotHandovers_held {sender : Slot} {handover : Handover}
    (listed : handover ∈ (slotHandovers tables destination sender slot read).1) :
    slot ≠ sender ∧ Held tables destination slot handover.ipPtr handover.read := by
  rw [slotHandovers] at listed
  split at listed
  · cases listed
  · next foreign =>
      split at listed
      · cases listed
      · next used =>
          refine ⟨foreign, read, ?_⟩
          have later : read + 1 < read + 2 := Nat.lt_succ_self _
          simp only at listed
          split at listed
          · next accepted =>
              rw [List.mem_singleton.mp listed]
              exact ⟨later.trans_le acceptsAt_later, used, rfl, acceptsAt_addressed later accepted⟩
          · rcases mcastHandovers_addressed (later.trans_le acceptsAt_later) listed with
              ⟨ip, after, addressed⟩
            exact ⟨after, used, ip.symm, addressed⟩

theorem handovers_held {sender : Slot} {slots : List Slot} {handover : Handover}
    (listed : handover ∈ handovers tables destination sender slots read) :
    handover.slot ≠ sender ∧
      Held tables destination handover.slot handover.ipPtr handover.read := by
  induction slots generalizing read with
  | nil => cases listed
  | cons first rest ih =>
      rw [handovers] at listed
      rcases List.mem_append.mp listed with now | later
      · rw [(slotHandovers_slot tables destination sender first read).1 handover now]
        exact slotHandovers_held now
      · exact ih later

end Origins

/-! ### Whatever others write -/

/-- What a transmission keeps to whatever its reads find: slots that stay as they
are get what they get of a transmission that runs alone; a copy for any slot names an
IP instance and an interface that the slot has held, in this order; no slot gets more
than three; and the packet itself is released once, last. -/
structure Withstands (netx : NetX) (tables : Tables) (packet : NxPacket) (sender : Slot) :
    Prop where
  served : CopiesSucceed netx → ∀ (table : DriverTable) (slot : Slot),
    (∀ read, tables read slot = table slot) →
      deliveriesTo slot (outputAt netx tables packet sender) =
        deliveriesTo slot (nxNvnetNetworkDriverOutput netx table packet sender).events
  held : ∀ delivery ∈ (outputAt netx tables packet sender).filterMap deliveryOf,
    delivery.place ≠ sender ∧ ∃ last,
      Held tables (destinationAddress packet) delivery.place delivery.owner.1 last ∧
        (tables last delivery.place).interfacePtr = delivery.owner.2
  bounded : ∀ slot, (deliveriesTo slot (outputAt netx tables packet sender)).length ≤ 3
  released : ∃ events,
    outputAt netx tables packet sender = events ++ [.transmitReleased (removeHeader packet)] ∧
      ∀ other, .transmitReleased other ∉ events

theorem handEvents_unreleased (netx : NetX) (tables : Tables) (packet : NxPacket) (copies : Nat)
    (listed : List Handover) (other : NxPacket) :
    .transmitReleased other ∉ handEvents netx tables packet copies listed := by
  induction listed generalizing copies with
  | nil => exact List.not_mem_nil
  | cons handover rest ih =>
      rw [handEvents]
      cases netx.packetCopy copies handover.ipPtr packet with
      | none => exact List.not_mem_nil
      | some copy =>
          intro member
          rcases List.mem_cons.mp member with copied | member
          · cases copied
          · rcases List.mem_cons.mp member with received | later
            · have kept := receive_receiver (tables handover.read) handover.ipPtr copy
                handover.slot copies
              rw [← received] at kept
              cases kept
            · exact ih (copies + 1) later

theorem deliver_mem {tables : Tables} {packet : NxPacket} {listed : List Handover}
    {delivery : Delivery 4 Owner Frame} (member : delivery ∈ deliver tables packet listed) :
    ∃ frame, ∃ handover ∈ listed, deliveryAt tables frame handover = delivery := by
  rw [deliver] at member
  cases whole : frameOf packet with
  | none =>
      rw [whole] at member
      cases member
  | some frame =>
      rw [whole] at member
      exact ⟨frame, List.mem_map.mp member⟩

theorem deliver_bounded (tables : Tables) (packet : NxPacket) (destination : MacAddress)
    (sender slot : Slot) :
    ((deliver tables packet (handovers tables destination sender (List.finRange 4) 0)).filter
      fun delivery => delivery.place = slot).length ≤ 3 := by
  rw [deliver]
  cases frameOf packet with
  | none => exact Nat.zero_le 3
  | some frame =>
      rcases handovers_own tables destination sender (List.nodup_finRange 4)
        (List.mem_finRange slot) 0 with ⟨start, own⟩
      calc
        _ = (((handovers tables destination sender (List.finRange 4) 0).filter
              fun handover => handover.slot = slot).map (deliveryAt tables frame)).length :=
            congrArg List.length List.filter_map
        _ = (slotHandovers tables destination sender slot start).1.length := by
            rw [own, List.length_map]
        _ ≤ 3 := (slotHandovers_slot tables destination sender slot start).2

theorem preempted_withstands {netx : NetX} {packet : NxPacket} (faithful : CopiesFaithful netx)
    (headed : ethernetSize ≤ packet.length.toNat) (tables : Tables) (sender : Slot) :
    Withstands netx tables packet sender := by
  have delivered := outputAt_delivered faithful headed tables sender
  constructor
  · intro succeed table slot stable
    have alone := outputAt_delivered faithful headed (fun _ => table) sender
    rw [outputAt_alone] at alone
    rw [deliveriesTo, deliveriesTo, delivered.2 succeed, alone.2 succeed,
      deliver_stable stable, deliver_stable fun _ => rfl]
  · intro delivery member
    rcases deliver_mem (delivered.1.subset member) with ⟨frame, handover, listed, rfl⟩
    rcases handovers_held listed with ⟨foreign, held⟩
    exact ⟨foreign, handover.read, held, rfl⟩
  · intro slot
    have fewer := (delivered.1.sublist.filter fun delivery => delivery.place = slot).length_le
    exact fewer.trans (deliver_bounded tables packet _ sender slot)
  · refine ⟨_, outputAt_events netx tables packet sender, ?_⟩
    exact handEvents_unreleased netx tables packet 0 _

def emptyBroadcast : NxPacket :=
  { NvnetInstances.emptyPacket with
    data := fun place => if place < 6 then 0xFF else if place = 12 then 0x08 else 0
    length := 14 }

def detachedMidway : Tables := fun read slot =>
  if read < 2 ∧ slot.val = 1 then
    { DriverInstance.zero with inUse := 1, interfacePtr := 11, ipPtr := 10 }
  else DriverInstance.zero

/-- The IP instance is handed a frame that has come in on no interface. -/
theorem detached_withstands :
    Withstands NvnetInstances.plainNetX detachedMidway emptyBroadcast 0 ∧
      deliveriesTo 1 (outputAt NvnetInstances.plainNetX detachedMidway emptyBroadcast 0) =
        [⟨1, (10, 0), ⟨.ip, []⟩⟩] :=
  ⟨preempted_withstands plain_faithful (by decide) detachedMidway 0, rfl⟩

end UsbxNxdk.NvnetPreempted
