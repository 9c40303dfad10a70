import UsbxNxdk.NvnetNetwork

/-! A transmission that nothing protects from preemption: other threads may write
the instance table between any two of its reads. -/

namespace UsbxNxdk.NvnetPreempted

open BroadcastNetwork NxApi NvnetDriver NvnetTransmit NvnetFrame NvnetNetwork

/-- The glue's function takes note of nothing. -/
def txThreadPreemptionChange (_newThreshold oldThreshold own : UINT) : UINT × UINT :=
  (oldThreshold, own)

theorem glue_unprotected {netx : NetX} (glue : netx.preemptionChange = txThreadPreemptionChange)
    (table : DriverTable) (packet : NxPacket) (sender : Slot) :
    (netx.preemptionChange 0 0 netx.preemptThreshold).2 = netx.preemptThreshold ∧
      (nxNvnetNetworkDriverOutput netx table packet sender).preemptThreshold =
        netx.preemptThreshold := by
  rw [nxNvnetNetworkDriverOutput, glue]
  refine ⟨rfl, ?_⟩
  cases slotLoop netx table packet (destinationAddress packet) sender (List.finRange 4)
    { copies := 0, events := [] } <;> rfl

/-- What each read finds in the table, by the number of the read. -/
abbrev Tables := Nat → DriverTable

inductive Exit where
  | finished (read : Nat) (transmission : Transmission)
  | returned (transmission : Transmission)

/-- The two halves of an address are read one after the other, the second one only
where the first one matches. -/
def matchesAt (tables : Tables) (address : DriverInstance → MacAddress) (slot : Slot)
    (destination : MacAddress) (read : Nat) : Bool × Nat :=
  if destination.msw = (address (tables read slot)).msw then
    (decide (destination.lsw = (address (tables (read + 1) slot)).lsw), read + 2)
  else (false, read + 1)

def acceptsAt (tables : Tables) (slot : Slot) (destination : MacAddress) (read : Nat) :
    Bool × Nat :=
  if destination.msw = 0x0000FFFF ∧ destination.lsw = 0xFFFFFFFF then (true, read)
  else
    let compared := matchesAt tables DriverInstance.macAddress slot destination read
    if compared.1 then compared
    else
      (decide (destination.msw = 0x00003333 ∨ destination.msw = 0 ∧ destination.lsw = 0),
        compared.2)

section Loops

variable (netx : NetX) (tables : Tables) (packet : NxPacket) (destination : MacAddress)

def forwardCopyAt (slot : Slot) (nextIp read : Nat) (transmission : Transmission) : Exit :=
  match netx.packetCopy transmission.copies nextIp packet with
  | none =>
      .returned
        { copies := transmission.copies + 1
          events := transmission.events ++ [.transmitReleased (removeHeader packet)] }
  | some packetCopy =>
      .finished (read + 1)
        { copies := transmission.copies + 1
          events := transmission.events ++ [.copied transmission.copies,
            nxNvnetNetworkDriverReceive (tables read) nextIp packetCopy slot
              transmission.copies] }

def mcastLoopAt (slot : Slot) (nextIp : Nat) : List (Fin 3) → Nat → Transmission → Exit
  | [], read, transmission => .finished read transmission
  | index :: rest, read, transmission =>
      let compared :=
        matchesAt tables (fun driver => driver.mcastAddress index) slot destination read
      if compared.1 then
        match forwardCopyAt netx tables packet slot nextIp compared.2 transmission with
        | .finished read transmission => mcastLoopAt slot nextIp rest read transmission
        | .returned transmission => .returned transmission
      else mcastLoopAt slot nextIp rest compared.2 transmission

def slotLoopAt (sender : Slot) : List Slot → Nat → Transmission → Exit
  | [], read, transmission => .finished read transmission
  | slot :: rest, read, transmission =>
      if slot = sender then slotLoopAt sender rest read transmission
      else if (tables read slot).inUse = 0 then slotLoopAt sender rest (read + 1) transmission
      else
        let nextIp := (tables (read + 1) slot).ipPtr
        let accepted := acceptsAt tables slot destination (read + 2)
        let visited :=
          if accepted.1 then
            forwardCopyAt netx tables packet slot nextIp accepted.2 transmission
          else
            mcastLoopAt netx tables packet destination slot nextIp (List.finRange 3) accepted.2
              transmission
        match visited with
        | .finished read transmission => slotLoopAt sender rest read transmission
        | .returned transmission => .returned transmission

end Loops

/-- The packets that change hands in a transmission whose reads find `tables`. -/
def outputAt (netx : NetX) (tables : Tables) (packet : NxPacket) (sender : Slot) : List Event :=
  match slotLoopAt netx tables packet (destinationAddress packet) sender (List.finRange 4) 0
    { copies := 0, events := [] } with
  | .finished _ transmission => transmission.events ++ [.transmitReleased (removeHeader packet)]
  | .returned transmission => transmission.events

/-! ### The copies as a list -/

/-- A copy for a slot: the IP instance it is handed to, and the number of the read
that finds the interface. -/
structure Handover where
  slot : Slot
  ipPtr : Nat
  read : Nat
  deriving DecidableEq, Repr

section Lists

variable (tables : Tables) (destination : MacAddress)

def mcastHandovers (slot : Slot) (nextIp : Nat) : List (Fin 3) → Nat → List Handover × Nat
  | [], read => ([], read)
  | index :: rest, read =>
      let compared :=
        matchesAt tables (fun driver => driver.mcastAddress index) slot destination read
      if compared.1 then
        let later := mcastHandovers slot nextIp rest (compared.2 + 1)
        (⟨slot, nextIp, compared.2⟩ :: later.1, later.2)
      else mcastHandovers slot nextIp rest compared.2

def slotHandovers (sender slot : Slot) (read : Nat) : List Handover × Nat :=
  if slot = sender then ([], read)
  else if (tables read slot).inUse = 0 then ([], read + 1)
  else
    let nextIp := (tables (read + 1) slot).ipPtr
    let accepted := acceptsAt tables slot destination (read + 2)
    if accepted.1 then ([⟨slot, nextIp, accepted.2⟩], accepted.2 + 1)
    else mcastHandovers tables destination slot nextIp (List.finRange 3) accepted.2

def handovers (sender : Slot) : List Slot → Nat → List Handover
  | [], _ => []
  | slot :: rest, read =>
      let visited := slotHandovers tables destination sender slot read
      visited.1 ++ handovers sender rest visited.2

end Lists

def forwardAllAt (netx : NetX) (tables : Tables) (packet : NxPacket) :
    List Handover → Transmission → LoopExit
  | [], transmission => .finished transmission
  | handover :: rest, transmission =>
      match forwardCopyAt netx tables packet handover.slot handover.ipPtr handover.read
        transmission with
      | .finished _ transmission => forwardAllAt netx tables packet rest transmission
      | .returned transmission => .returned transmission

def reading (read : Nat) : LoopExit → Exit
  | .finished transmission => .finished read transmission
  | .returned transmission => .returned transmission

section Forward

variable (netx : NetX) (tables : Tables) (packet : NxPacket) (destination : MacAddress)

theorem forwardAllAt_append (first second : List Handover) (transmission : Transmission) :
    forwardAllAt netx tables packet (first ++ second) transmission =
      match forwardAllAt netx tables packet first transmission with
      | .finished transmission => forwardAllAt netx tables packet second transmission
      | .returned transmission => .returned transmission := by
  induction first generalizing transmission with
  | nil => rfl
  | cons handover rest ih =>
      rw [List.cons_append, forwardAllAt, forwardAllAt]
      cases forwardCopyAt netx tables packet handover.slot handover.ipPtr handover.read
          transmission with
      | finished read middle => exact ih middle
      | returned middle => rfl

theorem forwardCopyAt_reading (slot : Slot) (nextIp read : Nat) (transmission : Transmission) :
    forwardCopyAt netx tables packet slot nextIp read transmission =
      reading (read + 1)
        (forwardAllAt netx tables packet [⟨slot, nextIp, read⟩] transmission) := by
  simp only [forwardAllAt, forwardCopyAt]
  cases netx.packetCopy transmission.copies nextIp packet <;> rfl

theorem mcastLoopAt_reading (slot : Slot) (nextIp : Nat) (indices : List (Fin 3)) (read : Nat)
    (transmission : Transmission) :
    mcastLoopAt netx tables packet destination slot nextIp indices read transmission =
      reading (mcastHandovers tables destination slot nextIp indices read).2
        (forwardAllAt netx tables packet
          (mcastHandovers tables destination slot nextIp indices read).1 transmission) := by
  induction indices generalizing read transmission with
  | nil => rfl
  | cons index rest ih =>
      rw [mcastLoopAt, mcastHandovers]
      cases matched : (matchesAt tables (fun driver => driver.mcastAddress index) slot destination
          read).1 with
      | false =>
          simp only [Bool.false_eq_true, if_false]
          exact ih _ transmission
      | true =>
          simp only [if_true, forwardAllAt, forwardCopyAt]
          cases netx.packetCopy transmission.copies nextIp packet with
          | none => rfl
          | some copy => exact ih _ _

theorem slotLoopAt_reading (sender : Slot) (slots : List Slot) (read : Nat)
    (transmission : Transmission) :
    ∃ last, slotLoopAt netx tables packet destination sender slots read transmission =
      reading last (forwardAllAt netx tables packet
        (handovers tables destination sender slots read) transmission) := by
  induction slots generalizing read transmission with
  | nil => exact ⟨read, rfl⟩
  | cons slot rest ih =>
      rw [slotLoopAt, handovers, slotHandovers]
      by_cases own : slot = sender
      · simp only [if_pos own, List.nil_append]
        exact ih read transmission
      · by_cases unused : (tables read slot).inUse = 0
        · simp only [if_neg own, if_pos unused, List.nil_append]
          exact ih (read + 1) transmission
        · simp only [if_neg own, if_neg unused]
          cases accepted : (acceptsAt tables slot destination (read + 2)).1 with
          | false =>
              simp only [Bool.false_eq_true, if_false, mcastLoopAt_reading]
              rw [forwardAllAt_append]
              cases forwardAllAt netx tables packet (mcastHandovers tables destination slot _ _ _).1
                  transmission with
              | finished middle => exact ih _ middle
              | returned middle => exact ⟨0, rfl⟩
          | true =>
              simp only [if_true, forwardCopyAt_reading]
              rw [forwardAllAt_append]
              cases forwardAllAt netx tables packet [_] transmission with
              | finished middle => exact ih _ middle
              | returned middle => exact ⟨0, rfl⟩

def handEvents : Nat → List Handover → List Event
  | _, [] => []
  | copies, handover :: rest =>
      match netx.packetCopy copies handover.ipPtr packet with
      | none => []
      | some packetCopy =>
          .copied copies ::
            nxNvnetNetworkDriverReceive (tables handover.read) handover.ipPtr packetCopy
              handover.slot copies ::
            handEvents (copies + 1) rest

theorem forwardAllAt_events (listed : List Handover) (transmission : Transmission) :
    exitEvents packet (forwardAllAt netx tables packet listed transmission) =
      transmission.events ++ handEvents netx tables packet transmission.copies listed ++
        [.transmitReleased (removeHeader packet)] := by
  induction listed generalizing transmission with
  | nil => rw [forwardAllAt, handEvents, exitEvents, List.append_nil]
  | cons handover rest ih =>
      simp only [forwardAllAt, handEvents, forwardCopyAt]
      cases netx.packetCopy transmission.copies handover.ipPtr packet with
      | none =>
          simp only [exitEvents, List.append_nil]
      | some copy =>
          refine (ih _).trans ?_
          simp only [List.append_assoc, List.cons_append, List.nil_append]

theorem outputAt_events (sender : Slot) :
    outputAt netx tables packet sender =
      handEvents netx tables packet 0
          (handovers tables (destinationAddress packet) sender (List.finRange 4) 0) ++
        [.transmitReleased (removeHeader packet)] := by
  rcases slotLoopAt_reading netx tables packet (destinationAddress packet) sender
    (List.finRange 4) 0 { copies := 0, events := [] } with ⟨last, looped⟩
  have exits : outputAt netx tables packet sender =
      exitEvents packet (forwardAllAt netx tables packet
        (handovers tables (destinationAddress packet) sender (List.finRange 4) 0)
        { copies := 0, events := [] }) := by
    rw [outputAt, looped]
    cases forwardAllAt netx tables packet _ { copies := 0, events := [] } <;> rfl
  rw [exits]
  exact forwardAllAt_events netx tables packet _ { copies := 0, events := [] }

end Forward

/-! ### A slot that stays as it is -/

def share (driver : DriverInstance) (sender slot : Slot) (destination : MacAddress) : Nat :=
  if slot = sender ∨ driver.inUse = 0 then 0 else copiesFor driver destination

section Stable

variable {tables : Tables} {slot : Slot} {driver : DriverInstance}
  (stable : ∀ read, tables read slot = driver) (destination : MacAddress)

include stable

theorem matchesAt_stable (address : DriverInstance → MacAddress) (read : Nat) :
    (matchesAt tables address slot destination read).1 =
      decide (address driver = destination) := by
  have same := address_matches (address driver) destination
  simp only [matchesAt, stable]
  split
  · next first => simp only [← same, first, true_and]
  · next first =>
      have other : address driver ≠ destination := fun equal => first (same.mpr equal).1
      simp only [other, decide_false]

theorem acceptsAt_stable (read : Nat) :
    (acceptsAt tables slot destination read).1 = decide (acceptsDirectly driver destination) := by
  have same := address_matches driver.macAddress destination
  simp only [acceptsAt, matchesAt_stable stable, decide_eq_true_eq]
  split
  · next broadcast => simp only [acceptsDirectly, broadcast, and_self, true_or, decide_true]
  · next other =>
      split
      · next own =>
          rw [matchesAt_stable stable, decide_eq_true own]
          exact (decide_eq_true (Or.inr (Or.inl (same.mpr own)))).symm
      · next foreign => simp only [acceptsDirectly, other, same, foreign, false_or]

theorem mcastHandovers_stable (nextIp : Nat) (indices : List (Fin 3)) (read : Nat) :
    (mcastHandovers tables destination slot nextIp indices read).1.map
        (fun handover => (handover.slot, handover.ipPtr)) =
      List.replicate (indices.filter fun index =>
        driver.mcastAddress index = destination).length (slot, nextIp) := by
  induction indices generalizing read with
  | nil => rfl
  | cons index rest ih =>
      simp only [mcastHandovers, matchesAt_stable stable, decide_eq_true_eq]
      by_cases matched : driver.mcastAddress index = destination
      · simp only [List.filter_cons, matched, decide_true, if_true, List.length_cons,
          List.replicate_succ, List.map_cons, ih]
      · simp only [List.filter_cons, matched, decide_false, Bool.false_eq_true, if_false, ih]

theorem slotHandovers_stable (sender : Slot) (read : Nat) :
    (slotHandovers tables destination sender slot read).1.map
        (fun handover => (handover.slot, handover.ipPtr)) =
      List.replicate (share driver sender slot destination) (slot, driver.ipPtr) := by
  simp only [slotHandovers, share, stable, acceptsAt_stable stable, decide_eq_true_eq]
  by_cases own : slot = sender
  · simp only [own, true_or, if_true, List.map_nil, List.replicate_zero]
  · by_cases unused : driver.inUse = 0
    · simp only [own, unused, or_true, if_true, if_false, List.map_nil, List.replicate_zero]
    · simp only [own, unused, or_self, if_false, copiesFor]
      by_cases direct : acceptsDirectly driver destination
      · simp only [if_pos direct, List.map_cons, List.map_nil, List.replicate_one]
      · simp only [if_neg direct]
        exact mcastHandovers_stable stable destination _ _ _

end Stable

/-! ### A transmission that runs alone -/

theorem handEvents_alone (netx : NetX) (table : DriverTable) (packet : NxPacket) (copies : Nat)
    {listed : List Handover} {slots : List Slot}
    (current : listed.map (fun handover => (handover.slot, handover.ipPtr)) =
      slots.map fun slot => (slot, (table slot).ipPtr)) :
    handEvents netx (fun _ => table) packet copies listed =
      copyEvents netx table packet copies slots := by
  induction slots generalizing copies listed with
  | nil =>
      rw [List.map_nil, List.map_eq_nil_iff] at current
      rw [current, handEvents, copyEvents]
  | cons slot rest ih =>
      rcases List.map_eq_cons_iff.mp current with ⟨handover, later, rfl, own, others⟩
      rcases Prod.mk.inj own with ⟨rfl, same⟩
      rw [handEvents, copyEvents, same]
      cases netx.packetCopy copies (table handover.slot).ipPtr packet with
      | none => rfl
      | some copy => simp only [ih (copies + 1) others]

theorem handovers_alone (table : DriverTable) (sender : Slot) (destination : MacAddress)
    (slots : List Slot) (read : Nat) :
    (handovers (fun _ => table) destination sender slots read).map
        (fun handover => (handover.slot, handover.ipPtr)) =
      (slots.flatMap (slotRecipients table sender destination)).map
        fun slot => (slot, (table slot).ipPtr) := by
  induction slots generalizing read with
  | nil => rfl
  | cons slot rest ih =>
      have stable : ∀ number : Nat, (fun _ => table : Tables) number slot = table slot :=
        fun _ => rfl
      rw [handovers, List.map_append, ih, slotHandovers_stable stable, List.flatMap_cons,
        List.map_append, slotRecipients, share]
      by_cases skipped : slot = sender ∨ (table slot).inUse = 0
      · simp only [if_pos skipped, List.replicate_zero, List.map_nil]
      · simp only [if_neg skipped, List.map_replicate]

theorem outputAt_alone (netx : NetX) (table : DriverTable) (packet : NxPacket) (sender : Slot) :
    outputAt netx (fun _ => table) packet sender =
      (nxNvnetNetworkDriverOutput netx table packet sender).events := by
  rw [outputAt_events, output_events, recipients]
  rw [handEvents_alone netx table packet 0 (handovers_alone table sender _ _ 0)]

/-! ### Deliveries -/

def entryOf (type : UINT) : Option ReceiveEntry :=
  if type = ethernetIp.setWidth 32 ∨ type = ethernetIpv6.setWidth 32 then some .ip
  else if type = ethernetArp.setWidth 32 then some .arp
  else if type = ethernetRarp.setWidth 32 then some .rarp
  else none

def frameOf (packet : NxPacket) : Option Frame :=
  (entryOf (packetType packet)).map fun entry => ⟨entry, bytes (removeHeader packet)⟩

theorem receive_delivers {copy packet : NxPacket}
    (headed : ethernetSize ≤ packet.length.toNat) (length : copy.length = packet.length)
    (same : ∀ number < packet.length.toNat, copy.byte number = packet.byte number)
    (table : DriverTable) (ipPtr : Nat) (slot : Slot) (number : Nat) :
    deliveryOf (nxNvnetNetworkDriverReceive table ipPtr copy slot number) =
      (frameOf packet).map fun frame => ⟨slot, (ipPtr, (table slot).interfacePtr), frame⟩ := by
  have long : 14 ≤ packet.length.toNat := headed
  have type : packetType copy = packetType packet := by
    rw [packetType, packetType, same 12 (by omega), same 13 (by omega)]
  have shorter : (packet.length - BitVec.ofNat 32 ethernetSize).toNat =
      packet.length.toNat - ethernetSize := by
    rw [ethernetSize]
    bv_omega
  have payload : bytes (handedOver table slot copy) = bytes (removeHeader packet) := by
    change (List.range (copy.length - BitVec.ofNat 32 ethernetSize).toNat).map _ =
      (List.range (packet.length - BitVec.ofNat 32 ethernetSize).toNat).map _
    rw [length]
    apply List.map_congr_left
    intro place inside
    have below := List.mem_range.mp inside
    rw [shorter] at below
    rw [handedOver_byte, same (ethernetSize + place) (by omega)]
    exact (handedOver_byte table slot packet place).symm
  rw [nxNvnetNetworkDriverReceive, frameOf, entryOf]
  change packetType copy = _ at type
  simp only [type]
  rw [← payload]
  split
  · rfl
  · split
    · rfl
    · split <;> rfl

def deliveryAt (tables : Tables) (frame : Frame) (handover : Handover) :
    Delivery 4 Owner Frame where
  place := handover.slot
  owner := (handover.ipPtr, (tables handover.read handover.slot).interfacePtr)
  frame := frame

def deliver (tables : Tables) (packet : NxPacket) (listed : List Handover) :
    List (Delivery 4 Owner Frame) :=
  match frameOf packet with
  | none => []
  | some frame => listed.map (deliveryAt tables frame)

theorem deliver_cons (tables : Tables) (packet : NxPacket) (handover : Handover)
    (rest : List Handover) :
    deliver tables packet (handover :: rest) =
      ((frameOf packet).map fun frame => deliveryAt tables frame handover).toList ++
        deliver tables packet rest := by
  rw [deliver, deliver]
  cases frameOf packet <;> rfl

theorem handEvents_delivered {netx : NetX} {packet : NxPacket} (faithful : CopiesFaithful netx)
    (headed : ethernetSize ≤ packet.length.toNat) (tables : Tables) (copies : Nat)
    (listed : List Handover) :
    (handEvents netx tables packet copies listed).filterMap deliveryOf <+:
        deliver tables packet listed ∧
      (CopiesSucceed netx →
        (handEvents netx tables packet copies listed).filterMap deliveryOf =
          deliver tables packet listed) := by
  induction listed generalizing copies with
  | nil =>
      have nothing : deliver tables packet [] = [] := by
        rw [deliver]
        cases frameOf packet <;> rfl
      rw [nothing]
      exact ⟨List.prefix_rfl, fun _ => rfl⟩
  | cons handover rest ih =>
      rw [handEvents, deliver_cons]
      cases made : netx.packetCopy copies handover.ipPtr packet with
      | none =>
          refine ⟨List.nil_prefix, fun succeed => ?_⟩
          have copied := succeed copies handover.ipPtr packet
          rw [made] at copied
          cases copied
      | some copy =>
          rcases faithful copies handover.ipPtr packet copy made with ⟨length, same⟩
          have first := receive_delivers headed length same (tables handover.read) handover.ipPtr
            handover.slot copies
          rcases ih (copies + 1) with ⟨heard, whole⟩
          simp only
          rw [List.filterMap_cons_none rfl, List.filterMap_cons]
          simp only [first]
          cases frameOf packet with
          | none => exact ⟨heard, whole⟩
          | some frame =>
              constructor
              · exact List.cons_prefix_cons.mpr ⟨rfl, heard⟩
              · exact fun succeed => congrArg (List.cons _) (whole succeed)

def deliveriesTo (slot : Slot) (events : List Event) : List (Delivery 4 Owner Frame) :=
  (events.filterMap deliveryOf).filter fun delivery => delivery.place = slot

theorem outputAt_delivered {netx : NetX} {packet : NxPacket} (faithful : CopiesFaithful netx)
    (headed : ethernetSize ≤ packet.length.toNat) (tables : Tables) (sender : Slot) :
    (outputAt netx tables packet sender).filterMap deliveryOf <+:
        deliver tables packet
          (handovers tables (destinationAddress packet) sender (List.finRange 4) 0) ∧
      (CopiesSucceed netx →
        (outputAt netx tables packet sender).filterMap deliveryOf =
          deliver tables packet
            (handovers tables (destinationAddress packet) sender (List.finRange 4) 0)) := by
  rw [outputAt_events, List.filterMap_append]
  have nothing : [Event.transmitReleased (removeHeader packet)].filterMap deliveryOf = [] := rfl
  rw [nothing, List.append_nil]
  exact handEvents_delivered faithful headed tables 0 _

end UsbxNxdk.NvnetPreempted
