import UsbxNxdk.NvnetInstances

/-! The frame that a request puts on the wire, and what arrives of it. -/

namespace UsbxNxdk.NvnetFrame

open ByteMemory Execution NxApi NvnetDriver NvnetTransmit NvnetInstances

/-! ### The header -/

def onWire (address : MacAddress) : MacAddress :=
  ⟨(address.msw.setWidth 16).setWidth 32, address.lsw⟩

def addressAt (packet : NxPacket) (start : Nat) : MacAddress :=
  let msw := (packet.byte start).setWidth 32 <<< 8 ||| (packet.byte (start + 1)).setWidth 32
  let lsw := (packet.byte (start + 2)).setWidth 32 <<< 8 |||
    (packet.byte (start + 3)).setWidth 32
  let lsw := lsw <<< 8 ||| (packet.byte (start + 4)).setWidth 32
  let lsw := lsw <<< 8 ||| (packet.byte (start + 5)).setWidth 32
  ⟨msw, lsw⟩

def sourceAddress (packet : NxPacket) : MacAddress := addressAt packet 6

def interfaceAddress (interface : NxInterface) : MacAddress :=
  ⟨interface.physicalAddressMsw, interface.physicalAddressLsw⟩

theorem destinationAddress_at (packet : NxPacket) :
    destinationAddress packet = addressAt packet 0 := rfl

theorem addressAt_bytes {packet : NxPacket} {start : Nat} {address : MacAddress}
    (first : packet.byte start = byteOf address.msw 1)
    (second : packet.byte (start + 1) = byteOf address.msw 0)
    (third : packet.byte (start + 2) = byteOf address.lsw 3)
    (fourth : packet.byte (start + 3) = byteOf address.lsw 2)
    (fifth : packet.byte (start + 4) = byteOf address.lsw 1)
    (sixth : packet.byte (start + 5) = byteOf address.lsw 0) :
    addressAt packet start = onWire address := by
  simp only [addressAt, first, second, third, fourth, fifth, sixth]
  rw [shifted_half, shifted_bytes, append_byteOf, onWire]

section Header

variable (request : NxIpDriver) (interface : NxInterface)

/-- The words of a header, of which the first starts two bytes before it. -/
def headerWords : List Word :=
  [request.physicalAddressMsw, request.physicalAddressLsw,
    interface.physicalAddressMsw <<< 16 ||| interface.physicalAddressLsw >>> 16,
    interface.physicalAddressLsw <<< 16 ||| (etherType request).setWidth 32]

theorem addHeader_data :
    (addHeader request interface).data =
      storeWords request.packet.data (request.packet.prependPtr - 16)
        ((headerWords request interface).map swapBytes) := by
  have frame : request.packet.prependPtr - (ethernetSize : Nat) - 2 =
      request.packet.prependPtr - 16 := by
    rw [ethernetSize]
    omega
  rw [← changeEndians_storeWords, ← frame]
  simp only [headerWords, storeWords, List.length_cons, List.length_nil, changeEndians,
    Int.add_assoc]
  rfl

theorem addHeader_byte (number : Nat) :
    (addHeader request interface).byte number =
      storeWords request.packet.data (request.packet.prependPtr - 16)
        ((headerWords request interface).map swapBytes)
        (request.packet.prependPtr - 14 + number) := by
  rw [← addHeader_data]
  rfl

theorem header_word {word : Word} (index number : Nat)
    (here : (headerWords request interface)[index]? = some word) (inside : number < 4)
    (behind : 2 ≤ 4 * index + number) :
    (addHeader request interface).byte (4 * index + number - 2) = byteOf word (3 - number) := by
  have place : request.packet.prependPtr - 14 + (4 * index + number - 2 : Nat) =
      request.packet.prependPtr - 16 + (4 * index + number : Nat) := by omega
  have turned : ((headerWords request interface).map swapBytes)[index]? =
      some (swapBytes word) := by
    rw [List.getElem?_map, here, Option.map_some]
  rw [addHeader_byte, place, storeWords_at _ _ turned inside, byteOf_swapBytes word inside]

theorem header_payload (number : Nat) :
    (addHeader request interface).byte (ethernetSize + number) = request.packet.byte number := by
  have outside : request.packet.prependPtr - 16 +
      4 * ((headerWords request interface).map swapBytes).length ≤
      request.packet.prependPtr - 14 + (ethernetSize + number : Nat) := by
    rw [ethernetSize, List.length_map]
    simp only [headerWords, List.length_cons, List.length_nil]
    omega
  have place : request.packet.prependPtr - 14 + (ethernetSize + number : Nat) =
      request.packet.prependPtr + number := by
    rw [ethernetSize]
    omega
  rw [addHeader_byte, storeWords_outside _ _ (Or.inr outside), place]
  rfl

theorem header_destination :
    destinationAddress (addHeader request interface) = onWire (requestAddress request) := by
  rw [destinationAddress_at]
  apply addressAt_bytes
  · exact header_word request interface 0 2 rfl (by decide) (by decide)
  · exact header_word request interface 0 3 rfl (by decide) (by decide)
  · exact header_word request interface 1 0 rfl (by decide) (by decide)
  · exact header_word request interface 1 1 rfl (by decide) (by decide)
  · exact header_word request interface 1 2 rfl (by decide) (by decide)
  · exact header_word request interface 1 3 rfl (by decide) (by decide)

theorem header_source :
    sourceAddress (addHeader request interface) = onWire (interfaceAddress interface) := by
  obtain ⟨lowest, low, high, highest⟩ :=
    byteOf_joined interface.physicalAddressMsw interface.physicalAddressLsw
  obtain ⟨_, _, fifth, sixth⟩ :=
    byteOf_ended interface.physicalAddressLsw (etherType request)
  apply addressAt_bytes
  · exact (header_word request interface 2 0 rfl (by decide) (by decide)).trans highest
  · exact (header_word request interface 2 1 rfl (by decide) (by decide)).trans high
  · exact (header_word request interface 2 2 rfl (by decide) (by decide)).trans low
  · exact (header_word request interface 2 3 rfl (by decide) (by decide)).trans lowest
  · exact (header_word request interface 3 0 rfl (by decide) (by decide)).trans sixth
  · exact (header_word request interface 3 1 rfl (by decide) (by decide)).trans fifth

theorem header_type :
    packetType (addHeader request interface) = (etherType request).setWidth 32 := by
  obtain ⟨low, high, _, _⟩ := byteOf_ended interface.physicalAddressLsw (etherType request)
  have first : (addHeader request interface).byte 12 = (etherType request).extractLsb' 8 8 :=
    (header_word request interface 3 2 rfl (by decide) (by decide)).trans high
  have second : (addHeader request interface).byte 13 = (etherType request).extractLsb' 0 8 :=
    (header_word request interface 3 3 rfl (by decide) (by decide)).trans low
  rw [packetType, first, second, shifted_bytes_half]

theorem header_length (room : request.packet.length.toNat + ethernetSize < 2 ^ 32) :
    (addHeader request interface).length.toNat = request.packet.length.toNat + ethernetSize := by
  have sum : (addHeader request interface).length =
      request.packet.length + BitVec.ofNat 32 ethernetSize := rfl
  rw [sum, BitVec.toNat_add, BitVec.toNat_ofNat]
  rw [ethernetSize] at room ⊢
  omega

end Header

/-! ### The receiving side -/

/-- A copy has the length and the bytes of the packet copied. -/
def CopiesFaithful (netx : NetX) : Prop :=
  ∀ copies ipPtr packet copy, netx.packetCopy copies ipPtr packet = some copy →
    copy.length = packet.length ∧
      ∀ number < packet.length.toNat, copy.byte number = packet.byte number

def entryFor : LinkCommand → ReceiveEntry
  | .arpSend => .arp
  | .arpResponseSend => .arp
  | .rarpSend => .rarp
  | _ => .ip

theorem etherType_entry {request : NxIpDriver} (send : sending request.command = true) :
    (entryFor request.command = .ip ∧
        (etherType request = ethernetIp ∨ etherType request = ethernetIpv6)) ∨
      (entryFor request.command = .arp ∧ etherType request = ethernetArp) ∨
      (entryFor request.command = .rarp ∧ etherType request = ethernetRarp) := by
  have version : (if request.packet.ipVersion = 4 then ethernetIp else ethernetIpv6) =
      ethernetIp ∨
      (if request.packet.ipVersion = 4 then ethernetIp else ethernetIpv6) = ethernetIpv6 :=
    ite_eq_or_eq _ _ _
  unfold etherType
  cases command : request.command with
  | packetSend => exact Or.inl ⟨rfl, version⟩
  | packetBroadcast => exact Or.inl ⟨rfl, version⟩
  | arpSend => exact Or.inr (Or.inl ⟨rfl, rfl⟩)
  | arpResponseSend => exact Or.inr (Or.inl ⟨rfl, rfl⟩)
  | rarpSend => exact Or.inr (Or.inr ⟨rfl, rfl⟩)
  | _ =>
      rw [command] at send
      cases send

theorem receive_entry {request : NxIpDriver} (send : sending request.command = true)
    {table : DriverTable} {copy : NxPacket}
    (type : packetType copy = (etherType request).setWidth 32) (ipPtr : Nat) (slot : Slot)
    (number : Nat) :
    nxNvnetNetworkDriverReceive table ipPtr copy slot number =
      .received number slot (entryFor request.command) ipPtr (handedOver table slot copy) := by
  unfold nxNvnetNetworkDriverReceive
  rw [type]
  obtain ⟨entry, ip | ipv6⟩ | ⟨entry, arp⟩ | ⟨entry, rarp⟩ := etherType_entry send
  · rw [entry, ip]
    rfl
  · rw [entry, ipv6]
    rfl
  · rw [entry, arp]
    rfl
  · rw [entry, rarp]
    rfl

theorem handedOver_byte (table : DriverTable) (slot : Slot) (copy : NxPacket) (number : Nat) :
    (handedOver table slot copy).byte number = copy.byte (ethernetSize + number) := by
  have place : copy.prependPtr + ethernetSize + number =
      copy.prependPtr + (ethernetSize + number : Nat) := by omega
  exact congrArg copy.data place

/-! ### The round trip -/

structure Exchange (driver : Driver) (submission : Submission) (sender receiver : Slot) :
    Prop where
  send : sending submission.request.command = true
  attached : Holds driver.table sender (pairOf submission.request)
  other : receiver ≠ sender
  used : (driver.table receiver).inUse ≠ 0
  destination : (driver.table receiver).macAddress = requestAddress submission.request
  address : submission.request.physicalAddressMsw.toNat < 2 ^ 16
  room : submission.request.packet.length.toNat + ethernetSize < 2 ^ 32
  succeed : CopiesSucceed submission.netx
  faithful : CopiesFaithful submission.netx

def Delivered (driver : Driver) (request : NxIpDriver) (receiver : Slot) (returned : Returned) :
    Prop :=
  ∃ copy packet,
    .received copy receiver (entryFor request.command) (driver.table receiver).ipPtr packet ∈
        returned.events ∧
      packet.interfacePtr = (driver.table receiver).interfacePtr ∧
      packet.length = request.packet.length ∧
      ∀ number < request.packet.length.toNat, packet.byte number = request.packet.byte number

structure RoundTrip (driver : Driver) (submission : Submission) (receiver : Slot)
    (returned : Returned) : Prop where
  destination : destinationAddress (submission.frame driver) = requestAddress submission.request
  source : sourceAddress (submission.frame driver) =
    onWire (interfaceAddress (driver.interfaces submission.request.interfacePtr))
  type : packetType (submission.frame driver) = (etherType submission.request).setWidth 32
  length : (submission.frame driver).length.toNat =
    submission.request.packet.length.toNat + ethernetSize
  payload : ∀ number, (submission.frame driver).byte (ethernetSize + number) =
    submission.request.packet.byte number
  delivered : Delivered driver submission.request receiver returned

def RoundTrips (driver : Driver) (submission : Submission) : Prop :=
  ∀ sender receiver, Exchange driver submission sender receiver →
    ∀ returned, submission.run driver = some returned →
      RoundTrip driver submission receiver returned

/-- The receiver is not the slot that stands first for the sender's own pair. -/
def ForeignReceiver (driver : Driver) (submission : Submission) : Prop :=
  ∀ sender receiver, Exchange driver submission sender receiver →
    ¬ FirstHolder driver.table (pairOf submission.request) receiver

theorem onWire_whole {address : MacAddress} (small : address.msw.toNat < 2 ^ 16) :
    onWire address = address := by
  have whole : (address.msw.setWidth 16).setWidth 32 = address.msw := by
    apply BitVec.eq_of_toNat_eq
    rw [BitVec.toNat_setWidth, BitVec.toNat_setWidth]
    omega
  rw [onWire, whole]

theorem exchange_destination {driver : Driver} {submission : Submission} {sender receiver : Slot}
    (exchange : Exchange driver submission sender receiver) :
    destinationAddress (submission.frame driver) = requestAddress submission.request :=
  (header_destination _ _).trans (onWire_whole exchange.address)

theorem exchange_handed {driver : Driver} {submission : Submission} {sender receiver : Slot}
    (exchange : Exchange driver submission sender receiver) {number : Nat} {copy : NxPacket}
    (made : submission.netx.packetCopy number (driver.table receiver).ipPtr
      (submission.frame driver) = some copy) :
    nxNvnetNetworkDriverReceive driver.table (driver.table receiver).ipPtr copy receiver number =
        .received number receiver (entryFor submission.request.command)
          (driver.table receiver).ipPtr (handedOver driver.table receiver copy) ∧
      (handedOver driver.table receiver copy).length = submission.request.packet.length ∧
      ∀ place < submission.request.packet.length.toNat,
        (handedOver driver.table receiver copy).byte place =
          submission.request.packet.byte place := by
  obtain ⟨length, bytes⟩ := exchange.faithful _ _ _ _ made
  have frameLength : (submission.frame driver).length.toNat =
      submission.request.packet.length.toNat + ethernetSize := header_length _ _ exchange.room
  have type : packetType copy = (etherType submission.request).setWidth 32 := by
    have first := bytes 12 (by rw [frameLength, ethernetSize]; omega)
    have second := bytes 13 (by rw [frameLength, ethernetSize]; omega)
    rw [packetType, first, second]
    exact header_type _ _
  refine ⟨receive_entry exchange.send type _ _ _, ?_, ?_⟩
  · change copy.length - BitVec.ofNat 32 ethernetSize = _
    rw [length]
    exact BitVec.add_sub_cancel _ _
  · intro place inside
    rw [handedOver_byte, bytes (ethernetSize + place) (by omega)]
    exact header_payload _ _ place

theorem exchange_delivered {driver : Driver} {submission : Submission}
    {sender receiver found : Slot} (exchange : Exchange driver submission sender receiver)
    (foreign : receiver ≠ found) :
    Delivered driver submission.request receiver
      (sendPacket submission.netx submission.request driver found) := by
  have accepted : 0 < copiesFor (driver.table receiver)
      (destinationAddress (submission.frame driver)) := by
    have direct : acceptsDirectly (driver.table receiver)
        (destinationAddress (submission.frame driver)) := by
      rw [exchange_destination exchange, ← exchange.destination]
      exact Or.inr (Or.inl ⟨rfl, rfl⟩)
    rw [copiesFor, if_pos direct]
    exact Nat.one_pos
  have listed := (mem_recipients driver.table found _ receiver).mpr
    ⟨foreign, exchange.used, accepted⟩
  obtain ⟨number, copy, copied⟩ := copied_listed exchange.succeed driver.table
    (submission.frame driver) 0 listed
  obtain ⟨handed, length, bytes⟩ := exchange_handed exchange copied.made
  refine ⟨0 + number, handedOver driver.table receiver copy, ?_, rfl, length, bytes⟩
  rw [sendPacket_events]
  apply List.mem_append_left
  exact (mem_copyEvents _ _ _ _ _ _).mpr ⟨number, receiver, copy, copied, Or.inr handed.symm⟩

theorem sender_undelivered {driver : Driver} {submission : Submission} {sender : Slot} :
    ¬ Delivered driver submission.request sender
      (sendPacket submission.netx submission.request driver sender) := by
  rintro ⟨copyNumber, packet, member, _⟩
  rw [sendPacket_events, List.mem_append, List.mem_singleton] at member
  obtain copied | released := member
  · obtain ⟨number, slot, copy, made, same | handed⟩ := (mem_copyEvents _ _ _ _ _ _).mp copied
    · cases same
    · have listed := List.mem_of_getElem? made.recipient
      have receiver := congrArg Event.receiver handed
      rw [receive_receiver] at receiver
      cases receiver
      exact ((mem_recipients _ _ _ _).mp listed).1 rfl
  · cases released

theorem roundTrips_iff {driver next : Driver} {submission : Submission}
    (stepped : step driver submission = some next) :
    RoundTrips driver submission ↔ ForeignReceiver driver submission := by
  obtain ⟨returned, ran, _⟩ := step_some stepped
  have given := run_given ran
  constructor
  · intro trips sender receiver exchange first
    have sends := run_sends given exchange.send (findInstance_first.mpr first)
    exact sender_undelivered (trips sender receiver exchange _ sends).delivered
  · intro foreign sender receiver exchange other ran
    obtain ⟨found, finds⟩ := present_found fun absent => absent sender exchange.attached
    have apart : receiver ≠ found := by
      rintro rfl
      exact foreign sender receiver exchange (findInstance_first.mp finds)
    rw [run_sends given exchange.send finds] at ran
    cases ran
    exact {
      destination := exchange_destination exchange
      source := header_source _ _
      type := header_type _ _
      length := header_length _ _ exchange.room
      payload := header_payload _ _
      delivered := exchange_delivered exchange apart }

/-- Over any sequence of requests, every packet sent to the address of another
instance reaches it as it was, exactly when that instance is not the first one of
the sender's own pair. -/
theorem round_trip_iff (interfaces : Interfaces) (schedule : List Submission) :
    Along step RoundTrips (Driver.initial interfaces) schedule ↔
      Along step ForeignReceiver (Driver.initial interfaces) schedule := by
  apply along_iff
  intro driver submission next stepped
  exact roundTrips_iff stepped

theorem plain_faithful : CopiesFaithful plainNetX := by
  intro copies ipPtr packet copy copied
  cases copied
  exact ⟨rfl, fun _ _ => rfl⟩

/-- After two attaches of one interface, the first slot hears nothing of what the
interface sends to its address. -/
theorem twin_unreached :
    ¬ Along step RoundTrips (Driver.initial plainInterfaces)
        [plainRequest .interfaceAttach 1 1 ⟨0, 0⟩, plainRequest .interfaceAttach 1 1 ⟨0, 0⟩,
          plainRequest .packetSend 1 1 (slotAddress 0)] := by
  intro along
  have trips := ((((along _ rfl).2 _ rfl).2) _ rfl).1
  refine (roundTrips_iff rfl).mp trips 1 0 ?_ ?_
  · exact {
      send := rfl
      attached := by decide
      other := by decide
      used := by decide
      destination := rfl
      address := by decide
      room := by decide
      succeed := fun _ _ _ => rfl
      faithful := plain_faithful }
  · exact ⟨by decide, fun earlier below => absurd below (Nat.not_lt_zero _)⟩

end UsbxNxdk.NvnetFrame
