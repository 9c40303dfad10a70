import Mathlib.Logic.Function.Basic
import UsbxNxdk.NxApi

/-! The simulated network: four driver instances, and the frames they pass to
each other. -/

namespace UsbxNxdk.NvnetDriver

open ByteMemory NxApi

def linkMtu : ULONG := 1514
def ethernetIp : USHORT := 0x0800
def ethernetArp : USHORT := 0x0806
def ethernetRarp : USHORT := 0x8035
def ethernetIpv6 : USHORT := 0x86DD
def ethernetSize : Nat := 14

def simulatedAddressMsw : ULONG := 0x0011
def simulatedAddressLsw : ULONG := 0x22334456

structure MacAddress where
  msw : ULONG
  lsw : ULONG
  deriving DecidableEq, Repr

abbrev Slot := Fin 4

structure DriverInstance where
  inUse : UINT
  id : UINT
  interfacePtr : Nat
  ipPtr : Nat
  macAddress : MacAddress
  mcastAddress : Fin 3 → MacAddress
  deriving DecidableEq

abbrev DriverTable := Slot → DriverInstance

def DriverInstance.zero : DriverInstance :=
  { inUse := 0
    id := 0
    interfacePtr := 0
    ipPtr := 0
    macAddress := ⟨0, 0⟩
    mcastAddress := fun _ => ⟨0, 0⟩ }

/-! ### Receiving -/

inductive ReceiveEntry where
  | ip
  | arp
  | rarp
  deriving DecidableEq, Repr

/-- The packets that change hands while a request is processed. A copy is known
by the number of the call that made it. -/
inductive Event where
  | copied (copy : Nat)
  | received (copy : Nat) (slot : Slot) (entry : ReceiveEntry) (ipPtr : Nat) (packet : NxPacket)
  | released (copy : Nat) (slot : Slot) (packet : NxPacket)
  | transmitReleased (packet : NxPacket)

def removeHeader (packet : NxPacket) : NxPacket :=
  { packet with
    prependPtr := packet.prependPtr + ethernetSize
    length := packet.length - BitVec.ofNat 32 ethernetSize }

def packetType (packet : NxPacket) : UINT :=
  (packet.byte 12).setWidth 32 <<< 8 ||| (packet.byte 13).setWidth 32

def nxNvnetNetworkDriverReceive (table : DriverTable) (ipPtr : Nat) (packet : NxPacket)
    (interfaceInstanceId : Slot) (copy : Nat) : Event :=
  let type := packetType packet
  let packet := { packet with interfacePtr := (table interfaceInstanceId).interfacePtr }
  if type = ethernetIp.setWidth 32 ∨ type = ethernetIpv6.setWidth 32 then
    .received copy interfaceInstanceId .ip ipPtr (removeHeader packet)
  else if type = ethernetArp.setWidth 32 then
    .received copy interfaceInstanceId .arp ipPtr (removeHeader packet)
  else if type = ethernetRarp.setWidth 32 then
    .received copy interfaceInstanceId .rarp ipPtr (removeHeader packet)
  else .released copy interfaceInstanceId packet

/-! ### Transmitting -/

def destinationAddress (packet : NxPacket) : MacAddress :=
  let msw := (packet.byte 0).setWidth 32
  let msw := msw <<< 8 ||| (packet.byte 1).setWidth 32
  let lsw := (packet.byte 2).setWidth 32
  let lsw := lsw <<< 8 ||| (packet.byte 3).setWidth 32
  let lsw := lsw <<< 8 ||| (packet.byte 4).setWidth 32
  let lsw := lsw <<< 8 ||| (packet.byte 5).setWidth 32
  ⟨msw, lsw⟩

/-- The addresses an instance accepts whatever its multicast table holds. -/
def acceptsDirectly (driver : DriverInstance) (destination : MacAddress) : Prop :=
  destination.msw = 0x0000FFFF ∧ destination.lsw = 0xFFFFFFFF ∨
    destination.msw = driver.macAddress.msw ∧ destination.lsw = driver.macAddress.lsw ∨
    destination.msw = 0x00003333 ∨
    destination.msw = 0 ∧ destination.lsw = 0

instance (driver : DriverInstance) (destination : MacAddress) :
    Decidable (acceptsDirectly driver destination) :=
  inferInstanceAs (Decidable (_ ∨ _))

structure Transmission where
  copies : Nat
  events : List Event

/-- A loop of the transmission runs to its end, or returns from inside. -/
inductive LoopExit where
  | finished (transmission : Transmission)
  | returned (transmission : Transmission)

/-- One copy for one instance. When the copy fails the packet itself is released
and the routine returns. -/
def forwardCopy (netx : NetX) (table : DriverTable) (packet : NxPacket) (slot : Slot)
    (transmission : Transmission) : LoopExit :=
  let nextIp := (table slot).ipPtr
  match netx.packetCopy transmission.copies nextIp packet with
  | none =>
      .returned
        { copies := transmission.copies + 1
          events := transmission.events ++ [.transmitReleased (removeHeader packet)] }
  | some packetCopy =>
      .finished
        { copies := transmission.copies + 1
          events := transmission.events ++ [.copied transmission.copies,
            nxNvnetNetworkDriverReceive table nextIp packetCopy slot transmission.copies] }

def mcastLoop (netx : NetX) (table : DriverTable) (packet : NxPacket) (destination : MacAddress)
    (slot : Slot) : List (Fin 3) → Transmission → LoopExit
  | [], transmission => .finished transmission
  | index :: rest, transmission =>
      if destination.msw = ((table slot).mcastAddress index).msw ∧
          destination.lsw = ((table slot).mcastAddress index).lsw then
        -- A match does not end the loop: an address held twice brings two copies.
        match forwardCopy netx table packet slot transmission with
        | .finished transmission =>
            mcastLoop netx table packet destination slot rest transmission
        | .returned transmission => .returned transmission
      else mcastLoop netx table packet destination slot rest transmission

def slotLoop (netx : NetX) (table : DriverTable) (packet : NxPacket) (destination : MacAddress)
    (interfaceInstanceId : Slot) : List Slot → Transmission → LoopExit
  | [], transmission => .finished transmission
  | slot :: rest, transmission =>
      if slot = interfaceInstanceId then
        slotLoop netx table packet destination interfaceInstanceId rest transmission
      else if (table slot).inUse = 0 then
        slotLoop netx table packet destination interfaceInstanceId rest transmission
      else if acceptsDirectly (table slot) destination then
        match forwardCopy netx table packet slot transmission with
        | .finished transmission =>
            slotLoop netx table packet destination interfaceInstanceId rest transmission
        | .returned transmission => .returned transmission
      else
        match mcastLoop netx table packet destination slot (List.finRange 3) transmission with
        | .finished transmission =>
            slotLoop netx table packet destination interfaceInstanceId rest transmission
        | .returned transmission => .returned transmission

structure Output where
  events : List Event
  preemptThreshold : UINT

def nxNvnetNetworkDriverOutput (netx : NetX) (table : DriverTable) (packet : NxPacket)
    (interfaceInstanceId : Slot) : Output :=
  let disabled := netx.preemptionChange 0 0 netx.preemptThreshold
  match slotLoop netx table packet (destinationAddress packet) interfaceInstanceId
      (List.finRange 4) { copies := 0, events := [] } with
  | .returned transmission =>
      -- The return from inside a loop passes over the second change of the threshold.
      { events := transmission.events
        preemptThreshold := disabled.2 }
  | .finished transmission =>
      { events := transmission.events ++ [.transmitReleased (removeHeader packet)]
        preemptThreshold := (netx.preemptionChange disabled.1 disabled.1 disabled.2).2 }

/-! ### The driver entry -/

structure Driver where
  table : DriverTable
  interfaces : Interfaces

structure Returned where
  status : NxStatus
  returnValue : Option ReturnValue
  driver : Driver
  events : List Event
  preemptThreshold : UINT

def findInstance (table : DriverTable) (ipPtr interfacePtr : Nat) : Option Slot :=
  (List.finRange 4).find? fun slot =>
    (table slot).inUse ≠ 0 ∧ (table slot).ipPtr = ipPtr ∧
      (table slot).interfacePtr = interfacePtr

def findAvailable (table : DriverTable) : Option Slot :=
  (List.finRange 4).find? fun slot => (table slot).inUse = 0

/-- The second search of `NX_LINK_SET_PHYSICAL_ADDRESS`. -/
def findInterface (table : DriverTable) (interfacePtr : Nat) : Option Slot :=
  (List.finRange 4).find? fun slot => (table slot).interfacePtr = interfacePtr

def attached (slot : Slot) (request : NxIpDriver) (driver : DriverInstance) : DriverInstance :=
  { driver with
    inUse := 1
    id := BitVec.ofNat 32 slot.val
    interfacePtr := request.interfacePtr
    ipPtr := request.ipPtr
    macAddress := ⟨simulatedAddressMsw, simulatedAddressLsw + BitVec.ofNat 32 slot.val⟩ }

def requestAddress (request : NxIpDriver) : MacAddress :=
  ⟨request.physicalAddressMsw, request.physicalAddressLsw⟩

def findMcast (driver : DriverInstance) (address : MacAddress) : Option (Fin 3) :=
  (List.finRange 3).find? fun index =>
    (driver.mcastAddress index).msw = address.msw ∧ (driver.mcastAddress index).lsw = address.lsw

def setMcast (index : Fin 3) (address : MacAddress) (driver : DriverInstance) : DriverInstance :=
  { driver with mcastAddress := Function.update driver.mcastAddress index address }

def etherType (request : NxIpDriver) : USHORT :=
  if request.command = .arpSend then ethernetArp
  else if request.command = .arpResponseSend then ethernetArp
  else if request.command = .rarpSend then ethernetRarp
  else if request.packet.ipVersion = 4 then ethernetIp
  else ethernetIpv6

/-- The frame built at the front of the request's packet: four words, starting
two bytes before the header, each then turned to the order of the network. -/
def addHeader (request : NxIpDriver) (interface : NxInterface) : NxPacket :=
  let prependPtr := request.packet.prependPtr - ethernetSize
  let frame := prependPtr - 2
  let data := storeWord request.packet.data frame request.physicalAddressMsw
  let data := storeWord data (frame + 4) request.physicalAddressLsw
  let data := storeWord data (frame + 8)
    (interface.physicalAddressMsw <<< 16 ||| interface.physicalAddressLsw >>> 16)
  let data := storeWord data (frame + 12)
    (interface.physicalAddressLsw <<< 16 ||| (etherType request).setWidth 32)
  let data := changeEndian data frame
  let data := changeEndian data (frame + 4)
  let data := changeEndian data (frame + 8)
  let data := changeEndian data (frame + 12)
  { request.packet with
    data := data
    prependPtr := prependPtr
    length := request.packet.length + BitVec.ofNat 32 ethernetSize }

section Process

variable (netx : NetX) (request : NxIpDriver) (driver : Driver)

def report (status : NxStatus) (returnValue : Option ReturnValue) : Returned :=
  { status := status
    returnValue := returnValue
    driver := driver
    events := []
    preemptThreshold := netx.preemptThreshold }

def rewrite (slot : Slot) (change : DriverInstance → DriverInstance) : Returned :=
  report netx
    { driver with table := Function.update driver.table slot (change (driver.table slot)) }
    .success none

def withInterfaces (interfaces : Interfaces) : Returned :=
  report netx { driver with interfaces := interfaces } .success none

def setLink (up : UINT) : Returned :=
  withInterfaces netx driver
    (Function.update driver.interfaces request.interfacePtr
      { driver.interfaces request.interfacePtr with linkUp := up })

def initializeInterface (slot : Slot) : Returned :=
  let index := (driver.interfaces request.interfacePtr).index
  let macAddress := (driver.table slot).macAddress
  let interfaces := netx.interfaceMtuSet request.ipPtr index
    (linkMtu - BitVec.ofNat 32 ethernetSize) driver.interfaces
  let interfaces := netx.interfacePhysicalAddressSet request.ipPtr index macAddress.msw
    macAddress.lsw nxFalse interfaces
  withInterfaces netx driver
    (netx.interfaceAddressMappingConfigure request.ipPtr index nxTrue interfaces)

def sendPacket (slot : Slot) : Returned :=
  let frame := addHeader request (driver.interfaces request.interfacePtr)
  let output := nxNvnetNetworkDriverOutput netx driver.table frame slot
  { status := .success
    returnValue := none
    driver := driver
    events := output.events
    preemptThreshold := output.preemptThreshold }

def processRequest (slot : Slot) : Returned :=
  match request.command with
  | .interfaceAttach =>
      match findAvailable driver.table with
      | some slot => rewrite netx driver slot (attached slot request)
      | none => report netx driver .invalidInterface none
  | .interfaceDetach => rewrite netx driver slot fun _ => DriverInstance.zero
  | .initializeLink => initializeInterface netx request driver slot
  | .uninitializeLink => rewrite netx driver slot fun _ => DriverInstance.zero
  | .enable => setLink netx request driver nxTrue
  | .disable => setLink netx request driver nxFalse
  | .packetSend => sendPacket netx request driver slot
  | .packetBroadcast => sendPacket netx request driver slot
  | .arpSend => sendPacket netx request driver slot
  | .arpResponseSend => sendPacket netx request driver slot
  | .rarpSend => sendPacket netx request driver slot
  | .multicastJoin =>
      match findMcast (driver.table slot) ⟨0, 0⟩ with
      | some index =>
          rewrite netx driver slot (setMcast index (requestAddress request))
      | none => report netx driver .noMoreEntries none
  | .multicastLeave =>
      match findMcast (driver.table slot) (requestAddress request) with
      | some index => rewrite netx driver slot (setMcast index ⟨0, 0⟩)
      | none => report netx driver .entryNotFound none
  | .getStatus =>
      -- The first entry of `nx_ip_interface`, whichever interface the request is for.
      report netx driver .success
        (some (.word (driver.interfaces (netx.ipInterface request.ipPtr 0)).linkUp))
  | .getSpeed => report netx driver .success (some (.word 0))
  | .getDuplexType => report netx driver .success (some (.word 0))
  | .getErrorCount => report netx driver .success (some (.word 0))
  | .getRxCount => report netx driver .success (some (.word 0))
  | .getTxCount => report netx driver .success (some (.word 0))
  | .getAllocErrors => report netx driver .success (some (.word 0))
  | .getInterfaceType => report netx driver .success (some .interfaceTypeUnknown)
  | .deferredProcessing => report netx driver .success none
  | .setPhysicalAddress =>
      match findInterface driver.table request.interfacePtr with
      | some slot =>
          rewrite netx driver slot fun found =>
            { found with macAddress := requestAddress request }
      | none => report netx driver .invalidInterface none
  | .other _ => report netx driver .unhandledCommand none

/-- The instance that the request is for; an attach is not for one yet. -/
def requestSlot : Option Slot :=
  if request.command = .interfaceAttach then some 0
  else findInstance driver.table request.ipPtr request.interfacePtr

/-- `none` for a request without an interface, whose index cannot be read. -/
def nxNvnetNetworkDriver : Option Returned :=
  if request.interfacePtr = 0 then none
  else
    match requestSlot request driver with
    | none => some (report netx driver .invalidInterface none)
    | some slot => some (processRequest netx request driver slot)

end Process

end UsbxNxdk.NvnetDriver
