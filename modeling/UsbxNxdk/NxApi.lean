import UsbxNxdk.ByteMemory
import UsbxNxdk.TxApi

/-! The part of the NetX interface that the network driver is written against. -/

namespace UsbxNxdk.NxApi

open ByteMemory

abbrev UCHAR := BitVec 8
abbrev USHORT := BitVec 16

def nxTrue : UINT := 1
def nxFalse : UINT := 0

inductive NxStatus where
  | success
  | invalidInterface
  | noMoreEntries
  | entryNotFound
  | unhandledCommand
  deriving DecidableEq, Repr

/-- The `NX_LINK_` commands; `other` stands for every further number. -/
inductive LinkCommand where
  | interfaceAttach
  | interfaceDetach
  | initializeLink
  | uninitializeLink
  | enable
  | disable
  | packetSend
  | packetBroadcast
  | arpSend
  | arpResponseSend
  | rarpSend
  | multicastJoin
  | multicastLeave
  | getStatus
  | getSpeed
  | getDuplexType
  | getErrorCount
  | getRxCount
  | getTxCount
  | getAllocErrors
  | getInterfaceType
  | deferredProcessing
  | setPhysicalAddress
  | other (code : UINT)
  deriving DecidableEq, Repr

inductive ReturnValue where
  | word (value : ULONG)
  | interfaceTypeUnknown
  deriving DecidableEq, Repr

/-- The packet's bytes start at the prepend pointer; a chain of packets is taken
as one stretch of memory. -/
structure NxPacket where
  data : Memory
  prependPtr : Int
  length : ULONG
  ipVersion : UCHAR
  interfacePtr : Nat

def NxPacket.byte (packet : NxPacket) (number : Nat) : UCHAR :=
  packet.data (packet.prependPtr + number)

structure NxInterface where
  index : UINT
  linkUp : UINT
  physicalAddressMsw : ULONG
  physicalAddressLsw : ULONG
  deriving DecidableEq, Repr

abbrev Interfaces := Nat → NxInterface

structure NxIpDriver where
  command : LinkCommand
  ipPtr : Nat
  interfacePtr : Nat
  packet : NxPacket
  physicalAddressMsw : ULONG
  physicalAddressLsw : ULONG

/-- What NetX does around one request. `packetCopy` answers the call of
`nx_packet_copy` with this number, into the default pool of an IP instance, with
the copy unless it fails; `ipInterface` is the address of an entry of
`nx_ip_interface`. A change of the preemption threshold takes the new one, the
variable for the old one and the thread's own, and gives the last two back. -/
structure NetX where
  packetCopy : Nat → Nat → NxPacket → Option NxPacket
  ipInterface : Nat → UINT → Nat
  interfaceMtuSet : Nat → UINT → ULONG → Interfaces → Interfaces
  interfacePhysicalAddressSet : Nat → UINT → ULONG → ULONG → UINT → Interfaces → Interfaces
  interfaceAddressMappingConfigure : Nat → UINT → UINT → Interfaces → Interfaces
  preemptionChange : UINT → UINT → UINT → UINT × UINT
  preemptThreshold : UINT

end UsbxNxdk.NxApi
