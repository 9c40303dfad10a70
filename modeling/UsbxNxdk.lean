import UsbxNxdk.EventFlagsSystem
import UsbxNxdk.Ledger
import UsbxNxdk.EventFlagsLedger
import UsbxNxdk.EventFlagsWait
import UsbxNxdk.EventFlagsHandOff
import UsbxNxdk.SuspendCount
import UsbxNxdk.SelfSuspension
import UsbxNxdk.RecordedState
import UsbxNxdk.ControlBlocks
import UsbxNxdk.SemaphoreCounter
import UsbxNxdk.MutexOwnership
import UsbxNxdk.MutexExclusion
import UsbxNxdk.LinkedRing
import UsbxNxdk.ThreadStart
import UsbxNxdk.Kernel
import UsbxNxdk.BlockSystem
import UsbxNxdk.BlockIsolation
import UsbxNxdk.HandleTable
import UsbxNxdk.ThreadTable
import UsbxNxdk.ThreadAccesses
import UsbxNxdk.ThreadRegistry
import UsbxNxdk.EventFlagsDeadline
import UsbxNxdk.EventFlagsForever
import UsbxNxdk.ObjectLifecycle
import UsbxNxdk.ObjectAccounts
import UsbxNxdk.ByteMemory
import UsbxNxdk.NvnetDriver
import UsbxNxdk.NvnetTransmit
import UsbxNxdk.NvnetInstances
import UsbxNxdk.NvnetPairs
import UsbxNxdk.NvnetFrame
import UsbxNxdk.NvnetDelivery
import UsbxNxdk.NvnetOwnership
import UsbxNxdk.NvnetLink
import UsbxNxdk.BoundedMultiset
import UsbxNxdk.NvnetLinkStatus
import UsbxNxdk.NvnetMulticast
import UsbxNxdk.NvnetPreemption
import UsbxNxdk.SuspendingMark
import UsbxNxdk.TickDurations
import UsbxNxdk.Simulation
import UsbxNxdk.SuspensionAccesses
import UsbxNxdk.LinkedRoutes
import UsbxNxdk.ThreadLookups
import UsbxNxdk.LookupList
import UsbxNxdk.LookupWays
import UsbxNxdk.LookupRuns
import UsbxNxdk.ThreadCreations
import UsbxNxdk.CreationOverlap
import UsbxNxdk.Unwinding
import UsbxNxdk.EventFlagsClients
import UsbxNxdk.BroadcastNetwork
import UsbxNxdk.NvnetNetwork
import UsbxNxdk.SharedCells
import UsbxNxdk.NamedBlocks
import UsbxNxdk.SharedBlocks
import UsbxNxdk.SharingRuns
import UsbxNxdk.NameSpaces
import UsbxNxdk.ThreadLives
import UsbxNxdk.ThreadOutline
import UsbxNxdk.ThreadLifecycle
import UsbxNxdk.NvnetConversation
import UsbxNxdk.LockOrder
import UsbxNxdk.MutexOrder
import UsbxNxdk.Linearizability
import UsbxNxdk.EventFlagsCalls
import UsbxNxdk.EventFlagsSections
import UsbxNxdk.EventFlagsLoops
import UsbxNxdk.InterruptSections
import UsbxNxdk.NvnetAttachmentOrder
import UsbxNxdk.NvnetPreemptedCopies
