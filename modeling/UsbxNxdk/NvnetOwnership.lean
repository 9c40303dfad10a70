import UsbxNxdk.NvnetFrame

/-! Who owns the packet of a transmission, and its copies, when the driver
returns. -/

namespace UsbxNxdk.NvnetOwnership

open Execution NxApi NvnetDriver NvnetTransmit NvnetInstances NvnetFrame

def Event.made : Event → Option Nat
  | .copied copy => some copy
  | .received _ _ _ _ _ => none
  | .released _ _ _ => none
  | .transmitReleased _ => none

def Event.handed : Event → Option Nat
  | .copied _ => none
  | .received copy _ _ _ _ => some copy
  | .released copy _ _ => some copy
  | .transmitReleased _ => none

def Event.transmitted : Event → Option NxPacket
  | .copied _ => none
  | .received _ _ _ _ _ => none
  | .released _ _ _ => none
  | .transmitReleased packet => some packet

/-- The packet is released once, as it came, and every copy is handed on once. -/
structure Settled (request : NxIpDriver) (events : List Event) : Prop where
  packet : ∃ released, events.filterMap Event.transmitted = [released] ∧
    released.prependPtr = request.packet.prependPtr ∧ released.length = request.packet.length
  distinct : (events.filterMap Event.made).Nodup
  handed : ∀ copy, (events.filterMap Event.handed).count copy =
    (events.filterMap Event.made).count copy

def Settles (driver : Driver) (submission : Submission) : Prop :=
  sending submission.request.command = true →
    ∀ returned, submission.run driver = some returned →
      Settled submission.request returned.events

def SendsAttached (driver : Driver) (submission : Submission) : Prop :=
  sending submission.request.command = true →
    ∃ slot, Holds driver.table slot (pairOf submission.request)

/-! ### The copies -/

section Receive

variable (table : DriverTable) (ipPtr : Nat) (packet : NxPacket) (slot : Slot) (copy : Nat)

theorem receive_handed :
    Event.handed (nxNvnetNetworkDriverReceive table ipPtr packet slot copy) = some copy := by
  obtain ⟨entry, received⟩ | ⟨rest, released⟩ := receive_cases table ipPtr packet slot copy
  · rw [received, Event.handed]
  · rw [released, Event.handed]

theorem receive_made :
    Event.made (nxNvnetNetworkDriverReceive table ipPtr packet slot copy) = none := by
  obtain ⟨entry, received⟩ | ⟨rest, released⟩ := receive_cases table ipPtr packet slot copy
  · rw [received, Event.made]
  · rw [released, Event.made]

theorem receive_transmitted :
    Event.transmitted (nxNvnetNetworkDriverReceive table ipPtr packet slot copy) = none := by
  obtain ⟨entry, received⟩ | ⟨rest, released⟩ := receive_cases table ipPtr packet slot copy
  · rw [received, Event.transmitted]
  · rw [released, Event.transmitted]

end Receive

section Copies

variable (netx : NetX) (table : DriverTable) (packet : NxPacket)

theorem copyEvents_made (copies : Nat) (slots : List Slot) :
    ∃ count, (copyEvents netx table packet copies slots).filterMap Event.made =
      List.range' copies count := by
  induction slots generalizing copies with
  | nil => exact ⟨0, rfl⟩
  | cons slot rest ih =>
      unfold copyEvents
      cases made : netx.packetCopy copies (table slot).ipPtr packet with
      | none => exact ⟨0, rfl⟩
      | some copy =>
          obtain ⟨count, later⟩ := ih (copies + 1)
          have first : Event.made (.copied copies) = some copies := rfl
          refine ⟨count + 1, ?_⟩
          dsimp only
          rw [List.filterMap_cons_some first, List.filterMap_cons_none (receive_made _ _ _ _ _),
            later, List.range'_succ]

theorem copyEvents_handed (copies : Nat) (slots : List Slot) :
    (copyEvents netx table packet copies slots).filterMap Event.handed =
      (copyEvents netx table packet copies slots).filterMap Event.made := by
  induction slots generalizing copies with
  | nil => rfl
  | cons slot rest ih =>
      unfold copyEvents
      cases made : netx.packetCopy copies (table slot).ipPtr packet with
      | none => rfl
      | some copy =>
          have first : Event.made (.copied copies) = some copies := rfl
          have unhanded : Event.handed (.copied copies) = none := rfl
          dsimp only
          rw [List.filterMap_cons_none unhanded,
            List.filterMap_cons_some (receive_handed _ _ _ _ _), List.filterMap_cons_some first,
            List.filterMap_cons_none (receive_made _ _ _ _ _), ih]

theorem copyEvents_transmitted (copies : Nat) (slots : List Slot) :
    (copyEvents netx table packet copies slots).filterMap Event.transmitted = [] := by
  apply List.filterMap_eq_nil_iff.mpr
  intro event member
  obtain ⟨number, slot, copy, _, rfl | rfl⟩ := (mem_copyEvents _ _ _ _ _ _).mp member
  · rfl
  · exact receive_transmitted _ _ _ _ _

end Copies

/-! ### The packet -/

theorem header_removed (request : NxIpDriver) (interface : NxInterface) :
    (removeHeader (addHeader request interface)).prependPtr = request.packet.prependPtr ∧
      (removeHeader (addHeader request interface)).length = request.packet.length := by
  constructor
  · exact Int.sub_add_cancel _ _
  · exact BitVec.add_sub_cancel _ _

theorem sends_settled (submission : Submission) (driver : Driver) (sender : Slot) :
    Settled submission.request
      (sendPacket submission.netx submission.request driver sender).events := by
  rw [sendPacket_events]
  constructor
  · refine ⟨removeHeader (submission.frame driver), ?_, header_removed _ _⟩
    rw [List.filterMap_append, copyEvents_transmitted]
    rfl
  · obtain ⟨count, made⟩ := copyEvents_made submission.netx driver.table
      (submission.frame driver) 0 (recipients driver.table sender
        (destinationAddress (submission.frame driver)))
    rw [List.filterMap_append, made]
    exact (List.append_nil _).symm ▸ List.nodup_range'
  · intro copy
    rw [List.filterMap_append, List.filterMap_append, copyEvents_handed]
    rfl

theorem quiet_unsettled (request : NxIpDriver) : ¬ Settled request [] := by
  intro settled
  obtain ⟨released, same, _⟩ := settled.packet
  cases same

theorem settles_iff {driver next : Driver} {submission : Submission}
    (stepped : step driver submission = some next) :
    Settles driver submission ↔ SendsAttached driver submission := by
  obtain ⟨returned, ran, _⟩ := step_some stepped
  have given := run_given ran
  apply imp_congr_right
  intro send
  constructor
  · intro settles
    by_contra unheld
    have absent : Absent driver.table (pairOf submission.request) := not_exists.mp unheld
    exact quiet_unsettled _ (settles _ (run_absent given (sending_other send) absent))
  · rintro ⟨slot, held⟩ other ran
    obtain ⟨sender, found⟩ := present_found fun absent => absent slot held
    rw [run_sends given send found] at ran
    cases ran
    exact sends_settled submission driver sender

/-- Over any sequence of requests, every transmission leaves its packet and the
copies settled, exactly when its interface is attached. -/
theorem ownership_settled_iff (interfaces : Interfaces) (schedule : List Submission) :
    Along step Settles (Driver.initial interfaces) schedule ↔
      Along step SendsAttached (Driver.initial interfaces) schedule := by
  apply along_iff
  intro driver submission next stepped
  exact settles_iff stepped

/-- The packet of an interface that was never attached is not released. -/
theorem unattached_unreleased :
    ¬ Along step Settles (Driver.initial plainInterfaces)
        [plainRequest .packetSend 1 1 ⟨0x0000FFFF, 0xFFFFFFFF⟩] := by
  intro along
  have settles := (along _ rfl).1
  exact quiet_unsettled _ (settles rfl _ rfl)

end UsbxNxdk.NvnetOwnership
