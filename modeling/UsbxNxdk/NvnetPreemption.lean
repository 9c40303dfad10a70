import UsbxNxdk.NvnetInstances

/-! The preemption threshold of the calling thread around a transmission. -/

namespace UsbxNxdk.NvnetPreemption

open NxApi NvnetDriver NvnetTransmit NvnetInstances

/-- The documented effect of `tx_thread_preemption_change`: the thread gets the
new threshold, and its previous one is stored through the pointer. -/
def ChangesThreshold (netx : NetX) : Prop :=
  ∀ newThreshold oldThreshold own,
    netx.preemptionChange newThreshold oldThreshold own = (own, newThreshold)

def ThresholdKept (netx : NetX) (table : DriverTable) (packet : NxPacket) (sender : Slot) :
    Prop :=
  (nxNvnetNetworkDriverOutput netx table packet sender).preemptThreshold = netx.preemptThreshold

def EveryCopyMade (netx : NetX) (table : DriverTable) (packet : NxPacket) (sender : Slot) :
    Prop :=
  ∀ number slot,
    (recipients table sender (destinationAddress packet))[number]? = some slot →
      (netx.packetCopy number (table slot).ipPtr packet).isSome

section Exits

variable {netx : NetX} {table : DriverTable} {packet : NxPacket}

theorem forwardAll_finished (slots : List Slot) (transmission : Transmission) :
    (∃ final, forwardAll netx table packet slots transmission = .finished final) ↔
      ∀ number slot, slots[number]? = some slot →
        (netx.packetCopy (transmission.copies + number) (table slot).ipPtr packet).isSome := by
  induction slots generalizing transmission with
  | nil =>
      constructor
      · intro _ number slot listed
        cases listed
      · exact fun _ => ⟨transmission, rfl⟩
  | cons first rest ih =>
      rw [forwardAll]
      cases copied : netx.packetCopy transmission.copies (table first).ipPtr packet with
      | none =>
          rw [forwardCopy_failed netx table packet copied]
          constructor
          · intro finished
            rcases finished with ⟨final, impossible⟩
            cases impossible
          · intro made
            have now := made 0 first rfl
            rw [Nat.add_zero, copied] at now
            cases now
      | some copy =>
          rw [forwardCopy_copied netx table packet copied]
          refine (ih _).trans ?_
          constructor
          · intro made number slot listed
            cases number with
            | zero =>
                cases listed
                rw [Nat.add_zero, copied]
                rfl
            | succ number =>
                have later := made number slot listed
                rw [Nat.add_right_comm] at later
                exact later
          · intro made number slot listed
            have later := made (number + 1) slot listed
            rw [← Nat.add_assoc, Nat.add_right_comm] at later
            exact later

theorem output_threshold (documented : ChangesThreshold netx) (sender : Slot) :
    (nxNvnetNetworkDriverOutput netx table packet sender).preemptThreshold =
      match forwardAll netx table packet (recipients table sender (destinationAddress packet))
        { copies := 0, events := [] } with
      | .returned _ => 0
      | .finished _ => netx.preemptThreshold := by
  unfold nxNvnetNetworkDriverOutput
  rw [slotLoop_forward, ← recipients, documented]
  cases forwardAll netx table packet (recipients table sender (destinationAddress packet))
      { copies := 0, events := [] } with
  | returned final => rfl
  | finished final => exact congrArg Prod.snd (documented _ _ _)

/-- A transmission leaves the threshold as it found it exactly when no copy
fails, or when preemption was disabled all along. -/
theorem threshold_kept_iff (documented : ChangesThreshold netx) (sender : Slot) :
    ThresholdKept netx table packet sender ↔
      netx.preemptThreshold = 0 ∨ EveryCopyMade netx table packet sender := by
  have finished : (∃ final, forwardAll netx table packet
      (recipients table sender (destinationAddress packet)) { copies := 0, events := [] } =
        .finished final) ↔ _ := forwardAll_finished _ _
  simp only [Nat.zero_add] at finished
  rw [ThresholdKept, output_threshold documented, EveryCopyMade, ← finished]
  cases forwardAll netx table packet (recipients table sender (destinationAddress packet))
      { copies := 0, events := [] } with
  | finished final =>
      have ended : ∃ other, LoopExit.finished final = LoopExit.finished other := ⟨final, rfl⟩
      simp only [ended, or_true]
  | returned final =>
      have left : ¬ ∃ other, LoopExit.returned final = LoopExit.finished other :=
        fun finished => nomatch finished
      simp only [left, or_false]
      exact eq_comm

end Exits

def calledAtFive (succeed : Bool) : NetX :=
  { plainNetX with
    packetCopy := fun _ _ packet => if succeed then some packet else none
    preemptThreshold := 5 }

def fourAttached : DriverTable := fun slot =>
  attached slot (plainRequest .interfaceAttach 10 (10 + slot.val) ⟨0, 0⟩).request
    DriverInstance.zero

theorem documented_at_five (succeed : Bool) : ChangesThreshold (calledAtFive succeed) :=
  fun _ _ _ => rfl

theorem exhausted_pool_disables :
    (nxNvnetNetworkDriverOutput (calledAtFive false) fourAttached emptyPacket 0).preemptThreshold =
      0 ∧ ChangesThreshold (calledAtFive false) ∧
      ¬ ThresholdKept (calledAtFive false) fourAttached emptyPacket 0 := by
  have disabled : (nxNvnetNetworkDriverOutput (calledAtFive false) fourAttached emptyPacket
      0).preemptThreshold = 0 := by
    decide
  refine ⟨disabled, documented_at_five false, ?_⟩
  intro kept
  rw [ThresholdKept, disabled] at kept
  exact absurd kept (by decide)

theorem served_pool_restores :
    ChangesThreshold (calledAtFive true) ∧
      (ThresholdKept (calledAtFive true) fourAttached emptyPacket 0 ↔
        (calledAtFive true).preemptThreshold = 0 ∨
          EveryCopyMade (calledAtFive true) fourAttached emptyPacket 0) :=
  ⟨documented_at_five true, threshold_kept_iff (documented_at_five true) 0⟩

end UsbxNxdk.NvnetPreemption
