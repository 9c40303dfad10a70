import UsbxNxdk.NvnetDriver

/-! What a transmission does, as one pass over the list of its recipients. -/

namespace UsbxNxdk.NvnetTransmit

open NxApi NvnetDriver

def copiesFor (driver : DriverInstance) (destination : MacAddress) : Nat :=
  if acceptsDirectly driver destination then 1
  else ((List.finRange 3).filter fun index => driver.mcastAddress index = destination).length

def slotRecipients (table : DriverTable) (sender : Slot) (destination : MacAddress)
    (slot : Slot) : List Slot :=
  if slot = sender ∨ (table slot).inUse = 0 then []
  else List.replicate (copiesFor (table slot) destination) slot

def recipients (table : DriverTable) (sender : Slot) (destination : MacAddress) : List Slot :=
  (List.finRange 4).flatMap (slotRecipients table sender destination)

def forwardAll (netx : NetX) (table : DriverTable) (packet : NxPacket) :
    List Slot → Transmission → LoopExit
  | [], transmission => .finished transmission
  | slot :: rest, transmission =>
      match forwardCopy netx table packet slot transmission with
      | .finished transmission => forwardAll netx table packet rest transmission
      | .returned transmission => .returned transmission

/-- The events of those copies; `copies` numbers the first one. -/
def copyEvents (netx : NetX) (table : DriverTable) (packet : NxPacket) :
    Nat → List Slot → List Event
  | _, [] => []
  | copies, slot :: rest =>
      match netx.packetCopy copies (table slot).ipPtr packet with
      | none => []
      | some packetCopy =>
          .copied copies ::
            nxNvnetNetworkDriverReceive table (table slot).ipPtr packetCopy slot copies ::
            copyEvents netx table packet (copies + 1) rest

theorem address_matches (held destination : MacAddress) :
    (destination.msw = held.msw ∧ destination.lsw = held.lsw) ↔ held = destination := by
  constructor
  · rintro ⟨msw, lsw⟩
    cases held
    cases destination
    cases msw
    cases lsw
    rfl
  · rintro rfl
    exact ⟨rfl, rfl⟩

section Loops

variable (netx : NetX) (table : DriverTable) (packet : NxPacket)

theorem forwardAll_append (first second : List Slot) (transmission : Transmission) :
    forwardAll netx table packet (first ++ second) transmission =
      match forwardAll netx table packet first transmission with
      | .finished transmission => forwardAll netx table packet second transmission
      | .returned transmission => .returned transmission := by
  induction first generalizing transmission with
  | nil => rfl
  | cons slot rest ih =>
      rw [List.cons_append, forwardAll, forwardAll]
      cases forwardCopy netx table packet slot transmission with
      | finished middle => exact ih middle
      | returned middle => rfl

/-- The loop over a multicast table makes one copy for every entry that matches. -/
theorem mcastLoop_forward (destination : MacAddress) (slot : Slot) (indices : List (Fin 3))
    (transmission : Transmission) :
    mcastLoop netx table packet destination slot indices transmission =
      forwardAll netx table packet
        (List.replicate (indices.filter fun index =>
          (table slot).mcastAddress index = destination).length slot) transmission := by
  induction indices generalizing transmission with
  | nil => rfl
  | cons index rest ih =>
      have same := address_matches ((table slot).mcastAddress index) destination
      unfold mcastLoop
      by_cases matched : (table slot).mcastAddress index = destination
      · rw [if_pos (same.mpr matched), List.filter_cons_of_pos (by simp [matched]),
          List.length_cons, List.replicate_succ, forwardAll]
        cases forwardCopy netx table packet slot transmission with
        | finished middle => exact ih middle
        | returned middle => rfl
      · rw [if_neg (same.not.mpr matched), List.filter_cons_of_neg (by simp [matched])]
        exact ih transmission

theorem slotLoop_forward (destination : MacAddress) (sender : Slot) (slots : List Slot)
    (transmission : Transmission) :
    slotLoop netx table packet destination sender slots transmission =
      forwardAll netx table packet (slots.flatMap (slotRecipients table sender destination))
        transmission := by
  induction slots generalizing transmission with
  | nil => rfl
  | cons slot rest ih =>
      rw [List.flatMap_cons, forwardAll_append]
      unfold slotLoop
      by_cases own : slot = sender
      · rw [if_pos own, slotRecipients, if_pos (Or.inl own)]
        exact ih transmission
      · rw [if_neg own]
        by_cases unused : (table slot).inUse = 0
        · rw [if_pos unused, slotRecipients, if_pos (Or.inr unused)]
          exact ih transmission
        · rw [if_neg unused, slotRecipients, if_neg (not_or.mpr ⟨own, unused⟩), copiesFor]
          by_cases direct : acceptsDirectly (table slot) destination
          · rw [if_pos direct, if_pos direct, List.replicate_one, forwardAll]
            cases forwardCopy netx table packet slot transmission with
            | finished middle => exact ih middle
            | returned middle => rfl
          · rw [if_neg direct, if_neg direct, mcastLoop_forward]
            cases forwardAll netx table packet
                (List.replicate ((List.finRange 3).filter fun index =>
                  (table slot).mcastAddress index = destination).length slot) transmission with
            | finished middle => exact ih middle
            | returned middle => rfl

theorem forwardCopy_failed {slot : Slot} {transmission : Transmission}
    (failed : netx.packetCopy transmission.copies (table slot).ipPtr packet = none) :
    forwardCopy netx table packet slot transmission =
      .returned
        { copies := transmission.copies + 1
          events := transmission.events ++ [.transmitReleased (removeHeader packet)] } := by
  simp only [forwardCopy, failed]

theorem forwardCopy_copied {slot : Slot} {transmission : Transmission} {copy : NxPacket}
    (copied : netx.packetCopy transmission.copies (table slot).ipPtr packet = some copy) :
    forwardCopy netx table packet slot transmission =
      .finished
        { copies := transmission.copies + 1
          events := transmission.events ++ [.copied transmission.copies,
            nxNvnetNetworkDriverReceive table (table slot).ipPtr copy slot
              transmission.copies] } := by
  simp only [forwardCopy, copied]

def exitEvents (packet : NxPacket) : LoopExit → List Event
  | .finished transmission => transmission.events ++ [.transmitReleased (removeHeader packet)]
  | .returned transmission => transmission.events

theorem forwardAll_events (slots : List Slot) (transmission : Transmission) :
    exitEvents packet (forwardAll netx table packet slots transmission) =
      transmission.events ++ copyEvents netx table packet transmission.copies slots ++
        [.transmitReleased (removeHeader packet)] := by
  induction slots generalizing transmission with
  | nil => rw [forwardAll, copyEvents, exitEvents, List.append_nil]
  | cons slot rest ih =>
      unfold forwardAll copyEvents
      cases copied : netx.packetCopy transmission.copies (table slot).ipPtr packet with
      | none =>
          rw [forwardCopy_failed netx table packet copied, List.append_nil]
          rfl
      | some copy =>
          rw [forwardCopy_copied netx table packet copied]
          refine (ih _).trans ?_
          simp only [List.append_assoc, List.cons_append, List.nil_append]

theorem output_events (sender : Slot) :
    (nxNvnetNetworkDriverOutput netx table packet sender).events =
      copyEvents netx table packet 0 (recipients table sender (destinationAddress packet)) ++
        [.transmitReleased (removeHeader packet)] := by
  have exits : (nxNvnetNetworkDriverOutput netx table packet sender).events =
      exitEvents packet (slotLoop netx table packet (destinationAddress packet) sender
        (List.finRange 4) { copies := 0, events := [] }) := by
    unfold nxNvnetNetworkDriverOutput
    cases slotLoop netx table packet (destinationAddress packet) sender (List.finRange 4)
      { copies := 0, events := [] } <;> rfl
  rw [exits, slotLoop_forward]
  exact forwardAll_events netx table packet _ { copies := 0, events := [] }

end Loops

/-! ### The recipients -/

theorem slotRecipients_own {table : DriverTable} {sender slot other : Slot}
    {destination : MacAddress} (member : slot ∈ slotRecipients table sender destination other) :
    slot = other := by
  unfold slotRecipients at member
  by_cases skipped : other = sender ∨ (table other).inUse = 0
  · rw [if_pos skipped] at member
    cases member
  · rw [if_neg skipped] at member
    exact List.eq_of_mem_replicate member

theorem count_recipients (table : DriverTable) (sender : Slot) (destination : MacAddress)
    (slot : Slot) :
    (recipients table sender destination).count slot =
      if slot = sender ∨ (table slot).inUse = 0 then 0
      else copiesFor (table slot) destination := by
  have elsewhere : ∀ slots : List Slot, slot ∉ slots →
      (slots.flatMap (slotRecipients table sender destination)).count slot = 0 := by
    intro slots absent
    apply List.count_eq_zero.mpr
    intro member
    obtain ⟨other, listed, own⟩ := List.mem_flatMap.mp member
    exact absent (slotRecipients_own own ▸ listed)
  have own : (slotRecipients table sender destination slot).count slot =
      if slot = sender ∨ (table slot).inUse = 0 then 0
      else copiesFor (table slot) destination := by
    unfold slotRecipients
    split
    · exact List.count_nil
    · exact List.count_replicate_self
  obtain ⟨before, after, split⟩ := List.append_of_mem (List.mem_finRange slot)
  have distinct := List.nodup_finRange 4
  rw [split] at distinct
  have apart := List.nodup_middle.mp distinct
  have outside : slot ∉ before ++ after := (List.nodup_cons.mp apart).1
  rw [List.mem_append, not_or] at outside
  rw [recipients, split, List.flatMap_append, List.flatMap_cons, List.count_append,
    List.count_append, elsewhere before outside.1, elsewhere after outside.2, own]
  omega

theorem mem_recipients (table : DriverTable) (sender : Slot) (destination : MacAddress)
    (slot : Slot) :
    slot ∈ recipients table sender destination ↔
      slot ≠ sender ∧ (table slot).inUse ≠ 0 ∧ 0 < copiesFor (table slot) destination := by
  rw [← List.count_pos_iff, count_recipients]
  by_cases skipped : slot = sender ∨ (table slot).inUse = 0
  · rw [if_pos skipped]
    constructor
    · intro positive
      cases positive
    · rintro ⟨foreign, used, _⟩
      exact absurd skipped (not_or.mpr ⟨foreign, used⟩)
  · rw [if_neg skipped]
    rw [not_or] at skipped
    exact ⟨fun positive => ⟨skipped.1, skipped.2, positive⟩, fun all => all.2.2⟩

/-! ### The copies -/

def Event.receiver : Event → Option Slot
  | .copied _ => none
  | .received _ slot _ _ _ => some slot
  | .released _ slot _ => some slot
  | .transmitReleased _ => none

def handedOver (table : DriverTable) (slot : Slot) (copy : NxPacket) : NxPacket :=
  removeHeader { copy with interfacePtr := (table slot).interfacePtr }

theorem receive_cases (table : DriverTable) (ipPtr : Nat) (copy : NxPacket) (slot : Slot)
    (number : Nat) :
    (∃ entry, nxNvnetNetworkDriverReceive table ipPtr copy slot number =
        .received number slot entry ipPtr (handedOver table slot copy)) ∨
      ∃ packet, nxNvnetNetworkDriverReceive table ipPtr copy slot number =
        .released number slot packet := by
  unfold nxNvnetNetworkDriverReceive
  dsimp only
  split
  · exact Or.inl ⟨.ip, rfl⟩
  · split
    · exact Or.inl ⟨.arp, rfl⟩
    · split
      · exact Or.inl ⟨.rarp, rfl⟩
      · exact Or.inr ⟨_, rfl⟩

theorem receive_receiver (table : DriverTable) (ipPtr : Nat) (packet : NxPacket) (slot : Slot)
    (copy : Nat) :
    Event.receiver (nxNvnetNetworkDriverReceive table ipPtr packet slot copy) = some slot := by
  obtain ⟨entry, received⟩ | ⟨rest, released⟩ := receive_cases table ipPtr packet slot copy
  · rw [received, Event.receiver]
  · rw [released, Event.receiver]

theorem receive_packet {table : DriverTable} {ipPtr : Nat} {copy : NxPacket} {slot : Slot}
    {number : Nat} {copyNumber : Nat} {place : Slot} {entry : ReceiveEntry} {ip : Nat}
    {packet : NxPacket}
    (handed : .received copyNumber place entry ip packet =
      nxNvnetNetworkDriverReceive table ipPtr copy slot number) :
    place = slot ∧ ip = ipPtr ∧ packet.interfacePtr = (table slot).interfacePtr := by
  obtain ⟨_, received⟩ | ⟨_, released⟩ := receive_cases table ipPtr copy slot number
  · rw [received] at handed
    cases handed
    exact ⟨rfl, rfl, rfl⟩
  · rw [released] at handed
    cases handed

def CopiesSucceed (netx : NetX) : Prop :=
  ∀ copies ipPtr packet, (netx.packetCopy copies ipPtr packet).isSome

theorem copyEvents_receivers {netx : NetX} (succeed : CopiesSucceed netx) (table : DriverTable)
    (packet : NxPacket) (copies : Nat) (slots : List Slot) :
    (copyEvents netx table packet copies slots).filterMap Event.receiver = slots := by
  induction slots generalizing copies with
  | nil => rfl
  | cons slot rest ih =>
      obtain ⟨copy, copied⟩ :=
        Option.isSome_iff_exists.mp (succeed copies (table slot).ipPtr packet)
      simp only [copyEvents, copied]
      rw [List.filterMap_cons_none rfl, List.filterMap_cons_some (receive_receiver _ _ _ _ _), ih]

/-- The copy for a recipient is made, as are those for the recipients before it.
The recipients are counted from `copies`. -/
structure Copied (netx : NetX) (table : DriverTable) (packet : NxPacket) (copies : Nat)
    (slots : List Slot) (number : Nat) (slot : Slot) (copy : NxPacket) : Prop where
  recipient : slots[number]? = some slot
  made : netx.packetCopy (copies + number) (table slot).ipPtr packet = some copy
  before : ∀ earlier other, earlier < number → slots[earlier]? = some other →
    (netx.packetCopy (copies + earlier) (table other).ipPtr packet).isSome

section Copies

variable {netx : NetX} {table : DriverTable} {packet : NxPacket} {copies : Nat}
variable {first : Slot} {rest : List Slot}

theorem copied_first {copy : NxPacket}
    (made : netx.packetCopy copies (table first).ipPtr packet = some copy) :
    Copied netx table packet copies (first :: rest) 0 first copy where
  recipient := rfl
  made := made
  before := fun _ _ earlier _ => absurd earlier (Nat.not_lt_zero _)

theorem copied_later {firstCopy copy : NxPacket} {number : Nat} {slot : Slot}
    (made : netx.packetCopy copies (table first).ipPtr packet = some firstCopy) :
    Copied netx table packet copies (first :: rest) (number + 1) slot copy ↔
      Copied netx table packet (copies + 1) rest number slot copy := by
  have shift : ∀ place, copies + (place + 1) = copies + 1 + place := by omega
  constructor
  · intro copied
    refine ⟨copied.recipient, shift number ▸ copied.made, ?_⟩
    intro earlier other below listed
    exact shift earlier ▸ copied.before (earlier + 1) other (Nat.succ_lt_succ below) listed
  · intro copied
    refine ⟨copied.recipient, shift number ▸ copied.made, ?_⟩
    intro earlier other below listed
    cases earlier with
    | zero =>
        cases listed
        exact Option.isSome_iff_exists.mpr ⟨firstCopy, made⟩
    | succ earlier =>
        exact shift earlier ▸ copied.before earlier other (Nat.lt_of_succ_lt_succ below) listed

theorem copied_failed {copy : NxPacket} {number : Nat} {slot : Slot}
    (failed : netx.packetCopy copies (table first).ipPtr packet = none) :
    ¬ Copied netx table packet copies (first :: rest) number slot copy := by
  intro copied
  cases number with
  | zero =>
      cases copied.recipient
      cases failed.symm.trans copied.made
  | succ number =>
      have made := copied.before 0 first (Nat.succ_pos number) rfl
      rw [Nat.add_zero, failed] at made
      cases made

end Copies

theorem mem_copyEvents (netx : NetX) (table : DriverTable) (packet : NxPacket) (copies : Nat)
    (slots : List Slot) (event : Event) :
    event ∈ copyEvents netx table packet copies slots ↔
      ∃ number slot copy, Copied netx table packet copies slots number slot copy ∧
        (event = .copied (copies + number) ∨
          event = nxNvnetNetworkDriverReceive table (table slot).ipPtr copy slot
            (copies + number)) := by
  induction slots generalizing copies with
  | nil =>
      constructor
      · intro member
        cases member
      · rintro ⟨number, slot, copy, copied, _⟩
        cases copied.recipient
  | cons first rest ih =>
      unfold copyEvents
      cases made : netx.packetCopy copies (table first).ipPtr packet with
      | none =>
          constructor
          · intro member
            cases member
          · rintro ⟨number, slot, copy, copied, _⟩
            exact absurd copied (copied_failed made)
      | some firstCopy =>
          have shift : ∀ place, copies + (place + 1) = copies + 1 + place := by omega
          simp only [List.mem_cons, ih]
          constructor
          · rintro (own | own | ⟨number, slot, copy, copied, event⟩)
            · exact ⟨0, first, firstCopy, copied_first made, Or.inl own⟩
            · exact ⟨0, first, firstCopy, copied_first made, Or.inr own⟩
            · refine ⟨number + 1, slot, copy, (copied_later made).mpr copied, ?_⟩
              rw [shift]
              exact event
          · rintro ⟨number, slot, copy, copied, event⟩
            cases number with
            | zero =>
                cases copied.recipient
                cases made.symm.trans copied.made
                obtain own | own := event
                · exact Or.inl own
                · exact Or.inr (Or.inl own)
            | succ number =>
                rw [shift] at event
                exact Or.inr (Or.inr ⟨number, slot, copy, (copied_later made).mp copied, event⟩)

theorem copied_listed {netx : NetX} (succeed : CopiesSucceed netx) (table : DriverTable)
    (packet : NxPacket) (copies : Nat) {slots : List Slot} {slot : Slot} (listed : slot ∈ slots) :
    ∃ number copy, Copied netx table packet copies slots number slot copy := by
  obtain ⟨number, recipient⟩ := List.mem_iff_getElem?.mp listed
  obtain ⟨copy, made⟩ :=
    Option.isSome_iff_exists.mp (succeed (copies + number) (table slot).ipPtr packet)
  exact ⟨number, copy, recipient, made, fun earlier other _ _ => succeed _ _ _⟩

end UsbxNxdk.NvnetTransmit
