import UsbxNxdk.NvnetFrame

/-! What reaches an interface whose link was disabled. -/

namespace UsbxNxdk.NvnetLink

open Execution NxApi NvnetDriver NvnetTransmit NvnetInstances NvnetFrame

/-- `disabled` is a history variable: the interfaces for which the last
`NX_LINK_ENABLE` or `NX_LINK_DISABLE` handled was `NX_LINK_DISABLE`. -/
structure Observed where
  driver : Driver
  disabled : List Nat

def disabledAfter (request : NxIpDriver) (status : NxStatus) (disabled : List Nat) : List Nat :=
  if status = .success then
    match request.command with
    | .enable => disabled.filter fun interfacePtr => interfacePtr ≠ request.interfacePtr
    | .disable => request.interfacePtr :: disabled
    | _ => disabled
  else disabled

def observedStep (observed : Observed) (submission : Submission) : Option Observed :=
  (submission.run observed.driver).map fun returned =>
    { driver := returned.driver
      disabled := disabledAfter submission.request returned.status observed.disabled }

def Observed.initial (interfaces : Interfaces) : Observed :=
  { driver := Driver.initial interfaces
    disabled := [] }

def Silent (observed : Observed) (submission : Submission) : Prop :=
  ∀ returned, submission.run observed.driver = some returned →
    ∀ copy slot entry ipPtr packet,
      .received copy slot entry ipPtr packet ∈ returned.events →
        packet.interfacePtr ∉ observed.disabled

def Routable (packet : NxPacket) : Prop :=
  (packetType packet = ethernetIp.setWidth 32 ∨ packetType packet = ethernetIpv6.setWidth 32) ∨
    packetType packet = ethernetArp.setWidth 32 ∨ packetType packet = ethernetRarp.setWidth 32

/-- No transmission has a slot with a disabled interface among its recipients,
unless the copy for it or one before it fails, or the copy comes without its type. -/
def Spared (observed : Observed) (submission : Submission) : Prop :=
  sending submission.request.command = true →
    ∀ sender, FirstHolder observed.driver.table (pairOf submission.request) sender →
      ∀ number slot copy,
        Copied submission.netx observed.driver.table (submission.frame observed.driver) 0
            (recipients observed.driver.table sender (onWire (requestAddress submission.request)))
            number slot copy →
          (observed.driver.table slot).interfacePtr ∈ observed.disabled → ¬ Routable copy

theorem receive_routable (table : DriverTable) (ipPtr : Nat) (copy : NxPacket) (slot : Slot)
    (number : Nat) :
    Routable copy ↔
      ∃ entry, nxNvnetNetworkDriverReceive table ipPtr copy slot number =
        .received number slot entry ipPtr (handedOver table slot copy) := by
  unfold nxNvnetNetworkDriverReceive Routable
  dsimp only
  by_cases ip : packetType copy = ethernetIp.setWidth 32 ∨
      packetType copy = ethernetIpv6.setWidth 32
  · rw [if_pos ip]
    exact ⟨fun _ => ⟨.ip, rfl⟩, fun _ => Or.inl ip⟩
  · rw [if_neg ip]
    by_cases arp : packetType copy = ethernetArp.setWidth 32
    · rw [if_pos arp]
      exact ⟨fun _ => ⟨.arp, rfl⟩, fun _ => Or.inr (Or.inl arp)⟩
    · rw [if_neg arp]
      by_cases rarp : packetType copy = ethernetRarp.setWidth 32
      · rw [if_pos rarp]
        exact ⟨fun _ => ⟨.rarp, rfl⟩, fun _ => Or.inr (Or.inr rarp)⟩
      · rw [if_neg rarp]
        constructor
        · rintro (known | known | known)
          · exact absurd known ip
          · exact absurd known arp
          · exact absurd known rarp
        · rintro ⟨entry, same⟩
          cases same

theorem observedStep_some {observed next : Observed} {submission : Submission}
    (stepped : observedStep observed submission = some next) :
    ∃ returned, submission.run observed.driver = some returned := by
  obtain ⟨returned, ran, _⟩ := Option.map_eq_some_iff.mp stepped
  exact ⟨returned, ran⟩

theorem silent_spared {observed : Observed} {submission : Submission}
    (given : submission.request.interfacePtr ≠ 0) (silent : Silent observed submission) :
    Spared observed submission := by
  intro send sender first number slot copy copied disabled routable
  obtain ⟨entry, received⟩ := (receive_routable observed.driver.table
    (observed.driver.table slot).ipPtr copy slot (0 + number)).mp routable
  have sends := run_sends given send (findInstance_first.mpr first)
  refine silent _ sends (0 + number) slot entry (observed.driver.table slot).ipPtr
    (handedOver observed.driver.table slot copy) ?_ disabled
  rw [sendPacket_events, ← received]
  apply List.mem_append_left
  apply (mem_copyEvents _ _ _ _ _ _).mpr
  rw [Submission.frame, header_destination]
  exact ⟨number, slot, copy, copied, Or.inr rfl⟩

theorem spared_silent {observed : Observed} {submission : Submission}
    (spared : Spared observed submission) : Silent observed submission := by
  intro returned ran copyNumber slot entry ipPtr packet member disabled
  obtain quiet | ⟨sender, send, found, sent⟩ := run_events ran
  · rw [quiet] at member
    cases member
  · rw [sent, sendPacket_events, List.mem_append, List.mem_singleton] at member
    obtain listed | released := member
    · obtain ⟨number, place, copy, copied, same | handed⟩ :=
        (mem_copyEvents _ _ _ _ _ _).mp listed
      · cases same
      · obtain ⟨rfl, rfl, interface⟩ := receive_packet handed
        rw [interface] at disabled
        rw [Submission.frame, header_destination] at copied
        refine spared send sender (findInstance_first.mp found) number slot copy copied disabled ?_
        apply (receive_routable observed.driver.table (observed.driver.table slot).ipPtr copy slot
          (0 + number)).mpr
        obtain ⟨entry, received⟩ | ⟨rest, released⟩ := receive_cases observed.driver.table
          (observed.driver.table slot).ipPtr copy slot (0 + number)
        · exact ⟨entry, received⟩
        · rw [released] at handed
          cases handed
    · cases released

/-- Over any sequence of requests, nothing reaches an interface between an
`NX_LINK_DISABLE` and the next `NX_LINK_ENABLE`, exactly when no transmission has
it among its recipients. -/
theorem disabled_silent_iff (interfaces : Interfaces) (schedule : List Submission) :
    Along observedStep Silent (Observed.initial interfaces) schedule ↔
      Along observedStep Spared (Observed.initial interfaces) schedule := by
  apply along_iff
  intro observed submission next stepped
  obtain ⟨returned, ran⟩ := observedStep_some stepped
  exact ⟨silent_spared (run_given ran), spared_silent⟩

/-- A packet for an instance that was disabled is handed to its IP instance. -/
theorem disabled_receives :
    ¬ Along observedStep Silent (Observed.initial plainInterfaces)
        [plainRequest .interfaceAttach 1 1 ⟨0, 0⟩, plainRequest .interfaceAttach 2 2 ⟨0, 0⟩,
          plainRequest .disable 2 2 ⟨0, 0⟩, plainRequest .packetSend 1 1 (slotAddress 1)] := by
  intro along
  have silent := ((((along _ rfl).2 _ rfl).2 _ rfl).2 _ rfl).1
  let frame := addHeader (plainRequest .packetSend 1 1 (slotAddress 1)).request (plainInterfaces 1)
  refine silent_spared (by decide) silent rfl 0 ?_ 0 1 frame ?_ ?_ ?_
  · exact ⟨by decide, fun earlier below => absurd below (Nat.not_lt_zero _)⟩
  · exact {
      recipient := by decide
      made := rfl
      before := fun earlier other below _ => absurd below (Nat.not_lt_zero earlier) }
  · decide
  · exact Or.inl (Or.inl (header_type _ _))

end UsbxNxdk.NvnetLink
