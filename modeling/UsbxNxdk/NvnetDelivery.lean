import UsbxNxdk.NvnetFrame

/-! How many copies of a frame each instance gets, over any sequence of requests. -/

namespace UsbxNxdk.NvnetDelivery

open ByteMemory Execution NxApi NvnetDriver NvnetTransmit NvnetInstances NvnetFrame

def Accepts (driver : DriverInstance) (destination : MacAddress) : Prop :=
  acceptsDirectly driver destination ∨ ∃ index, driver.mcastAddress index = destination

instance (driver : DriverInstance) (destination : MacAddress) :
    Decidable (Accepts driver destination) :=
  inferInstanceAs (Decidable (_ ∨ _))

/-- The slots that a frame is for. -/
def IsFor (table : DriverTable) (sender : Slot) (destination : MacAddress) (slot : Slot) : Prop :=
  slot ≠ sender ∧ (table slot).inUse ≠ 0 ∧ Accepts (table slot) destination

instance (table : DriverTable) (sender : Slot) (destination : MacAddress) (slot : Slot) :
    Decidable (IsFor table sender destination slot) :=
  inferInstanceAs (Decidable (_ ∧ _))

/-- The receive routine is passed one copy for each slot that the frame is for,
and nothing else. -/
structure DeliversOnce (netx : NetX) (table : DriverTable) (packet : NxPacket) (sender : Slot) :
    Prop where
  counted : ∀ slot,
    ((nxNvnetNetworkDriverOutput netx table packet sender).events.filterMap
        Event.receiver).count slot =
      if IsFor table sender (destinationAddress packet) slot then 1 else 0
  copied : ∀ event ∈ (nxNvnetNetworkDriverOutput netx table packet sender).events,
    ∀ slot, Event.receiver event = some slot →
      ∃ number copy, netx.packetCopy number (table slot).ipPtr packet = some copy ∧
        event = nxNvnetNetworkDriverReceive table (table slot).ipPtr copy slot number

def ExactDelivery (driver : Driver) : Prop :=
  ∀ netx packet sender, CopiesSucceed netx → DeliversOnce netx driver.table packet sender

def HeldTwice (driver : DriverInstance) (address : MacAddress) : Prop :=
  ∃ first second, first ≠ second ∧ driver.mcastAddress first = address ∧
    driver.mcastAddress second = address

/-- An address of a frame that the multicast table alone accepts. -/
def TableOnly (driver : DriverInstance) (address : MacAddress) : Prop :=
  address.msw.toNat < 2 ^ 16 ∧ ¬ acceptsDirectly driver address

def Doubled (driver : DriverInstance) : Prop :=
  ∃ address, TableOnly driver address ∧ HeldTwice driver address

/-! ### Counting the copies -/

theorem filter_one {size : Nat} (matched : Fin size → Bool) :
    ((List.finRange size).filter matched).length ≤ 1 ↔
      ∀ first second, matched first → matched second → first = second := by
  have distinct := (List.nodup_finRange size).filter matched
  have listed : ∀ index, index ∈ (List.finRange size).filter matched ↔ matched index := by
    intro index
    simp [List.mem_finRange]
  cases shape : (List.finRange size).filter matched with
  | nil =>
      rw [shape] at listed
      constructor
      · intro _ first second matchesFirst
        cases (listed first).mpr matchesFirst
      · intro _
        exact Nat.zero_le 1
  | cons head tail =>
      rw [shape] at listed distinct
      cases tail with
      | nil =>
          constructor
          · intro _ first second matchesFirst matchesSecond
            have one := List.mem_singleton.mp ((listed first).mpr matchesFirst)
            have other := List.mem_singleton.mp ((listed second).mpr matchesSecond)
            exact one.trans other.symm
          · intro _
            exact Nat.le_refl 1
      | cons next rest =>
          constructor
          · intro short
            simp only [List.length_cons] at short
            omega
          · intro unique
            have same := unique head next ((listed head).mp (by simp)) ((listed next).mp (by simp))
            subst same
            exact absurd List.mem_cons_self (List.nodup_cons.mp distinct).1

theorem copiesFor_positive (driver : DriverInstance) (destination : MacAddress) :
    0 < copiesFor driver destination ↔ Accepts driver destination := by
  unfold copiesFor Accepts
  by_cases direct : acceptsDirectly driver destination
  · rw [if_pos direct]
    exact ⟨fun _ => Or.inl direct, fun _ => Nat.one_pos⟩
  · rw [if_neg direct, List.length_pos_iff_exists_mem]
    simp [direct, List.mem_finRange]

theorem copiesFor_one (driver : DriverInstance) (destination : MacAddress) :
    copiesFor driver destination ≤ 1 ↔
      acceptsDirectly driver destination ∨ ¬ HeldTwice driver destination := by
  unfold copiesFor
  by_cases direct : acceptsDirectly driver destination
  · rw [if_pos direct]
    exact ⟨fun _ => Or.inl direct, fun _ => Nat.le_refl 1⟩
  · rw [if_neg direct, filter_one]
    simp only [decide_eq_true_eq, direct, false_or, HeldTwice]
    constructor
    · rintro unique ⟨first, second, apart, one, other⟩
      exact apart (unique first second one other)
    · intro single first second one other
      by_contra apart
      exact single ⟨first, second, apart, one, other⟩

theorem destination_small (packet : NxPacket) :
    (destinationAddress packet).msw.toNat < 2 ^ 16 := by
  have half : (destinationAddress packet).msw =
      ((destinationAddress packet).msw.setWidth 16).setWidth 32 := by
    simp only [destinationAddress]
    ext index bound
    simp only [BitVec.getElem_or, BitVec.getElem_shiftLeft, BitVec.getElem_setWidth,
      BitVec.getLsbD_setWidth, BitVec.getLsbD_or, BitVec.getLsbD_shiftLeft]
    grind
  rw [half, BitVec.toNat_setWidth, BitVec.toNat_setWidth]
  omega

/-! ### Exact delivery in one state -/

theorem output_receivers {netx : NetX} (succeed : CopiesSucceed netx) (table : DriverTable)
    (packet : NxPacket) (sender : Slot) :
    (nxNvnetNetworkDriverOutput netx table packet sender).events.filterMap Event.receiver =
      recipients table sender (destinationAddress packet) := by
  rw [output_events, List.filterMap_append, copyEvents_receivers succeed]
  exact List.append_nil _

theorem output_copied (netx : NetX) (table : DriverTable) (packet : NxPacket) (sender : Slot) :
    ∀ event ∈ (nxNvnetNetworkDriverOutput netx table packet sender).events,
      ∀ slot, Event.receiver event = some slot →
        ∃ number copy, netx.packetCopy number (table slot).ipPtr packet = some copy ∧
          event = nxNvnetNetworkDriverReceive table (table slot).ipPtr copy slot number := by
  intro event member slot receiver
  rw [output_events, List.mem_append, List.mem_singleton] at member
  obtain listed | rfl := member
  · obtain ⟨number, place, copy, copied, rfl | rfl⟩ := (mem_copyEvents _ _ _ _ _ _).mp listed
    · cases receiver
    · rw [receive_receiver] at receiver
      cases receiver
      exact ⟨0 + number, copy, copied.made, rfl⟩
  · cases receiver

theorem deliversOnce_iff {netx : NetX} (succeed : CopiesSucceed netx) (table : DriverTable)
    (packet : NxPacket) (sender : Slot) :
    DeliversOnce netx table packet sender ↔
      ∀ slot, slot ≠ sender → (table slot).inUse ≠ 0 →
        copiesFor (table slot) (destinationAddress packet) ≤ 1 := by
  have counts : ∀ slot,
      ((nxNvnetNetworkDriverOutput netx table packet sender).events.filterMap
          Event.receiver).count slot =
        if slot = sender ∨ (table slot).inUse = 0 then 0
        else copiesFor (table slot) (destinationAddress packet) := by
    intro slot
    rw [output_receivers succeed]
    exact count_recipients table sender (destinationAddress packet) slot
  constructor
  · intro once slot other used
    have counted := once.counted slot
    rw [counts, if_neg (not_or.mpr ⟨other, used⟩)] at counted
    rw [counted]
    split
    · exact Nat.le_refl 1
    · exact Nat.zero_le 1
  · intro single
    refine ⟨?_, output_copied netx table packet sender⟩
    intro slot
    rw [counts]
    by_cases skipped : slot = sender ∨ (table slot).inUse = 0
    · have unmeant : ¬ IsFor table sender (destinationAddress packet) slot := by
        rintro ⟨other, used, _⟩
        exact absurd skipped (not_or.mpr ⟨other, used⟩)
      rw [if_pos skipped, if_neg unmeant]
    · rw [if_neg skipped]
      obtain ⟨other, used⟩ := not_or.mp skipped
      have most := single slot other used
      have accepted := copiesFor_positive (table slot) (destinationAddress packet)
      by_cases accepts : Accepts (table slot) (destinationAddress packet)
      · have least := accepted.mpr accepts
        rw [if_pos ⟨other, used, accepts⟩]
        omega
      · have none := accepted.not.mpr accepts
        rw [if_neg fun meant => accepts meant.2.2]
        omega

theorem frame_for {address : MacAddress} (small : address.msw.toNat < 2 ^ 16) :
    ∃ packet, destinationAddress packet = address := by
  refine ⟨addHeader (plainRequest .packetSend 0 0 address).request (plainInterfaces 0), ?_⟩
  rw [header_destination]
  exact onWire_whole small

theorem exactDelivery_iff (driver : Driver) :
    ExactDelivery driver ↔
      ∀ slot, (driver.table slot).inUse ≠ 0 → ¬ Doubled (driver.table slot) := by
  constructor
  · rintro exactly slot used ⟨address, ⟨small, indirect⟩, twice⟩
    obtain ⟨packet, destination⟩ := frame_for small
    obtain ⟨sender, other⟩ := exists_ne slot
    have once := exactly plainNetX packet sender fun _ _ _ => rfl
    have most := (deliversOnce_iff (fun _ _ _ => rfl) _ _ _).mp once slot other.symm used
    rw [destination] at most
    obtain direct | single := (copiesFor_one _ _).mp most
    · exact indirect direct
    · exact single twice
  · intro single netx packet sender succeed
    apply (deliversOnce_iff succeed _ _ _).mpr
    intro slot _ used
    apply (copiesFor_one _ _).mpr
    by_cases direct : acceptsDirectly (driver.table slot) (destinationAddress packet)
    · exact Or.inl direct
    · exact Or.inr fun twice =>
        single slot used ⟨_, ⟨destination_small packet, direct⟩, twice⟩

/-! ### Exact delivery over a run -/

/-- A join that repeats an address, where a second entry for it makes a second
copy. -/
def RepeatsAddress (driver : Driver) (submission : Submission) : Prop :=
  submission.request.command = .multicastJoin ∧
    ∃ slot index, FirstHolder driver.table (pairOf submission.request) slot ∧
      findMcast (driver.table slot) ⟨0, 0⟩ = some index ∧
      TableOnly (driver.table slot) (requestAddress submission.request) ∧
      ∃ other, (driver.table slot).mcastAddress other = requestAddress submission.request

/-- A new address for an instance that holds its old one twice in its multicast
table, where it has been accepted for its own sake so far. -/
def UncoversAddress (driver : Driver) (submission : Submission) : Prop :=
  submission.request.command = .setPhysicalAddress ∧
    ¬ Absent driver.table (pairOf submission.request) ∧
      ∃ slot, findInterface driver.table submission.request.interfacePtr = some slot ∧
        HeldTwice (driver.table slot) (driver.table slot).macAddress ∧
        TableOnly { driver.table slot with macAddress := requestAddress submission.request }
          (driver.table slot).macAddress

def Harmless (driver : Driver) (submission : Submission) : Prop :=
  ¬ RepeatsAddress driver submission ∧ ¬ UncoversAddress driver submission

theorem zero_direct (driver : DriverInstance) : acceptsDirectly driver ⟨0, 0⟩ :=
  Or.inr (Or.inr (Or.inr ⟨rfl, rfl⟩))

theorem heldTwice_setMcast {driver : DriverInstance} {index : Fin 3}
    {written address : MacAddress} :
    HeldTwice (setMcast index written driver) address →
      HeldTwice driver address ∨
        written = address ∧ ∃ other, other ≠ index ∧ driver.mcastAddress other = address := by
  rintro ⟨first, second, apart, one, other⟩
  simp only [setMcast] at one other
  by_cases ownFirst : first = index
  · subst ownFirst
    rw [Function.update_self] at one
    rw [Function.update_of_ne apart.symm] at other
    exact Or.inr ⟨one, second, apart.symm, other⟩
  · rw [Function.update_of_ne ownFirst] at one
    by_cases ownSecond : second = index
    · subst ownSecond
      rw [Function.update_self] at other
      exact Or.inr ⟨other, first, apart, one⟩
    · rw [Function.update_of_ne ownSecond] at other
      exact Or.inl ⟨first, second, apart, one, other⟩

theorem direct_own {driver : DriverInstance} {address mac : MacAddress}
    (direct : acceptsDirectly driver address)
    (indirect : ¬ acceptsDirectly { driver with macAddress := mac } address) :
    address = driver.macAddress := by
  obtain broadcast | own | multicast | zero := direct
  · exact absurd (Or.inl broadcast) indirect
  · exact ((address_matches _ _).mp own).symm
  · exact absurd (Or.inr (Or.inr (Or.inl multicast))) indirect
  · exact absurd (Or.inr (Or.inr (Or.inr zero))) indirect

theorem doubled_join {driver : DriverInstance} {index : Fin 3} {address : MacAddress}
    (free : findMcast driver ⟨0, 0⟩ = some index) (single : ¬ Doubled driver) :
    Doubled (setMcast index address driver) ↔
      TableOnly driver address ∧ ∃ other, driver.mcastAddress other = address := by
  constructor
  · rintro ⟨doubled, only, twice⟩
    obtain before | ⟨rfl, other, _, held⟩ := heldTwice_setMcast twice
    · exact absurd ⟨doubled, only, before⟩ single
    · exact ⟨only, other, held⟩
  · rintro ⟨only, other, held⟩
    have apart : other ≠ index := by
      rintro rfl
      rw [findMcast_found free] at held
      rw [← held] at only
      exact only.2 (zero_direct driver)
    refine ⟨address, only, index, other, apart.symm, ?_, ?_⟩
    · exact Function.update_self index address driver.mcastAddress
    · exact (Function.update_of_ne apart address driver.mcastAddress).trans held

theorem single_leave {driver : DriverInstance} {index : Fin 3} (single : ¬ Doubled driver) :
    ¬ Doubled (setMcast index ⟨0, 0⟩ driver) := by
  rintro ⟨doubled, only, twice⟩
  obtain before | ⟨rfl, _⟩ := heldTwice_setMcast twice
  · exact single ⟨doubled, only, before⟩
  · exact only.2 (zero_direct driver)

theorem doubled_readdress {driver : DriverInstance} {mac : MacAddress}
    (single : ¬ Doubled driver) :
    Doubled { driver with macAddress := mac } ↔
      HeldTwice driver driver.macAddress ∧
        TableOnly { driver with macAddress := mac } driver.macAddress := by
  constructor
  · rintro ⟨doubled, ⟨small, indirect⟩, twice⟩
    have direct : acceptsDirectly driver doubled := by
      by_contra before
      exact single ⟨doubled, ⟨small, before⟩, twice⟩
    have own := direct_own direct indirect
    subst own
    exact ⟨twice, small, indirect⟩
  · rintro ⟨twice, only⟩
    exact ⟨driver.macAddress, only, twice⟩

theorem single_attached (slot : Slot) (request : NxIpDriver) :
    ¬ Doubled (attached slot request DriverInstance.zero) := by
  rintro ⟨address, only, first, _, _, held, _⟩
  have zero : address = ⟨0, 0⟩ := held.symm
  subst zero
  exact only.2 (zero_direct _)

structure Sound (driver : Driver) : Prop where
  clean : Clean driver.table
  single : ∀ slot, (driver.table slot).inUse ≠ 0 → ¬ Doubled (driver.table slot)

theorem step_sound {driver next : Driver} {submission : Submission} (sound : Sound driver)
    (harmless : Harmless driver submission) (stepped : step driver submission = some next) :
    Sound next := by
  refine ⟨step_clean sound.clean stepped, ?_⟩
  obtain ⟨returned, ran, rfl⟩ := step_some stepped
  have given := run_given ran
  obtain ⟨same, _⟩ | ⟨place, changed, rewrites, table⟩ := run_table ran
  · rw [same]
    exact sound.single
  · intro slot used
    rw [table] at used ⊢
    by_cases own : slot = place
    · subst own
      rw [Function.update_self] at used ⊢
      cases rewrites with
      | attach command found =>
          rw [sound.clean slot (findAvailable_unused found)]
          exact single_attached slot submission.request
      | remove command found => exact absurd rfl used
      | join command found free =>
          have single := sound.single slot (findInstance_holds found).1
          intro doubled
          obtain ⟨only, other⟩ := (doubled_join free single).mp doubled
          exact harmless.1 ⟨command, slot, _, findInstance_first.mp found, free, only, other⟩
      | leave command found held =>
          exact single_leave (sound.single slot (findInstance_holds found).1)
      | @readdress owner slot command found second =>
          have single := sound.single slot (findInterface_used sound.clean given second)
          intro doubled
          obtain ⟨twice, only⟩ := (doubled_readdress single).mp doubled
          refine harmless.2 ⟨command, ?_, slot, second, twice, only⟩
          exact fun absent => absent owner (findInstance_holds found)
    · rw [Function.update_of_ne own] at used ⊢
      exact sound.single slot used

theorem exact_harmless {driver next : Driver} {submission : Submission} (sound : Sound driver)
    (stepped : step driver submission = some next) (exactly : ExactDelivery next) :
    Harmless driver submission := by
  obtain ⟨returned, ran, rfl⟩ := step_some stepped
  have given := run_given ran
  have single := (exactDelivery_iff returned.driver).mp exactly
  constructor
  · rintro ⟨command, slot, index, first, free, only, held⟩
    have found := findInstance_first.mpr first
    have table := run_rewrites ran (.join command found free)
    have used := first.1.1
    refine single slot ?_ ?_
    · rw [table, Function.update_self]
      exact used
    · rw [table, Function.update_self]
      exact (doubled_join free (sound.single slot used)).mpr ⟨only, held⟩
  · rintro ⟨command, present, slot, second, twice, only⟩
    obtain ⟨owner, found⟩ := present_found present
    have table := run_rewrites ran (.readdress command found second)
    have used := findInterface_used sound.clean given second
    refine single slot ?_ ?_
    · rw [table, Function.update_self]
      exact used
    · rw [table, Function.update_self]
      exact (doubled_readdress (sound.single slot used)).mpr ⟨twice, only⟩

/-- Over any sequence of requests, every frame is delivered once to the slots it
is for, exactly when no join repeats an address that the instance accepts through
its table alone, and no instance loses a MAC address that it holds there twice. -/
theorem exact_delivery_iff (interfaces : Interfaces) (schedule : List Submission) :
    Always step ExactDelivery (Driver.initial interfaces) schedule ↔
      Along step Harmless (Driver.initial interfaces) schedule := by
  apply always_iff_along step Sound ExactDelivery Harmless
  · intro driver sound
    exact (exactDelivery_iff driver).mpr sound.single
  · intro driver submission next sound harmless stepped
    exact step_sound sound harmless stepped
  · intro driver submission next sound stepped exactly
    exact exact_harmless sound stepped exactly
  · constructor
    · intro slot _
      rfl
    · intro slot used
      exact absurd rfl used

/-- An instance that has joined one group twice gets two copies of what another
one sends to the group. -/
theorem joined_twice :
    ¬ Always step ExactDelivery (Driver.initial plainInterfaces)
        [plainRequest .interfaceAttach 1 1 ⟨0, 0⟩, plainRequest .interfaceAttach 2 2 ⟨0, 0⟩,
          plainRequest .multicastJoin 2 2 ⟨0x0100, 0x5E000001⟩,
          plainRequest .multicastJoin 2 2 ⟨0x0100, 0x5E000001⟩] := by
  intro always
  have exactly := (((always.2 _ rfl).2 _ rfl).2 _ rfl).2 _ rfl
  refine (exactDelivery_iff _).mp exactly 1 (by decide) ?_
  exact ⟨⟨0x0100, 0x5E000001⟩, ⟨by decide, by decide⟩, 0, 1, by decide, by decide, by decide⟩

end UsbxNxdk.NvnetDelivery
