import UsbxNxdk.BroadcastNetwork
import UsbxNxdk.NvnetFrame
import UsbxNxdk.NvnetMulticast

/-! The whole driver as a broadcast network: stations in four places, which hear
what the others send. -/

namespace UsbxNxdk.NvnetNetwork

open BoundedMultiset BroadcastNetwork NxApi NvnetDriver NvnetTransmit NvnetInstances NvnetFrame
open NvnetMulticast (freeAddress held maxMcastAddresses)
open Simulation

abbrev Owner := Nat × Nat

structure Frame where
  entry : ReceiveEntry
  payload : List UCHAR
  deriving DecidableEq

/-- The addresses heard by all are the broadcast one, those of IPv6 multicast
and zero. A change of address goes to the first station of the interface. -/
def medium : Medium 4 Owner MacAddress where
  capacity := maxMcastAddresses
  common := { address | address = ⟨0x0000FFFF, 0xFFFFFFFF⟩ ∨ address.msw = 0x00003333 ∨
    address = freeAddress }
  nobody := freeAddress
  assigned := slotAddress
  related := fun first second => first.2 = second.2

/-! ### Reading the driver as a network -/

def stationOf (driver : DriverInstance) : Station Owner MacAddress where
  owner := (driver.ipPtr, driver.interfacePtr)
  address := driver.macAddress
  groups := held driver

def seat (driver : DriverInstance) : Option (Station Owner MacAddress) :=
  if driver.inUse = 0 then none else some (stationOf driver)

def network (driver : Driver) : Network 4 Owner MacAddress := fun slot => seat (driver.table slot)

def bytes (packet : NxPacket) : List UCHAR := (List.range packet.length.toNat).map packet.byte

def operationOf (submission : Submission) : Operation MacAddress Frame :=
  let request := submission.request
  match request.command with
  | .interfaceAttach => .attach
  | .interfaceDetach => .remove
  | .uninitializeLink => .remove
  | .packetSend | .packetBroadcast | .arpSend | .arpResponseSend | .rarpSend =>
      .send (onWire (requestAddress request)) ⟨entryFor request.command, bytes request.packet⟩
        (CopiesSucceed submission.netx)
  | .multicastJoin => .join (requestAddress request)
  | .multicastLeave => .leave (requestAddress request)
  | .setPhysicalAddress => .readdress (requestAddress request)
  | .other _ => .unsupported
  | _ => .inspect

def outcomeOf : NxStatus → Outcome
  | .success => .accepted
  | .invalidInterface => .unplaced
  | .noMoreEntries => .full
  | .entryNotFound => .absent
  | .unhandledCommand => .unsupported

def deliveryOf : Event → Option (Delivery 4 Owner Frame)
  | .received _ slot entry ipPtr packet =>
      some ⟨slot, (ipPtr, packet.interfacePtr), ⟨entry, bytes packet⟩⟩
  | _ => none

def reportOf (returned : Returned) : Report 4 Owner Frame where
  outcome := outcomeOf returned.status
  deliveries := returned.events.filterMap deliveryOf

/-- A request for an interface, with room in front of its packet, in a NetX whose
copies are copies. -/
structure Order where
  submission : Submission
  given : submission.request.interfacePtr ≠ 0
  room : submission.request.packet.length.toNat + ethernetSize < 2 ^ 32
  faithful : CopiesFaithful submission.netx

def requestOf (order : Order) : Request Owner MacAddress Frame where
  owner := pairOf order.submission.request
  operation := operationOf order.submission

def answer (driver : Driver) (order : Order) : Option (Returned × Driver) :=
  (order.submission.run driver).map fun returned => (returned, returned.driver)

/-! ### Stations -/

theorem seat_used {driver : DriverInstance} (used : driver.inUse ≠ 0) :
    seat driver = some (stationOf driver) :=
  if_neg used

theorem seat_some {driver : DriverInstance} {station : Station Owner MacAddress}
    (seated : seat driver = some station) : driver.inUse ≠ 0 ∧ stationOf driver = station := by
  rw [seat, Option.ite_none_left_eq_some, Option.some.injEq] at seated
  exact seated

theorem seat_readdressed {driver : DriverInstance} (used : driver.inUse ≠ 0)
    (address : MacAddress) :
    seat { driver with macAddress := address } =
      some { stationOf driver with address := address } :=
  if_neg used

theorem network_update (driver : Driver) (slot : Slot) (changed : DriverInstance) :
    network { driver with table := Function.update driver.table slot changed } =
      Function.update (network driver) slot (seat changed) := by
  funext other
  simp only [network]
  by_cases own : other = slot
  · rw [own, Function.update_self, Function.update_self]
  · rw [Function.update_of_ne own, Function.update_of_ne own]
    rfl

theorem home_found {driver : Driver} {request : NxIpDriver} {slot : Slot}
    (found : findInstance driver.table request.ipPtr request.interfacePtr = some slot) :
    Home (network driver) (pairOf request) slot (stationOf (driver.table slot)) := by
  rcases findInstance_first.mp found with ⟨⟨used, ip, interface⟩, first⟩
  constructor
  · exact seat_used used
  · exact Prod.ext ip interface
  · intro earlier below other seated same
    rcases seat_some seated with ⟨usedEarlier, rfl⟩
    exact first earlier below
      ⟨usedEarlier, congrArg Prod.fst same, congrArg Prod.snd same⟩

theorem home_unfound {driver : Driver} {request : NxIpDriver}
    (unfound : findInstance driver.table request.ipPtr request.interfacePtr = none)
    (place : Slot) (station : Station Owner MacAddress) :
    ¬ Home (network driver) (pairOf request) place station := by
  intro home
  rcases seat_some home.here with ⟨used, rfl⟩
  exact findInstance_none.mp unfound place
    ⟨used, congrArg Prod.fst home.own, congrArg Prod.snd home.own⟩

theorem search_first {size : Nat} {matched : Fin size → Bool} {place : Fin size}
    (found : (List.finRange size).find? matched = some place) :
    matched place = true ∧ ∀ earlier < place, matched earlier = false := by
  rcases List.find?_eq_some_iff_getElem.mp found with ⟨here, index, bound, same, before⟩
  refine ⟨here, fun earlier below => ?_⟩
  rw [List.getElem_finRange] at same
  rw [← same] at below
  have missed := before earlier.val below
  rw [List.getElem_finRange] at missed
  simpa using missed

theorem available_least {driver : Driver} {slot : Slot}
    (found : findAvailable driver.table = some slot) :
    IsLeast {place | network driver place = none} slot := by
  have empty : ∀ place, network driver place = none ↔ (driver.table place).inUse = 0 := by
    intro place
    simp [network, seat]
  constructor
  · exact (empty slot).mpr (findAvailable_unused found)
  · intro place free
    by_contra earlier
    have used := (search_first found).2 place (not_le.mp earlier)
    simp [(empty place).mp free] at used

theorem available_none {driver : Driver} (unfound : findAvailable driver.table = none)
    (place : Slot) : network driver place ≠ none := by
  have used := List.find?_eq_none.mp unfound place (List.mem_finRange place)
  rw [decide_eq_true_eq] at used
  rw [network, seat_used used]
  exact Option.some_ne_none _

theorem interface_first {driver : Driver} {interfacePtr : Nat} {slot : Slot}
    (found : findInterface driver.table interfacePtr = some slot) :
    ∀ earlier < slot, ∀ other, network driver earlier = some other →
      other.owner.2 ≠ interfacePtr := by
  intro earlier below other seated
  rcases seat_some seated with ⟨_, rfl⟩
  have missed := (search_first found).2 earlier below
  exact of_decide_eq_false missed

theorem held_zero : held DriverInstance.zero = 0 := by
  decide

/-! ### Groups -/

theorem held_setMcast (driver : DriverInstance) (index : Fin 3) (address : MacAddress) :
    held (setMcast index address driver) =
      contents freeAddress (Function.update driver.mcastAddress index address) := rfl

theorem seat_setMcast {driver : DriverInstance} (used : driver.inUse ≠ 0) (index : Fin 3)
    (address : MacAddress) :
    seat (setMcast index address driver) =
      some { stationOf driver with groups := held (setMcast index address driver) } :=
  if_neg used

theorem room_held (driver : DriverInstance) :
    (held driver).card < medium.capacity ↔ ∃ index, driver.mcastAddress index = freeAddress :=
  card_contents_lt

theorem enter_found {driver : DriverInstance} {index : Fin 3} (address : MacAddress)
    (free : findMcast driver freeAddress = some index) :
    medium.enter address (held driver) = some (held (setMcast index address driver)) := by
  have vacant := findMcast_found free
  rw [Medium.enter, held_setMcast]
  by_cases nobody : address = medium.nobody
  · rw [if_pos nobody, if_pos ((room_held driver).mpr ⟨index, vacant⟩), nobody]
    change some (held driver) = some (contents freeAddress (Function.update _ index freeAddress))
    rw [← vacant, Function.update_eq_self, vacant]
    rfl
  · rw [if_neg nobody]
    exact add_vacant vacant nobody

theorem enter_unfound {driver : DriverInstance} (address : MacAddress)
    (full : findMcast driver freeAddress = none) :
    medium.enter address (held driver) = none := by
  have occupied := findMcast_none full
  rw [Medium.enter]
  by_cases nobody : address = medium.nobody
  · rw [if_pos nobody]
    apply if_neg
    intro room
    rcases (room_held driver).mp room with ⟨index, vacant⟩
    exact occupied index vacant
  · rw [if_neg nobody]
    exact add_full occupied

theorem quit_found {driver : DriverInstance} {index : Fin 3} {address : MacAddress}
    (found : findMcast driver address = some index) :
    medium.quit address (held driver) = some (held (setMcast index freeAddress driver)) := by
  have entry := findMcast_found found
  rw [Medium.quit, held_setMcast]
  by_cases nobody : address = medium.nobody
  · have vacant : driver.mcastAddress index = freeAddress := entry.trans nobody
    rw [if_pos nobody, if_pos ((room_held driver).mpr ⟨index, vacant⟩)]
    rw [← vacant, Function.update_eq_self, vacant]
    rfl
  · rw [if_neg nobody]
    exact remove_found entry nobody

theorem quit_unfound {driver : DriverInstance} {address : MacAddress}
    (absent : findMcast driver address = none) : medium.quit address (held driver) = none := by
  have missed := findMcast_none absent
  rw [Medium.quit]
  by_cases nobody : address = medium.nobody
  · rw [if_pos nobody]
    apply if_neg
    intro room
    rcases (room_held driver).mp room with ⟨index, vacant⟩
    exact missed index (vacant.trans nobody.symm)
  · rw [if_neg nobody]
    exact remove_absent missed

/-! ### Frames -/

theorem frame_handed {submission : Submission} {driver : Driver} {number : Nat} {slot : Slot}
    {copy : NxPacket} (faithful : CopiesFaithful submission.netx)
    (room : submission.request.packet.length.toNat + ethernetSize < 2 ^ 32)
    (send : sending submission.request.command = true)
    (made : submission.netx.packetCopy number (driver.table slot).ipPtr
      (submission.frame driver) = some copy) :
    deliveryOf (nxNvnetNetworkDriverReceive driver.table (driver.table slot).ipPtr copy slot
        number) =
      some ⟨slot, (stationOf (driver.table slot)).owner,
        ⟨entryFor submission.request.command, bytes submission.request.packet⟩⟩ := by
  rcases faithful _ _ _ _ made with ⟨length, same⟩
  have frameLength : (submission.frame driver).length.toNat =
      submission.request.packet.length.toNat + ethernetSize := header_length _ _ room
  have type : packetType copy = (etherType submission.request).setWidth 32 := by
    have first := same 12 (by rw [frameLength, ethernetSize]; omega)
    have second := same 13 (by rw [frameLength, ethernetSize]; omega)
    rw [packetType, first, second]
    exact header_type _ _
  have payload : bytes (handedOver driver.table slot copy) = bytes submission.request.packet := by
    have shorter : (handedOver driver.table slot copy).length =
        submission.request.packet.length := by
      change copy.length - BitVec.ofNat 32 ethernetSize = _
      rw [length]
      exact BitVec.add_sub_cancel _ _
    rw [bytes, bytes, shorter]
    apply List.map_congr_left
    intro place inside
    have below := List.mem_range.mp inside
    rw [handedOver_byte, same (ethernetSize + place) (by omega)]
    exact header_payload _ _ place
  rw [receive_entry send type, deliveryOf, payload]
  rfl

def deliveryTo (table : DriverTable) (frame : Frame) (slot : Slot) : Delivery 4 Owner Frame where
  place := slot
  owner := (stationOf (table slot)).owner
  frame := frame

theorem copies_delivered {netx : NetX} {table : DriverTable} {packet : NxPacket} {frame : Frame}
    (handed : ∀ number slot copy, netx.packetCopy number (table slot).ipPtr packet = some copy →
      deliveryOf (nxNvnetNetworkDriverReceive table (table slot).ipPtr copy slot number) =
        some (deliveryTo table frame slot))
    (copies : Nat) (slots : List Slot) :
    (copyEvents netx table packet copies slots).filterMap deliveryOf <+:
        slots.map (deliveryTo table frame) ∧
      (CopiesSucceed netx →
        (copyEvents netx table packet copies slots).filterMap deliveryOf =
          slots.map (deliveryTo table frame)) := by
  induction slots generalizing copies with
  | nil => exact ⟨List.prefix_rfl, fun _ => rfl⟩
  | cons slot rest ih =>
      unfold copyEvents
      cases made : netx.packetCopy copies (table slot).ipPtr packet with
      | none =>
          refine ⟨List.nil_prefix, fun succeed => ?_⟩
          have copied := succeed copies (table slot).ipPtr packet
          rw [made] at copied
          cases copied
      | some copy =>
          have first := handed copies slot copy made
          rcases ih (copies + 1) with ⟨heard, whole⟩
          simp only
          rw [List.filterMap_cons_none rfl, List.filterMap_cons_some first, List.map_cons]
          constructor
          · exact (List.prefix_cons_inj _).mpr heard
          · exact fun succeed => congrArg (List.cons _) (whole succeed)

theorem acceptsDirectly_iff (driver : DriverInstance) (destination : MacAddress) :
    acceptsDirectly driver destination ↔
      destination = (stationOf driver).address ∨ destination ∈ medium.common := by
  have broadcast := address_matches ⟨0x0000FFFF, 0xFFFFFFFF⟩ destination
  have own := address_matches driver.macAddress destination
  have zero := address_matches freeAddress destination
  constructor
  · intro direct
    rcases direct with all | mine | multicast | none
    · exact Or.inr (Or.inl (broadcast.mp all).symm)
    · exact Or.inl (own.mp mine).symm
    · exact Or.inr (Or.inr (Or.inl multicast))
    · exact Or.inr (Or.inr (Or.inr (zero.mp none).symm))
  · intro heard
    rcases heard with mine | all | multicast | none
    · exact Or.inr (Or.inl (own.mpr mine.symm))
    · exact Or.inl (broadcast.mpr all.symm)
    · exact Or.inr (Or.inr (Or.inl multicast))
    · exact Or.inr (Or.inr (Or.inr (zero.mpr none.symm)))

theorem count_held {driver : DriverInstance} {destination : MacAddress}
    (occupied : destination ≠ freeAddress) :
    (held driver).count destination =
      ((List.finRange 3).filter fun index => driver.mcastAddress index = destination).length := by
  rw [held, contents, Multiset.count_filter, if_pos occupied, Multiset.count_map]
  simp only [eq_comm (a := destination)]
  rfl

theorem copiesFor_station (driver : DriverInstance) (destination : MacAddress) :
    copiesFor driver destination = medium.copies (stationOf driver) destination := by
  rw [copiesFor, Medium.copies]
  by_cases direct : acceptsDirectly driver destination
  · rw [if_pos direct, if_pos ((acceptsDirectly_iff driver destination).mp direct)]
  · have heard := (acceptsDirectly_iff driver destination).not.mp direct
    have occupied : destination ≠ freeAddress :=
      fun none => heard (Or.inr (Or.inr (Or.inr none)))
    rw [if_neg direct, if_neg heard]
    exact (count_held occupied).symm

theorem recipients_audience (driver : Driver) (sender : Slot) (destination : MacAddress)
    (frame : Frame) :
    (recipients driver.table sender destination).map (deliveryTo driver.table frame) =
      medium.audience (network driver) sender destination frame := by
  rw [recipients, Medium.audience, List.map_flatMap]
  congr 1
  funext slot
  rw [slotRecipients]
  by_cases unused : (driver.table slot).inUse = 0
  · have empty : network driver slot = none := if_pos unused
    rw [if_pos (Or.inr unused), empty]
    rfl
  · have seated : network driver slot = some (stationOf (driver.table slot)) := seat_used unused
    rw [seated]
    by_cases own : slot = sender
    · rw [if_pos (Or.inl own)]
      simp only [if_pos own]
      rfl
    · rw [if_neg (not_or.mpr ⟨own, unused⟩), List.map_replicate, copiesFor_station]
      simp only [if_neg own]
      rfl

/-! ### One request -/

theorem reportOf_rewrite (netx : NetX) (driver : Driver) (slot : Slot)
    (change : DriverInstance → DriverInstance) :
    reportOf (rewrite netx driver slot change) = ⟨.accepted, []⟩ ∧
      network (rewrite netx driver slot change).driver =
        Function.update (network driver) slot (seat (change (driver.table slot))) :=
  ⟨rfl, network_update driver slot (change (driver.table slot))⟩

theorem attach_permitted {driver : Driver} {order : Order} (clean : Clean driver.table)
    (command : order.submission.request.command = .interfaceAttach) (slot : Slot) :
    medium.Transition (network driver) (requestOf order)
      (reportOf (processRequest order.submission.netx order.submission.request driver slot))
      (network (processRequest order.submission.netx order.submission.request driver
        slot).driver) := by
  have operation : operationOf order.submission = .attach := by
    simp only [operationOf, command]
  rw [requestOf, operation]
  cases available : findAvailable driver.table with
  | none =>
      simp only [processRequest, command, available]
      exact .crowded (available_none available)
  | some free =>
      simp only [processRequest, command, available]
      rcases reportOf_rewrite order.submission.netx driver free
        (attached free order.submission.request) with ⟨report, after⟩
      rw [report, after, clean free (findAvailable_unused available)]
      have newcomer : seat (attached free order.submission.request DriverInstance.zero) =
          some ⟨pairOf order.submission.request, slotAddress free, 0⟩ := by
        rw [seat_used (by simp [attached]), ← held_zero]
        rfl
      rw [newcomer]
      exact .attached (available_least available)

theorem send_permitted {driver : Driver} {order : Order} {slot : Slot}
    {station : Station Owner MacAddress}
    (home : Home (network driver) (pairOf order.submission.request) slot station)
    (send : sending order.submission.request.command = true) :
    medium.Transition (network driver)
      ⟨pairOf order.submission.request,
        .send (onWire (requestAddress order.submission.request))
          ⟨entryFor order.submission.request.command, bytes order.submission.request.packet⟩
          (CopiesSucceed order.submission.netx)⟩
      (reportOf (sendPacket order.submission.netx order.submission.request driver slot))
      (network (sendPacket order.submission.netx order.submission.request driver slot).driver) := by
  have destination : destinationAddress (order.submission.frame driver) =
      onWire (requestAddress order.submission.request) := header_destination _ _
  have deliveries :
      (sendPacket order.submission.netx order.submission.request driver slot).events.filterMap
          deliveryOf =
        (copyEvents order.submission.netx driver.table (order.submission.frame driver) 0
          (recipients driver.table slot
            (onWire (requestAddress order.submission.request)))).filterMap deliveryOf := by
    rw [sendPacket_events, List.filterMap_append, destination]
    exact List.append_nil _
  have handed : ∀ number place copy, order.submission.netx.packetCopy number
      (driver.table place).ipPtr (order.submission.frame driver) = some copy →
        deliveryOf (nxNvnetNetworkDriverReceive driver.table (driver.table place).ipPtr copy place
          number) = some (deliveryTo driver.table
            ⟨entryFor order.submission.request.command, bytes order.submission.request.packet⟩
            place) :=
    fun _ _ _ made => frame_handed order.faithful order.room send made
  have delivered := copies_delivered handed 0
    (recipients driver.table slot (onWire (requestAddress order.submission.request)))
  rw [recipients_audience, ← deliveries] at delivered
  exact .sent home delivered.1 delivered.2

theorem found_permitted {driver : Driver} {order : Order} {slot : Slot}
    (clean : Clean driver.table)
    (other : order.submission.request.command ≠ .interfaceAttach)
    (found : findInstance driver.table order.submission.request.ipPtr
      order.submission.request.interfacePtr = some slot) :
    medium.Transition (network driver) (requestOf order)
      (reportOf (processRequest order.submission.netx order.submission.request driver slot))
      (network (processRequest order.submission.netx order.submission.request driver
        slot).driver) := by
  have home := home_found found
  have used := (findInstance_holds found).1
  cases command : order.submission.request.command with
  | interfaceAttach => exact absurd command other
  | interfaceDetach =>
      simp only [requestOf, operationOf, processRequest, command]
      rw [(reportOf_rewrite _ _ _ _).1, (reportOf_rewrite _ _ _ _).2]
      exact .removed home
  | uninitializeLink =>
      simp only [requestOf, operationOf, processRequest, command]
      rw [(reportOf_rewrite _ _ _ _).1, (reportOf_rewrite _ _ _ _).2]
      exact .removed home
  | multicastJoin =>
      cases free : findMcast (driver.table slot) ⟨0, 0⟩ with
      | some index =>
          simp only [requestOf, operationOf, processRequest, command, free]
          rw [(reportOf_rewrite _ _ _ _).1, (reportOf_rewrite _ _ _ _).2, seat_setMcast used]
          exact .joined home (enter_found (requestAddress order.submission.request) free)
      | none =>
          simp only [requestOf, operationOf, processRequest, command, free]
          exact .full home (enter_unfound (requestAddress order.submission.request) free)
  | multicastLeave =>
      cases joined : findMcast (driver.table slot)
          (requestAddress order.submission.request) with
      | some index =>
          simp only [requestOf, operationOf, processRequest, command, joined]
          rw [(reportOf_rewrite _ _ _ _).1, (reportOf_rewrite _ _ _ _).2, seat_setMcast used]
          exact .left home (quit_found joined)
      | none =>
          simp only [requestOf, operationOf, processRequest, command, joined]
          exact .absent home (quit_unfound joined)
  | setPhysicalAddress =>
      cases second : findInterface driver.table order.submission.request.interfacePtr with
      | some target =>
          simp only [requestOf, operationOf, processRequest, command, second]
          rw [(reportOf_rewrite _ _ _ _).1, (reportOf_rewrite _ _ _ _).2]
          have usedTarget := findInterface_used clean order.given second
          rw [seat_readdressed usedTarget]
          exact .readdressed home (seat_used usedTarget) (findInterface_found second)
            (interface_first second)
      | none =>
          have missed := List.find?_eq_none.mp second slot (List.mem_finRange slot)
          rw [decide_eq_true_eq] at missed
          exact absurd (findInstance_holds found).2.2 missed
  | packetSend | packetBroadcast | arpSend | arpResponseSend | rarpSend =>
      have permitted := send_permitted home (by rw [command]; rfl)
      simp only [requestOf, operationOf, processRequest, command] at permitted ⊢
      exact permitted
  | other code =>
      simp only [requestOf, operationOf, processRequest, command]
      exact .unsupported home
  | _ =>
      simp only [requestOf, operationOf, processRequest, command]
      exact .inspected home

/-! ### Any sequence of requests -/

theorem answer_simulates :
    Simulates answer medium.Transition (fun driver => Clean driver.table) network requestOf
      reportOf := by
  intro driver order clean
  have answered : ∀ returned, order.submission.run driver = some returned →
      medium.Transition (network driver) (requestOf order) (reportOf returned)
        (network returned.driver) →
      ∃ answered, answer driver order = some answered ∧ Clean answered.2.table ∧
        medium.Transition (network driver) (requestOf order) (reportOf answered.1)
          (network answered.2) := by
    intro returned ran permitted
    refine ⟨(returned, returned.driver), ?_, ?_, permitted⟩
    · rw [answer, ran, Option.map_some]
    · apply step_clean clean
      rw [step, ran, Option.map_some]
  by_cases attach : order.submission.request.command = .interfaceAttach
  · exact answered _ (run_found order.given (if_pos attach)) (attach_permitted clean attach 0)
  · cases found : findInstance driver.table order.submission.request.ipPtr
        order.submission.request.interfacePtr with
    | some slot =>
        exact answered _ (run_instance order.given attach found)
          (found_permitted clean attach found)
    | none =>
        have unfound := (requestSlot_instance driver attach).trans found
        refine answered _ (run_unfound order.given unfound) (.unknown ?_ (home_unfound found))
        intro attaches
        apply attach
        revert attaches
        simp only [operationOf]
        cases order.submission.request.command <;> simp

/-- Over any sequence of requests the driver is a broadcast network: it answers
every request, and its answers, what it delivers and the stations it holds are
ones that the network permits. -/
theorem driver_refines_network (interfaces : Interfaces) (orders : List Order) :
    ∃ answers, trace answer (Driver.initial interfaces) orders = some answers ∧
      Permitted medium.Transition (fun _ => none) (orders.map requestOf)
        (answers.map fun answered => (reportOf answered.1, network answered.2)) :=
  simulates_trace answer_simulates (Driver.initial interfaces) orders fun _ _ => rfl

def plainOrder (command : LinkCommand) (ipPtr interfacePtr : Nat) (address : MacAddress)
    (given : interfacePtr ≠ 0) : Order where
  submission := plainRequest command ipPtr interfacePtr address
  given := given
  room := by
    show 0 + 14 < 2 ^ 32
    decide
  faithful := plain_faithful

def firstWords : List Order :=
  [plainOrder .interfaceAttach 1 1 ⟨0, 0⟩ (by decide),
    plainOrder .interfaceAttach 2 2 ⟨0, 0⟩ (by decide),
    plainOrder .packetSend 1 1 (slotAddress ⟨1, by decide⟩) (by decide)]

theorem firstWords_permitted :
    ∃ answers, trace answer (Driver.initial plainInterfaces) firstWords = some answers ∧
      Permitted medium.Transition (fun _ => none) (firstWords.map requestOf)
        (answers.map fun answered => (reportOf answered.1, network answered.2)) ∧
      (answers.map fun answered => (reportOf answered.1).outcome) =
        [.accepted, .accepted, .accepted] ∧
      (answers.map fun answered =>
          (reportOf answered.1).deliveries.map fun delivery =>
            (delivery.place, delivery.owner, delivery.frame)) =
        [[], [], [(1, (2, 2), ⟨.ip, []⟩)]] := by
  rcases driver_refines_network plainInterfaces firstWords with ⟨answers, ran, permitted⟩
  refine ⟨answers, ran, permitted, ?_⟩
  cases ran
  exact ⟨by decide, by decide⟩

end UsbxNxdk.NvnetNetwork
