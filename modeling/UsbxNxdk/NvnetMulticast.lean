import UsbxNxdk.BoundedMultiset
import UsbxNxdk.NvnetInstances
import UsbxNxdk.Simulation

/-! The multicast tables of the driver as bounded multisets of addresses. -/

namespace UsbxNxdk.NvnetMulticast

open BoundedMultiset Execution NxApi NvnetDriver NvnetTransmit NvnetInstances Simulation

def maxMcastAddresses : Nat := 3

def freeAddress : MacAddress := ⟨0, 0⟩

/-- A request to join or to leave, for any interface and any address that does
not mark a free entry. -/
structure McastRequest where
  submission : Submission
  given : submission.request.interfacePtr ≠ 0
  multicast : submission.request.command = .multicastJoin ∨
    submission.request.command = .multicastLeave
  occupied : requestAddress submission.request ≠ freeAddress

namespace McastRequest

def pair (request : McastRequest) : Nat × Nat := pairOf request.submission.request

def address (request : McastRequest) : MacAddress := requestAddress request.submission.request

end McastRequest

def answer (driver : Driver) (request : McastRequest) : Option (NxStatus × Driver) :=
  (request.submission.run driver).map fun returned => (returned.status, returned.driver)

/-! ### The reference -/

/-- The instance that each pair of an IP instance and an interface belongs to,
and the addresses that each instance has joined. -/
structure Reference where
  owner : Nat × Nat → Option Slot
  joined : Slot → Multiset MacAddress

def Reference.store (reference : Reference) (slot : Slot) (refusal : NxStatus) :
    Option (Multiset MacAddress) → NxStatus × Reference
  | some changed =>
      (.success, { reference with joined := Function.update reference.joined slot changed })
  | none => (refusal, reference)

def Reference.answer (reference : Reference) (request : McastRequest) : NxStatus × Reference :=
  match reference.owner request.pair with
  | none => (.invalidInterface, reference)
  | some slot =>
      if request.submission.request.command = .multicastJoin then
        reference.store slot .noMoreEntries
          (add maxMcastAddresses request.address (reference.joined slot))
      else
        reference.store slot .entryNotFound (remove request.address (reference.joined slot))

def held (driver : DriverInstance) : Multiset MacAddress :=
  contents freeAddress driver.mcastAddress

def abstraction (driver : Driver) : Reference :=
  { owner := fun pair => findInstance driver.table pair.1 pair.2
    joined := fun slot => held (driver.table slot) }

/-- A request changes the instance it is for and no other, and when it is
refused it changes nothing. -/
def Confined (driver : Driver) (request : McastRequest) : Prop :=
  ∀ returned, request.submission.run driver = some returned →
    (∀ slot, (abstraction driver).owner request.pair ≠ some slot →
      returned.driver.table slot = driver.table slot) ∧
    (returned.status ≠ .success → returned.driver = driver)

/-! ### One request -/

section Requests

variable {driver : Driver} {request : McastRequest} {slot : Slot}

theorem other_command (request : McastRequest) :
    request.submission.request.command ≠ .interfaceAttach := by
  intro attaches
  rcases request.multicast with joins | leaves
  · rw [joins] at attaches
    cases attaches
  · rw [leaves] at attaches
    cases attaches

theorem run_owner (owned : (abstraction driver).owner request.pair = some slot) :
    request.submission.run driver =
      some (processRequest request.submission.netx request.submission.request driver slot) :=
  run_instance request.given (other_command request) owned

theorem run_unowned (unowned : (abstraction driver).owner request.pair = none) :
    request.submission.run driver =
      some (report request.submission.netx driver .invalidInterface none) :=
  run_unfound request.given
    ((requestSlot_instance driver (other_command request)).trans unowned)

theorem abstraction_setMcast (driver : Driver) (slot : Slot) (index : Fin 3)
    (address : MacAddress) :
    abstraction { driver with
        table := Function.update driver.table slot
          (setMcast index address (driver.table slot)) } =
      { abstraction driver with
        joined := Function.update (abstraction driver).joined slot
          (contents freeAddress
            (Function.update (driver.table slot).mcastAddress index address)) } := by
  have owner : ∀ pair : Nat × Nat,
      findInstance (Function.update driver.table slot
          (setMcast index address (driver.table slot))) pair.1 pair.2 =
        findInstance driver.table pair.1 pair.2 := by
    intro pair
    apply findInstance_congr
    intro other
    apply holds_kept <;> rfl
  simp only [abstraction, owner, Reference.mk.injEq, true_and]
  funext other
  by_cases own : other = slot
  · rw [own, Function.update_self, Function.update_self]
    rfl
  · rw [Function.update_of_ne own, Function.update_of_ne own]

inductive Handled (driver : Driver) (slot : Slot) (refusal : NxStatus) (returned : Returned) :
    Option (Multiset MacAddress) → Prop where
  | written (index : Fin 3) (address : MacAddress) (status : returned.status = .success)
      (after : returned.driver = { driver with
        table := Function.update driver.table slot
          (setMcast index address (driver.table slot)) }) :
      Handled driver slot refusal returned
        (some (contents freeAddress
          (Function.update (driver.table slot).mcastAddress index address)))
  | refused (status : returned.status = refusal) (after : returned.driver = driver) :
      Handled driver slot refusal returned none

theorem join_handled (joins : request.submission.request.command = .multicastJoin) :
    Handled driver slot .noMoreEntries
      (processRequest request.submission.netx request.submission.request driver slot)
      (add maxMcastAddresses request.address (held (driver.table slot))) := by
  rw [processRequest, joins]
  cases free : findMcast (driver.table slot) ⟨0, 0⟩ with
  | some index =>
      have added : add maxMcastAddresses request.address (held (driver.table slot)) = _ :=
        add_vacant (findMcast_found free) request.occupied
      rw [added]
      exact .written index request.address rfl rfl
  | none =>
      have full : add maxMcastAddresses request.address (held (driver.table slot)) = none :=
        add_full (findMcast_none free)
      rw [full]
      exact .refused rfl rfl

theorem leave_handled (leaves : request.submission.request.command = .multicastLeave) :
    Handled driver slot .entryNotFound
      (processRequest request.submission.netx request.submission.request driver slot)
      (remove request.address (held (driver.table slot))) := by
  rw [processRequest, leaves]
  cases joined : findMcast (driver.table slot) (requestAddress request.submission.request) with
  | some index =>
      have removed : remove request.address (held (driver.table slot)) = _ :=
        remove_found (findMcast_found joined) request.occupied
      rw [removed]
      exact .written index freeAddress rfl rfl
  | none =>
      have absent : remove request.address (held (driver.table slot)) = none :=
        remove_absent (findMcast_none joined)
      rw [absent]
      exact .refused rfl rfl

theorem handled_answer {refusal : NxStatus} {returned : Returned}
    {operation : Option (Multiset MacAddress)}
    (handled : Handled driver slot refusal returned operation) :
    (returned.status, abstraction returned.driver) =
      (abstraction driver).store slot refusal operation := by
  cases handled with
  | written index address status after => rw [status, after, abstraction_setMcast, Reference.store]
  | refused status after => rw [status, after, Reference.store]

theorem handled_confined {refusal : NxStatus} {returned : Returned}
    {operation : Option (Multiset MacAddress)}
    (handled : Handled driver slot refusal returned operation) :
    (∀ other ≠ slot, returned.driver.table other = driver.table other) ∧
      (returned.status ≠ .success → returned.driver = driver) := by
  cases handled with
  | written index address status after =>
      constructor
      · intro other apart
        rw [after]
        exact Function.update_of_ne apart _ _
      · exact fun failed => absurd status failed
  | refused status after =>
      constructor
      · intro other _
        rw [after]
      · exact fun _ => after

theorem run_handled (owned : (abstraction driver).owner request.pair = some slot) :
    ∃ returned refusal operation, request.submission.run driver = some returned ∧
      Handled driver slot refusal returned operation ∧
      (abstraction driver).answer request =
        (abstraction driver).store slot refusal operation := by
  rcases request.multicast with joins | leaves
  · refine ⟨_, _, _, run_owner owned, join_handled joins, ?_⟩
    simp only [Reference.answer, owned, if_pos joins]
    rfl
  · refine ⟨_, _, _, run_owner owned, leave_handled leaves, ?_⟩
    have other : request.submission.request.command ≠ .multicastJoin := by
      rw [leaves]
      decide
    simp only [Reference.answer, owned, if_neg other]
    rfl

end Requests

/-! ### Any sequence of requests -/

theorem abstraction_owner (driver : Driver) (pair : Nat × Nat) (slot : Slot) :
    (abstraction driver).owner pair = some slot ↔ FirstHolder driver.table pair slot :=
  findInstance_first

theorem answer_refines : Refines answer Reference.answer abstraction := by
  intro driver request
  cases owner : (abstraction driver).owner request.pair with
  | none =>
      refine ⟨(.invalidInterface, driver), ?_, ?_⟩
      · rw [answer, run_unowned owner]
        rfl
      · rw [Reference.answer, owner]
  | some slot =>
      rcases run_handled owner with ⟨returned, refusal, operation, ran, handled, same⟩
      refine ⟨(returned.status, returned.driver), ?_, ?_⟩
      · rw [answer, ran]
        rfl
      · rw [same]
        exact handled_answer handled

theorem request_confined (driver : Driver) (request : McastRequest) : Confined driver request := by
  intro returned ran
  cases owner : (abstraction driver).owner request.pair with
  | none =>
      rw [run_unowned owner] at ran
      cases ran
      exact ⟨fun _ _ => rfl, fun _ => rfl⟩
  | some slot =>
      rcases run_handled owner with ⟨other, refusal, operation, same, handled, _⟩
      rw [ran] at same
      cases same
      rcases handled_confined handled with ⟨frame, unchanged⟩
      exact ⟨fun place apart => frame place fun own => apart (own ▸ rfl), unchanged⟩

/-- Whatever is attached and wherever the free entries are: over any sequence of
joins and leaves the driver answers as the bounded multisets do, holds what they
hold, and changes no other instance than the one a request is for, the first one
that holds the pair. -/
theorem multicast_refines (driver : Driver) (requests : List McastRequest) :
    (trace answer driver requests).map
        (List.map fun answered => (answered.1, abstraction answered.2)) =
      some (replay Reference.answer (abstraction driver) requests) ∧
    Along (fun driver request => step driver request.submission) Confined driver requests ∧
    ∀ pair slot, (abstraction driver).owner pair = some slot ↔
      FirstHolder driver.table pair slot := by
  refine ⟨refines_trace answer_refines driver requests, ?_, abstraction_owner driver⟩
  apply along_of_steps
  exact fun driver request _ _ => request_confined driver request

def allHosts : MacAddress := ⟨0x0100, 0x5E000001⟩

def joinHosts : McastRequest where
  submission := plainRequest .multicastJoin 10 11 allHosts
  given := by decide
  multicast := .inl rfl
  occupied := by decide

def leaveHosts : McastRequest where
  submission := plainRequest .multicastLeave 10 11 allHosts
  given := by decide
  multicast := .inr rfl
  occupied := by decide

/-- The first of two leaves takes out what the join put in, the second one finds
nothing. -/
theorem joinLeave_answers :
    ∃ driver, run step (Driver.initial plainInterfaces)
        [plainRequest .interfaceAttach 10 11 ⟨0, 0⟩] = some driver ∧
      (trace answer driver [joinHosts, leaveHosts, leaveHosts]).map
          (List.map fun answered => (answered.1, (abstraction answered.2).joined 0)) =
        some [(.success, {allHosts}), (.success, 0), (.entryNotFound, 0)] := by
  refine ⟨_, rfl, ?_⟩
  have answers (driver : Driver) := congrArg
    (Option.map (List.map fun answered => (answered.1, answered.2.joined 0)))
    (multicast_refines driver [joinHosts, leaveHosts, leaveHosts]).1
  simp only [Option.map_map, List.map_comp_map] at answers
  exact (answers _).trans (by decide)

end UsbxNxdk.NvnetMulticast
