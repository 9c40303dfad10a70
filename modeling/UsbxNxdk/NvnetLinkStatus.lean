import UsbxNxdk.NvnetInstances

/-! The link status that the driver reports: the commands that set it go through
the request's interface, the one that reads it through the IP instance. -/

namespace UsbxNxdk.NvnetLinkStatus

open Execution NxApi NvnetDriver NvnetTransmit NvnetInstances

/-- `last` is a history variable: the link state of the last `NX_LINK_ENABLE` or
`NX_LINK_DISABLE` handled for each interface. -/
structure Observed where
  driver : Driver
  last : Nat → Option UINT

def linkAsked : LinkCommand → Option UINT
  | .enable => some nxTrue
  | .disable => some nxFalse
  | _ => none

def linkChange (request : NxIpDriver) (status : NxStatus) (interfacePtr : Nat) : Option UINT :=
  if status = .success ∧ interfacePtr = request.interfacePtr then linkAsked request.command
  else none

def observedStep (observed : Observed) (submission : Submission) : Option Observed :=
  (submission.run observed.driver).map fun returned =>
    { driver := returned.driver
      last := fun interfacePtr =>
        (linkChange submission.request returned.status interfacePtr).or
          (observed.last interfacePtr) }

def Observed.initial (interfaces : Interfaces) : Observed :=
  { driver := Driver.initial interfaces
    last := fun _ => none }

def Reports (observed : Observed) (submission : Submission) : Prop :=
  submission.request.command = .getStatus →
    ∀ returned, submission.run observed.driver = some returned → returned.status = .success →
      ∀ up, observed.last submission.request.interfacePtr = some up →
        returned.returnValue = some (.word up)

/-- When a status is asked of an attached interface, the first interface of its
IP instance has the same link state, by the last command handled for that one or
else from the start. -/
def FirstAgrees (interfaces : Interfaces) (observed : Observed) (submission : Submission) : Prop :=
  submission.request.command = .getStatus →
    ¬ Absent observed.driver.table (pairOf submission.request) →
      ∀ up, observed.last submission.request.interfacePtr = some up →
        let first := submission.netx.ipInterface submission.request.ipPtr 0
        (observed.last first).getD (interfaces first).linkUp = up

/-- The calls with which the driver configures an interface do not concern its
link state. -/
structure KeepsLink (netx : NetX) : Prop where
  mtuSet : ∀ ipPtr index mtu interfaces interfacePtr,
    (netx.interfaceMtuSet ipPtr index mtu interfaces interfacePtr).linkUp =
      (interfaces interfacePtr).linkUp
  physicalAddressSet : ∀ ipPtr index msw lsw update interfaces interfacePtr,
    (netx.interfacePhysicalAddressSet ipPtr index msw lsw update interfaces
      interfacePtr).linkUp = (interfaces interfacePtr).linkUp
  addressMapping : ∀ ipPtr index mapping interfaces interfacePtr,
    (netx.interfaceAddressMappingConfigure ipPtr index mapping interfaces
      interfacePtr).linkUp = (interfaces interfacePtr).linkUp

/-! ### What a request does to the link states -/

section Requests

variable {netx : NetX} {request : NxIpDriver} {driver : Driver} {slot : Slot}

theorem setLink_links (up : UINT) (interfacePtr : Nat) :
    ((setLink netx request driver up).driver.interfaces interfacePtr).linkUp =
      if interfacePtr = request.interfacePtr then up
      else (driver.interfaces interfacePtr).linkUp := by
  by_cases own : interfacePtr = request.interfacePtr
  · rw [if_pos own, own]
    simp only [setLink, withInterfaces, report, Function.update_self]
  · rw [if_neg own]
    simp only [setLink, withInterfaces, report, Function.update_of_ne own]

theorem initialize_links (keeps : KeepsLink netx) (interfacePtr : Nat) :
    ((initializeInterface netx request driver slot).driver.interfaces interfacePtr).linkUp =
      (driver.interfaces interfacePtr).linkUp := by
  simp only [initializeInterface, withInterfaces, report, keeps.addressMapping,
    keeps.physicalAddressSet, keeps.mtuSet]

theorem process_asked {up : UINT} (asked : linkAsked request.command = some up) :
    processRequest netx request driver slot = setLink netx request driver up := by
  unfold processRequest
  cases command : request.command <;> rw [command] at asked <;> cases asked <;> rfl

theorem process_unasked_links (keeps : KeepsLink netx)
    (unasked : linkAsked request.command = none) (interfacePtr : Nat) :
    ((processRequest netx request driver slot).driver.interfaces interfacePtr).linkUp =
      (driver.interfaces interfacePtr).linkUp := by
  unfold processRequest
  cases command : request.command with
  | enable =>
      rw [command] at unasked
      cases unasked
  | disable =>
      rw [command] at unasked
      cases unasked
  | initializeLink => exact initialize_links keeps interfacePtr
  | _ => first | rfl | (dsimp only; split <;> rfl)

theorem process_links (keeps : KeepsLink netx) (interfacePtr : Nat) :
    ((processRequest netx request driver slot).driver.interfaces interfacePtr).linkUp =
      (linkChange request (processRequest netx request driver slot).status interfacePtr).getD
        (driver.interfaces interfacePtr).linkUp := by
  cases asked : linkAsked request.command with
  | none =>
      rw [process_unasked_links keeps asked, linkChange, asked, ite_self]
      rfl
  | some up =>
      have handled : (setLink netx request driver up).status = .success := rfl
      rw [process_asked asked, setLink_links, linkChange, handled, asked]
      by_cases own : interfacePtr = request.interfacePtr <;> simp [own]

end Requests

theorem run_links {submission : Submission} {driver : Driver} {returned : Returned}
    (keeps : KeepsLink submission.netx) (ran : submission.run driver = some returned)
    (interfacePtr : Nat) :
    (returned.driver.interfaces interfacePtr).linkUp =
      (linkChange submission.request returned.status interfacePtr).getD
        (driver.interfaces interfacePtr).linkUp := by
  rcases run_cases ran with rfl | ⟨slot, _, rfl⟩
  · rfl
  · exact process_links keeps interfacePtr

/-! ### Any sequence of requests -/

def Recorded (interfaces : Interfaces) (observed : Observed) : Prop :=
  ∀ interfacePtr, (observed.driver.interfaces interfacePtr).linkUp =
    (observed.last interfacePtr).getD (interfaces interfacePtr).linkUp

theorem step_recorded (interfaces : Interfaces) (observed : Observed) (submission : Submission)
    (next : Observed) (recorded : Recorded interfaces observed)
    (keeps : KeepsLink submission.netx)
    (stepped : observedStep observed submission = some next) : Recorded interfaces next := by
  intro interfacePtr
  rcases Option.map_eq_some_iff.mp stepped with ⟨returned, ran, rfl⟩
  calc
    (returned.driver.interfaces interfacePtr).linkUp
      = (linkChange submission.request returned.status interfacePtr).getD
          (observed.driver.interfaces interfacePtr).linkUp := run_links keeps ran interfacePtr
    _ = (linkChange submission.request returned.status interfacePtr).getD
          ((observed.last interfacePtr).getD (interfaces interfacePtr).linkUp) := by
        rw [recorded interfacePtr]
    _ = ((linkChange submission.request returned.status interfacePtr).or
          (observed.last interfacePtr)).getD (interfaces interfacePtr).linkUp := by
        cases linkChange submission.request returned.status interfacePtr <;> rfl

theorem status_read {observed : Observed} {submission : Submission}
    (given : submission.request.interfacePtr ≠ 0)
    (command : submission.request.command = .getStatus)
    (present : ¬ Absent observed.driver.table (pairOf submission.request)) :
    submission.run observed.driver =
      some (report submission.netx observed.driver .success
        (some (.word (observed.driver.interfaces
          (submission.netx.ipInterface submission.request.ipPtr 0)).linkUp))) := by
  have other : submission.request.command ≠ .interfaceAttach := by
    rw [command]
    decide
  rcases present_found present with ⟨slot, found⟩
  rw [run_instance given other found, processRequest, command]

theorem reports_iff {interfaces : Interfaces} {observed : Observed} {submission : Submission}
    (given : submission.request.interfacePtr ≠ 0) (recorded : Recorded interfaces observed) :
    Reports observed submission ↔ FirstAgrees interfaces observed submission := by
  constructor
  · intro reports command present up last
    have returned := reports command _ (status_read given command present) rfl up last
    have read := ReturnValue.word.inj (Option.some.inj returned)
    exact (recorded _).symm.trans read
  · intro agrees command returned ran handled up last
    have present : ¬ Absent observed.driver.table (pairOf submission.request) := by
      intro absent
      rw [run_absent given (by rw [command]; decide) absent] at ran
      cases ran
      cases handled
    rw [status_read given command present] at ran
    cases ran
    have same := (recorded _).trans (agrees command present up last)
    exact congrArg (fun word => some (ReturnValue.word word)) same

/-- Over any sequence of requests, the status of an interface is its own exactly
when the first interface of the IP instance has the same link state at every
status request. -/
theorem link_status_iff (interfaces : Interfaces) (schedule : List Submission)
    (keeps : ∀ submission ∈ schedule, KeepsLink submission.netx) :
    Along observedStep Reports (Observed.initial interfaces) schedule ↔
      Along observedStep (FirstAgrees interfaces) (Observed.initial interfaces) schedule := by
  apply along_iff_of_always
  · intro observed submission next recorded stepped
    rcases Option.map_eq_some_iff.mp stepped with ⟨returned, ran, _⟩
    exact reports_iff (run_given ran) recorded
  · exact always_of_along observedStep (Recorded interfaces)
      (fun _ submission => KeepsLink submission.netx) (step_recorded interfaces) _ schedule
      (fun _ => rfl) (along_of_labels observedStep schedule keeps _)

theorem plain_keepsLink : KeepsLink plainNetX where
  mtuSet _ _ _ _ _ := rfl
  physicalAddressSet _ _ _ _ _ _ _ := rfl
  addressMapping _ _ _ _ _ := rfl

def secondEnabled : List Submission :=
  [plainRequest .interfaceAttach 10 10 ⟨0, 0⟩, plainRequest .interfaceAttach 10 11 ⟨0, 0⟩,
    plainRequest .enable 10 11 ⟨0, 0⟩, plainRequest .getStatus 10 11 ⟨0, 0⟩]

/-- The status is that of the first interface, which is down. -/
theorem second_interface_down :
    ¬ Along observedStep Reports (Observed.initial plainInterfaces) secondEnabled := by
  intro along
  have reports := ((((along _ rfl).2 _ rfl).2 _ rfl).2 _ rfl).1
  have returned := reports rfl _ rfl rfl nxTrue rfl
  exact absurd returned (by decide)

/-- The status of a first interface. -/
theorem first_interface_reported :
    Along observedStep Reports (Observed.initial plainInterfaces)
        [plainRequest .interfaceAttach 10 10 ⟨0, 0⟩, plainRequest .enable 10 10 ⟨0, 0⟩,
          plainRequest .getStatus 10 10 ⟨0, 0⟩] ↔
      Along observedStep (FirstAgrees plainInterfaces) (Observed.initial plainInterfaces)
        [plainRequest .interfaceAttach 10 10 ⟨0, 0⟩, plainRequest .enable 10 10 ⟨0, 0⟩,
          plainRequest .getStatus 10 10 ⟨0, 0⟩] := by
  apply link_status_iff
  intro submission member
  simp only [List.mem_cons, List.not_mem_nil, or_false] at member
  rcases member with rfl | rfl | rfl <;> exact plain_keepsLink

end UsbxNxdk.NvnetLinkStatus
