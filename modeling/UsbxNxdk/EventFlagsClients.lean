import UsbxNxdk.EventFlagsSystem
import UsbxNxdk.Unwinding

/-! Threads that share an event flags group but use different flags of it. -/

namespace UsbxNxdk.EventFlagsClients

open EventFlags EventFlagsSystem Execution Unwinding

structure Division where
  mask : ULONG
  client : Nat → Bool

/-- The clients ask for flags inside the mask only; the other threads ask for
flags outside it, set none inside it and keep those inside it when they clear. -/
def Division.Respected (division : Division) : Action → Prop
  | .set thread flagsToSet setOption =>
      division.client thread = false →
        (setOption = txOr → flagsToSet &&& division.mask = 0) ∧
        (setOption = txAnd → flagsToSet &&& division.mask = division.mask)
  | .enter thread requestedFlags _ _ _ _ =>
      (division.client thread = true → requestedFlags &&& division.mask = requestedFlags) ∧
        (division.client thread = false → requestedFlags &&& division.mask = 0)
  | .pass _ _ => True

instance (division : Division) : DecidablePred division.Respected
  | .set _ _ _ => inferInstanceAs (Decidable (_ → _))
  | .enter _ _ _ _ _ _ => inferInstanceAs (Decidable (_ ∧ _))
  | .pass _ _ => .isTrue trivial

structure View where
  actualFlags : ULONG
  flagsSatisfied : ULONG
  waiting : Bool
  deriving DecidableEq, Repr

def Division.seen (division : Division) (system : System) : Action → Option View
  | .pass thread tickCount =>
      (system.calls thread).map fun call =>
        let pass := loopPass system.group call.requestedFlags call.getOption
        { actualFlags := pass.actualFlags &&& division.mask
          flagsSatisfied := pass.flagsSatisfied
          waiting := pass.flagsSatisfied = 0 ∧ tickCount < call.timeout }
  | _ => none

def Division.own (division : Division) (action : Action) : Bool := division.client action.thread

/-- The flags inside the mask and the calls of the clients are the same; every
call has kept to its side. -/
structure Division.Alike (division : Division) (system other : System) : Prop where
  flags : system.current &&& division.mask = other.current &&& division.mask
  calls : ∀ thread, division.client thread = true → system.calls thread = other.calls thread
  inside : ∀ thread call, division.client thread = true → system.calls thread = some call →
    call.requestedFlags &&& division.mask = call.requestedFlags
  outside : ∀ thread call, division.client thread = false → system.calls thread = some call →
    call.requestedFlags &&& division.mask = 0

/-! ### Flags inside and outside a mask -/

section Masks

variable {mask first second flags : ULONG}

theorem masked_inside (same : first &&& mask = second &&& mask) (inside : flags &&& mask = flags) :
    first &&& flags = second &&& flags := by
  rw [← inside, BitVec.and_comm flags mask, ← BitVec.and_assoc, same, BitVec.and_assoc]

theorem masked_or (same : first &&& mask = second &&& mask) :
    (first ||| flags) &&& mask = (second ||| flags) &&& mask := by
  ext index bound
  have bit := congrArg (fun word => word.getLsbD index) same
  simp only [BitVec.getLsbD_and] at bit
  simp only [BitVec.getElem_and, BitVec.getElem_or]
  grind

theorem masked_and (same : first &&& mask = second &&& mask) :
    (first &&& flags) &&& mask = (second &&& flags) &&& mask := by
  rw [BitVec.and_assoc, BitVec.and_comm flags mask, ← BitVec.and_assoc, same, BitVec.and_assoc,
    BitVec.and_comm mask flags, ← BitVec.and_assoc]

theorem or_outside (outside : flags &&& mask = 0) : (first ||| flags) &&& mask = first &&& mask := by
  rw [BitVec.and_comm, BitVec.and_or_distrib_left, BitVec.and_comm mask flags, outside]
  simp [BitVec.and_comm]

theorem and_outside (outside : flags &&& mask = mask) :
    (first &&& flags) &&& mask = first &&& mask := by
  rw [BitVec.and_assoc, outside]

theorem clear_outside (outside : flags &&& mask = 0) :
    (first &&& ~~~flags) &&& mask = first &&& mask := by
  ext index bound
  have bit := congrArg (fun word => word.getLsbD index) outside
  simp only [BitVec.getLsbD_and] at bit
  simp only [BitVec.getElem_and, BitVec.getElem_not]
  grind

end Masks

/-! ### One critical section -/

section Sections

variable {mask requestedFlags : ULONG} {first second : TxEventFlagsGroup}

theorem satisfied_inside (getOption : UINT)
    (same : first.txEventFlagsGroupCurrent &&& mask = second.txEventFlagsGroupCurrent &&& mask)
    (inside : requestedFlags &&& mask = requestedFlags) :
    (loopPass first requestedFlags getOption).flagsSatisfied =
      (loopPass second requestedFlags getOption).flagsSatisfied := by
  simp only [loopPass, masked_inside same inside]

theorem pass_inside (getOption : UINT)
    (same : first.txEventFlagsGroupCurrent &&& mask = second.txEventFlagsGroupCurrent &&& mask)
    (inside : requestedFlags &&& mask = requestedFlags) :
    (loopPass first requestedFlags getOption).group.txEventFlagsGroupCurrent &&& mask =
      (loopPass second requestedFlags getOption).group.txEventFlagsGroupCurrent &&& mask := by
  have decided : Satisfied getOption requestedFlags first.txEventFlagsGroupCurrent ↔
      Satisfied getOption requestedFlags second.txEventFlagsGroupCurrent := by
    rw [← loopPass_satisfied, ← loopPass_satisfied, satisfied_inside getOption same inside]
  rw [loopPass_current, loopPass_current]
  simp only [decided]
  split
  · exact masked_and same
  · exact same

theorem pass_outside (getOption : UINT) (group : TxEventFlagsGroup)
    (outside : requestedFlags &&& mask = 0) :
    (loopPass group requestedFlags getOption).group.txEventFlagsGroupCurrent &&& mask =
      group.txEventFlagsGroupCurrent &&& mask := by
  rw [loopPass_current]
  split
  · exact clear_outside outside
  · rfl

theorem set_inside (flagsToSet : ULONG) (setOption : UINT)
    (same : first.txEventFlagsGroupCurrent &&& mask = second.txEventFlagsGroupCurrent &&& mask) :
    (txEventFlagsSet first flagsToSet setOption).2.txEventFlagsGroupCurrent &&& mask =
      (txEventFlagsSet second flagsToSet setOption).2.txEventFlagsGroupCurrent &&& mask := by
  rw [txEventFlagsSet_current, txEventFlagsSet_current]
  split
  · exact masked_or same
  · split
    · exact masked_and same
    · exact same

theorem set_outside {flagsToSet : ULONG} {setOption : UINT} (group : TxEventFlagsGroup)
    (sets : setOption = txOr → flagsToSet &&& mask = 0)
    (keeps : setOption = txAnd → flagsToSet &&& mask = mask) :
    (txEventFlagsSet group flagsToSet setOption).2.txEventFlagsGroupCurrent &&& mask =
      group.txEventFlagsGroupCurrent &&& mask := by
  rw [txEventFlagsSet_current]
  split
  · next option => exact or_outside (sets option)
  · split
    · next option => exact and_outside (keeps option)
    · rfl

end Sections

/-! ### One step -/

section Steps

variable {division : Division} {system other next : System} {thread : Nat}

theorem alike_group (alike : division.Alike system other) {group : TxEventFlagsGroup}
    {otherGroup : TxEventFlagsGroup}
    (flags : group.txEventFlagsGroupCurrent &&& division.mask =
      otherGroup.txEventFlagsGroupCurrent &&& division.mask) :
    division.Alike { system with group := group } { other with group := otherGroup } :=
  ⟨flags, alike.calls, alike.inside, alike.outside⟩

theorem alike_calls (alike : division.Alike system other) (call : Option GetCall)
    (inside : ∀ entered, call = some entered → division.client thread = true →
      entered.requestedFlags &&& division.mask = entered.requestedFlags)
    (outside : ∀ entered, call = some entered → division.client thread = false →
      entered.requestedFlags &&& division.mask = 0) :
    division.Alike { system with calls := Function.update system.calls thread call }
      { other with calls := Function.update other.calls thread call } := by
  constructor
  · exact alike.flags
  · intro caller client
    simp only
    by_cases own : caller = thread
    · rw [own, Function.update_self, Function.update_self]
    · rw [Function.update_of_ne own, Function.update_of_ne own]
      exact alike.calls caller client
  · intro caller entered client present
    simp only at present
    by_cases own : caller = thread
    · subst own
      rw [Function.update_self] at present
      exact inside entered present client
    · rw [Function.update_of_ne own] at present
      exact alike.inside caller entered client present
  · intro caller entered client present
    simp only at present
    by_cases own : caller = thread
    · subst own
      rw [Function.update_self] at present
      exact outside entered present client
    · rw [Function.update_of_ne own] at present
      exact alike.outside caller entered client present

theorem alike_foreign (alike : division.Alike system other)
    (foreign : division.client thread = false) (call : Option GetCall)
    (outside : ∀ entered, call = some entered →
      entered.requestedFlags &&& division.mask = 0) :
    division.Alike { system with calls := Function.update system.calls thread call } other := by
  have apart : ∀ caller, division.client caller = true → caller ≠ thread := by
    intro caller client own
    rw [own, foreign] at client
    cases client
  constructor
  · exact alike.flags
  · intro caller client
    simp only
    rw [Function.update_of_ne (apart caller client)]
    exact alike.calls caller client
  · intro caller entered client present
    simp only at present
    rw [Function.update_of_ne (apart caller client)] at present
    exact alike.inside caller entered client present
  · intro caller entered client present
    simp only at present
    by_cases own : caller = thread
    · subst own
      rw [Function.update_self] at present
      exact outside entered present
    · rw [Function.update_of_ne own] at present
      exact alike.outside caller entered client present

end Steps

theorem owned_step (division : Division) {system other next : System} {action : Action}
    (alike : division.Alike system other) (respected : division.Respected action)
    (own : division.own action = true) (stepped : step system action = some next) :
    division.seen system action = division.seen other action ∧
      ∃ follows, step other action = some follows ∧ division.Alike next follows := by
  cases action with
  | set thread flagsToSet setOption =>
      have same := alike.calls thread own
      simp only [step, Option.ite_none_right_eq_some, Option.some.injEq] at stepped
      rcases stepped with ⟨idle, rfl⟩
      refine ⟨rfl, { other with group := (txEventFlagsSet other.group flagsToSet setOption).2 },
        ?_, ?_⟩
      · exact if_pos (same ▸ idle)
      · exact alike_group alike (set_inside flagsToSet setOption alike.flags)
  | enter thread requestedFlags getOption waitOption stackTimeout tickCount =>
      have same := alike.calls thread own
      have client : division.client thread = true := own
      simp only [step, Option.ite_none_right_eq_some] at stepped
      rcases stepped with ⟨idle, entered⟩
      rcases Option.map_eq_some_iff.mp entered with ⟨timeout, read, rfl⟩
      refine ⟨rfl, { other with
        calls := Function.update other.calls thread
          (some ⟨requestedFlags, getOption, timeout.1⟩) }, ?_, ?_⟩
      · simp only [step, if_pos (same ▸ idle), read, Option.map_some]
      · apply alike_calls alike
        · intro call equal _
          cases equal
          exact respected.1 client
        · intro call equal foreign
          rw [client] at foreign
          cases foreign
  | pass thread tickCount =>
      have same := alike.calls thread own
      rcases Option.map_eq_some_iff.mp stepped with ⟨call, present, rfl⟩
      have inside := alike.inside thread call own present
      have satisfied := satisfied_inside call.getOption alike.flags inside
      have after := alike_group alike (pass_inside call.getOption alike.flags inside)
      constructor
      · simp only [Division.seen, ← same, present, Option.map_some, satisfied]
        congr 2
        exact alike.flags
      · refine ⟨passStep other thread call tickCount, ?_, ?_⟩
        · simp only [step, ← same, present, Option.map_some]
        · simp only [passStep, satisfied]
          split
          · exact after
          · apply alike_calls after
            · intro entered equal
              cases equal
            · intro entered equal
              cases equal

theorem foreign_step (division : Division) {system other next : System} {action : Action}
    (alike : division.Alike system other) (respected : division.Respected action)
    (foreign : division.own action = false) (stepped : step system action = some next) :
    division.Alike next other := by
  cases action with
  | set thread flagsToSet setOption =>
      rcases respected foreign with ⟨sets, keeps⟩
      rw [set_some stepped]
      exact alike_group alike ((set_outside system.group sets keeps).trans alike.flags)
  | enter thread requestedFlags getOption waitOption stackTimeout tickCount =>
      simp only [step, Option.ite_none_right_eq_some] at stepped
      rcases stepped with ⟨_, entered⟩
      rcases Option.map_eq_some_iff.mp entered with ⟨timeout, _, rfl⟩
      apply alike_foreign alike foreign
      intro call equal
      cases equal
      exact respected.2 foreign
  | pass thread tickCount =>
      rcases Option.map_eq_some_iff.mp stepped with ⟨call, present, rfl⟩
      have outside := alike.outside thread call foreign present
      have kept := pass_outside call.getOption system.group outside
      have after := alike_group alike (kept.trans alike.flags)
      simp only [passStep]
      split
      · exact after
      · apply alike_foreign after foreign
        intro entered equal
        cases equal

/-! ### Any run -/

theorem clients_unwind (division : Division) :
    Unwinds step division.own division.Respected division.seen division.Alike where
  owned := fun _ _ _ _ alike respected own stepped =>
    owned_step division alike respected own stepped
  foreign := fun _ _ _ _ alike respected foreign stepped =>
    foreign_step division alike respected foreign stepped

theorem created_alike (division : Division) (name : Option String) :
    division.Alike (created name) (created name) where
  flags := rfl
  calls := fun _ _ => rfl
  inside := by
    intro thread call _ present
    cases present
  outside := by
    intro thread call _ present
    cases present

/-- Whatever the other threads do with the other flags, and whenever: each pass
of the clients' loops finds and does to their flags what it would without them,
and the clients are inside the same calls in the end. -/
theorem clients_undisturbed (division : Division) (name : Option String) (schedule : List Action)
    (system : System) (respected : ∀ action ∈ schedule, division.Respected action)
    (executed : run step (created name) schedule = some system) :
    (∃ alone, run step (created name) (schedule.filter division.own) = some alone ∧
      system.current &&& division.mask = alone.current &&& division.mask ∧
      ∀ thread, division.client thread = true → system.calls thread = alone.calls thread) ∧
    observations step division.own division.seen (created name) schedule =
      observations step division.own division.seen (created name)
        (schedule.filter division.own) := by
  rcases unwinds_run (clients_unwind division) (created_alike division name) respected executed
    with ⟨⟨alone, executedAlone, alike⟩, shown⟩
  exact ⟨⟨alone, executedAlone, alike.flags, alike.calls⟩, shown⟩

def lowest : Division where
  mask := 1
  client := fun thread => thread = 1 ∨ thread = 4

def handOver : List Action :=
  [.enter 1 1 3 txWaitForever 0 0, .enter 2 6 1 txWaitForever 0 0, .pass 1 9, .set 3 4 txOr,
    .pass 2 10, .pass 1 10, .set 4 3 txOr, .set 3 1 txAnd, .pass 1 11]

theorem handOver_undisturbed :
    ∃ system, run step (created none) handOver = some system ∧
      (∃ alone, run step (created none) (handOver.filter lowest.own) = some alone ∧
        system.current &&& lowest.mask = alone.current &&& lowest.mask ∧
        ∀ thread, lowest.client thread = true → system.calls thread = alone.calls thread) ∧
      observations step lowest.own lowest.seen (created none) handOver =
        observations step lowest.own lowest.seen (created none) (handOver.filter lowest.own) :=
  ⟨_, rfl, clients_undisturbed lowest none handOver _ (by decide) rfl⟩

end UsbxNxdk.EventFlagsClients
