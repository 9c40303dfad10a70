import UsbxNxdk.EventFlagsWait

/-! The deadline of a timed `_tx_event_flags_get`, for every content of its
uninitialised local `timeout`. -/

namespace UsbxNxdk.EventFlagsDeadline

open EventFlags EventFlagsWait

/-- One timed wait and everything around it: `others` are the critical sections
that other threads run before each pass, `readings` what the successive calls of
`GetTickCount` return, and `startTick` the tick count when the call begins. -/
structure TimedWait where
  group : TxEventFlagsGroup
  requestedFlags : ULONG
  getOption : UINT
  waitOption : ULONG
  timed : waitOption ≠ txNoWait ∧ waitOption ≠ txWaitForever
  startTick : ULONG
  others : Nat → List Section
  readings : Nat → ULONG

namespace TimedWait

variable (wait : TimedWait)

def call (stackTimeout : ULONG) (passes : Nat) : Option GetOutcome :=
  txEventFlagsGet wait.group wait.requestedFlags wait.getOption wait.waitOption stackTimeout
    ((List.range passes).map wait.others) ((List.range (passes + 1)).map wait.readings)

def Returns (stackTimeout : ULONG) (outcome : GetOutcome) : Prop :=
  ∃ passes, wait.call stackTimeout passes = some outcome

def Makes (stackTimeout : ULONG) (index : Nat) : Prop := wait.call stackTimeout index = none

def value (index : Nat) : ULONG :=
  valueAt wait.group ((List.range (index + 1)).map wait.others) index

def PassSatisfied (index : Nat) : Prop :=
  Satisfied wait.getOption wait.requestedFlags (wait.value index)

/-- At the reading with this number, `wait_option` ticks have passed since the
call began. -/
def Elapsed (reading : Nat) : Prop :=
  wait.waitOption ≤ wait.readings reading - wait.startTick

end TimedWait

def result (outcome : GetOutcome) : UINT × ULONG × TxEventFlagsGroup :=
  (outcome.status, outcome.actualFlags, outcome.group)

/-- A call gives up only after an unsatisfied pass and when the time has passed,
makes no unsatisfied pass once it has, and returns the same for every content of
the stack. The reading behind the status is the one after those of the passes. -/
structure DeadlineKept (wait : TimedWait) : Prop where
  gaveUp : ∀ stackTimeout outcome, wait.Returns stackTimeout outcome →
    outcome.status = txNoEvents →
      (∀ record ∈ outcome.passes.getLast?,
        ¬ Satisfied wait.getOption wait.requestedFlags record.before) ∧
      wait.Elapsed outcome.passes.length
  prompt : ∀ stackTimeout earlier later, earlier < later → wait.Makes stackTimeout later →
    wait.Elapsed earlier → wait.PassSatisfied later
  independent : ∀ stackTimeout otherTimeout outcome, wait.Returns stackTimeout outcome →
    ∃ same, wait.Returns otherTimeout same ∧ result same = result outcome

/-- The clock stands at its largest value around the end of the wait. No value
of `timeout` lies above that reading, so that all of them give up there. -/
def ClockSaturated (wait : TimedWait) : Prop :=
  ¬ wait.PassSatisfied 0 ∧ wait.readings 1 = infinite ∧ wait.Elapsed 1 ∧
    (wait.readings 0 = infinite ∨
      wait.value 1 = wait.value 0 ∧ wait.readings 2 = infinite ∧ ¬ wait.Elapsed 0)

/-! ### Where a call leaves its loop -/

def labels (group : TxEventFlagsGroup) : Option String × ULONG :=
  (group.txEventFlagsGroupName, group.txEventFlagsGroupId)

theorem group_eq {first second : TxEventFlagsGroup} (fields : labels first = labels second)
    (current : first.txEventFlagsGroupCurrent = second.txEventFlagsGroupCurrent) :
    first = second := by
  rcases first with ⟨name, value, id⟩
  rcases second with ⟨otherName, otherValue, otherId⟩
  simp only [labels, Prod.mk.injEq] at fields current
  rw [fields.1, fields.2, current]

theorem loopPass_labels (group : TxEventFlagsGroup) (requestedFlags : ULONG) (getOption : UINT) :
    labels (loopPass group requestedFlags getOption).group = labels group := by
  rw [loopPass_group]
  split <;> rfl

theorem sections_labels (group : TxEventFlagsGroup) (sections : List Section) :
    labels (runSections group sections) = labels group := by
  induction sections generalizing group with
  | nil => rfl
  | cons current rest ih =>
      have kept : labels (current.run group) = labels group := by
        cases current with
        | set flagsToSet setOption =>
            simp only [Section.run, txEventFlagsSet]
            split
            · rfl
            · split <;> rfl
        | pass requestedFlags getOption => exact loopPass_labels group requestedFlags getOption
      exact (ih (current.run group)).trans kept

structure LastPass (group : TxEventFlagsGroup) (outcome : GetOutcome) (record : PassRecord) :
    Prop where
  last : outcome.passes.getLast? = some record
  actualFlags : outcome.actualFlags = record.before
  current : outcome.group.txEventFlagsGroupCurrent = record.after
  labels : labels outcome.group = labels group

theorem leaveLoop_last {timeout : ULONG} {entered group : TxEventFlagsGroup}
    {requestedFlags : ULONG} {getOption : UINT} {readings : List ULONG} {outcome : GetOutcome}
    {after : ULONG} (kept : labels entered = labels group)
    (written :
      (loopPass entered requestedFlags getOption).group.txEventFlagsGroupCurrent = after)
    (left : leaveLoop timeout (loopPass entered requestedFlags getOption)
      ⟨entered.txEventFlagsGroupCurrent, after⟩ readings = some outcome) :
    ∃ record, LastPass group outcome record := by
  have labelled := (loopPass_labels entered requestedFlags getOption).trans kept
  cases readings with
  | nil => cases left
  | cons tickCount rest =>
      cases left
      exact ⟨_, { last := rfl, actualFlags := rfl, current := written, labels := labelled }⟩

theorem getLoop_last (requestedFlags : ULONG) (getOption : UINT) (timeout : ULONG)
    (others : List (List Section)) (readings : List ULONG) (group : TxEventFlagsGroup)
    (outcome : GetOutcome)
    (returned : getLoop requestedFlags getOption timeout others readings group = some outcome) :
    ∃ record, LastPass group outcome record := by
  induction others generalizing readings group outcome with
  | nil => cases returned
  | cons sections others ih =>
      have kept := sections_labels group sections
      by_cases satisfied : Satisfied getOption requestedFlags
          (runSections group sections).txEventFlagsGroupCurrent
      · rw [getLoop_satisfied readings satisfied] at returned
        exact leaveLoop_last kept rfl returned
      · rw [getLoop_unsatisfied readings satisfied] at returned
        cases readings with
        | nil => cases returned
        | cons tickCount readings =>
            by_cases early : tickCount < timeout
            · simp only [if_pos early] at returned
              rcases Option.map_eq_some_iff.mp returned with ⟨later, remaining, rfl⟩
              rcases ih readings _ later remaining with ⟨record, found⟩
              refine ⟨record, ?_⟩
              exact
                { last := by
                    rw [List.getLast?_cons, found.last]
                    rfl
                  actualFlags := found.actualFlags
                  current := found.current
                  labels := found.labels.trans kept }
            · simp only [if_neg early] at returned
              have unchanged := loopPass_keeps (runSections group sections) requestedFlags
                getOption (Or.inl satisfied)
              exact leaveLoop_last kept (congrArg _ unchanged) returned

namespace TimedWait

variable {wait : TimedWait} {stackTimeout : ULONG} {outcome : GetOutcome} {index : Nat}

structure LeavesAt (wait : TimedWait) (stackTimeout : ULONG) (index : Nat) : Prop where
  waited : ∀ earlier < index,
    ¬ wait.PassSatisfied earlier ∧ wait.readings earlier < stackTimeout
  left : wait.PassSatisfied index ∨ stackTimeout ≤ wait.readings index

theorem call_loop (wait : TimedWait) (stackTimeout : ULONG) (passes : Nat) :
    wait.call stackTimeout passes =
      getLoop wait.requestedFlags wait.getOption stackTimeout
        ((List.range passes).map wait.others) ((List.range (passes + 1)).map wait.readings)
        wait.group := by
  simp only [call, txEventFlagsGet, initialTimeout, if_neg wait.timed.1, if_neg wait.timed.2]

theorem makes_iff :
    wait.Makes stackTimeout index ↔
      ∀ earlier < index, ¬ wait.PassSatisfied earlier ∧ wait.readings earlier < stackTimeout := by
  rw [Makes, call_loop]
  exact run_polling_iff

theorem leavesAt_unique {first second : Nat} (one : wait.LeavesAt stackTimeout first)
    (other : wait.LeavesAt stackTimeout second) : first = second := by
  have ordered : ∀ {early late : Nat}, wait.LeavesAt stackTimeout early →
      wait.LeavesAt stackTimeout late → ¬ early < late := by
    intro early late leaves stays below
    rcases stays.waited early below with ⟨unsatisfied, before⟩
    rcases leaves.left with satisfied | passed
    · exact unsatisfied satisfied
    · exact absurd before (BitVec.not_lt.mpr passed)
  rcases Nat.lt_trichotomy first second with below | same | above
  · exact absurd below (ordered one other)
  · exact same
  · exact absurd above (ordered other one)

theorem leavesAt_returns (leaves : wait.LeavesAt stackTimeout index) :
    ∃ outcome, wait.Returns stackTimeout outcome := by
  cases called : wait.call stackTimeout (index + 1) with
  | some outcome => exact ⟨outcome, index + 1, called⟩
  | none =>
      rcases makes_iff.mp called index (Nat.lt_succ_self index) with ⟨unsatisfied, before⟩
      rcases leaves.left with satisfied | passed
      · exact absurd satisfied unsatisfied
      · exact absurd before (BitVec.not_lt.mpr passed)

theorem leavesAt_bound {later : Nat} (leaves : wait.LeavesAt stackTimeout index)
    (made : wait.Makes stackTimeout later) : later ≤ index := by
  by_contra beyond
  rcases makes_iff.mp made index (Nat.lt_of_not_le beyond) with ⟨unsatisfied, before⟩
  rcases leaves.left with satisfied | passed
  · exact unsatisfied satisfied
  · exact absurd before (BitVec.not_lt.mpr passed)

structure Returned (wait : TimedWait) (stackTimeout : ULONG) (outcome : GetOutcome) (index : Nat) :
    Prop where
  leaves : wait.LeavesAt stackTimeout index
  count : outcome.passes.length = index + 1
  last : ∀ record ∈ outcome.passes.getLast?, record.before = wait.value index
  actualFlags : outcome.actualFlags = wait.value index
  labels : labels outcome.group = EventFlagsDeadline.labels wait.group
  satisfied : wait.PassSatisfied index →
    outcome.status = exitStatus (wait.readings index) stackTimeout
  unsatisfied : ¬ wait.PassSatisfied index →
    outcome.status = exitStatus (wait.readings (index + 1)) stackTimeout ∧
      outcome.group.txEventFlagsGroupCurrent = wait.value index

theorem returns_returned (returned : wait.Returns stackTimeout outcome) :
    ∃ index, wait.Returned stackTimeout outcome index := by
  rcases returned with ⟨passes, called⟩
  rw [call_loop] at called
  rcases getLoop_last _ _ _ _ _ _ _ called with ⟨record, found⟩
  rcases run_exit called with ⟨index, exit⟩
  have before : record.before = wait.value index := by
    rcases exit.last with ⟨other, same, started⟩
    rw [found.last] at same
    cases same
    exact started
  refine ⟨index, ?_⟩
  exact
    { leaves :=
        { waited := exit.waited
          left := by
            by_cases satisfied : wait.PassSatisfied index
            · exact Or.inl satisfied
            · exact Or.inr (exit.unsatisfied satisfied).1 }
      count := exit.count
      last := by
        intro other same
        rw [found.last] at same
        cases same
        exact before
      actualFlags := found.actualFlags.trans before
      labels := found.labels
      satisfied := exit.satisfied
      unsatisfied := by
        intro unsatisfied
        rcases exit.unsatisfied unsatisfied with ⟨_, status, kept⟩
        have unchanged := kept record (List.mem_of_getLast? found.last)
        exact ⟨status, by rw [found.current, unchanged, before]⟩ }

theorem leavesAt_returned (leaves : wait.LeavesAt stackTimeout index)
    (returned : wait.Returns stackTimeout outcome) :
    wait.Returned stackTimeout outcome index := by
  rcases returns_returned returned with ⟨other, spec⟩
  have same := leavesAt_unique leaves spec.leaves
  exact same ▸ spec

end TimedWait

/-! ### The condition -/

section Condition

variable {wait : TimedWait}

theorem exitStatus_noEvents (tickCount timeout : ULONG) :
    exitStatus tickCount timeout = txNoEvents ↔ timeout ≤ tickCount := by
  unfold exitStatus
  by_cases late : tickCount ≥ timeout
  · simpa only [if_pos late, true_iff] using late
  · have apart : txSuccess ≠ txNoEvents := by decide
    simp only [if_neg late, apart, false_iff]
    exact late

theorem word_nonneg (word : ULONG) : 0 ≤ word := BitVec.le_def.mpr (Nat.zero_le _)

theorem zero_gives_up : ∃ outcome, wait.Returned 0 outcome 0 ∧ wait.Returns 0 outcome ∧
    outcome.status = txNoEvents := by
  have leaves : wait.LeavesAt 0 0 :=
    { waited := fun earlier below => absurd below (Nat.not_lt_zero earlier)
      left := Or.inr (word_nonneg _) }
  rcases TimedWait.leavesAt_returns leaves with ⟨outcome, returned⟩
  have spec := TimedWait.leavesAt_returned leaves returned
  refine ⟨outcome, spec, returned, ?_⟩
  by_cases satisfied : wait.PassSatisfied 0
  · exact (spec.satisfied satisfied).trans ((exitStatus_noEvents _ 0).mpr (word_nonneg _))
  · exact (spec.unsatisfied satisfied).1.trans
      ((exitStatus_noEvents _ 0).mpr (word_nonneg _))

theorem gaveUp_unsatisfied (kept : DeadlineKept wait) {stackTimeout : ULONG}
    {outcome : GetOutcome} {index : Nat} (spec : wait.Returned stackTimeout outcome index)
    (returned : wait.Returns stackTimeout outcome) (failed : outcome.status = txNoEvents) :
    ¬ wait.PassSatisfied index ∧ wait.Elapsed (index + 1) ∧
      stackTimeout ≤ wait.readings (index + 1) := by
  rcases kept.gaveUp stackTimeout outcome returned failed with ⟨unsatisfied, elapsed⟩
  rw [spec.count] at elapsed
  have last : ¬ wait.PassSatisfied index := by
    cases found : outcome.passes.getLast? with
    | none =>
        have empty := List.getLast?_eq_none_iff.mp found
        have count := spec.count
        rw [empty] at count
        cases count
    | some record =>
        have before := spec.last record found
        have missed := unsatisfied record found
        rw [before] at missed
        exact missed
  have status := (spec.unsatisfied last).1
  rw [failed] at status
  exact ⟨last, elapsed, (exitStatus_noEvents _ _).mp status.symm⟩

theorem kept_saturated (kept : DeadlineKept wait) : ClockSaturated wait := by
  rcases zero_gives_up with ⟨first, firstSpec, firstReturned, firstFailed⟩
  rcases gaveUp_unsatisfied kept firstSpec firstReturned firstFailed with
    ⟨unsatisfied, elapsed, _⟩
  rcases kept.independent 0 infinite first firstReturned with ⟨last, returned, same⟩
  simp only [result, Prod.mk.injEq] at same
  rcases same with ⟨status, flags, _⟩
  rcases TimedWait.returns_returned returned with ⟨index, spec⟩
  rcases gaveUp_unsatisfied kept spec returned (status.trans firstFailed) with
    ⟨unsatisfiedLast, elapsedLast, lateLast⟩
  have saturated := (infinite_le_iff _).mp lateLast
  have late : wait.readings index = infinite := by
    rcases spec.leaves.left with satisfied | passed
    · exact absurd satisfied unsatisfiedLast
    · exact (infinite_le_iff _).mp passed
  have value : wait.value index = wait.value 0 := by
    rw [← spec.actualFlags, flags, firstSpec.actualFlags]
  have made : ∀ later ≤ index, wait.Makes infinite later := by
    intro later within
    apply TimedWait.makes_iff.mpr
    exact fun earlier below => spec.leaves.waited earlier (Nat.lt_of_lt_of_le below within)
  rcases index with _ | _ | index
  · exact ⟨unsatisfied, saturated, elapsed, Or.inl late⟩
  · have early : ¬ wait.Elapsed 0 := fun passed =>
      unsatisfiedLast (kept.prompt infinite 0 1 Nat.one_pos (made 1 (Nat.le_refl 1)) passed)
    exact ⟨unsatisfied, late, elapsed, Or.inr ⟨value, saturated, early⟩⟩
  · -- The third pass begins after the first reading past the deadline.
    have satisfied := kept.prompt infinite 1 2 (Nat.lt_succ_self 1) (made 2 (by omega)) elapsed
    rcases index with _ | index
    · exact absurd satisfied unsatisfiedLast
    · exact absurd satisfied (spec.leaves.waited 2 (by omega)).1

/-- With the clock at its largest value every call leaves at one of the first
two passes, the second one only when the time has not passed before it. -/
theorem saturated_leaves (saturated : ClockSaturated wait) (stackTimeout : ULONG) :
    ∃ index, wait.LeavesAt stackTimeout index ∧ ¬ wait.PassSatisfied index ∧
      wait.value index = wait.value 0 ∧ wait.readings (index + 1) = infinite ∧
      (index = 0 ∨ index = 1 ∧ ¬ wait.Elapsed 0) := by
  rcases saturated with ⟨unsatisfied, largest, _, shape⟩
  have bounded : ∀ word : ULONG, word ≤ infinite := fun word =>
    BitVec.le_def.mpr (Nat.le_of_lt_succ word.isLt)
  by_cases now : stackTimeout ≤ wait.readings 0
  · refine ⟨0, ⟨?_, Or.inr now⟩, unsatisfied, rfl, largest, Or.inl rfl⟩
    exact fun earlier below => absurd below (Nat.not_lt_zero earlier)
  · rcases shape with first | ⟨value, second, early⟩
    · rw [first] at now
      exact absurd (bounded stackTimeout) now
    · have unsatisfiedNext : ¬ wait.PassSatisfied 1 := by
        rw [TimedWait.PassSatisfied, value]
        exact unsatisfied
      have past : stackTimeout ≤ wait.readings 1 := by
        rw [largest]
        exact bounded stackTimeout
      refine ⟨1, ⟨?_, Or.inr past⟩, unsatisfiedNext, value, second, Or.inr ⟨rfl, early⟩⟩
      intro earlier below
      rw [Nat.lt_one_iff.mp below]
      exact ⟨unsatisfied, BitVec.not_le.mp now⟩

theorem saturated_returned (saturated : ClockSaturated wait) {stackTimeout : ULONG}
    {outcome : GetOutcome} (returned : wait.Returns stackTimeout outcome) :
    outcome.status = txNoEvents ∧ outcome.actualFlags = wait.value 0 ∧
      outcome.group.txEventFlagsGroupCurrent = wait.value 0 ∧
      labels outcome.group = labels wait.group := by
  rcases saturated_leaves saturated stackTimeout with
    ⟨index, leaves, unsatisfied, value, reading, _⟩
  have spec := TimedWait.leavesAt_returned leaves returned
  rcases spec.unsatisfied unsatisfied with ⟨status, current⟩
  refine ⟨?_, spec.actualFlags.trans value, current.trans value, spec.labels⟩
  rw [status, reading]
  exact (exitStatus_noEvents _ _).mpr (BitVec.le_def.mpr (Nat.le_of_lt_succ stackTimeout.isLt))

theorem saturated_kept (saturated : ClockSaturated wait) : DeadlineKept wait := by
  constructor
  · intro stackTimeout outcome returned _
    rcases saturated_leaves saturated stackTimeout with
      ⟨index, leaves, unsatisfied, _, reading, _⟩
    have spec := TimedWait.leavesAt_returned leaves returned
    constructor
    · intro record found
      rw [spec.last record found]
      exact unsatisfied
    · rw [spec.count, TimedWait.Elapsed, reading, ← saturated.2.1]
      exact saturated.2.2.1
  · intro stackTimeout earlier later before made elapsed
    rcases saturated_leaves saturated stackTimeout with ⟨index, leaves, _, _, _, only⟩
    have within := TimedWait.leavesAt_bound leaves made
    rcases only with first | ⟨second, early⟩
    · omega
    · have start : earlier = 0 := by omega
      exact absurd (start ▸ elapsed) early
  · intro stackTimeout otherTimeout outcome returned
    rcases saturated_leaves saturated otherTimeout with ⟨index, leaves, _⟩
    rcases TimedWait.leavesAt_returns leaves with ⟨same, otherReturned⟩
    rcases saturated_returned saturated returned with ⟨status, flags, current, fields⟩
    rcases saturated_returned saturated otherReturned with
      ⟨otherStatus, otherFlags, otherCurrent, otherFields⟩
    refine ⟨same, otherReturned, ?_⟩
    have group : same.group = outcome.group :=
      group_eq (otherFields.trans fields.symm) (otherCurrent.trans current.symm)
    rw [result, result, status, otherStatus, flags, otherFlags, group]

end Condition

/-- A timed wait keeps its deadline for every content of the stack exactly when
the clock stands at its largest value around the end of the wait. -/
theorem deadline_kept_iff (wait : TimedWait) : DeadlineKept wait ↔ ClockSaturated wait :=
  ⟨kept_saturated, saturated_kept⟩

def tenTicks : TimedWait :=
  { group := ⟨none, 0, txEventFlagsId⟩
    requestedFlags := 1
    getOption := txOr
    waitOption := 10
    timed := by decide
    startTick := 1000
    others := fun _ => []
    readings := fun _ => 1000 }

/-- With 0 on the stack the call gives up at once, when no tick has passed. -/
theorem zero_on_stack_gives_up :
    (∃ outcome, tenTicks.Returns 0 outcome ∧ outcome.status = txNoEvents ∧
      outcome.passes.length = 1) ∧ ¬ tenTicks.Elapsed 1 ∧ ¬ DeadlineKept tenTicks := by
  have early : ¬ tenTicks.Elapsed 1 := by
    unfold TimedWait.Elapsed
    decide
  refine ⟨⟨_, ⟨1, rfl⟩, rfl, rfl⟩, early, ?_⟩
  intro kept
  exact early (kept.gaveUp 0 _ ⟨1, rfl⟩ rfl).2

end UsbxNxdk.EventFlagsDeadline
