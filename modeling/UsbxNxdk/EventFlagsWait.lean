import UsbxNxdk.EventFlags

/-! How one `_tx_event_flags_get` leaves its polling loop, for every
interleaving of the other threads' critical sections and every clock. -/

namespace UsbxNxdk.EventFlagsWait

open EventFlags

/-- The group value that pass number `index` of a call finds, as long as the
earlier passes were unsatisfied: what the other threads have made of it. -/
def valueAt (group : TxEventFlagsGroup) (others : List (List Section)) (index : Nat) : ULONG :=
  (runSections group (others.take (index + 1)).flatten).txEventFlagsGroupCurrent

theorem valueAt_zero (group : TxEventFlagsGroup) (sections : List Section)
    (others : List (List Section)) :
    valueAt group (sections :: others) 0 =
      (runSections group sections).txEventFlagsGroupCurrent := by
  simp [valueAt]

theorem valueAt_succ (group : TxEventFlagsGroup) (sections : List Section)
    (others : List (List Section)) (index : Nat) :
    valueAt group (sections :: others) (index + 1) =
      valueAt (runSections group sections) others index := by
  simp [valueAt, runSections, List.foldl_append]

structure Exit (group : TxEventFlagsGroup) (requestedFlags : ULONG) (getOption : UINT)
    (timeout : ULONG) (others : List (List Section)) (readings : List ULONG)
    (outcome : GetOutcome) (index : Nat) (tickCount : ULONG) : Prop where
  waited : ∀ earlier < index,
    ¬ Satisfied getOption requestedFlags (valueAt group others earlier) ∧
      ∃ reading, readings[earlier]? = some reading ∧ reading < timeout
  left :
    (Satisfied getOption requestedFlags (valueAt group others index) ∧
      readings[index]? = some tickCount) ∨
    (¬ Satisfied getOption requestedFlags (valueAt group others index) ∧
      ∃ reading, readings[index]? = some reading ∧ timeout ≤ reading ∧
        readings[index + 1]? = some tickCount)
  status : outcome.status = exitStatus tickCount timeout
  count : outcome.passes.length = index + 1
  last : ∃ record, outcome.passes.getLast? = some record ∧
    record.before = valueAt group others index
  kept : ¬ Satisfied getOption requestedFlags (valueAt group others index) →
    ∀ record ∈ outcome.passes, record.after = record.before

section Loop

variable {requestedFlags : ULONG} {getOption : UINT} {timeout : ULONG} {sections : List Section}
  {others : List (List Section)} {group : TxEventFlagsGroup}

theorem leaveLoop_some {pass : LoopPass} {record : PassRecord}
    {readings : List ULONG} {outcome : GetOutcome}
    (left : leaveLoop timeout pass record readings = some outcome) :
    ∃ tickCount, readings[0]? = some tickCount ∧
      outcome.status = exitStatus tickCount timeout ∧ outcome.passes = [record] := by
  cases readings with
  | nil => cases left
  | cons tickCount rest =>
      cases left
      exact ⟨tickCount, rfl, rfl, rfl⟩

theorem getLoop_satisfied (readings : List ULONG)
    (satisfied : Satisfied getOption requestedFlags
      (runSections group sections).txEventFlagsGroupCurrent) :
    getLoop requestedFlags getOption timeout (sections :: others) readings group =
      leaveLoop timeout (loopPass (runSections group sections) requestedFlags getOption)
        ⟨(runSections group sections).txEventFlagsGroupCurrent,
          (loopPass (runSections group sections) requestedFlags
            getOption).group.txEventFlagsGroupCurrent⟩ readings := by
  have decided := (loopPass_satisfied (runSections group sections) requestedFlags getOption).mpr
    satisfied
  rw [getLoop.eq_def]
  exact if_pos decided

theorem getLoop_unsatisfied (readings : List ULONG)
    (unsatisfied : ¬ Satisfied getOption requestedFlags
      (runSections group sections).txEventFlagsGroupCurrent) :
    getLoop requestedFlags getOption timeout (sections :: others) readings group =
      match readings with
      | [] => none
      | tickCount :: readings =>
          if tickCount < timeout then
            (getLoop requestedFlags getOption timeout others readings
                (runSections group sections)).map
              fun outcome =>
                { outcome with
                  passes := ⟨(runSections group sections).txEventFlagsGroupCurrent,
                    (runSections group sections).txEventFlagsGroupCurrent⟩ :: outcome.passes }
          else
            leaveLoop timeout (loopPass (runSections group sections) requestedFlags getOption)
              ⟨(runSections group sections).txEventFlagsGroupCurrent,
                (runSections group sections).txEventFlagsGroupCurrent⟩ readings := by
  have empty := Classical.not_not.mp
    (mt (loopPass_satisfied (runSections group sections) requestedFlags getOption).mp unsatisfied)
  have same := loopPass_keeps (runSections group sections) requestedFlags getOption
    (Or.inl unsatisfied)
  rw [getLoop.eq_def]
  cases readings with
  | nil => simp only [empty, ne_eq, not_true_eq_false, if_false]
  | cons tickCount readings => simp only [empty, ne_eq, not_true_eq_false, if_false, same]

theorem first_exit {tickCount : ULONG} {after : ULONG} {readings final : List ULONG}
    {outcome : GetOutcome}
    (left : leaveLoop timeout (loopPass (runSections group sections) requestedFlags getOption)
      ⟨(runSections group sections).txEventFlagsGroupCurrent, after⟩ final = some outcome)
    (reading : final[0]? = some tickCount)
    (reason : (Satisfied getOption requestedFlags (valueAt group (sections :: others) 0) ∧
        readings[0]? = some tickCount) ∨
      (¬ Satisfied getOption requestedFlags (valueAt group (sections :: others) 0) ∧
        after = (runSections group sections).txEventFlagsGroupCurrent ∧
        ∃ reading, readings[0]? = some reading ∧ timeout ≤ reading ∧
          readings[1]? = some tickCount)) :
    Exit group requestedFlags getOption timeout (sections :: others) readings outcome 0
      tickCount := by
  rcases leaveLoop_some left with ⟨other, same, status, passes⟩
  rw [reading] at same
  cases same
  have start := valueAt_zero group sections others
  exact
    { waited := fun earlier below => absurd below (Nat.not_lt_zero earlier)
      left := reason.imp id fun late => ⟨late.1, late.2.2⟩
      status := status
      count := by rw [passes]; rfl
      last := ⟨_, by rw [passes]; rfl, start.symm⟩
      kept := by
        intro unsatisfied record member
        rcases reason with ⟨satisfied, _⟩ | ⟨_, unchanged, _⟩
        · exact absurd satisfied unsatisfied
        · rw [passes, List.mem_singleton] at member
          rw [member, unchanged] }

theorem later_exit {tickCount final : ULONG} {readings : List ULONG} {later : GetOutcome}
    {index : Nat}
    (unsatisfied : ¬ Satisfied getOption requestedFlags
      (runSections group sections).txEventFlagsGroupCurrent)
    (early : tickCount < timeout)
    (exit : Exit (runSections group sections) requestedFlags getOption timeout others readings
      later index final) :
    Exit group requestedFlags getOption timeout (sections :: others) (tickCount :: readings)
      { later with
        passes := ⟨(runSections group sections).txEventFlagsGroupCurrent,
          (runSections group sections).txEventFlagsGroupCurrent⟩ :: later.passes }
      (index + 1) final := by
  have start := valueAt_zero group sections others
  have shifted := valueAt_succ group sections others
  exact
    { waited := by
        intro earlier below
        cases earlier with
        | zero => exact ⟨start ▸ unsatisfied, tickCount, rfl, early⟩
        | succ earlier =>
            rw [shifted, List.getElem?_cons_succ]
            exact exit.waited earlier (Nat.lt_of_succ_lt_succ below)
      left := by
        rw [shifted, List.getElem?_cons_succ, List.getElem?_cons_succ]
        exact exit.left
      status := exit.status
      count := by rw [List.length_cons, exit.count]
      last := by
        rcases exit.last with ⟨record, found, before⟩
        refine ⟨record, ?_, by rw [shifted, before]⟩
        rw [List.getLast?_cons, found]
        rfl
      kept := by
        intro unsatisfied record member
        rw [shifted] at unsatisfied
        rcases List.mem_cons.mp member with rfl | member
        · rfl
        · exact exit.kept unsatisfied record member }

/-- Every returned call has left its loop in one of the two ways. -/
theorem getLoop_exit (others : List (List Section))
    (readings : List ULONG) (group : TxEventFlagsGroup) (outcome : GetOutcome)
    (returned : getLoop requestedFlags getOption timeout others readings group = some outcome) :
    ∃ index tickCount,
      Exit group requestedFlags getOption timeout others readings outcome index tickCount := by
  induction others generalizing readings group outcome with
  | nil => cases returned
  | cons sections others ih =>
      have start := valueAt_zero group sections others
      by_cases satisfied : Satisfied getOption requestedFlags
          (runSections group sections).txEventFlagsGroupCurrent
      · rw [getLoop_satisfied readings satisfied] at returned
        rcases leaveLoop_some returned with ⟨tickCount, reading, _⟩
        refine ⟨0, tickCount, ?_⟩
        exact first_exit returned reading (Or.inl ⟨start ▸ satisfied, reading⟩)
      · rw [getLoop_unsatisfied readings satisfied] at returned
        cases readings with
        | nil => cases returned
        | cons tickCount readings =>
            by_cases early : tickCount < timeout
            · simp only [if_pos early] at returned
              rcases Option.map_eq_some_iff.mp returned with ⟨later, remaining, rfl⟩
              rcases ih readings (runSections group sections) later remaining with
                ⟨index, final, exit⟩
              exact ⟨index + 1, final, later_exit satisfied early exit⟩
            · simp only [if_neg early] at returned
              rcases leaveLoop_some returned with ⟨final, reading, _⟩
              refine ⟨0, final, ?_⟩
              apply first_exit returned reading
              exact Or.inr ⟨start ▸ satisfied, rfl, tickCount, rfl, BitVec.not_lt.mp early,
                List.getElem?_cons_succ.trans reading⟩

theorem getLoop_none (others : List (List Section)) (readings : List ULONG)
    (group : TxEventFlagsGroup) (enough : readings.length = others.length + 1) :
    getLoop requestedFlags getOption timeout others readings group = none ↔
      ∀ index < others.length,
        ¬ Satisfied getOption requestedFlags (valueAt group others index) ∧
          ∃ reading, readings[index]? = some reading ∧ reading < timeout := by
  induction others generalizing readings group with
  | nil =>
      constructor
      · intro _ index below
        exact absurd below (Nat.not_lt_zero index)
      · exact fun _ => rfl
  | cons sections others ih =>
      have start := valueAt_zero group sections others
      have shifted := valueAt_succ group sections others
      rcases readings with _ | ⟨tickCount, _ | ⟨second, readings⟩⟩
      · cases enough
      · cases enough
      · by_cases satisfied : Satisfied getOption requestedFlags
            (runSections group sections).txEventFlagsGroupCurrent
        · rw [getLoop_satisfied _ satisfied]
          constructor
          · intro polling
            cases polling
          · intro waited
            exact absurd (start ▸ satisfied) (waited 0 (Nat.zero_lt_succ _)).1
        · rw [getLoop_unsatisfied _ satisfied]
          by_cases early : tickCount < timeout
          · simp only [if_pos early, Option.map_eq_none_iff]
            rw [ih (second :: readings) _ (Nat.succ.inj enough)]
            constructor
            · intro waited index below
              cases index with
              | zero => exact ⟨start ▸ satisfied, tickCount, rfl, early⟩
              | succ index =>
                  rw [shifted, List.getElem?_cons_succ]
                  exact waited index (Nat.lt_of_succ_lt_succ below)
            · intro waited index below
              have later := waited (index + 1) (Nat.succ_lt_succ below)
              rw [shifted, List.getElem?_cons_succ] at later
              exact later
          · simp only [if_neg early]
            constructor
            · intro polling
              cases polling
            · intro waited
              rcases (waited 0 (Nat.zero_lt_succ _)).2 with ⟨reading, present, before⟩
              cases present
              exact absurd before early

end Loop

/-! ### Calls in an unending run -/

def runValue (group : TxEventFlagsGroup) (others : Nat → List Section) (index : Nat) : ULONG :=
  valueAt group ((List.range (index + 1)).map others) index

theorem prefix_value (group : TxEventFlagsGroup) (others : Nat → List Section)
    {passes index : Nat} (below : index < passes) :
    valueAt group ((List.range passes).map others) index = runValue group others index := by
  have least : min (index + 1) passes = index + 1 := Nat.min_eq_left below
  simp only [runValue, valueAt, ← List.map_take, List.take_range, least, Nat.min_self]

theorem prefix_reading (readings : Nat → ULONG) {passes index : Nat} (below : index < passes) :
    ((List.range passes).map readings)[index]? = some (readings index) := by
  rw [List.getElem?_map, List.getElem?_range below]
  rfl

/-- How a call left its loop in such a run: the status of a satisfied exit comes
from the reading behind the pass, that of any other from the one after it. -/
structure RunExit (group : TxEventFlagsGroup) (requestedFlags : ULONG) (getOption : UINT)
    (timeout : ULONG) (others : Nat → List Section) (readings : Nat → ULONG)
    (outcome : GetOutcome) (index : Nat) : Prop where
  waited : ∀ earlier < index,
    ¬ Satisfied getOption requestedFlags (runValue group others earlier) ∧
      readings earlier < timeout
  satisfied : Satisfied getOption requestedFlags (runValue group others index) →
    outcome.status = exitStatus (readings index) timeout
  unsatisfied : ¬ Satisfied getOption requestedFlags (runValue group others index) →
    timeout ≤ readings index ∧ outcome.status = exitStatus (readings (index + 1)) timeout ∧
      ∀ record ∈ outcome.passes, record.after = record.before
  count : outcome.passes.length = index + 1
  last : ∃ record, outcome.passes.getLast? = some record ∧
    record.before = runValue group others index

section Run

variable {requestedFlags : ULONG} {getOption : UINT} {timeout : ULONG}
  {others : Nat → List Section} {readings : Nat → ULONG} {group : TxEventFlagsGroup}
  {outcome : GetOutcome} {passes : Nat}

theorem run_polling_iff :
    getLoop requestedFlags getOption timeout ((List.range passes).map others)
        ((List.range (passes + 1)).map readings) group = none ↔
      ∀ index < passes, ¬ Satisfied getOption requestedFlags (runValue group others index) ∧
        readings index < timeout := by
  rw [getLoop_none _ _ _ (by simp), List.length_map, List.length_range]
  apply forall_congr'
  intro index
  apply imp_congr_right
  intro below
  rw [prefix_value group others below, prefix_reading readings (Nat.lt_succ_of_lt below)]
  simp

theorem run_exit
    (returned : getLoop requestedFlags getOption timeout ((List.range passes).map others)
      ((List.range (passes + 1)).map readings) group = some outcome) :
    ∃ index, RunExit group requestedFlags getOption timeout others readings outcome index := by
  rcases getLoop_exit _ _ _ _ returned with ⟨index, tickCount, exit⟩
  -- The passes that were provided suffice for the one at which the call left.
  have below : index < passes := by
    by_contra beyond
    apply Option.some_ne_none outcome
    rw [← returned]
    apply (getLoop_none _ _ _ (by simp)).mpr
    intro earlier inside
    apply exit.waited earlier
    rw [List.length_map, List.length_range] at inside
    exact Nat.lt_of_lt_of_le inside (Nat.le_of_not_lt beyond)
  have value := prefix_value group others below
  have left := exit.left
  rw [value, prefix_reading readings (Nat.lt_succ_of_lt below),
    prefix_reading readings (Nat.succ_lt_succ below)] at left
  refine ⟨index, ?_⟩
  exact
    { waited := by
        intro earlier before
        rcases exit.waited earlier before with ⟨unsatisfied, seen, present, early⟩
        rw [prefix_value group others (before.trans below)] at unsatisfied
        rw [prefix_reading readings (before.trans (Nat.lt_succ_of_lt below))] at present
        cases present
        exact ⟨unsatisfied, early⟩
      satisfied := by
        intro satisfied
        rcases left with ⟨_, present⟩ | ⟨unsatisfied, _⟩
        · cases present
          exact exit.status
        · exact absurd satisfied unsatisfied
      unsatisfied := by
        intro unsatisfied
        rcases left with ⟨satisfied, _⟩ | ⟨_, reading, now, late, next⟩
        · exact absurd satisfied unsatisfied
        · cases now
          cases next
          exact ⟨late, exit.status, exit.kept (value ▸ unsatisfied)⟩
      count := exit.count
      last := by
        rcases exit.last with ⟨record, found, before⟩
        exact ⟨record, found, before.trans value⟩ }

end Run

/-- The status tells whether the last critical section satisfied the request,
and a call that reports no events has cleared no flag. -/
def StatusFaithful (requestedFlags : ULONG) (getOption : UINT) (outcome : GetOutcome) : Prop :=
  (outcome.status = txSuccess ↔ ∃ record, outcome.passes.getLast? = some record ∧
    Satisfied getOption requestedFlags record.before) ∧
  (outcome.status = txNoEvents → ∀ record ∈ outcome.passes, record.before &&& ~~~record.after = 0)

/-- The inputs on which a satisfied pass goes unreported. A call that does not
wait compares the clock with an earlier reading of itself; a call that waits
forever compares it with the largest tick count. -/
def Unreported (group : TxEventFlagsGroup) (requestedFlags : ULONG) (getOption : UINT)
    (waitOption : ULONG) (others : List (List Section)) (readings : List ULONG) : Prop :=
  if waitOption = txNoWait then Satisfied getOption requestedFlags (valueAt group others 0)
  else ∃ index, Satisfied getOption requestedFlags (valueAt group others index) ∧
    readings[index]? = some infinite ∧
    ∀ earlier < index, ¬ Satisfied getOption requestedFlags (valueAt group others earlier) ∧
      readings[earlier]? ≠ some infinite

theorem exitStatus_success (tickCount timeout : ULONG) :
    exitStatus tickCount timeout = txSuccess ↔ tickCount < timeout := by
  unfold exitStatus
  by_cases late : tickCount ≥ timeout
  · have apart : txNoEvents ≠ txSuccess := by decide
    simp only [if_pos late, apart, false_iff]
    exact BitVec.not_lt.mpr late
  · simpa only [if_neg late, true_iff] using BitVec.not_le.mp late

section Status

variable {group : TxEventFlagsGroup} {requestedFlags : ULONG} {getOption : UINT}
  {timeout : ULONG} {others : List (List Section)} {readings : List ULONG} {outcome : GetOutcome}
  {index : Nat} {tickCount : ULONG}

theorem faithful_iff
    (exit : Exit group requestedFlags getOption timeout others readings outcome index tickCount)
    (gaveUp : ¬ Satisfied getOption requestedFlags (valueAt group others index) →
      timeout ≤ tickCount) :
    StatusFaithful requestedFlags getOption outcome ↔
      ¬ (Satisfied getOption requestedFlags (valueAt group others index) ∧
        timeout ≤ tickCount) := by
  obtain ⟨record, found, before⟩ := exit.last
  have success := exitStatus_success tickCount timeout
  rw [← exit.status] at success
  have lastSatisfied : (∃ record, outcome.passes.getLast? = some record ∧
      Satisfied getOption requestedFlags record.before) ↔
      Satisfied getOption requestedFlags (valueAt group others index) := by
    constructor
    · rintro ⟨other, same, satisfied⟩
      have equal : record = other := Option.some.inj (found.symm.trans same)
      rwa [← equal, before] at satisfied
    · intro satisfied
      exact ⟨record, found, before ▸ satisfied⟩
  constructor
  · rintro ⟨exact, _⟩ ⟨satisfied, late⟩
    have reported := exact.mpr (lastSatisfied.mpr satisfied)
    exact absurd (success.mp reported) (BitVec.not_lt.mpr late)
  · intro timely
    by_cases satisfied : Satisfied getOption requestedFlags (valueAt group others index)
    · have early : tickCount < timeout :=
        BitVec.not_le.mp fun late => timely ⟨satisfied, late⟩
      have reported := success.mpr early
      refine ⟨⟨fun _ => lastSatisfied.mpr satisfied, fun _ => reported⟩, ?_⟩
      intro failed
      rw [reported] at failed
      cases failed
    · have late := gaveUp satisfied
      refine ⟨⟨?_, fun holds => absurd (lastSatisfied.mp holds) satisfied⟩, ?_⟩
      · intro reported
        exact absurd (success.mp reported) (BitVec.not_lt.mpr late)
      · intro _ passed member
        rw [exit.kept satisfied passed member, BitVec.and_not_self]

theorem gave_up_late
    (exit : Exit group requestedFlags getOption timeout others readings outcome index tickCount)
    (ordered : readings.Pairwise (· ≤ ·))
    (unsatisfied : ¬ Satisfied getOption requestedFlags (valueAt group others index)) :
    timeout ≤ tickCount := by
  rcases exit.left with ⟨satisfied, _⟩ | ⟨_, reading, now, late, later⟩
  · exact absurd satisfied unsatisfied
  · rcases List.getElem?_eq_some_iff.mp now with ⟨firstBound, first⟩
    obtain ⟨secondBound, second⟩ := List.getElem?_eq_some_iff.mp later
    have advance := List.pairwise_iff_getElem.mp ordered index (index + 1) firstBound secondBound
      (Nat.lt_succ_self index)
    rw [first, second] at advance
    exact BitVec.le_trans late advance

theorem one_pass
    (exit : Exit group requestedFlags getOption timeout others readings outcome index tickCount)
    (past : ∀ reading ∈ readings, timeout ≤ reading) : index = 0 ∧ timeout ≤ tickCount := by
  have only : index = 0 := by
    by_contra more
    obtain ⟨_, reading, present, early⟩ := exit.waited 0 (Nat.pos_of_ne_zero more)
    have late := past reading (List.mem_of_getElem? present)
    exact absurd early (BitVec.not_lt.mpr late)
  refine ⟨only, ?_⟩
  rcases exit.left with ⟨_, reading⟩ | ⟨_, _, _, _, reading⟩
  · exact past tickCount (List.mem_of_getElem? reading)
  · exact past tickCount (List.mem_of_getElem? reading)

theorem forever_unreported
    (exit : Exit group requestedFlags getOption infinite others readings outcome index tickCount) :
    (Satisfied getOption requestedFlags (valueAt group others index) ∧ infinite ≤ tickCount) ↔
      Unreported group requestedFlags getOption txWaitForever others readings := by
  have waits : txWaitForever ≠ txNoWait := by decide
  rw [Unreported, if_neg waits]
  have before : ∀ earlier < index,
      ¬ Satisfied getOption requestedFlags (valueAt group others earlier) ∧
        readings[earlier]? ≠ some infinite := by
    intro earlier below
    obtain ⟨unsatisfied, reading, present, early⟩ := exit.waited earlier below
    refine ⟨unsatisfied, ?_⟩
    intro last
    have same : reading = infinite := Option.some.inj (present.symm.trans last)
    rw [same] at early
    exact absurd early (BitVec.lt_irrefl _)
  constructor
  · rintro ⟨satisfied, late⟩
    rcases exit.left with ⟨_, reading⟩ | ⟨unsatisfied, _⟩
    · exact ⟨index, satisfied, by rw [reading, (infinite_le_iff tickCount).mp late], before⟩
    · exact absurd satisfied unsatisfied
  · rintro ⟨other, satisfied, reading, first⟩
    have order : other = index := by
      rcases Nat.lt_trichotomy other index with below | same | above
      · exact absurd satisfied (before other below).1
      · exact same
      · rcases exit.left with ⟨already, _⟩ | ⟨_, late, present, past, _⟩
        · exact absurd already (first index above).1
        · rw [(infinite_le_iff late).mp past] at present
          exact absurd present (first index above).2
    subst order
    rcases exit.left with ⟨_, present⟩ | ⟨unsatisfied, _⟩
    · have same : tickCount = infinite := Option.some.inj (present.symm.trans reading)
      exact ⟨satisfied, (infinite_le_iff tickCount).mpr same⟩
    · exact absurd satisfied unsatisfied

end Status

/-- For calls that do not wait or wait forever: the status and the cleared
flags are right exactly when the inputs leave no satisfied pass unreported. -/
theorem status_faithful_iff (group : TxEventFlagsGroup) (requestedFlags : ULONG)
    (getOption : UINT) (waitOption stackTimeout : ULONG) (others : List (List Section))
    (readings : List ULONG) (outcome : GetOutcome)
    (mode : waitOption = txNoWait ∨ waitOption = txWaitForever)
    (ordered : readings.Pairwise (· ≤ ·))
    (returned : txEventFlagsGet group requestedFlags getOption waitOption stackTimeout others
      readings = some outcome) :
    StatusFaithful requestedFlags getOption outcome ↔
      ¬ Unreported group requestedFlags getOption waitOption others readings := by
  unfold txEventFlagsGet at returned
  rcases mode with rfl | rfl
  · cases readings with
    | nil => cases returned
    | cons timeout readings =>
        have looped : getLoop requestedFlags getOption timeout others readings group =
            some outcome := returned
        obtain ⟨past, later⟩ := List.pairwise_cons.mp ordered
        obtain ⟨index, tickCount, exit⟩ :=
          getLoop_exit others readings group outcome looped
        rcases one_pass exit past with ⟨rfl, late⟩
        rw [faithful_iff exit (gave_up_late exit later), Unreported, if_pos rfl]
        simp only [late, and_true]
  · have looped : getLoop requestedFlags getOption infinite others readings group =
        some outcome := returned
    obtain ⟨index, tickCount, exit⟩ :=
      getLoop_exit others readings group outcome looped
    rw [faithful_iff exit (gave_up_late exit ordered), forever_unreported exit]

/-- A flag that is set when a non-waiting clearing get asks for it. -/
theorem set_flag_lost :
    ∃ outcome, txEventFlagsGet ⟨none, 1, txEventFlagsId⟩ 1 txOrClear txNoWait 0 [[]] [5, 5] =
        some outcome ∧
      outcome.status = txNoEvents ∧ outcome.passes = [⟨1, 0⟩] ∧
      ¬ StatusFaithful 1 txOrClear outcome := by
  refine ⟨_, rfl, rfl, rfl, ?_⟩
  rintro ⟨_, kept⟩
  have cleared := kept rfl ⟨1, 0⟩ (List.mem_singleton_self _)
  exact absurd cleared (by decide)

/-- A waiting get that another thread's set satisfies at its second pass. -/
theorem forever_get_faithful :
    ∃ outcome, txEventFlagsGet ⟨none, 0, txEventFlagsId⟩ 1 txOrClear txWaitForever 0
        [[], [.set 1 txOr]] [5, 6] = some outcome ∧
      (StatusFaithful 1 txOrClear outcome ↔
        ¬ Unreported ⟨none, 0, txEventFlagsId⟩ 1 txOrClear txWaitForever
          [[], [.set 1 txOr]] [5, 6]) :=
  ⟨_, rfl, status_faithful_iff _ 1 txOrClear txWaitForever 0 _ _ _ (Or.inr rfl)
    (by decide) rfl⟩

end UsbxNxdk.EventFlagsWait
