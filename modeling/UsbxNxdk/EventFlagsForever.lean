import UsbxNxdk.EventFlagsDeadline

/-! A `_tx_event_flags_get` that waits forever compares the clock with the
largest tick count, which the clock reaches once in every turn. -/

namespace UsbxNxdk.EventFlagsForever

open EventFlags EventFlagsWait EventFlagsDeadline

/-- One wait with `TX_WAIT_FOREVER` and everything around it: `others` are the
critical sections that other threads run before each pass, `readings` what the
successive calls of `GetTickCount` return. -/
structure ForeverWait where
  group : TxEventFlagsGroup
  requestedFlags : ULONG
  getOption : UINT
  others : Nat → List Section
  readings : Nat → ULONG

namespace ForeverWait

variable (wait : ForeverWait)

def call (stackTimeout : ULONG) (passes : Nat) : Option GetOutcome :=
  txEventFlagsGet wait.group wait.requestedFlags wait.getOption txWaitForever stackTimeout
    ((List.range passes).map wait.others) ((List.range (passes + 1)).map wait.readings)

def Returns (outcome : GetOutcome) : Prop :=
  ∃ stackTimeout passes, wait.call stackTimeout passes = some outcome

def PassSatisfied (index : Nat) : Prop :=
  Satisfied wait.getOption wait.requestedFlags (runValue wait.group wait.others index)

end ForeverWait

/-- A call that returns does not report a timeout and has left its loop from a
satisfied pass. -/
def NeverTimesOut (wait : ForeverWait) : Prop :=
  ∀ outcome, wait.Returns outcome → outcome.status ≠ txNoEvents ∧
    ∃ record, outcome.passes.getLast? = some record ∧
      Satisfied wait.getOption wait.requestedFlags record.before

/-- The clock does not stand at its largest value when it is read behind the
first satisfied pass or behind one of the unsatisfied passes before it. -/
def ClockBelowMaximum (wait : ForeverWait) : Prop :=
  ∀ index, (∀ earlier < index, ¬ wait.PassSatisfied earlier) → wait.readings index ≠ infinite

section Condition

variable {wait : ForeverWait} {outcome : GetOutcome}

theorem call_loop (wait : ForeverWait) (stackTimeout : ULONG) (passes : Nat) :
    wait.call stackTimeout passes =
      getLoop wait.requestedFlags wait.getOption infinite
        ((List.range passes).map wait.others) ((List.range (passes + 1)).map wait.readings)
        wait.group := by
  have waits : txWaitForever ≠ txNoWait := by decide
  simp only [ForeverWait.call, txEventFlagsGet, initialTimeout, if_neg waits, if_true]

theorem returns_exit (returned : wait.Returns outcome) :
    ∃ index, RunExit wait.group wait.requestedFlags wait.getOption infinite wait.others
      wait.readings outcome index := by
  rcases returned with ⟨stackTimeout, passes, called⟩
  rw [call_loop] at called
  exact run_exit called

theorem below_never_times_out (below : ClockBelowMaximum wait) : NeverTimesOut wait := by
  intro outcome returned
  rcases returns_exit returned with ⟨index, exit⟩
  have reading : wait.readings index ≠ infinite :=
    below index fun earlier before => (exit.waited earlier before).1
  have early : ¬ infinite ≤ wait.readings index := mt (infinite_le_iff _).mp reading
  have satisfied : wait.PassSatisfied index := by
    by_contra unsatisfied
    exact early (exit.unsatisfied unsatisfied).1
  constructor
  · rw [exit.satisfied satisfied]
    exact mt (exitStatus_noEvents _ _).mp early
  · rcases exit.last with ⟨record, found, before⟩
    refine ⟨record, found, ?_⟩
    rw [before]
    exact satisfied

theorem maximum_returns (wait : ForeverWait) {index : Nat}
    (maximum : wait.readings index = infinite) : ∃ outcome, wait.Returns outcome := by
  cases called : wait.call 0 (index + 1) with
  | some outcome => exact ⟨outcome, 0, index + 1, called⟩
  | none =>
      rw [call_loop] at called
      have early := (run_polling_iff.mp called index (Nat.lt_succ_self index)).2
      rw [maximum] at early
      exact absurd early (BitVec.lt_irrefl _)

theorem never_times_out_below (never : NeverTimesOut wait) : ClockBelowMaximum wait := by
  intro index waited maximum
  rcases maximum_returns wait maximum with ⟨outcome, returned⟩
  rcases never outcome returned with ⟨reported, record, found, satisfied⟩
  rcases returns_exit returned with ⟨last, exit⟩
  have final : wait.PassSatisfied last := by
    rcases exit.last with ⟨other, same, before⟩
    rw [found] at same
    cases same
    rw [ForeverWait.PassSatisfied, ← before]
    exact satisfied
  rcases Nat.lt_trichotomy last index with below | same | above
  · exact waited last below final
  · apply reported
    rw [exit.satisfied final, same, maximum]
    exact (exitStatus_noEvents _ _).mpr (BitVec.le_refl _)
  · have early := (exit.waited index above).2
    rw [maximum] at early
    exact BitVec.lt_irrefl _ early

end Condition

/-- A wait forever never times out exactly when the clock is not read at its
largest value before the call has seen a satisfied pass and left. -/
theorem never_times_out_iff (wait : ForeverWait) :
    NeverTimesOut wait ↔ ClockBelowMaximum wait :=
  ⟨never_times_out_below, below_never_times_out⟩

def turningClock : ForeverWait :=
  { group := ⟨none, 0, txEventFlagsId⟩
    requestedFlags := 1
    getOption := txOr
    others := fun index => if index = 1 then [.set 1 txOr] else []
    readings := fun _ => 0xFFFFFFFF }

/-- The call gives up after its first pass, which was not satisfied. -/
theorem turning_clock_times_out :
    (∃ outcome, turningClock.Returns outcome ∧ outcome.status = txNoEvents ∧
      outcome.passes = [⟨0, 0⟩]) ∧ ¬ NeverTimesOut turningClock := by
  refine ⟨⟨_, ⟨0, 1, rfl⟩, rfl, rfl⟩, ?_⟩
  intro never
  exact (never _ ⟨0, 1, rfl⟩).1 rfl

end UsbxNxdk.EventFlagsForever
