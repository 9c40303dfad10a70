import UsbxNxdk.EventFlagsSystem
import UsbxNxdk.Ledger

/-! The ledger of one event flag over any interleaving of sets and gets. -/

namespace UsbxNxdk.EventFlagsLedger

open Execution EventFlags EventFlagsSystem Ledger

def turnsOn (bit : Nat) (system : System) : Action → Bool
  | .set _ flagsToSet setOption =>
      decide (setOption = txOr) && !system.current.getLsbD bit &&
        (txEventFlagsSet system.group flagsToSet setOption).2.txEventFlagsGroupCurrent.getLsbD bit
  | _ => false

def turnsOff (bit : Nat) (system : System) : Action → Bool
  | .set _ flagsToSet setOption =>
      decide (setOption = txAnd) && system.current.getLsbD bit &&
        !(txEventFlagsSet system.group flagsToSet setOption).2.txEventFlagsGroupCurrent.getLsbD bit
  | _ => false

/-- A satisfied clearing pass that requests the bit while it is set. -/
def consumes (bit : Nat) (system : System) : Action → Bool
  | .pass thread _ =>
      (system.calls thread).any fun call =>
        decide (Satisfied call.getOption call.requestedFlags system.current) &&
          decide (Clears call.getOption) &&
          call.requestedFlags.getLsbD bit && system.current.getLsbD bit
  | _ => false

def level (bit : Nat) (system : System) : Nat := (system.current.getLsbD bit).toNat

private theorem set_balanced (bit : Nat) (system next : System) (thread : Nat)
    (flagsToSet : ULONG) (setOption : UINT)
    (stepped : step system (.set thread flagsToSet setOption) = some next) :
    level bit system + (turnsOn bit system (.set thread flagsToSet setOption)).toNat =
      level bit next + (turnsOff bit system (.set thread flagsToSet setOption)).toNat := by
  rw [set_some stepped]
  simp only [level, turnsOn, turnsOff, System.current, txEventFlagsSet_current]
  have apart : txOr ≠ txAnd := by decide
  by_cases union : setOption = txOr
  · subst union
    simp only [if_pos, decide_true, Bool.true_and, decide_eq_false apart, Bool.false_and,
      BitVec.getLsbD_or]
    cases system.group.txEventFlagsGroupCurrent.getLsbD bit <;> cases flagsToSet.getLsbD bit <;> rfl
  · by_cases meet : setOption = txAnd
    · subst meet
      simp only [if_neg union, if_pos, decide_true, Bool.true_and, decide_eq_false union,
        Bool.false_and, BitVec.getLsbD_and]
      cases system.group.txEventFlagsGroupCurrent.getLsbD bit <;>
        cases flagsToSet.getLsbD bit <;> rfl
    · simp only [if_neg union, if_neg meet, decide_eq_false union, decide_eq_false meet,
        Bool.false_and]

private theorem pass_balanced (bit : Nat) (system next : System) (thread : Nat)
    (tickCount : ULONG) (stepped : step system (.pass thread tickCount) = some next) :
    level bit system = level bit next + (consumes bit system (.pass thread tickCount)).toNat := by
  obtain ⟨call, present, after⟩ := pass_some stepped
  simp only [level, consumes, present, Option.any_some, System.current, after]
  by_cases consuming : Satisfied call.getOption call.requestedFlags system.current ∧
      Clears call.getOption
  · rw [loopPass_current, if_pos consuming]
    simp only [decide_eq_true consuming.1, decide_eq_true consuming.2, Bool.true_and,
      BitVec.getLsbD_and, BitVec.getLsbD_not]
    by_cases inside : bit < 32
    · simp only [inside, decide_true, Bool.true_and]
      cases system.group.txEventFlagsGroupCurrent.getLsbD bit <;>
        cases call.requestedFlags.getLsbD bit <;> rfl
    · have absent : system.group.txEventFlagsGroupCurrent.getLsbD bit = false :=
        BitVec.getLsbD_of_ge _ _ (Nat.le_of_not_lt inside)
      simp only [absent, Bool.false_and, Bool.and_false, Bool.toNat_false]
  · rw [loopPass_current, if_neg consuming]
    have nothing : (decide (Satisfied call.getOption call.requestedFlags system.current) &&
        decide (Clears call.getOption)) = false := by
      rw [← Bool.decide_and, decide_eq_false consuming]
    simp only [nothing, Bool.false_and, Bool.toNat_false, Nat.add_zero]

theorem step_balanced (bit : Nat) (system : System) (action : Action) (next : System)
    (stepped : step system action = some next) :
    level bit system + (turnsOn bit system action).toNat =
      level bit next +
        ((consumes bit system action).toNat + (turnsOff bit system action).toNat) := by
  cases action with
  | set thread flagsToSet setOption =>
      have balanced := set_balanced bit system next thread flagsToSet setOption stepped
      simpa only [consumes, Bool.toNat_false, Nat.zero_add] using balanced
  | enter thread requestedFlags getOption waitOption stackTimeout tickCount =>
      have same := enter_some stepped
      simp only [level, System.current, same, turnsOn, consumes, turnsOff, Bool.toNat_false,
        Nat.add_zero]
  | pass thread tickCount =>
      have balanced := pass_balanced bit system next thread tickCount stepped
      simpa only [turnsOn, turnsOff, Bool.toNat_false, Nat.add_zero] using balanced

theorem ledger_balance (bit : Nat) (system final : System) (schedule : List Action)
    (executed : run step system schedule = some final) :
    level bit system + occurrences step (turnsOn bit) system schedule =
      level bit final + (occurrences step (consumes bit) system schedule +
        occurrences step (turnsOff bit) system schedule) := by
  have balanced := balance step (level bit) _ _ (step_balanced bit) system final schedule executed
  rw [total_add] at balanced
  exact balanced

private theorem consumes_high (bit : Nat) (system : System) (action : Action)
    (consumed : consumes bit system action = true) :
    level bit system = 1 ∧ turnsOn bit system action = false := by
  cases action with
  | set thread flagsToSet setOption => cases consumed
  | enter thread requestedFlags getOption waitOption stackTimeout tickCount => cases consumed
  | pass thread tickCount =>
      obtain ⟨call, _, facts⟩ := (Option.any_eq_true _ _).mp consumed
      have high : system.current.getLsbD bit = true := (Bool.and_eq_true_iff.mp facts).2
      exact ⟨by rw [level, high]; rfl, rfl⟩

theorem consumed_low (bit : Nat) (system next : System) (action : Action)
    (stepped : step system action = some next)
    (consumed : consumes bit system action = true) : level bit next = 0 := by
  have before := consumes_high bit system action consumed
  have balanced := step_balanced bit system action next stepped
  simp only [before.1, before.2, consumed, Bool.toNat_true, Bool.toNat_false] at balanced
  omega

/-- Between two consumptions of a bit some `TX_OR` set turned it on. -/
theorem set_between (bit : Nat) (first second : Action) (middle : List Action)
    (start stop : System) (consumedFirst : consumes bit start first = true)
    (executed : run step start (first :: middle) = some stop)
    (consumedSecond : consumes bit stop second = true) :
    ∃ before setter after reached, middle = before ++ setter :: after ∧
      run step start (first :: before) = some reached ∧ turnsOn bit reached setter = true := by
  obtain ⟨next, stepped, remaining⟩ := run_cons_some step executed
  have low := consumed_low bit start next first stepped consumedFirst
  have high := (consumes_high bit stop second consumedSecond).1
  have balanced := ledger_balance bit next stop middle remaining
  have positive : 0 < occurrences step (turnsOn bit) next middle := by omega
  obtain ⟨before, setter, after, reached, split, ran, turned⟩ :=
    occurrence_found step (turnsOn bit) next middle positive
  refine ⟨before, setter, after, reached, split, ?_, turned⟩
  simp [stepped, ran]

/-- Every rise of a bit is accounted for by one consumption, one `TX_AND` set
or the bit still being set; consumptions alternate with `TX_OR` sets; the other
passes leave the group alone. -/
theorem every_event_accounted (name : Option String) (schedule : List Action) (final : System)
    (executed : run step (created name) schedule = some final) :
    (∀ bit, occurrences step (turnsOn bit) (created name) schedule =
      occurrences step (consumes bit) (created name) schedule +
        occurrences step (turnsOff bit) (created name) schedule + level bit final) ∧
    (∀ bit done first middle second rest start stop,
      schedule = done ++ (first :: middle) ++ second :: rest →
      run step (created name) done = some start → consumes bit start first = true →
      run step start (first :: middle) = some stop → consumes bit stop second = true →
      ∃ before setter after reached, middle = before ++ setter :: after ∧
        run step start (first :: before) = some reached ∧ turnsOn bit reached setter = true) ∧
    (∀ done thread tickCount rest system call next,
      schedule = done ++ .pass thread tickCount :: rest →
      run step (created name) done = some system → system.calls thread = some call →
      step system (.pass thread tickCount) = some next →
      (¬ Satisfied call.getOption call.requestedFlags system.current ∨
        ¬ Clears call.getOption) →
      next.current = system.current) := by
  refine ⟨?_, ?_, ?_⟩
  · intro bit
    have initial : level bit (created name) = 0 := by
      simp [level, created, txEventFlagsCreate, System.current]
    have balanced := ledger_balance bit (created name) final schedule executed
    omega
  · intro bit done first middle second rest start stop _ _ consumedFirst ran consumedSecond
    exact set_between bit first second middle start stop consumedFirst ran consumedSecond
  · intro done thread tickCount rest system call next _ _ present stepped idle
    obtain ⟨found, same, after⟩ := pass_some stepped
    have equal : found = call := Option.some.inj (same.symm.trans present)
    rw [System.current, after, equal,
      loopPass_keeps system.group call.requestedFlags call.getOption idle]

/-- A set of two flags, of which a clearing getter takes one. -/
theorem one_flag_accounted :
    ∃ final, run step (created none)
        [.set 1 3 txOr, .enter 2 1 txOrClear txWaitForever 0 0, .pass 2 0] = some final ∧
      ∀ bit, occurrences step (turnsOn bit) (created none)
          [.set 1 3 txOr, .enter 2 1 txOrClear txWaitForever 0 0, .pass 2 0] =
        occurrences step (consumes bit) (created none)
            [.set 1 3 txOr, .enter 2 1 txOrClear txWaitForever 0 0, .pass 2 0] +
          occurrences step (turnsOff bit) (created none)
            [.set 1 3 txOr, .enter 2 1 txOrClear txWaitForever 0 0, .pass 2 0] +
          level bit final :=
  ⟨_, rfl, (every_event_accounted none _ _ rfl).1⟩

end UsbxNxdk.EventFlagsLedger
