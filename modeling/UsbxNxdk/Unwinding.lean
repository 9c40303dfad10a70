import UsbxNxdk.Execution

/-! Two executions of one machine, the second without the steps of some parties,
that the others cannot tell apart. -/

namespace UsbxNxdk.Unwinding

open Execution

variable {State Label Output : Type*} (step : State → Label → Option State) (own : Label → Bool)

def observations (seen : State → Label → Output) : State → List Label → List Output
  | _, [] => []
  | state, label :: rest =>
      match step state label with
      | none => []
      | some next =>
          if own label then seen state label :: observations seen next rest
          else observations seen next rest

/-- Between alike states an own step is enabled in both or in neither, shows the
same and leads to alike states, and a foreign step leads nowhere that is not
alike; a step that is not allowed is not considered. -/
structure Unwinds (allowed : Label → Prop) (seen : State → Label → Output)
    (alike : State → State → Prop) : Prop where
  owned : ∀ first second label next, alike first second → allowed label → own label = true →
    step first label = some next →
      seen first label = seen second label ∧
        ∃ other, step second label = some other ∧ alike next other
  foreign : ∀ first second label next, alike first second → allowed label → own label = false →
    step first label = some next → alike next second

variable {step own} {allowed : Label → Prop} {seen : State → Label → Output}
  {alike : State → State → Prop}

theorem unwinds_run (unwinds : Unwinds step own allowed seen alike) {first second final : State}
    {schedule : List Label} (start : alike first second)
    (every : ∀ label ∈ schedule, allowed label)
    (executed : run step first schedule = some final) :
    (∃ other, run step second (schedule.filter own) = some other ∧ alike final other) ∧
      observations step own seen first schedule =
        observations step own seen second (schedule.filter own) := by
  induction schedule generalizing first second with
  | nil =>
      cases executed
      exact ⟨⟨second, rfl, start⟩, rfl⟩
  | cons label rest ih =>
      rcases run_cons_some step executed with ⟨next, stepped, remaining⟩
      have now := every label List.mem_cons_self
      have later : ∀ other ∈ rest, allowed other :=
        fun other member => every other (List.mem_cons_of_mem label member)
      cases mine : own label with
      | true =>
          rcases unwinds.owned first second label next start now mine stepped with
            ⟨same, other, follows, still⟩
          rcases ih still later remaining with ⟨⟨reached, executedOther, ends⟩, shown⟩
          rw [List.filter_cons_of_pos mine]
          constructor
          · refine ⟨reached, ?_, ends⟩
            rw [run_cons, follows, Option.bind_some, executedOther]
          · simp only [observations, stepped, follows, if_pos mine]
            rw [same, shown]
      | false =>
          have still := unwinds.foreign first second label next start now mine stepped
          rcases ih still later remaining with ⟨ends, shown⟩
          have other : ¬ own label = true := by
            rw [mine]
            exact Bool.false_ne_true
          rw [List.filter_cons_of_neg other]
          refine ⟨ends, ?_⟩
          simp only [observations, stepped, if_neg other]
          exact shown

end UsbxNxdk.Unwinding
