import UsbxNxdk.Execution

/-! Bookkeeping along finite executions: total weights of the steps taken, and
the balance of a level that gains and losses account for. -/

namespace UsbxNxdk.Ledger

open Execution

variable {State Label : Type*} (step : State → Label → Option State)

def total (weight : State → Label → Nat) : State → List Label → Nat
  | _, [] => 0
  | state, label :: rest =>
      match step state label with
      | none => 0
      | some next => weight state label + total weight next rest

def occurrences (event : State → Label → Bool) : State → List Label → Nat :=
  total step fun state label => (event state label).toNat

theorem total_cons (weight : State → Label → Nat) {state next : State} {label : Label}
    (rest : List Label) (stepped : step state label = some next) :
    total step weight state (label :: rest) =
      weight state label + total step weight next rest := by
  simp only [total, stepped]

theorem total_add (first second : State → Label → Nat) (state : State) (schedule : List Label) :
    total step (fun state label => first state label + second state label) state schedule =
      total step first state schedule + total step second state schedule := by
  induction schedule generalizing state with
  | nil => rfl
  | cons label rest ih =>
      cases stepped : step state label with
      | none => simp only [total, stepped]
      | some next =>
          simp only [total, stepped, ih]
          omega

/-- A level that every step changes by its gain minus its loss ends at its
initial value plus all gains minus all losses. -/
theorem balance (level : State → Nat) (gain loss : State → Label → Nat)
    (balanced : ∀ state label next, step state label = some next →
      level state + gain state label = level next + loss state label)
    (state final : State) (schedule : List Label)
    (executed : run step state schedule = some final) :
    level state + total step gain state schedule =
      level final + total step loss state schedule := by
  induction schedule generalizing state with
  | nil =>
      have same : state = final := by simpa using executed
      rw [same]
      rfl
  | cons label rest ih =>
      obtain ⟨next, stepped, remaining⟩ := run_cons_some step executed
      have now := balanced state label next stepped
      have later := ih next remaining
      rw [total_cons step gain rest stepped, total_cons step loss rest stepped]
      omega

theorem total_positive (weight : State → Label → Nat) (state : State) (schedule : List Label)
    (positive : 0 < total step weight state schedule) :
    ∃ done label rest reached, schedule = done ++ label :: rest ∧
      run step state done = some reached ∧ 0 < weight reached label := by
  induction schedule generalizing state with
  | nil => cases positive
  | cons label rest ih =>
      cases stepped : step state label with
      | none => simp only [total, stepped, Nat.lt_irrefl] at positive
      | some next =>
          by_cases now : 0 < weight state label
          · exact ⟨[], label, rest, state, rfl, rfl, now⟩
          · have later : 0 < total step weight next rest := by
              rw [total_cons step weight rest stepped] at positive
              omega
            obtain ⟨done, found, remaining, reached, split, executed, heavy⟩ := ih next later
            refine ⟨label :: done, found, remaining, reached, by rw [split]; rfl, ?_, heavy⟩
            simp [stepped, executed]

theorem occurrence_found (event : State → Label → Bool) (state : State) (schedule : List Label)
    (positive : 0 < occurrences step event state schedule) :
    ∃ done label rest reached, schedule = done ++ label :: rest ∧
      run step state done = some reached ∧ event reached label = true := by
  obtain ⟨done, label, rest, reached, split, executed, heavy⟩ :=
    total_positive step _ state schedule positive
  refine ⟨done, label, rest, reached, split, executed, ?_⟩
  cases happens : event reached label with
  | false => simp [happens] at heavy
  | true => rfl

end UsbxNxdk.Ledger
