import Mathlib.Data.List.Basic

/-! Finite executions of a partial step function. A schedule is a list of
labels; a label the state does not enable makes the step undefined. -/

namespace UsbxNxdk.Execution

variable {State Label : Type*} (step : State → Label → Option State)

/-- The state after a schedule, when every step of it is enabled. -/
def run (state : State) (schedule : List Label) : Option State :=
  schedule.foldlM step state

/-- `holds` in the initial state and in every state the schedule reaches. -/
def Always (holds : State → Prop) : State → List Label → Prop
  | state, [] => holds state
  | state, label :: rest =>
      holds state ∧ ∀ next, step state label = some next → Always holds next rest

/-- Every step the schedule takes meets `allowed` in the state before it. -/
def Along (allowed : State → Label → Prop) : State → List Label → Prop
  | _, [] => True
  | state, label :: rest =>
      ∀ next, step state label = some next → allowed state label ∧ Along allowed next rest

@[simp] theorem run_nil (state : State) : run step state ([] : List Label) = some state := rfl

@[simp] theorem run_cons (state : State) (label : Label) (rest : List Label) :
    run step state (label :: rest) = (step state label).bind fun next => run step next rest := rfl

theorem run_append (state : State) (first second : List Label) :
    run step state (first ++ second) =
      (run step state first).bind fun middle => run step middle second := by
  simp only [run, List.foldlM_append]
  rfl

theorem run_cons_some {state final : State} {label : Label} {rest : List Label}
    (executed : run step state (label :: rest) = some final) :
    ∃ next, step state label = some next ∧ run step next rest = some final := by
  rw [run_cons] at executed
  exact Option.bind_eq_some_iff.mp executed

theorem run_append_some {state final : State} {first second : List Label}
    (executed : run step state (first ++ second) = some final) :
    ∃ middle, run step state first = some middle ∧ run step middle second = some final := by
  rw [run_append] at executed
  exact Option.bind_eq_some_iff.mp executed

theorem always_head (holds : State → Prop) (state : State) (schedule : List Label)
    (all : Always step holds state schedule) : holds state := by
  cases schedule with
  | nil => exact all
  | cons label rest => exact all.1

theorem always_iff (holds : State → Prop) (state : State) (schedule : List Label) :
    Always step holds state schedule ↔
      ∀ done rest reached, schedule = done ++ rest → run step state done = some reached →
        holds reached := by
  induction schedule generalizing state with
  | nil =>
      constructor
      · intro now done rest reached split executed
        obtain ⟨rfl, rfl⟩ := List.append_eq_nil_iff.mp split.symm
        have same : state = reached := by simpa using executed
        exact same ▸ now
      · intro every
        exact every [] [] state rfl rfl
  | cons label tail ih =>
      constructor
      · rintro ⟨now, later⟩ done rest reached split executed
        cases done with
        | nil =>
            have same : state = reached := by simpa using executed
            exact same ▸ now
        | cons first done =>
            obtain ⟨rfl, tailSplit⟩ := List.cons.inj split
            obtain ⟨next, stepped, remaining⟩ := run_cons_some step executed
            exact (ih next).mp (later next stepped) done rest reached tailSplit remaining
      · intro every
        constructor
        · exact every [] (label :: tail) state rfl rfl
        · intro next stepped
          apply (ih next).mpr
          intro done rest reached split executed
          apply every (label :: done) rest reached (by rw [split, List.cons_append])
          simp [stepped, executed]

theorem along_cons {allowed : State → Label → Prop} {state next : State} {label : Label}
    {rest : List Label} (stepped : step state label = some next) (now : allowed state label)
    (later : Along step allowed next rest) : Along step allowed state (label :: rest) := by
  intro other same
  have equal : next = other := Option.some.inj (stepped.symm.trans same)
  exact ⟨now, equal ▸ later⟩

theorem along_mono {allowed weaker : State → Label → Prop}
    (implies : ∀ state label, allowed state label → weaker state label)
    (state : State) (schedule : List Label) (all : Along step allowed state schedule) :
    Along step weaker state schedule := by
  induction schedule generalizing state with
  | nil => trivial
  | cons label rest ih =>
      intro next stepped
      exact ⟨implies state label (all next stepped).1, ih next (all next stepped).2⟩

theorem along_some {allowed : State → Label → Prop} {state next : State} {label : Label}
    {rest : List Label} (stepped : step state label = some next) :
    Along step allowed state (label :: rest) ↔
      allowed state label ∧ Along step allowed next rest :=
  ⟨fun all => all next stepped, fun both => along_cons step stepped both.1 both.2⟩

theorem along_none {allowed : State → Label → Prop} {state : State} {label : Label}
    {rest : List Label} (stuck : step state label = none) :
    Along step allowed state (label :: rest) := by
  intro next stepped
  rw [stuck] at stepped
  cases stepped

instance decidableAlong {allowed : State → Label → Prop}
    [∀ state label, Decidable (allowed state label)] :
    ∀ state schedule, Decidable (Along step allowed state schedule)
  | _, [] => .isTrue trivial
  | state, label :: rest =>
      match stepped : step state label with
      | none => .isTrue (along_none step stepped)
      | some next =>
          letI : Decidable (Along step allowed next rest) := decidableAlong next rest
          decidable_of_iff _ (along_some step stepped).symm

theorem always_mono {holds weaker : State → Prop} (implies : ∀ state, holds state → weaker state)
    (state : State) (schedule : List Label) (all : Always step holds state schedule) :
    Always step weaker state schedule := by
  induction schedule generalizing state with
  | nil => exact implies state all
  | cons label rest ih =>
      exact ⟨implies state all.1, fun next stepped => ih next (all.2 next stepped)⟩

theorem along_iff {first second : State → Label → Prop}
    (same : ∀ state label next, step state label = some next →
      (first state label ↔ second state label))
    (state : State) (schedule : List Label) :
    Along step first state schedule ↔ Along step second state schedule := by
  induction schedule generalizing state with
  | nil => exact Iff.rfl
  | cons label rest ih =>
      apply forall_congr'
      intro next
      apply imp_congr_right
      intro stepped
      exact and_congr (same state label next stepped) (ih next)

theorem along_and (first second : State → Label → Prop) (state : State) (schedule : List Label) :
    Along step (fun state label => first state label ∧ second state label) state schedule ↔
      Along step first state schedule ∧ Along step second state schedule := by
  induction schedule generalizing state with
  | nil => exact (and_self_iff).symm
  | cons label rest ih =>
      constructor
      · intro both
        constructor
        · exact fun next stepped =>
            ⟨(both next stepped).1.1, ((ih next).mp (both next stepped).2).1⟩
        · exact fun next stepped =>
            ⟨(both next stepped).1.2, ((ih next).mp (both next stepped).2).2⟩
      · rintro ⟨one, other⟩ next stepped
        have now := one next stepped
        have also := other next stepped
        exact ⟨⟨now.1, also.1⟩, (ih next).mpr ⟨now.2, also.2⟩⟩

theorem always_of_along (invariant : State → Prop) (allowed : State → Label → Prop)
    (preserved : ∀ state label next, invariant state → allowed state label →
      step state label = some next → invariant next)
    (state : State) (schedule : List Label) (initial : invariant state)
    (all : Along step allowed state schedule) : Always step invariant state schedule := by
  induction schedule generalizing state with
  | nil => exact initial
  | cons label rest ih =>
      constructor
      · exact initial
      · intro next stepped
        obtain ⟨now, later⟩ := all next stepped
        exact ih next (preserved state label next initial now stepped) later

theorem always_invariant (invariant : State → Prop)
    (preserved : ∀ state label next, invariant state → step state label = some next →
      invariant next)
    (state : State) (schedule : List Label) (initial : invariant state) :
    Always step invariant state schedule := by
  induction schedule generalizing state with
  | nil => exact initial
  | cons label rest ih =>
      exact ⟨initial, fun next stepped => ih next (preserved state label next initial stepped)⟩

theorem along_of_always {invariant : State → Prop} {allowed : State → Label → Prop}
    (implies : ∀ state label next, invariant state → step state label = some next →
      allowed state label)
    (state : State) (schedule : List Label) (all : Always step invariant state schedule) :
    Along step allowed state schedule := by
  induction schedule generalizing state with
  | nil => trivial
  | cons label rest ih =>
      intro next stepped
      exact ⟨implies state label next all.1 stepped, ih next (all.2 next stepped)⟩

theorem along_of_steps {allowed : State → Label → Prop}
    (every : ∀ state label next, step state label = some next → allowed state label)
    (state : State) (schedule : List Label) : Along step allowed state schedule := by
  induction schedule generalizing state with
  | nil => trivial
  | cons label rest ih => exact fun next stepped => ⟨every state label next stepped, ih next⟩

theorem along_of_labels {allowed : Label → Prop} (schedule : List Label)
    (every : ∀ label ∈ schedule, allowed label) (state : State) :
    Along step (fun _ label => allowed label) state schedule := by
  induction schedule generalizing state with
  | nil => trivial
  | cons label rest ih =>
      intro next _
      constructor
      · exact every label List.mem_cons_self
      · exact ih (fun other member => every other (List.mem_cons_of_mem label member)) next

theorem along_iff_of_always {invariant : State → Prop} {first second : State → Label → Prop}
    (same : ∀ state label next, invariant state → step state label = some next →
      (first state label ↔ second state label))
    (state : State) (schedule : List Label) (all : Always step invariant state schedule) :
    Along step first state schedule ↔ Along step second state schedule := by
  induction schedule generalizing state with
  | nil => exact Iff.rfl
  | cons label rest ih =>
      apply forall_congr'
      intro next
      apply imp_congr_right
      intro stepped
      exact and_congr (same state label next all.1 stepped) (ih next (all.2 next stepped))

/-- An execution takes allowed steps only and keeps one property, or it takes
another step, which brings about the other property, and keeps that. -/
theorem run_divided (kept broken : State → Prop) (allowed : State → Label → Prop)
    (keeps : ∀ state label next, kept state → allowed state label →
      step state label = some next → kept next)
    (breaks : ∀ state label next, kept state → ¬ allowed state label →
      step state label = some next → broken next)
    (stays : ∀ state label next, broken state → step state label = some next → broken next)
    {state final : State} {schedule : List Label} (start : kept state)
    (executed : run step state schedule = some final) :
    (Along step allowed state schedule ∧ kept final) ∨
      (¬ Along step allowed state schedule ∧ broken final) := by
  induction schedule generalizing state with
  | nil =>
      cases executed
      exact Or.inl ⟨trivial, start⟩
  | cons label rest ih =>
      rcases run_cons_some step executed with ⟨next, stepped, remaining⟩
      by_cases now : allowed state label
      · rcases ih (keeps state label next start now stepped) remaining with still | later
        · exact Or.inl ⟨along_cons step stepped now still.1, still.2⟩
        · exact Or.inr ⟨fun along => later.1 (along next stepped).2, later.2⟩
      · have always := always_invariant step broken stays next rest
          (breaks state label next start now stepped)
        have reached := (always_iff step broken next rest).mp always rest [] final
          (List.append_nil rest).symm remaining
        exact Or.inr ⟨fun along => now (along next stepped).1, reached⟩

/-- When the allowed steps are exactly those that keep a property, the property
holds throughout an execution if and only if every step taken is allowed. -/
theorem always_iff_along (invariant holds : State → Prop) (allowed : State → Label → Prop)
    (sufficient : ∀ state, invariant state → holds state)
    (preserved : ∀ state label next, invariant state → allowed state label →
      step state label = some next → invariant next)
    (necessary : ∀ state label next, invariant state → step state label = some next →
      holds next → allowed state label)
    (state : State) (schedule : List Label) (initial : invariant state) :
    Always step holds state schedule ↔ Along step allowed state schedule := by
  constructor
  · intro all
    induction schedule generalizing state with
    | nil => trivial
    | cons label rest ih =>
        intro next stepped
        have later := all.2 next stepped
        have now := necessary state label next initial stepped
          (always_head step holds next rest later)
        exact ⟨now, ih next (preserved state label next initial now stepped) later⟩
  · intro all
    exact always_mono step sufficient state schedule
      (always_of_along step invariant allowed preserved state schedule initial all)

end UsbxNxdk.Execution
