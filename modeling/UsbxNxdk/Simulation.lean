import UsbxNxdk.Execution
import Mathlib.Data.Option.Basic

/-! Machines that answer their inputs one by one, machines that take labelled
steps, and the rules by which one of them refines another. -/

namespace UsbxNxdk.Simulation

section Machines

variable {State Input Answer : Type*}

def trace (step : State → Input → Option (Answer × State)) :
    State → List Input → Option (List (Answer × State))
  | _, [] => some []
  | state, input :: rest =>
      (step state input).bind fun answered =>
        (trace step answered.2 rest).map fun later => answered :: later

def replay (step : State → Input → Answer × State) : State → List Input → List (Answer × State)
  | _, [] => []
  | state, input :: rest => step state input :: replay step (step state input).2 rest

end Machines

section Refinement

variable {Concrete Abstract Input Answer : Type*}
  {concrete : Concrete → Input → Option (Answer × Concrete)}
  {abstract : Abstract → Input → Answer × Abstract} {abstraction : Concrete → Abstract}

/-- Every concrete step is defined, answers as the abstract one does, and leads
to a state that stands for the abstract one behind it. -/
def Refines (concrete : Concrete → Input → Option (Answer × Concrete))
    (abstract : Abstract → Input → Answer × Abstract) (abstraction : Concrete → Abstract) : Prop :=
  ∀ state input, ∃ answered, concrete state input = some answered ∧
    (answered.1, abstraction answered.2) = abstract (abstraction state) input

theorem refines_trace (refines : Refines concrete abstract abstraction) (state : Concrete)
    (inputs : List Input) :
    (trace concrete state inputs).map
        (List.map fun answered => (answered.1, abstraction answered.2)) =
      some (replay abstract (abstraction state) inputs) := by
  induction inputs generalizing state with
  | nil => rfl
  | cons input rest ih =>
      rcases refines state input with ⟨answered, stepped, same⟩
      have later := ih answered.2
      rw [trace, replay, stepped, Option.bind_some, Option.map_map, ← same]
      rcases Option.map_eq_some_iff.mp later with ⟨following, traced, matched⟩
      rw [traced, Option.map_some, ← matched]
      rfl

end Refinement

section Relations

variable {Concrete Abstract Input Request Answer Report : Type*}
  {concrete : Concrete → Input → Option (Answer × Concrete)}
  {transition : Abstract → Request → Report → Abstract → Prop}

def Permitted (transition : Abstract → Request → Report → Abstract → Prop) :
    Abstract → List Request → List (Report × Abstract) → Prop
  | _, [], [] => True
  | state, request :: rest, answered :: later =>
      transition state request answered.1 answered.2 ∧ Permitted transition answered.2 rest later
  | _, _, _ => False

/-- Where an invariant holds, every concrete step is defined, keeps it, and is
one that the relation permits when states, inputs and answers are read in its
terms. -/
def Simulates (concrete : Concrete → Input → Option (Answer × Concrete))
    (transition : Abstract → Request → Report → Abstract → Prop) (invariant : Concrete → Prop)
    (abstraction : Concrete → Abstract) (request : Input → Request) (report : Answer → Report) :
    Prop :=
  ∀ state input, invariant state → ∃ answered, concrete state input = some answered ∧
    invariant answered.2 ∧
    transition (abstraction state) (request input) (report answered.1) (abstraction answered.2)

theorem simulates_trace {invariant : Concrete → Prop} {abstraction : Concrete → Abstract}
    {request : Input → Request} {report : Answer → Report}
    (simulates : Simulates concrete transition invariant abstraction request report)
    (state : Concrete) (inputs : List Input) (sound : invariant state) :
    ∃ answers, trace concrete state inputs = some answers ∧
      Permitted transition (abstraction state) (inputs.map request)
        (answers.map fun answered => (report answered.1, abstraction answered.2)) := by
  induction inputs generalizing state with
  | nil => exact ⟨[], rfl, trivial⟩
  | cons input rest ih =>
      rcases simulates state input sound with ⟨answered, stepped, kept, permitted⟩
      rcases ih answered.2 kept with ⟨later, traced, following⟩
      refine ⟨answered :: later, ?_, permitted, following⟩
      rw [trace, stepped, Option.bind_some, traced, Option.map_some]

end Relations

section Runs

open Execution

variable {Concrete Abstract Label Mark : Type*} {concrete : Concrete → Label → Option Concrete}
  {abstract : Abstract → Mark → Option Abstract} {related : Concrete → Abstract → Prop}
  {marks : Concrete → Label → List Mark}

/-- Every concrete step is a list of abstract steps between related states. -/
def Mirrors (concrete : Concrete → Label → Option Concrete)
    (abstract : Abstract → Mark → Option Abstract) (related : Concrete → Abstract → Prop)
    (marks : Concrete → Label → List Mark) : Prop :=
  ∀ state label next spec, related state spec → concrete state label = some next →
    ∃ after, run abstract spec (marks state label) = some after ∧ related next after

def mirrored (concrete : Concrete → Label → Option Concrete)
    (marks : Concrete → Label → List Mark) : Concrete → List Label → List Mark
  | _, [] => []
  | state, label :: rest =>
      marks state label ++
        match concrete state label with
        | some next => mirrored concrete marks next rest
        | none => []

theorem mirrored_cons {state next : Concrete} {label : Label}
    (stepped : concrete state label = some next) (rest : List Label) :
    mirrored concrete marks state (label :: rest) =
      marks state label ++ mirrored concrete marks next rest := by
  rw [mirrored, stepped]

theorem mirrors_run (mirrors : Mirrors concrete abstract related marks) {state final : Concrete}
    {spec : Abstract} {schedule : List Label} (start : related state spec)
    (executed : run concrete state schedule = some final) :
    ∃ after, run abstract spec (mirrored concrete marks state schedule) = some after ∧
      related final after := by
  induction schedule generalizing state spec with
  | nil =>
      cases executed
      exact ⟨spec, rfl, start⟩
  | cons label rest ih =>
      rcases run_cons_some concrete executed with ⟨next, stepped, remaining⟩
      rcases mirrors state label next spec start stepped with ⟨middle, first, between⟩
      rcases ih between remaining with ⟨after, later, ends⟩
      refine ⟨after, ?_, ends⟩
      rw [mirrored_cons stepped, run_append, first, Option.bind_some, later]

end Runs

end UsbxNxdk.Simulation
