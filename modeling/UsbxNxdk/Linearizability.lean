import Mathlib.Logic.Function.Basic
import UsbxNxdk.Execution

/-! Objects whose operations take effect at one moment between invocation and
response, and machines whose invocations and responses are theirs. -/

namespace UsbxNxdk.Linearizability

open Execution

variable {Thread Value Operation Response : Type*}

inductive Event (Thread Operation Response : Type*) where
  | invoke (thread : Thread) (operation : Operation)
  | respond (thread : Thread) (response : Response)

/-- A thread is outside, its operation is yet to take effect, or it is yet to be
told the response. -/
inductive Phase (Operation Response : Type*) where
  | outside
  | invoked (operation : Operation)
  | effected (response : Response)

structure Canonical (Thread Value Operation Response : Type*) where
  value : Value
  phase : Thread → Phase Operation Response

def Canonical.initial (value : Value) : Canonical Thread Value Operation Response where
  value := value
  phase := fun _ => .outside

structure Effected (Thread Operation Response : Type*) where
  thread : Thread
  operation : Operation
  response : Response

section Object

variable [DecidableEq Thread] (effect : Value → Operation → Response → Value → Prop)

/-- The histories of the object, with the order in which operations took effect. -/
inductive Reaches (start : Canonical Thread Value Operation Response) :
    List (Event Thread Operation Response) → List (Effected Thread Operation Response) →
      Canonical Thread Value Operation Response → Prop where
  | start : Reaches start [] [] start
  | invoke {events order} {canonical : Canonical Thread Value Operation Response}
      (thread : Thread) (operation : Operation) (before : Reaches start events order canonical)
      (outside : canonical.phase thread = .outside) :
      Reaches start (events ++ [.invoke thread operation]) order
        { canonical with phase := Function.update canonical.phase thread (.invoked operation) }
  | effect {events order} {canonical : Canonical Thread Value Operation Response} {thread : Thread}
      {operation : Operation} (response : Response) (value : Value)
      (before : Reaches start events order canonical)
      (invoked : canonical.phase thread = .invoked operation)
      (takes : effect canonical.value operation response value) :
      Reaches start events (order ++ [⟨thread, operation, response⟩])
        { value := value
          phase := Function.update canonical.phase thread (.effected response) }
  | respond {events order} {canonical : Canonical Thread Value Operation Response}
      {thread : Thread} {response : Response} (before : Reaches start events order canonical)
      (effected : canonical.phase thread = .effected response) :
      Reaches start (events ++ [.respond thread response]) order
        { canonical with phase := Function.update canonical.phase thread .outside }

def Sequential : Value → List (Effected Thread Operation Response) → Value → Prop
  | value, [], final => value = final
  | value, effected :: rest, final =>
      ∃ middle, effect value effected.operation effected.response middle ∧
        Sequential middle rest final

/-- The events are those of the object, whose operations, one after the other in
some order, lead to the final value. -/
def Linearizes (value : Value) (events : List (Event Thread Operation Response)) (final : Value) :
    Prop :=
  ∃ order after, Reaches effect (Canonical.initial value) events order after ∧
    after.value = final ∧ Sequential effect value order final

variable {effect}

omit [DecidableEq Thread] in
theorem sequential_append {first last : Value} {order : List (Effected Thread Operation Response)}
    {effected : Effected Thread Operation Response} {final : Value}
    (before : Sequential effect first order last)
    (takes : effect last effected.operation effected.response final) :
    Sequential effect first (order ++ [effected]) final := by
  induction order generalizing first with
  | nil =>
      cases before
      exact ⟨final, takes, rfl⟩
  | cons earlier rest ih =>
      rcases before with ⟨middle, now, later⟩
      exact ⟨middle, now, ih later⟩

theorem reaches_sequential {start final : Canonical Thread Value Operation Response}
    {events : List (Event Thread Operation Response)}
    {order : List (Effected Thread Operation Response)}
    (reaches : Reaches effect start events order final) :
    Sequential effect start.value order final.value := by
  induction reaches with
  | start => rfl
  | invoke thread operation before outside ih => exact ih
  | effect response value before invoked takes ih => exact sequential_append ih takes
  | respond before effected ih => exact ih

theorem reaches_trans {start middle final : Canonical Thread Value Operation Response}
    {events later : List (Event Thread Operation Response)}
    {order following : List (Effected Thread Operation Response)}
    (first : Reaches effect start events order middle)
    (second : Reaches effect middle later following final) :
    Reaches effect start (events ++ later) (order ++ following) final := by
  induction second with
  | start =>
      rw [List.append_nil, List.append_nil]
      exact first
  | invoke thread operation before outside ih =>
      rw [← List.append_assoc]
      exact .invoke thread operation ih outside
  | effect response value before invoked takes ih =>
      rw [← List.append_assoc]
      exact .effect response value ih invoked takes
  | respond before effected ih =>
      rw [← List.append_assoc]
      exact .respond ih effected

theorem reaches_told {value : Value} {canonical : Canonical Thread Value Operation Response}
    {events : List (Event Thread Operation Response)}
    {order : List (Effected Thread Operation Response)}
    (reaches : Reaches effect (Canonical.initial value) events order canonical) :
    (∀ thread response, canonical.phase thread = .effected response →
      ∃ operation, ⟨thread, operation, response⟩ ∈ order) ∧
    ∀ thread response, .respond thread response ∈ events →
      ∃ operation, ⟨thread, operation, response⟩ ∈ order := by
  induction reaches with
  | start => exact ⟨nofun, nofun⟩
  | invoke thread operation before outside ih =>
      constructor
      · intro other response effected
        by_cases own : other = thread
        · simp only [own, Function.update_self] at effected
          cases effected
        · simp only [Function.update_of_ne own] at effected
          exact ih.1 other response effected
      · intro other response told
        rcases List.mem_append.mp told with earlier | last
        · exact ih.2 other response earlier
        · cases List.mem_singleton.mp last
  | @effect events order canonical thread operation response value before invoked takes ih =>
      constructor
      · intro other answer effected
        by_cases own : other = thread
        · simp only [own, Function.update_self, Phase.effected.injEq] at effected
          exact ⟨operation, List.mem_append_right _ (own ▸ effected ▸ List.mem_singleton_self _)⟩
        · simp only [Function.update_of_ne own] at effected
          rcases ih.1 other answer effected with ⟨earlier, listed⟩
          exact ⟨earlier, List.mem_append_left _ listed⟩
      · intro other answer told
        rcases ih.2 other answer told with ⟨earlier, listed⟩
        exact ⟨earlier, List.mem_append_left _ listed⟩
  | @respond events order canonical thread response before effected ih =>
      constructor
      · intro other answer phase
        by_cases own : other = thread
        · simp only [own, Function.update_self] at phase
          cases phase
        · simp only [Function.update_of_ne own] at phase
          exact ih.1 other answer phase
      · intro other answer told
        rcases List.mem_append.mp told with earlier | last
        · exact ih.2 other answer earlier
        · cases List.mem_singleton.mp last
          exact ih.1 thread response effected

theorem reaches_once {canonical : Canonical Thread Value Operation Response} {thread : Thread}
    {operation : Operation} {response : Response} {value : Value}
    (outside : canonical.phase thread = .outside)
    (takes : effect canonical.value operation response value) :
    Reaches effect canonical [.invoke thread operation, .respond thread response]
      [⟨thread, operation, response⟩] { canonical with value := value } := by
  have started : Reaches effect canonical [] [] canonical := .start
  have invoked := started.invoke thread operation outside
  have effected := invoked.effect response value (Function.update_self _ _ _) takes
  have responded := effected.respond (Function.update_self _ _ _)
  have back : Function.update (Function.update (Function.update canonical.phase thread
      (.invoked operation)) thread (.effected response)) thread .outside = canonical.phase := by
    rw [Function.update_idem, Function.update_idem, ← outside, Function.update_eq_self]
  simp only [back] at responded
  exact responded

end Object

/-! ### Machines that follow an object -/

section Machine

variable {State Label : Type*} (step : State → Label → Option State)
  (events : State → Label → List (Event Thread Operation Response))

def history : State → List Label → List (Event Thread Operation Response)
  | _, [] => []
  | state, label :: rest =>
      match step state label with
      | none => []
      | some next => events state label ++ history next rest

variable [DecidableEq Thread] (effect : Value → Operation → Response → Value → Prop)

/-- Every allowed step is matched by moves of the object with the same events. -/
def Follows (allowed : State → Label → Prop)
    (stands : State → Canonical Thread Value Operation Response → Prop) : Prop :=
  ∀ state label next canonical, allowed state label → stands state canonical →
    step state label = some next →
      ∃ order after, Reaches effect canonical (events state label) order after ∧ stands next after

variable {step events effect}

theorem follows_run {allowed : State → Label → Prop}
    {stands : State → Canonical Thread Value Operation Response → Prop}
    (follows : Follows step events effect allowed stands) {state final : State}
    {canonical : Canonical Thread Value Operation Response} {schedule : List Label}
    (standing : stands state canonical) (along : Along step allowed state schedule)
    (ran : run step state schedule = some final) :
    ∃ order after, Reaches effect canonical (history step events state schedule) order after ∧
      stands final after := by
  induction schedule generalizing state canonical with
  | nil =>
      cases ran
      exact ⟨[], canonical, .start, standing⟩
  | cons label rest ih =>
      rcases run_cons_some step ran with ⟨next, stepped, remaining⟩
      rcases along next stepped with ⟨now, later⟩
      rcases follows state label next canonical now standing stepped with
        ⟨order, middle, first, kept⟩
      rcases ih kept later remaining with ⟨following, after, second, last⟩
      refine ⟨order ++ following, after, ?_, last⟩
      rw [history, stepped]
      exact reaches_trans first second

theorem follows_linearizes {allowed : State → Label → Prop}
    {stands : State → Canonical Thread Value Operation Response → Prop}
    (follows : Follows step events effect allowed stands) {state final : State} {value last : Value}
    {schedule : List Label} (standing : stands state (Canonical.initial value))
    (along : Along step allowed state schedule) (ran : run step state schedule = some final)
    (valued : ∀ after, stands final after → after.value = last) :
    Linearizes effect value (history step events state schedule) last := by
  rcases follows_run follows standing along ran with ⟨order, after, reaches, stood⟩
  have value := valued after stood
  exact ⟨order, after, reaches, value, value ▸ reaches_sequential reaches⟩

end Machine

end UsbxNxdk.Linearizability
