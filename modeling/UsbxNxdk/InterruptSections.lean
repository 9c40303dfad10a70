import Mathlib.Logic.Function.Basic
import UsbxNxdk.Execution

/-! What `TX_DISABLE` keeps away on the one processor: the other threads, but not
the interrupt of the USB controller. -/

namespace UsbxNxdk.InterruptSections

open Execution

abbrev KIRQL := Nat

def dispatchLevel : KIRQL := 2

structure LevelCalls where
  keRaiseIrqlToDpcLevel : KIRQL → KIRQL × KIRQL
  kfLowerIrql : KIRQL → KIRQL → KIRQL

/-- The raise is for callers at or below `DISPATCH_LEVEL`, the lowering for a level
not above the current one. -/
structure LevelCalls.Documented (calls : LevelCalls) : Prop where
  raises : ∀ level ≤ dispatchLevel, calls.keRaiseIrqlToDpcLevel level = (level, dispatchLevel)
  lowers : ∀ newIrql level, newIrql ≤ level → calls.kfLowerIrql newIrql level = newIrql

def txThreadInterruptDisable (calls : LevelCalls) (level : KIRQL) : KIRQL × KIRQL :=
  calls.keRaiseIrqlToDpcLevel level

def txThreadInterruptRestore (calls : LevelCalls) (oldPosture level : KIRQL) : KIRQL :=
  calls.kfLowerIrql oldPosture level

inductive Caller where
  | isr
  | irqProcess
  deriving DecidableEq, Repr

inductive IrqThread where
  | absent
  | waiting
  | handling
  deriving DecidableEq, Repr

inductive Startup where
  | fresh
  | threadCreated
  | connected
  deriving DecidableEq, Repr

/-- `saved` holds the `interrupt_save` of each section a thread is in, innermost
first, and `parked` the level a thread goes on with when it runs again.
`interrupts` and `handled` are history variables. -/
structure Processor where
  level : KIRQL
  running : Nat
  parked : Nat → KIRQL
  saved : Nat → List KIRQL
  startup : Startup
  dpcQueued : Bool
  evt : Bool
  irqThread : IrqThread
  interrupts : Nat
  handled : List Caller

inductive Action where
  | disable
  | restore
  | switch (thread : Nat)
  | relevel (level : KIRQL)
  | main
  | interrupt
  | dpc
  | irqProcess
  deriving DecidableEq, Repr

/-- The handler is called and the routine returns; its call of `KeInsertQueueDpc`
stands behind the return. -/
def isr (processor : Processor) : Processor :=
  { processor with handled := .isr :: processor.handled }

def dpc (processor : Processor) : Processor := { processor with evt := true }

/-- One round of the loop, in two steps. The event resets itself. -/
def irqProcess (processor : Processor) : Option Processor :=
  match processor.irqThread with
  | .absent => none
  | .waiting =>
      if processor.evt then some { processor with evt := false, irqThread := .handling } else none
  | .handling =>
      some
        { processor with
          handled := .irqProcess :: processor.handled
          irqThread := .waiting }

def main (processor : Processor) : Option Processor :=
  match processor.startup with
  | .fresh => some { processor with startup := .threadCreated, irqThread := .waiting }
  | .threadCreated => some { processor with startup := .connected }
  | .connected => none

/-- Threads are switched below `DISPATCH_LEVEL`, where deferred calls run, too; an
interrupt is taken below its own level, and its routine runs to the end. -/
def step (calls : LevelCalls) (irql : KIRQL) (processor : Processor) : Action → Option Processor
  | .disable =>
      let raised := txThreadInterruptDisable calls processor.level
      some
        { processor with
          level := raised.2
          saved := Function.update processor.saved processor.running
            (raised.1 :: processor.saved processor.running) }
  | .restore =>
      match processor.saved processor.running with
      | [] => none
      | interruptSave :: outer =>
          some
            { processor with
              level := txThreadInterruptRestore calls interruptSave processor.level
              saved := Function.update processor.saved processor.running outer }
  | .switch thread =>
      if processor.level < dispatchLevel then
        let parked := Function.update processor.parked processor.running processor.level
        some
          { processor with
            level := parked thread
            running := thread
            parked := parked }
      else none
  | .relevel level =>
      if processor.level < dispatchLevel ∧ level < dispatchLevel then
        some { processor with level := level }
      else none
  | .main => main processor
  | .interrupt =>
      if processor.startup = .connected ∧ processor.level < irql then
        some (isr { processor with interrupts := processor.interrupts + 1 })
      else none
  | .dpc =>
      if processor.dpcQueued ∧ processor.level < dispatchLevel then
        some (dpc { processor with dpcQueued := false })
      else none
  | .irqProcess => irqProcess processor

def initial : Processor where
  level := 0
  running := 0
  parked := fun _ => 0
  saved := fun _ => []
  startup := .fresh
  dpcQueued := false
  evt := false
  irqThread := .absent
  interrupts := 0
  handled := []

/-- One thread at most is in sections, and while it is no other runs; outside all
sections threads can be switched. The controller's interrupt is taken all the
same, and its handler has run once for each, in the interrupt service routine. -/
structure Guarded (calls : LevelCalls) (irql : KIRQL) (processor : Processor) : Prop where
  exclusive : ∀ first second, processor.saved first ≠ [] → processor.saved second ≠ [] →
    first = second
  held : ∀ thread, processor.saved thread ≠ [] →
    processor.running = thread ∧ ∀ other, step calls irql processor (.switch other) = none
  released : processor.saved processor.running = [] →
    ∀ other, (step calls irql processor (.switch other)).isSome = true
  unmasked : processor.startup = .connected → (step calls irql processor .interrupt).isSome = true
  handled : processor.handled = List.replicate processor.interrupts .isr

/-! ### The invariant -/

def Posture (level : KIRQL) : List KIRQL → Prop
  | [] => level < dispatchLevel
  | interruptSave :: outer => level = dispatchLevel ∧ Posture interruptSave outer

structure Kept (processor : Processor) : Prop where
  others : ∀ thread, thread ≠ processor.running → processor.saved thread = []
  posture : Posture processor.level (processor.saved processor.running)
  parked : ∀ thread, processor.parked thread < dispatchLevel
  undeferred : processor.dpcQueued = false ∧ processor.evt = false ∧
    processor.irqThread ≠ .handling
  handled : processor.handled = List.replicate processor.interrupts .isr

theorem posture_low {level : KIRQL} {saved : List KIRQL} (posture : Posture level saved)
    (low : level < dispatchLevel) : saved = [] := by
  cases saved with
  | nil => rfl
  | cons interruptSave outer => exact absurd posture.1 (Nat.ne_of_lt low)

theorem posture_top {level : KIRQL} {saved : List KIRQL} (posture : Posture level saved) :
    level ≤ dispatchLevel := by
  cases saved with
  | nil => exact Nat.le_of_lt posture
  | cons interruptSave outer => exact Nat.le_of_eq posture.1

theorem posture_raised {calls : LevelCalls} (documented : calls.Documented) {level : KIRQL}
    {saved : List KIRQL} (posture : Posture level saved) :
    Posture (txThreadInterruptDisable calls level).2
      ((txThreadInterruptDisable calls level).1 :: saved) := by
  rw [txThreadInterruptDisable, documented.raises level (posture_top posture)]
  exact ⟨rfl, posture⟩

theorem posture_lowered {calls : LevelCalls} (documented : calls.Documented)
    {level interruptSave : KIRQL} {outer : List KIRQL}
    (posture : Posture level (interruptSave :: outer)) :
    Posture (txThreadInterruptRestore calls interruptSave level) outer := by
  have below : interruptSave ≤ level := posture.1 ▸ posture_top posture.2
  rw [txThreadInterruptRestore, documented.lowers interruptSave level below]
  exact posture.2

theorem own_kept {processor : Processor} (kept : Kept processor) {level : KIRQL}
    {saved : List KIRQL} (posture : Posture level saved) :
    Kept
      { processor with
        level := level
        saved := Function.update processor.saved processor.running saved } where
  others := by
    intro thread other
    simp only [Function.update_of_ne other]
    exact kept.others thread other
  posture := by
    simp only [Function.update_self]
    exact posture
  parked := kept.parked
  undeferred := kept.undeferred
  handled := kept.handled

theorem switch_kept {processor : Processor} (kept : Kept processor)
    (low : processor.level < dispatchLevel) (thread : Nat) :
    Kept
      { processor with
        level := Function.update processor.parked processor.running processor.level thread
        running := thread
        parked := Function.update processor.parked processor.running processor.level } := by
  have nobody : ∀ other, processor.saved other = [] := by
    intro other
    by_cases own : other = processor.running
    · rw [own]
      exact posture_low kept.posture low
    · exact kept.others other own
  have below : ∀ other,
      Function.update processor.parked processor.running processor.level other < dispatchLevel := by
    intro other
    by_cases own : other = processor.running
    · rw [own, Function.update_self]
      exact low
    · rw [Function.update_of_ne own]
      exact kept.parked other
  constructor
  · exact fun other _ => nobody other
  · simp only [nobody]
    exact below thread
  · exact below
  · exact kept.undeferred
  · exact kept.handled

theorem startup_kept {processor next : Processor} (kept : Kept processor)
    (stepped : main processor = some next) : Kept next := by
  cases startup : processor.startup with
  | fresh =>
      simp only [main, startup, Option.some.injEq] at stepped
      subst stepped
      have idle : processor.dpcQueued = false ∧ processor.evt = false ∧
          IrqThread.waiting ≠ .handling :=
        ⟨kept.undeferred.1, kept.undeferred.2.1, nofun⟩
      exact ⟨kept.others, kept.posture, kept.parked, idle, kept.handled⟩
  | threadCreated =>
      simp only [main, startup, Option.some.injEq] at stepped
      subst stepped
      exact ⟨kept.others, kept.posture, kept.parked, kept.undeferred, kept.handled⟩
  | connected =>
      simp only [main, startup] at stepped
      cases stepped

theorem irqProcess_waits {processor : Processor} (kept : Kept processor) :
    irqProcess processor = none := by
  cases stage : processor.irqThread with
  | absent => simp only [irqProcess, stage]
  | waiting => simp [irqProcess, stage, kept.undeferred.2.1]
  | handling => exact absurd stage kept.undeferred.2.2

theorem step_kept {calls : LevelCalls} {irql : KIRQL} {processor next : Processor}
    (documented : calls.Documented) (kept : Kept processor) (action : Action)
    (stepped : step calls irql processor action = some next) : Kept next := by
  cases action with
  | disable =>
      cases stepped
      exact own_kept kept (posture_raised documented kept.posture)
  | restore =>
      have posture := kept.posture
      simp only [step] at stepped
      cases inner : processor.saved processor.running with
      | nil =>
          rw [inner] at stepped
          cases stepped
      | cons interruptSave outer =>
          rw [inner] at stepped posture
          cases stepped
          exact own_kept kept (posture_lowered documented posture)
  | switch thread =>
      simp only [step, Option.ite_none_right_eq_some, Option.some.injEq] at stepped
      rcases stepped with ⟨low, rfl⟩
      exact switch_kept kept low thread
  | relevel level =>
      simp only [step, Option.ite_none_right_eq_some, Option.some.injEq] at stepped
      rcases stepped with ⟨⟨low, lower⟩, rfl⟩
      have outside := posture_low kept.posture low
      have posture : Posture level (processor.saved processor.running) := by
        rw [outside]
        exact lower
      exact ⟨kept.others, posture, kept.parked, kept.undeferred, kept.handled⟩
  | main => exact startup_kept kept stepped
  | interrupt =>
      simp only [step, Option.ite_none_right_eq_some, Option.some.injEq] at stepped
      rcases stepped with ⟨_, rfl⟩
      have once : .isr :: processor.handled = List.replicate (processor.interrupts + 1) .isr := by
        rw [kept.handled, List.replicate_succ]
      exact ⟨kept.others, kept.posture, kept.parked, kept.undeferred, once⟩
  | dpc =>
      simp only [step, Option.ite_none_right_eq_some] at stepped
      have queued := stepped.1.1
      rw [kept.undeferred.1] at queued
      cases queued
  | irqProcess =>
      rw [step, irqProcess_waits kept] at stepped
      cases stepped

theorem kept_guarded {irql : KIRQL} (calls : LevelCalls) (device : dispatchLevel < irql)
    {processor : Processor} (kept : Kept processor) : Guarded calls irql processor := by
  have own : ∀ thread, processor.saved thread ≠ [] → processor.running = thread := by
    intro thread inside
    by_contra other
    exact inside (kept.others thread (Ne.symm other))
  constructor
  · intro first second firstInside secondInside
    exact (own first firstInside).symm.trans (own second secondInside)
  · intro thread inside
    have running := own thread inside
    refine ⟨running, fun other => if_neg ?_⟩
    intro low
    rw [← running] at inside
    exact inside (posture_low kept.posture low)
  · intro outside other
    have posture := kept.posture
    rw [outside] at posture
    simp only [step, if_pos (show processor.level < dispatchLevel from posture), Option.isSome_some]
  · intro connected
    have below : processor.level < irql := Nat.lt_of_le_of_lt (posture_top kept.posture) device
    simp only [step, connected, below, and_self, if_true, Option.isSome_some]
  · exact kept.handled

theorem initial_kept : Kept initial where
  others := fun _ _ => rfl
  posture := Nat.zero_lt_two
  parked := fun _ => Nat.zero_lt_two
  undeferred := ⟨rfl, rfl, nofun⟩
  handled := rfl

/-- The interrupt of a device lies above `DISPATCH_LEVEL`. -/
theorem sections_guarded {calls : LevelCalls} (documented : calls.Documented) {irql : KIRQL}
    (device : dispatchLevel < irql) (schedule : List Action) :
    Always (step calls irql) (Guarded calls irql) initial schedule := by
  have kept : Always (step calls irql) Kept initial schedule :=
    always_invariant (step calls irql) Kept
      (fun _ action _ kept stepped => step_kept documented kept action stepped) initial schedule
      initial_kept
  exact always_mono (step calls irql) (fun _ => kept_guarded calls device) initial schedule kept

def plainCalls : LevelCalls where
  keRaiseIrqlToDpcLevel := fun level => (level, dispatchLevel)
  kfLowerIrql := fun newIrql _ => newIrql

/-- A section in a section, entered after the interrupt has been connected. -/
theorem nested_guarded :
    plainCalls.Documented ∧ dispatchLevel < 25 ∧
      Always (step plainCalls 25) (Guarded plainCalls 25) initial
        [.main, .main, .disable, .disable, .interrupt, .restore, .restore, .switch 1] := by
  have documented : plainCalls.Documented := ⟨fun _ _ => rfl, fun _ _ _ => rfl⟩
  exact ⟨documented, by decide, sections_guarded documented (by decide) _⟩

end UsbxNxdk.InterruptSections
