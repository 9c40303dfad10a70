import UsbxNxdk.Execution
import UsbxNxdk.NvnetDriver

/-! Any number of interfaces attached at once, access by access. Nothing keeps
their searches of the instance table apart. -/

namespace UsbxNxdk.NvnetAttachments

open Execution NxApi NvnetDriver

inductive Write where
  | id
  | interfacePtr
  | ipPtr
  | macAddressMsw
  | macAddressLsw
  deriving DecidableEq, Repr

def writes : List Write := [.id, .interfacePtr, .ipPtr, .macAddressMsw, .macAddressLsw]

def Write.run (slot : Slot) (request : NxIpDriver) (driver : DriverInstance) :
    Write → DriverInstance
  | .id => { driver with id := BitVec.ofNat 32 slot.val }
  | .interfacePtr => { driver with interfacePtr := request.interfacePtr }
  | .ipPtr => { driver with ipPtr := request.ipPtr }
  | .macAddressMsw =>
      { driver with macAddress := { driver.macAddress with msw := simulatedAddressMsw } }
  | .macAddressLsw =>
      { driver with
        macAddress :=
          { driver.macAddress with lsw := simulatedAddressLsw + BitVec.ofNat 32 slot.val } }

/-- An attach looks for an instance that is not used, marks it, fills it in and
returns. -/
inductive Stage where
  | searching (rest : List Slot)
  | claiming (slot : Slot)
  | filling (slot : Slot) (remaining : List Write)
  | returned (found : Option Slot)
  deriving DecidableEq, Repr

structure Call where
  request : NxIpDriver
  stage : Stage

/-- `begun` is a history variable. -/
structure State where
  table : DriverTable
  calls : Nat → Option Call
  begun : List Nat

inductive Action where
  | enter (caller : Nat) (request : NxIpDriver)
  | advance (caller : Nat)

def statusOf : Option Slot → NxStatus
  | some _ => .success
  | none => .invalidInterface

def advance (table : DriverTable) (request : NxIpDriver) : Stage → Option (DriverTable × Stage)
  | .searching [] => some (table, .returned none)
  | .searching (slot :: rest) =>
      if (table slot).inUse = 0 then some (table, .claiming slot)
      else some (table, .searching rest)
  | .claiming slot =>
      some (Function.update table slot { table slot with inUse := 1 }, .filling slot writes)
  | .filling slot (write :: rest) =>
      some (Function.update table slot (write.run slot request (table slot)), .filling slot rest)
  | .filling slot [] => some (table, .returned (some slot))
  | .returned _ => none

def State.store (state : State) (table : DriverTable) (caller : Nat) (call : Call) : State :=
  { state with
    table := table
    calls := Function.update state.calls caller (some call) }

def initial (table : DriverTable) : State where
  table := table
  calls := fun _ => none
  begun := []

def step (state : State) : Action → Option State
  | .enter caller request =>
      if caller ∉ state.begun ∧ request.command = .interfaceAttach ∧ request.interfacePtr ≠ 0 then
        some
          { state with
            calls := Function.update state.calls caller
              (some ⟨request, .searching (List.finRange 4)⟩)
            begun := state.begun ++ [caller] }
      else none
  | .advance caller =>
      match state.calls caller with
      | none => none
      | some call =>
          (advance state.table call.request call.stage).map fun next =>
            state.store next.1 caller ⟨call.request, next.2⟩

def Stage.claim : Stage → Option Slot
  | .searching _ => none
  | .claiming slot => some slot
  | .filling slot _ => some slot
  | .returned found => found

def Claims (state : State) (caller : Nat) (slot : Slot) : Prop :=
  ∃ call, state.calls caller = some call ∧ call.stage.claim = some slot

/-- No two calls have found the same instance. -/
def Separate (state : State) : Prop :=
  ∀ first second slot, Claims state first slot → Claims state second slot → first = second

/-- No search looks at an instance that another one has found free and not marked. -/
def Apart (state : State) : Action → Prop
  | .advance caller => ∀ call slot rest, state.calls caller = some call →
      call.stage = .searching (slot :: rest) →
        ∀ other second, state.calls other = some second → second.stage ≠ .claiming slot
  | _ => True

def Quiet (state : State) : Prop :=
  ∀ caller ∈ state.begun, ∀ call ∈ state.calls caller,
    call.stage = .returned call.stage.claim

instance : DecidablePred Quiet := fun state =>
  inferInstanceAs (Decidable (∀ caller ∈ state.begun, ∀ call ∈ state.calls caller, _))

theorem writes_attached (slot : Slot) (request : NxIpDriver) (driver : DriverInstance) :
    writes.foldl (Write.run slot request) { driver with inUse := 1 } =
      attached slot request driver := rfl

theorem write_inUse (slot : Slot) (request : NxIpDriver) (driver : DriverInstance)
    (write : Write) : (write.run slot request driver).inUse = driver.inUse := by
  cases write <;> rfl

theorem writes_inUse (slot : Slot) (request : NxIpDriver) (remaining : List Write)
    (driver : DriverInstance) :
    (remaining.foldl (Write.run slot request) driver).inUse = driver.inUse := by
  induction remaining generalizing driver with
  | nil => rfl
  | cons write rest ih => exact (ih _).trans (write_inUse slot request driver write)

theorem advance_some {state next : State} {caller : Nat}
    (stepped : step state (.advance caller) = some next) :
    ∃ call table stage, state.calls caller = some call ∧
      advance state.table call.request call.stage = some (table, stage) ∧
      next = state.store table caller ⟨call.request, stage⟩ := by
  cases present : state.calls caller with
  | none => simp [step, present] at stepped
  | some call =>
      simp only [step, present] at stepped
      rcases Option.map_eq_some_iff.mp stepped with ⟨⟨table, stage⟩, advanced, rfl⟩
      exact ⟨call, table, stage, rfl, advanced, rfl⟩

/-! ### What holds in every run -/

def Stage.holds : Stage → Option Slot
  | .searching _ => none
  | .claiming _ => none
  | .filling slot _ => some slot
  | .returned found => found

def Passed (table : DriverTable) : Stage → Prop
  | .searching rest =>
      rest.Pairwise (· < ·) ∧ ∀ slot, slot ∉ rest → (table slot).inUse ≠ 0
  | .claiming slot => ∀ earlier < slot, (table earlier).inUse ≠ 0
  | _ => True

structure Sound (start : DriverTable) (state : State) : Prop where
  began : ∀ caller call, state.calls caller = some call →
    caller ∈ state.begun ∧ call.request.command = .interfaceAttach ∧
      call.request.interfacePtr ≠ 0
  kept : ∀ slot, (start slot).inUse ≠ 0 → (state.table slot).inUse ≠ 0
  fresh : ∀ caller slot, Claims state caller slot → (start slot).inUse = 0
  marked : ∀ caller call slot, state.calls caller = some call → call.stage.holds = some slot →
    (state.table slot).inUse ≠ 0
  marks : ∀ slot, (state.table slot).inUse ≠ 0 → (start slot).inUse ≠ 0 ∨
    ∃ caller call, state.calls caller = some call ∧ call.stage.holds = some slot
  passed : ∀ caller call, state.calls caller = some call → Passed state.table call.stage

theorem holds_claim {stage : Stage} {slot : Slot} (holds : stage.holds = some slot) :
    stage.claim = some slot := by
  cases stage with
  | searching rest => cases holds
  | claiming place => cases holds
  | filling place remaining => exact holds
  | returned found => exact holds

theorem passed_grown {before after : DriverTable} {stage : Stage}
    (grown : ∀ slot, (before slot).inUse ≠ 0 → (after slot).inUse ≠ 0)
    (passed : Passed before stage) : Passed after stage := by
  cases stage with
  | searching rest => exact ⟨passed.1, fun slot outside => grown slot (passed.2 slot outside)⟩
  | claiming slot => exact fun earlier below => grown earlier (passed earlier below)
  | filling slot remaining => trivial
  | returned found => trivial

section Calls

variable {state : State} {table : DriverTable} {caller : Nat} {call : Call}

theorem store_calls {other : Nat} {found : Call}
    (present : (state.store table caller call).calls other = some found) :
    other = caller ∧ found = call ∨ other ≠ caller ∧ state.calls other = some found := by
  simp only [State.store] at present
  by_cases own : other = caller
  · rw [own, Function.update_self] at present
    exact Or.inl ⟨own, (Option.some.inj present).symm⟩
  · rw [Function.update_of_ne own] at present
    exact Or.inr ⟨own, present⟩

theorem store_own : (state.store table caller call).calls caller = some call :=
  Function.update_self _ _ _

theorem store_other {other : Nat} (apart : other ≠ caller) :
    (state.store table caller call).calls other = state.calls other :=
  Function.update_of_ne apart _ _

end Calls

structure Moves (before after : DriverTable) (old new : Stage) : Prop where
  grown : ∀ slot, (before slot).inUse ≠ 0 → (after slot).inUse ≠ 0
  marked : ∀ slot, new.holds = some slot → (after slot).inUse ≠ 0
  marks : ∀ slot, (after slot).inUse ≠ 0 → (before slot).inUse ≠ 0 ∨ new.holds = some slot
  holds : ∀ slot, old.holds = some slot → new.holds = some slot
  keeps : ∀ slot, old.claim = some slot → new.claim = some slot
  finds : ∀ slot, new.claim = some slot →
    old.claim = some slot ∨ (before slot).inUse = 0 ∧ ∃ rest, old = .searching (slot :: rest)
  passed : Passed after new

theorem update_marked {before : DriverTable} {place : Slot} {changed : DriverInstance}
    (used : changed.inUse ≠ 0) {slot : Slot}
    (marked : slot = place ∨ (before slot).inUse ≠ 0) :
    (Function.update before place changed slot).inUse ≠ 0 := by
  by_cases own : slot = place
  · rw [own, Function.update_self]
    exact used
  · rw [Function.update_of_ne own]
    exact marked.resolve_left own

theorem advance_moves {before after : DriverTable} {request : NxIpDriver} {old new : Stage}
    (passed : Passed before old)
    (marked : ∀ slot, old.holds = some slot → (before slot).inUse ≠ 0)
    (advanced : advance before request old = some (after, new)) : Moves before after old new := by
  have stays : ∀ slot, (before slot).inUse ≠ 0 → (before slot).inUse ≠ 0 := fun _ used => used
  cases old with
  | searching rest =>
      cases rest with
      | nil =>
          cases advanced
          exact ⟨stays, nofun, fun _ used => Or.inl used, nofun, nofun, nofun, trivial⟩
      | cons slot rest =>
          simp only [advance] at advanced
          split at advanced
          · next free =>
              cases advanced
              refine ⟨stays, nofun, fun _ used => Or.inl used, nofun, nofun, ?_, ?_⟩
              · intro found same
                cases same
                exact Or.inr ⟨free, rest, rfl⟩
              · intro earlier below
                apply passed.2 earlier
                intro listed
                rcases List.mem_cons.mp listed with same | later
                · exact absurd (same ▸ below) (lt_irrefl _)
                · exact absurd (List.rel_of_pairwise_cons passed.1 later) (not_lt.mpr below.le)
          · next used =>
              cases advanced
              refine ⟨stays, nofun, fun _ used => Or.inl used, nofun, nofun, nofun, ?_⟩
              refine ⟨passed.1.of_cons, fun other outside => ?_⟩
              by_cases own : other = slot
              · exact own ▸ used
              · exact passed.2 other (List.not_mem_cons_of_ne_of_not_mem own outside)
  | claiming slot =>
      cases advanced
      have one : (1 : UINT) ≠ 0 := by decide
      refine ⟨fun other used => update_marked one (Or.inr used), ?_, ?_, nofun,
        fun _ same => same, fun _ same => Or.inl same, trivial⟩
      · intro other same
        exact update_marked one (Or.inl (Option.some.inj same).symm)
      · intro other used
        by_cases own : other = slot
        · exact Or.inr (congrArg some own.symm)
        · rw [Function.update_of_ne own] at used
          exact Or.inl used
  | filling slot remaining =>
      cases remaining with
      | nil =>
          cases advanced
          exact ⟨stays, marked, fun _ used => Or.inl used, fun _ same => same, fun _ same => same,
            fun _ same => Or.inl same, trivial⟩
      | cons write rest =>
          cases advanced
          have same : ∀ other,
              (Function.update before slot (write.run slot request (before slot)) other).inUse =
                (before other).inUse := by
            intro other
            by_cases own : other = slot
            · rw [own, Function.update_self, write_inUse]
            · rw [Function.update_of_ne own]
          refine ⟨?_, ?_, ?_, fun _ same => same, fun _ same => same,
            fun _ same => Or.inl same, trivial⟩
          · exact fun other used => (same other).symm ▸ used
          · exact fun other held => (same other).symm ▸ marked other held
          · exact fun other used => Or.inl ((same other) ▸ used)
  | returned found => cases advanced

theorem initial_sound (start : DriverTable) : Sound start (initial start) where
  began := nofun
  kept := fun _ used => used
  fresh := nofun
  marked := nofun
  marks := fun _ used => Or.inl used
  passed := nofun

theorem enter_some {state next : State} {caller : Nat} {request : NxIpDriver}
    (stepped : step state (.enter caller request) = some next) :
    (caller ∉ state.begun ∧ request.command = .interfaceAttach ∧ request.interfacePtr ≠ 0) ∧
      next =
        { state with
          calls := Function.update state.calls caller
            (some ⟨request, .searching (List.finRange 4)⟩)
          begun := state.begun ++ [caller] } := by
  simp only [step, Option.ite_none_right_eq_some, Option.some.injEq] at stepped
  exact ⟨stepped.1, stepped.2.symm⟩

theorem unbegun {start : DriverTable} {state : State} (sound : Sound start state) {caller : Nat}
    (unused : caller ∉ state.begun) : state.calls caller = none := by
  cases present : state.calls caller with
  | none => rfl
  | some call => exact absurd (sound.began caller call present).1 unused

theorem enter_sound {start : DriverTable} {state : State} (sound : Sound start state)
    {caller : Nat} {request : NxIpDriver} (unused : caller ∉ state.begun)
    (asked : request.command = .interfaceAttach ∧ request.interfacePtr ≠ 0) :
    Sound start
      { state with
        calls := Function.update state.calls caller (some ⟨request, .searching (List.finRange 4)⟩)
        begun := state.begun ++ [caller] } := by
  have absent := unbegun sound unused
  have told : ∀ other call, Function.update state.calls caller
      (some ⟨request, .searching (List.finRange 4)⟩) other = some call →
      other = caller ∧ call = ⟨request, .searching (List.finRange 4)⟩ ∨
        state.calls other = some call := by
    intro other call present
    rcases @store_calls state state.table _ _ _ _ present with ⟨own, same⟩ | ⟨_, before⟩
    · exact Or.inl ⟨own, same⟩
    · exact Or.inr before
  constructor
  · intro other call present
    rcases told other call present with ⟨rfl, rfl⟩ | before
    · exact ⟨List.mem_append_right _ List.mem_cons_self, asked⟩
    · have began := sound.began other call before
      exact ⟨List.mem_append_left _ began.1, began.2⟩
  · exact sound.kept
  · rintro other slot ⟨call, present, found⟩
    rcases told other call present with ⟨_, rfl⟩ | before
    · cases found
    · exact sound.fresh other slot ⟨call, before, found⟩
  · intro other call slot present held
    rcases told other call present with ⟨_, rfl⟩ | before
    · cases held
    · exact sound.marked other call slot before held
  · intro slot used
    rcases sound.marks slot used with first | ⟨other, call, present, held⟩
    · exact Or.inl first
    · refine Or.inr ⟨other, call, ?_, held⟩
      have apart : other ≠ caller := by
        rintro rfl
        rw [absent] at present
        cases present
      exact (Function.update_of_ne apart _ _).trans present
  · intro other call present
    rcases told other call present with ⟨_, rfl⟩ | before
    · refine ⟨List.pairwise_lt_finRange 4, ?_⟩
      intro slot outside
      exact absurd (List.mem_finRange slot) outside
    · exact sound.passed other call before

section Advance

variable {start : DriverTable} {state : State} {table : DriverTable} {caller : Nat} {call : Call}
  {stage : Stage}

theorem moved (sound : Sound start state) (present : state.calls caller = some call)
    (advanced : advance state.table call.request call.stage = some (table, stage)) :
    Moves state.table table call.stage stage :=
  advance_moves (sound.passed caller call present)
    (fun slot => sound.marked caller call slot present) advanced

theorem store_sound (sound : Sound start state) (present : state.calls caller = some call)
    (moves : Moves state.table table call.stage stage) :
    Sound start (state.store table caller ⟨call.request, stage⟩) := by
  constructor
  · intro other found stored
    rcases store_calls stored with ⟨rfl, rfl⟩ | ⟨_, before⟩
    · exact sound.began other call present
    · exact sound.began other found before
  · exact fun slot used => moves.grown slot (sound.kept slot used)
  · rintro other slot ⟨found, stored, claim⟩
    rcases store_calls stored with ⟨rfl, rfl⟩ | ⟨_, before⟩
    · rcases moves.finds slot claim with old | ⟨free, _⟩
      · exact sound.fresh other slot ⟨call, present, old⟩
      · exact Classical.not_not.mp (mt (sound.kept slot) (not_not_intro free))
    · exact sound.fresh other slot ⟨found, before, claim⟩
  · intro other found slot stored held
    rcases store_calls stored with ⟨_, rfl⟩ | ⟨_, before⟩
    · exact moves.marked slot held
    · exact moves.grown slot (sound.marked other found slot before held)
  · intro slot used
    rcases moves.marks slot used with earlier | held
    · rcases sound.marks slot earlier with first | ⟨other, found, before, held⟩
      · exact Or.inl first
      · by_cases own : other = caller
        · rw [own, present] at before
          cases before
          exact Or.inr ⟨caller, _, store_own, moves.holds slot held⟩
        · exact Or.inr ⟨other, found, (store_other own).trans before, held⟩
    · exact Or.inr ⟨caller, _, store_own, held⟩
  · intro other found stored
    rcases store_calls stored with ⟨_, rfl⟩ | ⟨_, before⟩
    · exact moves.passed
    · exact passed_grown moves.grown (sound.passed other found before)

theorem store_claims (present : state.calls caller = some call)
    (moves : Moves state.table table call.stage stage) {other : Nat} {slot : Slot}
    (claims : Claims state other slot) :
    Claims (state.store table caller ⟨call.request, stage⟩) other slot := by
  rcases claims with ⟨found, before, claim⟩
  by_cases own : other = caller
  · rw [own] at before ⊢
    rw [present] at before
    cases before
    exact ⟨_, store_own, moves.keeps slot claim⟩
  · exact ⟨found, (store_other own).trans before, claim⟩

end Advance

theorem step_sound {start : DriverTable} {state next : State} {action : Action}
    (sound : Sound start state) (stepped : step state action = some next) : Sound start next := by
  cases action with
  | enter caller request =>
      rcases enter_some stepped with ⟨⟨unused, asked⟩, rfl⟩
      exact enter_sound sound unused asked
  | advance caller =>
      rcases advance_some stepped with ⟨call, table, stage, present, advanced, rfl⟩
      exact store_sound sound present (moved sound present advanced)

theorem step_claims {start : DriverTable} {state next : State} {action : Action}
    (sound : Sound start state) (stepped : step state action = some next) {caller : Nat}
    {slot : Slot} (claims : Claims state caller slot) : Claims next caller slot := by
  cases action with
  | enter other request =>
      rcases enter_some stepped with ⟨⟨unused, _⟩, rfl⟩
      rcases claims with ⟨call, present, claim⟩
      have apart : caller ≠ other := by
        rintro rfl
        rw [unbegun sound unused] at present
        cases present
      exact ⟨call, (Function.update_of_ne apart _ _).trans present, claim⟩
  | advance other =>
      rcases advance_some stepped with ⟨call, table, stage, present, advanced, rfl⟩
      exact store_claims present (moved sound present advanced) claims

/-! ### Overlapping searches -/

/-- A search that looks between another one's look and its mark leaves two calls
with one instance: itself and that one, or that one and the one that has marked
the instance meanwhile. -/
theorem overlap_clashes {start : DriverTable} {state next : State} (sound : Sound start state)
    {caller other : Nat} {call second : Call} {slot : Slot} {rest : List Slot}
    (present : state.calls caller = some call) (looking : call.stage = .searching (slot :: rest))
    (also : state.calls other = some second) (claiming : second.stage = .claiming slot)
    (stepped : step state (.advance caller) = some next) : ¬ Separate next := by
  intro separate
  have found : Claims state other slot := ⟨second, also, by rw [claiming]; rfl⟩
  have kept := step_claims sound stepped found
  by_cases free : (state.table slot).inUse = 0
  · simp only [step, present, looking, advance, if_pos free] at stepped
    cases stepped
    have own := separate caller other slot ⟨_, store_own, rfl⟩ kept
    rw [own, also] at present
    cases present
    rw [claiming] at looking
    cases looking
  · rcases sound.marks slot free with first | ⟨third, marking, there, held⟩
    · exact first (sound.fresh other slot found)
    · have claims := step_claims sound stepped ⟨marking, there, holds_claim held⟩
      have own := separate third other slot claims kept
      rw [own, also] at there
      cases there
      rw [claiming] at held
      cases held

theorem separate_before {start : DriverTable} {state next : State} {action : Action}
    (sound : Sound start state) (stepped : step state action = some next)
    (separate : Separate next) : Separate state := by
  intro first second slot one two
  exact separate first second slot (step_claims sound stepped one) (step_claims sound stepped two)

theorem separate_apart {start : DriverTable} {state next : State} {action : Action}
    (sound : Sound start state) (stepped : step state action = some next)
    (separate : Separate next) : Apart state action := by
  cases action with
  | enter caller request => trivial
  | advance caller =>
      intro call slot rest present looking other second also claiming
      exact overlap_clashes sound present looking also claiming stepped separate

theorem separate_along {start : DriverTable} {state final : State} (sound : Sound start state)
    {schedule : List Action} (ran : run step state schedule = some final)
    (separate : Separate final) : Separate state ∧ Along step Apart state schedule := by
  induction schedule generalizing state with
  | nil =>
      cases ran
      exact ⟨separate, trivial⟩
  | cons action rest ih =>
      rcases run_cons_some step ran with ⟨next, stepped, remaining⟩
      rcases ih (step_sound sound stepped) remaining with ⟨between, along⟩
      exact ⟨separate_before sound stepped between,
        along_cons step stepped (separate_apart sound stepped between) along⟩

/-! ### Searches that keep apart -/

theorem advance_separate {start : DriverTable} {state : State} {table : DriverTable}
    {caller : Nat} {call : Call} {stage : Stage} (sound : Sound start state)
    (separate : Separate state) (apart : Apart state (.advance caller))
    (present : state.calls caller = some call)
    (moves : Moves state.table table call.stage stage) :
    Separate (state.store table caller ⟨call.request, stage⟩) := by
  -- What a call finds anew is free, and nobody else is about to mark it.
  have alone : ∀ other slot, Claims state other slot → stage.claim = some slot →
      other = caller := by
    intro other slot claims own
    rcases moves.finds slot own with old | ⟨free, rest, looking⟩
    · exact separate other caller slot claims ⟨call, present, old⟩
    · rcases claims with ⟨second, also, found⟩
      exfalso
      cases held : second.stage with
      | searching rest =>
          rw [held] at found
          cases found
      | claiming place =>
          rw [held] at found
          cases found
          exact apart call slot rest present looking other second also held
      | filling place remaining =>
          rw [held] at found
          exact sound.marked other second slot also (held ▸ found) free
      | returned place =>
          rw [held] at found
          exact sound.marked other second slot also (held ▸ found) free
  rintro first second slot ⟨one, firstStored, firstClaim⟩ ⟨two, secondStored, secondClaim⟩
  rcases store_calls firstStored with ⟨rfl, rfl⟩ | ⟨_, firstBefore⟩
  · rcases store_calls secondStored with ⟨rfl, _⟩ | ⟨_, secondBefore⟩
    · rfl
    · exact (alone second slot ⟨two, secondBefore, secondClaim⟩ firstClaim).symm
  · rcases store_calls secondStored with ⟨rfl, rfl⟩ | ⟨_, secondBefore⟩
    · exact alone first slot ⟨one, firstBefore, firstClaim⟩ secondClaim
    · exact separate first second slot ⟨one, firstBefore, firstClaim⟩
        ⟨two, secondBefore, secondClaim⟩

theorem step_separate {start : DriverTable} {state next : State} {action : Action}
    (sound : Sound start state) (separate : Separate state) (apart : Apart state action)
    (stepped : step state action = some next) : Separate next := by
  cases action with
  | enter caller request =>
      rcases enter_some stepped with ⟨_, rfl⟩
      have before : ∀ other slot,
          Claims
            { state with
              calls := Function.update state.calls caller
                (some ⟨request, .searching (List.finRange 4)⟩)
              begun := state.begun ++ [caller] } other slot → Claims state other slot := by
        rintro other slot ⟨call, present, claim⟩
        rcases @store_calls state state.table _ _ _ _ present with ⟨_, rfl⟩ | ⟨_, earlier⟩
        · cases claim
        · exact ⟨call, earlier, claim⟩
      intro first second slot one two
      exact separate first second slot (before first slot one) (before second slot two)
  | advance caller =>
      rcases advance_some stepped with ⟨call, table, stage, present, advanced, rfl⟩
      exact advance_separate sound separate apart present (moved sound present advanced)

theorem apart_separate {start : DriverTable} {state final : State} (sound : Sound start state)
    (separate : Separate state) {schedule : List Action}
    (ran : run step state schedule = some final) (apart : Along step Apart state schedule) :
    Separate final := by
  induction schedule generalizing state with
  | nil =>
      cases ran
      exact separate
  | cons action rest ih =>
      rcases run_cons_some step ran with ⟨next, stepped, remaining⟩
      rcases apart next stepped with ⟨now, later⟩
      exact ih (step_sound sound stepped) (step_separate sound separate now stepped) remaining later

end UsbxNxdk.NvnetAttachments
