import Mathlib.Data.Finset.Card
import UsbxNxdk.Linearizability
import UsbxNxdk.NvnetAttachments
import UsbxNxdk.NvnetNetwork

/-! The order in which attaches at once take effect, and what is left when there
is none. -/

namespace UsbxNxdk.NvnetAttachments

open Execution Linearizability NxApi NvnetDriver
open NvnetInstances (plainInterfaces plainNetX plainRequest)

/-- One attach as the driver answers it when nothing runs beside it. -/
def Attaches (netx : NetX) (interfaces : Interfaces) (table : DriverTable) (request : NxIpDriver)
    (status : NxStatus) (after : DriverTable) : Prop :=
  request.command = .interfaceAttach ∧
    ∃ answer, nxNvnetNetworkDriver netx request { table := table, interfaces := interfaces } =
      some answer ∧ answer.status = status ∧ answer.driver.table = after

def events (state : State) : Action → List (Event Nat NxIpDriver NxStatus)
  | .enter caller request => [.invoke caller request]
  | .advance caller =>
      match state.calls caller with
      | none => []
      | some call =>
          match advance state.table call.request call.stage with
          | some (_, .returned found) => [.respond caller (statusOf found)]
          | _ => []

/-! ### The table of the driver, and the memory -/

def phaseOf : Option Call → Phase NxIpDriver NxStatus
  | none => .outside
  | some call =>
      match call.stage with
      | .searching _ => .invoked call.request
      | .claiming _ => .invoked call.request
      | .filling _ _ => .effected .success
      | .returned _ => .outside

/-- The driver's table is ahead of the memory where an instance is being filled in. -/
structure Ahead (state : State) (value : DriverTable) : Prop where
  filling : ∀ caller call slot remaining, state.calls caller = some call →
    call.stage = .filling slot remaining →
      value slot = remaining.foldl (Write.run slot call.request) (state.table slot)
  resting : ∀ slot, (∀ caller call remaining, state.calls caller = some call →
    call.stage ≠ .filling slot remaining) → value slot = state.table slot

structure Stands (start : DriverTable) (state : State)
    (canonical : Canonical Nat DriverTable NxIpDriver NxStatus) : Prop where
  sound : Sound start state
  separate : Separate state
  phase : canonical.phase = fun caller => phaseOf (state.calls caller)
  ahead : Ahead state canonical.value

theorem ahead_inUse {state : State} {value : DriverTable} (ahead : Ahead state value)
    (slot : Slot) : (value slot).inUse = (state.table slot).inUse := by
  by_cases busy : ∃ caller call remaining, state.calls caller = some call ∧
      call.stage = .filling slot remaining
  · rcases busy with ⟨caller, call, remaining, present, filling⟩
    rw [ahead.filling caller call slot remaining present filling, writes_inUse]
  · rw [ahead.resting slot]
    intro caller call remaining present filling
    exact busy ⟨caller, call, remaining, present, filling⟩

theorem attaches_found (netx : NetX) (interfaces : Interfaces) {table : DriverTable}
    {request : NxIpDriver} {slot : Slot} (command : request.command = .interfaceAttach)
    (named : request.interfacePtr ≠ 0) (found : findAvailable table = some slot) :
    Attaches netx interfaces table request .success
      (Function.update table slot (attached slot request (table slot))) := by
  refine ⟨command, ?_⟩
  simp only [nxNvnetNetworkDriver, if_neg named, requestSlot, processRequest, command, found]
  exact ⟨_, rfl, rfl, rfl⟩

theorem attaches_full (netx : NetX) (interfaces : Interfaces) {table : DriverTable}
    {request : NxIpDriver} (command : request.command = .interfaceAttach)
    (named : request.interfacePtr ≠ 0) (full : findAvailable table = none) :
    Attaches netx interfaces table request .invalidInterface table := by
  refine ⟨command, ?_⟩
  simp only [nxNvnetNetworkDriver, if_neg named, requestSlot, processRequest, command, full]
  exact ⟨_, rfl, rfl, rfl⟩

theorem available_first {table : DriverTable} {slot : Slot} (free : (table slot).inUse = 0)
    (earlier : ∀ other < slot, (table other).inUse ≠ 0) : findAvailable table = some slot := by
  cases found : findAvailable table with
  | none =>
      have used := List.find?_eq_none.mp found slot (List.mem_finRange slot)
      exact absurd (decide_eq_true free) used
  | some place =>
      have unused := NvnetInstances.findAvailable_unused found
      have least := (NvnetNetwork.search_first found).2 slot
      simp only [free, decide_true, Bool.true_eq_false, imp_false, not_lt] at least
      rcases least.lt_or_eq with below | same
      · exact absurd unused (earlier place below)
      · rw [same]

theorem available_full {table : DriverTable} (used : ∀ slot, (table slot).inUse ≠ 0) :
    findAvailable table = none :=
  List.find?_eq_none.mpr fun slot _ same => used slot (of_decide_eq_true same)

section Follow

variable {state : State} {table value : DriverTable} {caller : Nat} {call : Call} {stage : Stage}

theorem phase_store (call : Call) :
    (fun other => phaseOf ((state.store table caller call).calls other)) =
      Function.update (fun other => phaseOf (state.calls other)) caller (phaseOf (some call)) := by
  funext other
  by_cases own : other = caller
  · rw [own, Function.update_self, store_own]
  · rw [Function.update_of_ne own, store_other own]

theorem phase_kept (present : state.calls caller = some call) (stage : Stage)
    (same : phaseOf (some ⟨call.request, stage⟩) = phaseOf (some call)) :
    (fun other => phaseOf ((state.store table caller ⟨call.request, stage⟩).calls other)) =
      fun other => phaseOf (state.calls other) := by
  rw [phase_store, same, ← present]
  exact Function.update_eq_self caller _

def Stage.Going : Stage → Prop
  | .returned _ => False
  | _ => True

theorem quiet_events (present : state.calls caller = some call)
    (advanced : advance state.table call.request call.stage = some (table, stage))
    (going : stage.Going) : events state (.advance caller) = [] := by
  simp only [events, present, advanced]
  cases stage with
  | searching rest => rfl
  | claiming slot => rfl
  | filling slot remaining => rfl
  | returned found => exact going.elim

theorem ahead_search (ahead : Ahead state value) (present : state.calls caller = some call)
    (before : call.stage.holds = none) (after : stage.holds = none) :
    Ahead (state.store state.table caller ⟨call.request, stage⟩) value := by
  constructor
  · intro other found slot remaining stored filling
    rcases store_calls stored with ⟨_, rfl⟩ | ⟨_, earlier⟩
    · simp only at filling
      rw [filling] at after
      cases after
    · exact ahead.filling other found slot remaining earlier filling
  · intro slot nobody
    apply ahead.resting slot
    intro other found remaining earlier
    by_cases own : other = caller
    · rw [own, present] at earlier
      cases earlier
      intro filling
      rw [filling] at before
      cases before
    · exact nobody other found remaining ((store_other own).trans earlier)

theorem ahead_claim {after : DriverTable} {slot : Slot} (ahead : Ahead state value)
    (separate : Separate state) (present : state.calls caller = some call)
    (had : call.stage.claim = some slot) (has : stage.claim = some slot)
    (elsewhere : ∀ other, other ≠ slot → table other = state.table other ∧
      after other = value other)
    (filled : ∀ remaining, stage = .filling slot remaining →
      after slot = remaining.foldl (Write.run slot call.request) (table slot))
    (rested : (∀ remaining, stage ≠ .filling slot remaining) → after slot = table slot) :
    Ahead (state.store table caller ⟨call.request, stage⟩) after := by
  constructor
  · intro other found place remaining stored filling
    rcases store_calls stored with ⟨_, rfl⟩ | ⟨apart, earlier⟩
    · have same : place = slot := by
        simp only at filling
        rw [filling] at has
        exact Option.some.inj has
      rw [same] at filling ⊢
      exact filled remaining filling
    · have distinct : place ≠ slot := by
        rintro rfl
        exact apart (separate other caller place ⟨found, earlier, by rw [filling]; rfl⟩
          ⟨call, present, had⟩)
      rw [(elsewhere place distinct).2]
      simp only [State.store, (elsewhere place distinct).1]
      exact ahead.filling other found place remaining earlier filling
  · intro place nobody
    by_cases own : place = slot
    · rw [own] at nobody ⊢
      exact rested fun remaining => nobody caller _ remaining store_own
    · rw [(elsewhere place own).2]
      simp only [State.store, (elsewhere place own).1]
      apply ahead.resting place
      intro other found remaining earlier filling
      by_cases mine : other = caller
      · rw [mine, present] at earlier
        cases earlier
        rw [filling] at had
        exact own (Option.some.inj had)
      · exact nobody other found remaining ((store_other mine).trans earlier) filling

end Follow

/-! ### The driver follows -/

/-- The driver's moves with these events lead to where the memory is. -/
def Matched (netx : NetX) (interfaces : Interfaces)
    (canonical : Canonical Nat DriverTable NxIpDriver NxStatus) (next : State)
    (shown : List (Event Nat NxIpDriver NxStatus)) : Prop :=
  ∃ order after, Reaches (Attaches netx interfaces) canonical shown order after ∧
    (after.phase = fun caller => phaseOf (next.calls caller)) ∧ Ahead next after.value

section Matches

variable (netx : NetX) (interfaces : Interfaces) {start : DriverTable} {state : State}
  {canonical : Canonical Nat DriverTable NxIpDriver NxStatus} {caller : Nat}
  {request : NxIpDriver}

theorem phase_shown (stands : Stands start state canonical) {call : Call}
    (present : state.calls caller = some call) :
    canonical.phase caller = phaseOf (some call) := by
  rw [← present, stands.phase]

theorem exhausted_matched (stands : Stands start state canonical)
    (present : state.calls caller = some ⟨request, .searching []⟩) :
    Matched netx interfaces canonical
      (state.store state.table caller ⟨request, .returned none⟩)
      (events state (.advance caller)) := by
  rcases stands.sound.began caller _ present with ⟨_, command, named⟩
  have passed := stands.sound.passed caller _ present
  have used : ∀ slot, (canonical.value slot).inUse ≠ 0 := by
    intro slot
    rw [ahead_inUse stands.ahead]
    exact passed.2 slot List.not_mem_nil
  have started : Reaches (Attaches netx interfaces) canonical [] [] canonical := .start
  have effected := started.effect _ _ (phase_shown stands present)
    (attaches_full netx interfaces command named (available_full used))
  have responded := effected.respond (Function.update_self _ _ _)
  have told : events state (.advance caller) = [.respond caller .invalidInterface] := by
    simp only [events, present, advance]
    rfl
  rw [told]
  refine ⟨_, _, responded, ?_, ahead_search stands.ahead present rfl rfl⟩
  simp only [phase_store, Function.update_idem, stands.phase]
  rfl

theorem unseen_matched (stands : Stands start state canonical) {call : Call}
    {table : DriverTable} {stage : Stage} (present : state.calls caller = some call)
    (advanced : advance state.table call.request call.stage = some (table, stage))
    (going : stage.Going)
    (same : phaseOf (some ⟨call.request, stage⟩) = phaseOf (some call))
    (ahead : Ahead (state.store table caller ⟨call.request, stage⟩) canonical.value) :
    Matched netx interfaces canonical (state.store table caller ⟨call.request, stage⟩)
      (events state (.advance caller)) := by
  rw [quiet_events present advanced going]
  refine ⟨[], canonical, .start, ?_, ahead⟩
  rw [phase_kept present stage same, stands.phase]

theorem claim_matched (stands : Stands start state canonical) {slot : Slot}
    (present : state.calls caller = some ⟨request, .claiming slot⟩) :
    Matched netx interfaces canonical
      (state.store (Function.update state.table slot { state.table slot with inUse := 1 }) caller
        ⟨request, .filling slot writes⟩) (events state (.advance caller)) := by
  rcases stands.sound.began caller _ present with ⟨_, command, named⟩
  have passed := stands.sound.passed caller _ present
  have mine : Claims state caller slot := ⟨_, present, rfl⟩
  -- Were the instance marked, its marker would have found it, too.
  have free : (state.table slot).inUse = 0 := by
    by_contra used
    rcases stands.sound.marks slot used with first | ⟨other, found, there, held⟩
    · exact first (stands.sound.fresh caller slot mine)
    · have own := stands.separate other caller slot ⟨found, there, holds_claim held⟩ mine
      rw [own, present] at there
      cases there
      cases held
  have resting : canonical.value slot = state.table slot := by
    apply stands.ahead.resting
    intro other found remaining there filling
    exact stands.sound.marked other found slot there (by rw [filling]; rfl) free
  have first : findAvailable canonical.value = some slot := by
    apply available_first
    · rw [resting]
      exact free
    · intro earlier below
      rw [ahead_inUse stands.ahead]
      exact passed earlier below
  have started : Reaches (Attaches netx interfaces) canonical [] [] canonical := .start
  have effected := started.effect _ _ (phase_shown stands present)
    (attaches_found netx interfaces command named first)
  rw [quiet_events present rfl trivial]
  refine ⟨_, _, effected, ?_, ?_⟩
  · simp only [phase_store, stands.phase]
    rfl
  · apply ahead_claim stands.ahead stands.separate present rfl rfl
    · intro other distinct
      exact ⟨Function.update_of_ne distinct _ _, Function.update_of_ne distinct _ _⟩
    · intro remaining same
      cases same
      simp only [Function.update_self, resting]
      exact (writes_attached slot request (state.table slot)).symm
    · intro unfilled
      exact absurd rfl (unfilled writes)

theorem return_matched (stands : Stands start state canonical) {slot : Slot}
    (present : state.calls caller = some ⟨request, .filling slot []⟩) :
    Matched netx interfaces canonical
      (state.store state.table caller ⟨request, .returned (some slot)⟩)
      (events state (.advance caller)) := by
  have own := stands.ahead.filling caller _ slot [] present rfl
  have started : Reaches (Attaches netx interfaces) canonical [] [] canonical := .start
  have responded := started.respond (phase_shown stands present)
  have told : events state (.advance caller) = [.respond caller .success] := by
    simp only [events, present, advance]
    rfl
  rw [told]
  refine ⟨_, _, responded, ?_, ?_⟩
  · simp only [phase_store, stands.phase]
    rfl
  · apply ahead_claim stands.ahead stands.separate present rfl rfl
    · exact fun other _ => ⟨rfl, rfl⟩
    · intro remaining same
      cases same
    · exact fun _ => own

theorem advance_matched (stands : Stands start state canonical) {call : Call}
    {table : DriverTable} {stage : Stage} (present : state.calls caller = some call)
    (advanced : advance state.table call.request call.stage = some (table, stage)) :
    Matched netx interfaces canonical (state.store table caller ⟨call.request, stage⟩)
      (events state (.advance caller)) := by
  have unseen := unseen_matched netx interfaces stands present advanced
  rcases call with ⟨request, old⟩
  cases old with
  | searching rest =>
      cases rest with
      | nil =>
          cases advanced
          exact exhausted_matched netx interfaces stands present
      | cons slot rest =>
          simp only [advance] at advanced
          split at advanced
          · cases advanced
            exact unseen trivial rfl (ahead_search stands.ahead present rfl rfl)
          · cases advanced
            exact unseen trivial rfl (ahead_search stands.ahead present rfl rfl)
  | claiming slot =>
      cases advanced
      exact claim_matched netx interfaces stands present
  | filling slot remaining =>
      have own := stands.ahead.filling caller _ slot remaining present rfl
      cases remaining with
      | nil =>
          cases advanced
          exact return_matched netx interfaces stands present
      | cons write rest =>
          cases advanced
          apply unseen trivial rfl
          apply ahead_claim stands.ahead stands.separate present rfl rfl
          · exact fun other distinct => ⟨Function.update_of_ne distinct _ _, rfl⟩
          · intro remaining same
            cases same
            rw [Function.update_self]
            exact own
          · intro unfilled
            exact absurd rfl (unfilled rest)
  | returned found => cases advanced

theorem enter_matched (stands : Stands start state canonical) (unused : caller ∉ state.begun) :
    Matched netx interfaces canonical
      { state with
        calls := Function.update state.calls caller (some ⟨request, .searching (List.finRange 4)⟩)
        begun := state.begun ++ [caller] } (events state (.enter caller request)) := by
  have absent := unbegun stands.sound unused
  have outside : canonical.phase caller = .outside := by
    rw [stands.phase]
    simp only [absent, phaseOf]
  have started : Reaches (Attaches netx interfaces) canonical [] [] canonical := .start
  have invoked := started.invoke caller request outside
  refine ⟨[], _, invoked, ?_, ?_⟩
  · simp only [stands.phase]
    exact (@phase_store state state.table caller ⟨request, .searching _⟩).symm
  · constructor
    · intro other found slot remaining stored filling
      rcases @store_calls state state.table _ _ _ _ stored with ⟨_, rfl⟩ | ⟨_, earlier⟩
      · cases filling
      · exact stands.ahead.filling other found slot remaining earlier filling
    · intro slot nobody
      apply stands.ahead.resting slot
      intro other found remaining present
      have apart : other ≠ caller := by
        rintro rfl
        rw [absent] at present
        cases present
      exact nobody other found remaining ((Function.update_of_ne apart _ _).trans present)

end Matches

theorem step_follows (netx : NetX) (interfaces : Interfaces) (start : DriverTable) :
    Follows step events (Attaches netx interfaces) Apart (Stands start) := by
  intro state action next canonical apart stands stepped
  have sound := step_sound stands.sound stepped
  have separate := step_separate stands.sound stands.separate apart stepped
  have matched : Matched netx interfaces canonical next (events state action) := by
    cases action with
    | enter caller request =>
        rcases enter_some stepped with ⟨⟨unused, _⟩, rfl⟩
        exact enter_matched netx interfaces stands unused
    | advance caller =>
        rcases advance_some stepped with ⟨call, table, stage, present, advanced, rfl⟩
        exact advance_matched netx interfaces stands present advanced
  rcases matched with ⟨order, after, reaches, phase, ahead⟩
  exact ⟨order, after, reaches, sound, separate, phase, ahead⟩

theorem initial_stands (start : DriverTable) :
    Stands start (initial start) (Canonical.initial start) where
  sound := initial_sound start
  separate := nofun
  phase := rfl
  ahead := ⟨nofun, fun _ _ => rfl⟩

theorem quiet_value {start : DriverTable} {state : State} {value : DriverTable}
    (sound : Sound start state) (ahead : Ahead state value) (quiet : Quiet state) :
    value = state.table := by
  funext slot
  apply ahead.resting slot
  intro caller call remaining present filling
  have returned := quiet caller (sound.began caller call present).1 call present
  rw [filling] at returned
  cases returned

theorem apart_linearizes (netx : NetX) (interfaces : Interfaces) {start : DriverTable}
    {final : State} {schedule : List Action} (ran : run step (initial start) schedule = some final)
    (quiet : Quiet final) (apart : Along step Apart (initial start) schedule) :
    Linearizes (Attaches netx interfaces) start (history step events (initial start) schedule)
      final.table :=
  follows_linearizes (step_follows netx interfaces start) (initial_stands start) apart ran
    fun _ stands => quiet_value stands.sound stands.ahead quiet

/-! ### Attaches one after the other -/

def usedSlots (table : DriverTable) : Finset Slot :=
  Finset.univ.filter fun slot => (table slot).inUse ≠ 0

theorem attached_used {table : DriverTable} {slot : Slot} (free : (table slot).inUse = 0)
    (request : NxIpDriver) :
    (usedSlots (Function.update table slot (attached slot request (table slot)))).card =
      (usedSlots table).card + 1 := by
  have one : (attached slot request (table slot)).inUse ≠ 0 :=
    show (1 : UINT) ≠ 0 by decide
  have grown : usedSlots (Function.update table slot (attached slot request (table slot))) =
      insert slot (usedSlots table) := by
    ext other
    simp only [usedSlots, Finset.mem_filter, Finset.mem_univ, true_and, Finset.mem_insert]
    by_cases own : other = slot
    · simp only [own, Function.update_self, one, ne_eq, not_false_eq_true, true_or]
    · simp only [Function.update_of_ne own, own, false_or]
  rw [grown]
  apply Finset.card_insert_of_notMem
  simp only [usedSlots, Finset.mem_filter, Finset.mem_univ, true_and, free, ne_eq,
    not_true_eq_false, not_false_eq_true]

theorem attaches_used {netx : NetX} {interfaces : Interfaces} {table after : DriverTable}
    {request : NxIpDriver} {status : NxStatus}
    (attaches : Attaches netx interfaces table request status after) :
    (usedSlots after).card = (usedSlots table).card + if status = .success then 1 else 0 := by
  rcases attaches with ⟨command, answer, answered, told, left⟩
  have named : request.interfacePtr ≠ 0 := by
    intro absent
    simp only [nxNvnetNetworkDriver, if_pos absent] at answered
    cases answered
  cases found : findAvailable table with
  | some slot =>
      simp only [nxNvnetNetworkDriver, if_neg named, requestSlot, processRequest, command,
        found] at answered
      cases answered
      cases told
      cases left
      exact attached_used (NvnetInstances.findAvailable_unused found) request
  | none =>
      simp only [nxNvnetNetworkDriver, if_neg named, requestSlot, processRequest, command,
        found] at answered
      cases answered
      cases told
      cases left
      rfl

theorem sequential_used {netx : NetX} {interfaces : Interfaces} {table final : DriverTable}
    {order : List (Effected Nat NxIpDriver NxStatus)}
    (sequential : Sequential (Attaches netx interfaces) table order final) :
    (usedSlots final).card =
      (usedSlots table).card +
        (order.filter fun effected => effected.response = .success).length := by
  induction order generalizing table with
  | nil =>
      cases sequential
      rfl
  | cons effected rest ih =>
      rcases sequential with ⟨middle, now, later⟩
      have used := attaches_used now
      by_cases success : effected.response = .success
      · rw [if_pos success] at used
        simp only [ih later, used, List.filter_cons, success, decide_true, if_true,
          List.length_cons]
        omega
      · rw [if_neg success] at used
        simp only [ih later, used, List.filter_cons, success, decide_false, Bool.false_eq_true,
          if_false, Nat.add_zero]

/-! ### Calls that share an instance -/

theorem returned_told {state final : State} {schedule : List Action}
    (ran : run step state schedule = some final) {caller : Nat} {call : Call} {found : Option Slot}
    (present : final.calls caller = some call) (returned : call.stage = .returned found)
    (before : ∀ earlier, state.calls caller = some earlier → earlier.stage ≠ .returned found) :
    .respond caller (statusOf found) ∈ history step events state schedule := by
  induction schedule generalizing state with
  | nil =>
      cases ran
      exact absurd returned (before call present)
  | cons action rest ih =>
      rcases run_cons_some step ran with ⟨next, stepped, remaining⟩
      rw [history, stepped]
      by_cases later : ∀ earlier, next.calls caller = some earlier →
          earlier.stage ≠ .returned found
      · exact List.mem_append_right _ (ih remaining later)
      · apply List.mem_append_left
        simp only [not_forall, not_not] at later
        rcases later with ⟨now, there, done⟩
        cases action with
        | enter other request =>
            rcases enter_some stepped with ⟨_, rfl⟩
            rcases @store_calls state state.table _ _ _ _ there with ⟨_, rfl⟩ | ⟨_, earlier⟩
            · cases done
            · exact absurd done (before now earlier)
        | advance other =>
            rcases advance_some stepped with ⟨moving, table, stage, active, advanced, rfl⟩
            rcases store_calls there with ⟨rfl, rfl⟩ | ⟨_, earlier⟩
            · simp only at done
              rw [done] at advanced
              simp only [events, active, advanced, List.mem_singleton]
            · exact absurd done (before now earlier)

theorem run_sound {start : DriverTable} {final : State} {schedule : List Action}
    (ran : run step (initial start) schedule = some final) : Sound start final := by
  have always := always_invariant step (Sound start)
    (fun _ _ _ sound stepped => step_sound sound stepped) (initial start) schedule
    (initial_sound start)
  exact (always_iff step _ _ _).mp always schedule [] final (List.append_nil _).symm ran

def claimOf (state : State) (caller : Nat) : Option Slot :=
  (state.calls caller).bind fun call => call.stage.claim

theorem claimOf_some {state : State} {caller : Nat} {slot : Slot} :
    claimOf state caller = some slot ↔ Claims state caller slot :=
  Option.bind_eq_some_iff

def found (state : State) : Finset Nat :=
  state.begun.toFinset.filter fun caller => (claimOf state caller).isSome

theorem mem_found {start : DriverTable} {state : State} (sound : Sound start state) {caller : Nat}
    {slot : Slot} (claims : Claims state caller slot) : caller ∈ found state := by
  rcases claims with ⟨call, present, claim⟩
  have known := (sound.began caller call present).1
  have some := claimOf_some.mpr ⟨call, present, claim⟩
  simp only [found, Finset.mem_filter, List.mem_toFinset, known, some, Option.isSome_some, and_self]

theorem used_covered {start : DriverTable} {state : State} (sound : Sound start state) :
    (usedSlots state.table).card ≤
      (usedSlots start).card + ((found state).image (claimOf state)).card := by
  have covered : (usedSlots state.table).image some ⊆
      (usedSlots start).image some ∪ (found state).image (claimOf state) := by
    intro place listed
    rcases Finset.mem_image.mp listed with ⟨slot, used, rfl⟩
    rcases sound.marks slot (Finset.mem_filter.mp used).2 with first | ⟨caller, call, there, held⟩
    · apply Finset.mem_union_left
      exact Finset.mem_image_of_mem some (Finset.mem_filter.mpr ⟨Finset.mem_univ slot, first⟩)
    · have claims : Claims state caller slot := ⟨call, there, holds_claim held⟩
      apply Finset.mem_union_right
      exact Finset.mem_image.mpr ⟨caller, mem_found sound claims, claimOf_some.mpr claims⟩
  have injective := Option.some_injective Slot
  calc
    (usedSlots state.table).card = ((usedSlots state.table).image some).card :=
      (Finset.card_image_of_injective _ injective).symm
    _ ≤ ((usedSlots start).image some ∪ (found state).image (claimOf state)).card :=
      Finset.card_le_card covered
    _ ≤ ((usedSlots start).image some).card + ((found state).image (claimOf state)).card :=
      Finset.card_union_le _ _
    _ = (usedSlots start).card + ((found state).image (claimOf state)).card := by
      rw [Finset.card_image_of_injective _ injective]

theorem linearizes_separate {netx : NetX} {interfaces : Interfaces} {start : DriverTable}
    {final : State} {schedule : List Action} (ran : run step (initial start) schedule = some final)
    (quiet : Quiet final)
    (linear : Linearizes (Attaches netx interfaces) start
      (history step events (initial start) schedule) final.table) : Separate final := by
  have sound := run_sound ran
  rcases linear with ⟨order, after, reaches, _, sequential⟩
  have told : ∀ caller ∈ found final, caller ∈
      (order.filter fun effected => effected.response = .success).map Effected.thread := by
    intro caller listed
    have some := (Finset.mem_filter.mp listed).2
    rcases Option.isSome_iff_exists.mp some with ⟨slot, claims⟩
    rcases claimOf_some.mp claims with ⟨call, present, claim⟩
    have returned := quiet caller (sound.began caller call present).1 call present
    rw [claim] at returned
    have answered := returned_told ran present returned nofun
    rcases (reaches_told reaches).2 caller .success answered with ⟨operation, effected⟩
    exact List.mem_map.mpr ⟨_, List.mem_filter.mpr ⟨effected, decide_eq_true rfl⟩, rfl⟩
  have few : (found final).card ≤
      (order.filter fun effected => effected.response = .success).length := by
    rw [← List.length_map Effected.thread]
    apply (Finset.card_le_card _).trans (List.toFinset_card_le _)
    exact fun caller listed => List.mem_toFinset.mpr (told caller listed)
  have used := sequential_used sequential
  have covered := used_covered sound
  have image : ((found final).image (claimOf final)).card = (found final).card :=
    le_antisymm Finset.card_image_le (by omega)
  have injective := Finset.card_image_iff.mp image
  intro first second slot one two
  apply injective (mem_found sound one) (mem_found sound two)
  rw [claimOf_some.mpr one, claimOf_some.mpr two]

/-- Once all calls have returned, they are attaches handled one at a time exactly
when no two of them share an instance, and exactly when no search looked at an
instance between another one's look and its mark. -/
theorem attachments_linearizable_iff (netx : NetX) (interfaces : Interfaces) (start : DriverTable)
    (schedule : List Action) {final : State}
    (ran : run step (initial start) schedule = some final) (quiet : Quiet final) :
    (Along step Apart (initial start) schedule ↔ Separate final) ∧
      (Along step Apart (initial start) schedule ↔
        Linearizes (Attaches netx interfaces) start
          (history step events (initial start) schedule) final.table) := by
  have alone : Separate (initial start) := nofun
  have sound := initial_sound start
  have separated : Along step Apart (initial start) schedule ↔ Separate final :=
    ⟨apart_separate sound alone ran, fun separate => (separate_along sound ran separate).2⟩
  refine ⟨separated, apart_linearizes netx interfaces ran quiet, ?_⟩
  exact fun linear => separated.mpr (linearizes_separate ran quiet linear)

def overlapping : List Action :=
  [.enter 1 (plainRequest .interfaceAttach 10 11 ⟨0, 0⟩).request,
    .enter 2 (plainRequest .interfaceAttach 20 21 ⟨0, 0⟩).request, .advance 1, .advance 2] ++
    List.replicate 7 (.advance 1) ++ List.replicate 7 (.advance 2)

/-- Both are told success, and the driver does not know the first interface. -/
theorem overlapping_attachments :
    ∃ final, run step (initial fun _ => DriverInstance.zero) overlapping = some final ∧
      Quiet final ∧ (∀ caller ∈ [1, 2], (claimOf final caller).isSome) ∧
      findInstance final.table 10 11 = none ∧
      ¬ Linearizes (Attaches plainNetX plainInterfaces) (fun _ => DriverInstance.zero)
        (history step events (initial fun _ => DriverInstance.zero) overlapping) final.table := by
  refine ⟨_, rfl, by decide, by decide, by decide, ?_⟩
  intro linear
  have both := attachments_linearizable_iff plainNetX plainInterfaces
    (fun _ => DriverInstance.zero) overlapping rfl (by decide)
  have separate := both.1.mp (both.2.mpr linear)
  have same := separate 1 2 _ (claimOf_some.mp rfl) (claimOf_some.mp rfl)
  cases same

end UsbxNxdk.NvnetAttachments
