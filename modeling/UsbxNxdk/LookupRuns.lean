import UsbxNxdk.LookupWays

/-! Lookups of the thread list by any number of threads, over whole runs. -/

namespace UsbxNxdk.ThreadLookups

open Execution LinkedRing LinkedRoutes Thread ThreadTable

/-! ### The first steps of the writer's calls -/

theorem settled_idle {state : State} (writer : state.writer = .idle) :
    state.settled = state.links := by
  rw [State.settled, writer]

theorem idle_listed {state : State} {thread : Nat} (writer : state.writer = .idle)
    (present : thread ∈ state.listed ∨ state.Unlinked thread) : thread ∈ state.listed := by
  rcases present with listed | unlinked
  · exact listed
  · rcases unlinked with ⟨creation, remaining, equal, _⟩
    rw [writer] at equal
    cases equal

theorem way_listed {state : State} {thread steps : Nat} {entry : Node}
    (ring : Ring state.links .head (state.listed.map .block))
    (here : ∃ other ∈ state.listed, entry = .block other) (way : state.Way thread steps entry) :
    Reaches state.links.flink
      (fun node => state.Clear thread node ∧ ∃ other ∈ state.listed, node = .block other)
      (.block thread) steps entry := by
  apply reaches_within way _ here
  intro node inside _
  rcases inside with ⟨other, listed, rfl⟩
  have member : Node.block other ∈ Node.head :: state.listed.map .block :=
    List.mem_cons_of_mem _ (List.mem_map_of_mem listed)
  rcases List.mem_append.mp (linked_member ring.forward member) with stays | ends
  · rcases List.mem_map.mp stays with ⟨next, listed, equal⟩
    exact Or.inl ⟨next, listed, equal.symm⟩
  · rw [List.mem_singleton.mp ends]
    apply Or.inr
    apply reaches_stuck
    · simp
    · intro passes
      rcases passes with ⟨next, equal, _⟩
      cases equal

theorem create_invariant {state : State} {creation : Creation} (registry : Registry state)
    (callers : Callers state) (writer : state.writer = .idle)
    (unlisted : creation.thread ∉ state.listed)
    (unborn : state.stage creation.thread = .unborn ∨ state.stage creation.thread = .ended)
    (fresh : ∀ other ∈ state.listed, state.identifiers other ≠ creation.answers.threadId)
    (orderly : Orderly state (.create creation)) {next : State}
    (begun : next =
      { state with
        writer := .creating creation createSteps
        retired := state.retired.filter fun other => other ≠ creation.thread }) :
    Registry next ∧ Callers next := by
  have ring := registry.ring
  rw [settled_idle writer] at ring
  subst begun
  constructor
  · constructor
    · rw [settled_creating rfl (by decide)]
      exact ring
    · exact registry.identified
    · exact registry.distinct
    · intro other remaining equal
      cases equal
      exact
        { position := by decide
          unlisted := fun _ => ⟨unlisted, by simp⟩
          fresh := fun _ => fresh
          unmade := fun _ alive => unborn.elim alive.1 alive.2
          made := fun made => absurd (by decide) made
          tail := fun read => absurd (by decide) read
          forward := fun written => absurd (by decide) written
          backward := fun written => absurd (by decide) written }
    · intro thread remaining equal
      cases equal
  · refine callers_kept callers rfl ?_ ?_
    · intro thread entry stands listed
      refine ⟨listed, fun steps way => ?_⟩
      by_cases recycled : creation.thread ∈ state.retired
      · have inside := way_listed ring (orderly recycled thread entry stands) way
        apply reaches_weaken _ inside
        intro node passes
        rcases passes with ⟨⟨other, equal, _, different⟩, known, member, same⟩
        have own : known = other := Node.block.inj (same.symm.trans equal)
        exact ⟨other, equal, Or.inl (own ▸ member), different⟩
      · have kept : (state.retired.filter fun other => other ≠ creation.thread) =
            state.retired := by
          apply List.filter_eq_self.mpr
          intro other member
          simpa using ne_of_mem_of_not_mem member recycled
        apply reaches_weaken _ way
        intro node passes
        rcases passes with ⟨other, equal, used, different⟩
        exact ⟨other, equal, used.imp_right fun member => kept.symm ▸ member, different⟩
    · intro thread _ present
      have listed : thread ∈ state.listed := idle_listed writer present
      exact Or.inl listed

theorem delete_invariant {state : State} {thread : Nat} (registry : Registry state)
    (callers : Callers state) (writer : state.writer = .idle) (listed : thread ∈ state.listed)
    (ended : state.stage thread = .ended) {next : State}
    (begun : next = { state with writer := .deleting thread deleteSteps }) :
    Registry next ∧ Callers next := by
  have ring := registry.ring
  rw [settled_idle writer] at ring
  subst begun
  constructor
  · constructor
    · rw [settled_deleting rfl (by decide)]
      exact ring
    · exact registry.identified
    · exact registry.distinct
    · intro creation remaining equal
      cases equal
    · intro other remaining equal
      cases equal
      exact
        { position := by decide
          listed := fun _ => ⟨listed, ended⟩
          flink := fun read => absurd (by decide) read
          blink := fun read => absurd (by decide) read }
  · refine callers_kept callers rfl ?_ ?_
    · exact fun _ _ _ member => ⟨member, fun _ way => way⟩
    · intro other _ present
      have member : other ∈ state.listed := idle_listed writer present
      exact Or.inl member

/-! ### The steps of a lookup -/

theorem registry_acted {state : State} {thread : Nat} (registry : Registry state)
    (alive : (state.stage thread).Alive) (caller : Caller) :
    Registry { state with callers := Function.update state.callers thread caller } := by
  have apart : ∀ other, other ≠ thread →
      State.stage { state with callers := Function.update state.callers thread caller } other =
        state.stage other :=
    fun other different => congrArg Caller.stage (Function.update_of_ne different _ _)
  constructor
  · exact registry.ring
  · exact registry.identified
  · exact registry.distinct
  · intro creation remaining equal
    have creating := registry.creating creation remaining equal
    refine
      { position := creating.position
        unlisted := creating.unlisted
        fresh := creating.fresh
        unmade := ?_
        made := creating.made
        tail := creating.tail
        forward := creating.forward
        backward := creating.backward }
    intro pending
    have unmade := creating.unmade pending
    rw [apart creation.thread fun own => unmade (own ▸ alive)]
    exact unmade
  · intro other remaining equal
    have deleting := registry.deleting other remaining equal
    refine
      { position := deleting.position
        listed := ?_
        flink := deleting.flink
        blink := deleting.blink }
    intro pending
    rcases deleting.listed pending with ⟨listed, ended⟩
    refine ⟨listed, ?_⟩
    rw [apart other fun own => alive.2 (own ▸ ended)]
    exact ended

theorem sound_resting {state : State} {thread : Nat} {caller : Caller} {stage : Stage}
    (sound : CallerSound state thread caller) (alive : caller.stage.Alive)
    (standing : stage.standing = none)
    (found : stage ≠ .asserted ∧ ∀ other, stage = .returned other → other = thread) :
    CallerSound state thread { caller with stage := stage } := by
  constructor
  · intro entry stands
    rw [standing] at stands
    cases stands
  · intro entry passed
    rw [show stage = .passed entry from passed] at standing
    cases standing
  · exact found
  · exact sound.bounded
  · exact fun _ => sound.present alive

theorem look_callers {state : State} {thread steps : Nat} {caller : Caller} {entry : Node}
    (callers : Callers state) (listed : thread ∈ state.listed)
    (way : state.Way thread steps entry)
    (enough : caller.visited + 1 + steps ≤ caller.allowance) :
    Callers (state.look thread caller entry) := by
  have inside : entry ≠ .head := by
    intro ends
    rw [ends] at way
    apply reaches_stuck _ _ steps way
    · simp
    · intro passes
      rcases passes with ⟨other, equal, _⟩
      cases equal
  rw [State.look, if_neg inside]
  apply callers_update callers
  constructor
  · intro other stands
    cases stands
    exact ⟨listed, steps, way, enough⟩
  · intro other passed
    cases passed
  · exact ⟨by simp, by simp⟩
  · show caller.visited + 1 ≤ caller.allowance
    omega
  · exact fun _ => Or.inl listed

theorem settled_flink (state : State) : state.settled.flink = state.links.flink := by
  unfold State.settled
  split
  · rfl
  · split <;> rfl
  · split <;> rfl

theorem identify_way {state : State} {thread : Nat} (registry : Registry state)
    (listed : thread ∈ state.listed) :
    ∃ steps, state.Way thread steps (state.links.flink .head) ∧
      1 + steps ≤ state.listed.length := by
  have forward := registry.ring.forward
  have distinct := registry.distinct
  rw [settled_flink] at forward
  rcases List.append_of_mem listed with ⟨before, after, split⟩
  rw [split, List.map_append, List.map_cons] at forward distinct
  refine ⟨before.length, ?_, ?_⟩
  · rw [State.Way, ← List.length_map Node.block]
    apply linked_reaches forward
    intro node member
    rcases List.mem_map.mp member with ⟨other, earlier, rfl⟩
    have inside : other ∈ state.listed := split ▸ List.mem_append_left _ earlier
    refine ⟨other, rfl, Or.inl inside, ?_⟩
    rw [registry.identified other inside]
    exact (List.nodup_append.mp distinct).2.2 _ (List.mem_map_of_mem earlier) _
      List.mem_cons_self
  · rw [split, List.length_append, List.length_cons]
    omega

theorem compare_callers {state : State} {thread other : Nat} (registry : Registry state)
    (callers : Callers state) (stage : state.stage thread = .walking (.block other)) :
    Callers (state.setStage thread
      (if (state.blocks other).win32ThreadId = state.identifiers thread then .returned other
        else .passed (.block other))) := by
  have sound := callers thread
  have standing : (state.callers thread).stage.standing = some (.block other) :=
    congrArg Stage.standing stage
  have alive : (state.callers thread).stage.Alive := by
    rw [show (state.callers thread).stage = _ from stage]
    exact ⟨by simp, by simp⟩
  rcases sound.way _ standing with ⟨listed, steps, way, enough⟩
  apply callers_update callers
  by_cases same : (state.blocks other).win32ThreadId = state.identifiers thread
  · rw [if_pos same]
    apply sound_resting sound alive rfl
    refine ⟨by simp, fun found equal => ?_⟩
    cases equal
    by_contra apart
    rcases reaches_passed way fun own => apart (Node.block.inj own) with ⟨_, _, passes, _⟩
    rcases passes with ⟨known, equal, _, different⟩
    exact different (Node.block.inj equal ▸ same)
  · rw [if_neg same]
    constructor
    · intro entry stands
      cases stands
      exact ⟨listed, steps, way, enough⟩
    · intro entry passed
      cases passed
      intro own
      exact same (Node.block.inj own ▸ registry.identified thread listed)
    · exact ⟨by simp, by simp⟩
    · exact sound.bounded
    · exact fun _ => Or.inl listed

/-! ### The whole run -/

def Invariant (state : State) : Prop := Registry state ∧ Callers state

theorem initial_invariant (stale : Links Node) (blocks : Nat → TxThread) :
    Invariant (State.initial stale blocks) := by
  constructor
  · constructor
    · exact (ThreadRegistry.initial_invariant stale blocks).ring
    · intro thread member
      cases member
    · exact List.nodup_nil
    · intro creation remaining equal
      cases equal
    · intro thread remaining equal
      cases equal
  · intro thread
    constructor
    · intro entry stands
      cases stands
    · intro entry passed
      cases passed
    · exact ⟨by simp [State.initial], by simp [State.initial]⟩
    · exact Nat.le_refl 0
    · exact fun alive => absurd rfl alive.1

theorem write_invariant {state next : State} (invariant : Invariant state)
    (stepped : step state .write = some next) : Invariant next := by
  rcases invariant with ⟨registry, callers⟩
  cases writer : state.writer with
  | idle => simp [step, writer] at stepped
  | creating creation remaining =>
      cases remaining with
      | nil => simp [step, writer] at stepped
      | cons current rest =>
          simp only [step, writer] at stepped
          cases stepped
          exact ⟨created_registry registry writer, created_callers registry callers writer⟩
  | deleting thread remaining =>
      cases remaining with
      | nil => simp [step, writer] at stepped
      | cons current rest =>
          simp only [step, writer] at stepped
          cases stepped
          exact ⟨deleted_registry registry writer, deleted_callers registry callers writer⟩

theorem rest_invariant {state : State} {thread : Nat} {stage : Stage}
    (invariant : Invariant state) (alive : (state.stage thread).Alive)
    (standing : stage.standing = none)
    (found : stage ≠ .asserted ∧ ∀ other, stage = .returned other → other = thread) :
    Invariant (state.setStage thread stage) :=
  ⟨registry_acted invariant.1 alive _,
    callers_update invariant.2 (sound_resting (invariant.2 thread) alive standing found)⟩

theorem step_invariant {state next : State} {action : Action} (invariant : Invariant state)
    (orderly : Orderly state action) (stepped : step state action = some next) :
    Invariant next := by
  rcases invariant with ⟨registry, callers⟩
  cases action with
  | create creation =>
      simp only [step, Option.ite_none_right_eq_some, Option.some.injEq] at stepped
      rcases stepped with ⟨⟨writer, _, unlisted, unborn, fresh⟩, begun⟩
      exact create_invariant registry callers writer unlisted unborn fresh orderly begun.symm
  | delete thread =>
      simp only [step, Option.ite_none_right_eq_some] at stepped
      rcases stepped with ⟨⟨writer, listed⟩, begun⟩
      by_cases ended : state.stage thread = .ended
      · rw [if_pos ended] at begun
        exact delete_invariant registry callers writer listed ended (Option.some.inj begun).symm
      · rw [if_neg ended] at begun
        cases begun
        exact ⟨registry, callers⟩
  | write => exact write_invariant ⟨registry, callers⟩ stepped
  | start thread =>
      simp only [step, Option.ite_none_right_eq_some, Option.some.injEq] at stepped
      rcases stepped with ⟨stage, rfl⟩
      exact rest_invariant ⟨registry, callers⟩ (by simp [stage, Stage.Alive]) rfl (by simp)
  | identify thread =>
      simp only [step, Option.ite_none_right_eq_some, Option.some.injEq] at stepped
      rcases stepped with ⟨stage, rfl⟩
      have alive : (state.stage thread).Alive := by simp [stage, Stage.Alive]
      rcases identify_way registry orderly with ⟨steps, way, enough⟩
      exact ⟨registry_acted registry alive _,
        look_callers callers orderly way (by simpa using enough)⟩
  | compare thread =>
      cases stage : state.stage thread with
      | walking entry =>
          cases entry with
          | block other =>
              simp only [step, stage] at stepped
              cases stepped
              have alive : (state.stage thread).Alive := by simp [stage, Stage.Alive]
              exact ⟨registry_acted registry alive _, compare_callers registry callers stage⟩
          | _ => simp [step, stage] at stepped
      | _ => simp [step, stage] at stepped
  | advance thread =>
      cases stage : state.stage thread with
      | passed entry =>
          simp only [step, stage] at stepped
          cases stepped
          have alive : (state.stage thread).Alive := by simp [stage, Stage.Alive]
          have sound := callers thread
          rcases sound.way entry (congrArg Stage.standing stage) with
            ⟨listed, steps, way, enough⟩
          rcases reaches_passed way (sound.apart entry stage) with ⟨fewer, rfl, _, onward⟩
          exact ⟨registry_acted registry alive _,
            look_callers callers listed onward (by omega)⟩
      | _ => simp [step, stage] at stepped
  | resume thread =>
      cases stage : state.stage thread with
      | returned other =>
          simp only [step, stage] at stepped
          cases stepped
          exact rest_invariant ⟨registry, callers⟩ (by simp [stage, Stage.Alive]) rfl (by simp)
      | _ => simp [step, stage] at stepped
  | exit thread =>
      simp only [step, Option.ite_none_right_eq_some, Option.some.injEq] at stepped
      rcases stepped with ⟨stage, rfl⟩
      exact rest_invariant ⟨registry, callers⟩ (by simp [stage, Stage.Alive]) rfl (by simp)

theorem invariant_undisturbed {state : State} (invariant : Invariant state) :
    Undisturbed state := by
  rcases invariant with ⟨registry, callers⟩
  constructor
  · exact fun thread => (callers thread).found
  · intro thread entry stands
    rcases (callers thread).way entry stands with ⟨listed, _, way, _⟩
    exact way_standing listed way
  · exact fun thread => (callers thread).bounded
  · exact fun thread => (callers thread).present
  · intro writer
    have ring := registry.ring
    rw [settled_idle writer] at ring
    exact ring

/-- Lookups by any number of threads, interleaved access by access with one
creation or deletion at a time. -/
theorem lookups_undisturbed (stale : Links Node) (blocks : Nat → TxThread)
    (schedule : List Action)
    (orderly : Along step Orderly (State.initial stale blocks) schedule) :
    Always step Undisturbed (State.initial stale blocks) schedule :=
  always_mono step (fun _ => invariant_undisturbed) _ schedule
    (always_of_along step Invariant Orderly
      (fun _ _ _ invariant orderly stepped => step_invariant invariant orderly stepped) _ schedule
      (initial_invariant stale blocks) orderly)

/-- A condition that can be tested: no block is used twice. -/
def Fresh (state : State) : Action → Prop
  | .identify thread => thread ∈ state.listed
  | .create creation => creation.thread ∉ state.retired
  | _ => True

instance (state : State) : DecidablePred (Fresh state)
  | .identify _ => inferInstanceAs (Decidable (_ ∈ _))
  | .create _ => inferInstanceAs (Decidable (¬ _))
  | .delete _ | .write | .start _ | .compare _ | .advance _ | .resume _ | .exit _ => .isTrue trivial

theorem fresh_orderly (state : State) (action : Action) (fresh : Fresh state action) :
    Orderly state action := by
  cases action with
  | identify thread => exact fresh
  | create creation => exact fun recycled => absurd recycled fresh
  | _ => trivial

def started (thread : Nat) : Creation where
  thread := thread
  arguments := { name := none, entryFunction := 0x1000, entryInput := 0, autoStart := 1 }
  answers := { handle := 4, threadId := thread + 6, stackLimits := none }

/-- The block on which a lookup stands is taken out of the list, and the lookup
still ends with its own. -/
theorem bypassed_lookup_found :
    Always step Undisturbed (State.initial ThreadStart.emptyList fun _ => ThreadStart.noBlock)
      (.create (started 1) :: List.replicate 15 .write ++
        .create (started 2) :: List.replicate 15 .write ++
        [.start 1, .start 2, .exit 1, .identify 2, .compare 2, .delete 1] ++
        List.replicate 5 .write ++ [.advance 2, .compare 2, .resume 2]) :=
  lookups_undisturbed _ _ _ (along_mono step fresh_orderly _ _ (by decide))

end UsbxNxdk.ThreadLookups
