import UsbxNxdk.ThreadCreations

/-! What overlapping insertions leave of the list of threads. -/

namespace UsbxNxdk.ThreadCreations

open Execution LinkedRing LinkedRoutes Thread ThreadTable

/-! ### Where the links lead in any case -/

def Written (state : State) (node : Node) : Prop :=
  node = .head ∨ ∃ thread ∈ state.created, node = .block thread ∧
    ∀ call, state.calls thread = some call → .entryFlink ∉ call.remaining

/-- Whatever overlaps: the links lead from written nodes to written nodes, and to
the block of a call only from the tail that the call has read. -/
structure Traced (state : State) : Prop extends Recorded state where
  closed : ∀ node, Written state node → Written state (state.links.flink node)
  head : Written state (state.links.blink .head)
  tail : ∀ thread call, state.calls thread = some call → .readTail ∉ call.remaining →
    Written state call.exBlink
  arrives : ∀ node thread call, Written state node → state.links.flink node = .block thread →
    state.calls thread = some call → .readTail ∉ call.remaining ∧ call.exBlink = node

structure Clashing (state : State) : Prop where
  traced : Traced state
  clash : ∃ first second one other, first ≠ second ∧ state.calls first = some one ∧
    state.calls second = some other ∧ .readTail ∉ one.remaining ∧ .readTail ∉ other.remaining ∧
    one.exBlink = other.exBlink

theorem initial_traced {links : Links Node} {listed : List Nat} (blocks : Nat → TxThread)
    (ring : Ring links .head (listed.map .block)) :
    Traced (State.initial links blocks listed) := by
  have inside : ∀ node ∈ Node.head :: listed.map .block,
      Written (State.initial links blocks listed) node := by
    intro node member
    rcases List.mem_cons.mp member with head | entry
    · exact Or.inl head
    · rcases List.mem_map.mp entry with ⟨thread, here, rfl⟩
      refine Or.inr ⟨thread, here, rfl, fun call present => ?_⟩
      cases present
  refine { toRecorded := initial_recorded links blocks listed, closed := ?_, head := ?_
           tail := ?_, arrives := ?_ }
  · intro node written
    have member : node ∈ Node.head :: listed.map .block := by
      rcases written with rfl | ⟨thread, here, rfl, _⟩
      · exact List.mem_cons_self
      · exact List.mem_cons_of_mem _ (List.mem_map_of_mem here)
    apply inside
    change links.flink node ∈ _
    rcases List.mem_append.mp (linked_member ring.forward member) with entry | ends
    · exact List.mem_cons_of_mem _ entry
    · rw [List.mem_singleton.mp ends]
      exact List.mem_cons_self
  · apply inside
    have last := last_member Node.head (listed.map .block)
    rw [← ring_blink ring] at last
    exact last
  · intro thread call present
    cases present
  · intro node thread call _ _ present
    cases present

theorem create_traced {state : State} {thread : Nat} (arguments : CreateArguments)
    (answers : CreateAnswers) (traced : Traced state) (unused : thread ∉ state.created) :
    Traced (state.enter thread arguments answers) := by
  have readTail : CreateStep.readTail ∈ createSteps := by decide
  have entryFlink : CreateStep.entryFlink ∈ createSteps := by decide
  have more : ∀ node, Written state node →
      Written (state.enter thread arguments answers) node := by
    intro node written
    rcases written with head | ⟨other, member, same, done⟩
    · exact Or.inl head
    · refine Or.inr ⟨other, List.mem_append_left _ member, same, fun call present => ?_⟩
      rcases after_enter present with ⟨own, _⟩ | ⟨_, before⟩
      · exact absurd (own ▸ member) unused
      · exact done call before
  have fewer : ∀ node, Written (state.enter thread arguments answers) node →
      Written state node := by
    intro node written
    rcases written with head | ⟨other, member, same, done⟩
    · exact Or.inl head
    · have apart : other ≠ thread := by
        intro own
        subst own
        exact done _ (enter_own state other arguments answers) entryFlink
      rcases List.mem_append.mp member with before | own
      · refine Or.inr ⟨other, before, same, fun call present => ?_⟩
        exact done call ((enter_other arguments answers apart).trans present)
      · exact absurd (List.mem_singleton.mp own) apart
  refine { toRecorded := create_recorded arguments answers traced.toRecorded, closed := ?_
           head := ?_, tail := ?_, arrives := ?_ }
  · exact fun node written => more _ (traced.closed node (fewer node written))
  · exact more _ traced.head
  · intro other call present read
    rcases after_enter present with ⟨_, rfl⟩ | ⟨_, before⟩
    · exact absurd readTail read
    · exact more _ (traced.tail other call before read)
  · intro node other call written leads present
    have before := fewer node written
    rcases after_enter present with ⟨rfl, _⟩ | ⟨_, found⟩
    · have target : Written state (.block other) := leads ▸ traced.closed node before
      rcases target with head | ⟨known, member, same, _⟩
      · cases head
      · exact absurd (Node.block.inj same ▸ member) unused
    · exact traced.arrives node other call before leads found

section Traces

variable {state : State} {thread : Nat} {call : Call} {current : CreateStep}
  {rest : List CreateStep}

theorem written_more (present : state.calls thread = some call)
    (program : call.remaining = current :: rest) {node : Node} (written : Written state node) :
    Written (state.effect thread call rest current) node := by
  rcases written with head | ⟨other, member, same, done⟩
  · exact Or.inl head
  · refine Or.inr ⟨other, member, same, fun found presentOther => ?_⟩
    rcases after_access presentOther with ⟨rfl, rfl⟩ | ⟨_, before⟩
    · have ahead := done call present
      rw [program] at ahead
      exact fun pending => ahead (List.mem_cons_of_mem current pending)
    · exact done found before

theorem written_before (present : state.calls thread = some call)
    (program : call.remaining = current :: rest) {node : Node}
    (written : Written (state.effect thread call rest current) node) :
    Written state node ∨ (current = .entryFlink ∧ node = .block thread) := by
  rcases written with head | ⟨other, member, same, done⟩
  · exact Or.inl (Or.inl head)
  · by_cases own : other = thread
    · subst own
      have ahead := done _ (effect_own current)
      by_cases now : current = .entryFlink
      · exact Or.inr ⟨now, same⟩
      · refine Or.inl (Or.inr ⟨other, member, same, fun found presentOther => ?_⟩)
        cases present.symm.trans presentOther
        rw [program]
        exact fun pending => (List.mem_cons.mp pending).elim (fun equal => now equal.symm) ahead
    · refine Or.inl (Or.inr ⟨other, member, same, fun found presentOther => ?_⟩)
      exact done found ((effect_other current own).trans presentOther)

theorem written_own (recorded : Recorded state) (present : state.calls thread = some call)
    (done : .entryFlink ∉ rest) :
    Written (state.effect thread call rest current) (.block thread) := by
  refine Or.inr ⟨thread, recorded.began thread call present, rfl, fun found presentOwn => ?_⟩
  cases (effect_own current).symm.trans presentOwn
  exact done

theorem unwritten (present : state.calls thread = some call)
    (pending : .entryFlink ∈ call.remaining) : ¬ Written state (.block thread) := by
  intro written
  rcases written with head | ⟨other, _, same, done⟩
  · cases head
  · cases same
    exact done call present pending

theorem written_flink (recorded : Recorded state) (present : state.calls thread = some call)
    (program : call.remaining = current :: rest) {node : Node}
    (written : Written (state.effect thread call rest current) node) :
    (Written state node ∧ (state.effect thread call rest current).links.flink node =
        state.links.flink node) ∨
      (state.effect thread call rest current).links.flink node = .head ∨
      (current = .tailFlink ∧ node = call.exBlink ∧
        (state.effect thread call rest current).links.flink node = .block thread) := by
  have order := order_of recorded present program
  rcases written_before present program written with before | ⟨rfl, rfl⟩
  · rcases access_flink thread call.arguments call.answers call.exBlink state.table current node
      with kept | ⟨rfl, ⟨write, rfl⟩ | rfl⟩ | ⟨rfl, rfl⟩
    · exact Or.inl ⟨before, kept⟩
    · have pending : .entryFlink ∈ call.remaining :=
        program ▸ List.mem_cons_of_mem _ (order.2.1 _ (by decide))
      exact absurd before (unwritten present pending)
    · exact Or.inr (Or.inl (Function.update_self _ _ _))
    · exact Or.inr (Or.inr ⟨rfl, rfl, Function.update_self _ _ _⟩)
  · exact Or.inr (Or.inl (Function.update_self _ _ _))

theorem tailFlink_read (recorded : Recorded state) (present : state.calls thread = some call)
    (program : call.remaining = .tailFlink :: rest) : rest = [.headBlink] :=
  order_of recorded present program

theorem access_closed (traced : Traced state) (present : state.calls thread = some call)
    (program : call.remaining = current :: rest) {node : Node}
    (written : Written (state.effect thread call rest current) node) :
    Written (state.effect thread call rest current)
      ((state.effect thread call rest current).links.flink node) := by
  rcases written_flink traced.toRecorded present program written with
    ⟨before, kept⟩ | ends | ⟨rfl, _, target⟩
  · rw [kept]
    exact written_more present program (traced.closed node before)
  · exact Or.inl ends
  · rw [target]
    apply written_own traced.toRecorded present
    rw [tailFlink_read traced.toRecorded present program]
    decide

theorem access_head (traced : Traced state) (present : state.calls thread = some call)
    (program : call.remaining = current :: rest) :
    Written (state.effect thread call rest current)
      ((state.effect thread call rest current).links.blink .head) := by
  have blink : (state.effect thread call rest current).links.blink .head =
      if current = .headBlink then .block thread else state.links.blink .head :=
    access_headBlink current
  rw [blink]
  by_cases last : current = .headBlink
  · subst last
    have ends : rest = [] := order_of traced.toRecorded present program
    rw [if_pos rfl]
    exact written_own traced.toRecorded present (by rw [ends]; decide)
  · rw [if_neg last]
    exact written_more present program traced.head

theorem access_tail (traced : Traced state) (present : state.calls thread = some call)
    (program : call.remaining = current :: rest) {other : Nat} {found : Call}
    (presentOther : (state.effect thread call rest current).calls other = some found)
    (read : .readTail ∉ found.remaining) :
    Written (state.effect thread call rest current) found.exBlink := by
  apply written_more present program
  rcases after_access presentOther with ⟨_, rfl⟩ | ⟨_, before⟩
  · by_cases reads : current = .readTail
    · subst reads
      exact traced.head
    · change Written state (state.table.tailRead call.exBlink current)
      rw [tailRead_kept _ _ reads]
      apply traced.tail thread call present
      rw [program]
      exact fun pending => (List.mem_cons.mp pending).elim (fun same => reads same.symm) read
  · exact traced.tail other found before read

theorem access_arrives (traced : Traced state) (present : state.calls thread = some call)
    (program : call.remaining = current :: rest) {node : Node} {other : Nat} {found : Call}
    (written : Written (state.effect thread call rest current) node)
    (leads : (state.effect thread call rest current).links.flink node = .block other)
    (presentOther : (state.effect thread call rest current).calls other = some found) :
    .readTail ∉ found.remaining ∧ found.exBlink = node := by
  rcases written_flink traced.toRecorded present program written with
    ⟨before, kept⟩ | ends | ⟨rfl, rfl, target⟩
  · rw [kept] at leads
    rcases after_access presentOther with ⟨rfl, rfl⟩ | ⟨_, found⟩
    · rcases traced.arrives node other call before leads present with ⟨read, tail⟩
      rw [program] at read
      have reads : current ≠ .readTail := fun same => read (same ▸ List.mem_cons_self)
      exact ⟨fun pending => read (List.mem_cons_of_mem current pending),
        (tailRead_kept _ _ reads).trans tail⟩
    · exact traced.arrives node other _ before leads found
  · cases leads.symm.trans ends
  · cases leads.symm.trans target
    cases (effect_own .tailFlink).symm.trans presentOther
    have last := tailFlink_read traced.toRecorded present program
    subst last
    exact ⟨by simp [Call.after], rfl⟩

theorem access_traced (traced : Traced state) (present : state.calls thread = some call)
    (program : call.remaining = current :: rest) :
    Traced (state.effect thread call rest current) where
  toRecorded := access_recorded traced.toRecorded present program
  closed := fun _ written => access_closed traced present program written
  head := access_head traced present program
  tail := fun _ _ presentOther read => access_tail traced present program presentOther read
  arrives := fun _ _ _ written leads presentOther =>
    access_arrives traced present program written leads presentOther

end Traces

/-! ### Any run -/

theorem step_traced {state next : State} {action : Action} (traced : Traced state)
    (stepped : step state action = some next) : Traced next := by
  cases action with
  | create thread arguments answers =>
      simp only [step, Option.ite_none_right_eq_some, Option.some.injEq] at stepped
      rcases stepped with ⟨unused, rfl⟩
      exact create_traced arguments answers traced unused
  | access thread =>
      rcases access_some stepped with ⟨call, current, rest, present, program, rfl⟩
      exact access_traced traced present program

theorem step_ordered {state next : State} {action : Action} {listed : List Nat}
    (ordered : Ordered state listed) (apart : Apart state action)
    (stepped : step state action = some next) : ∃ grown, Ordered next grown := by
  cases action with
  | create thread arguments answers =>
      simp only [step, Option.ite_none_right_eq_some, Option.some.injEq] at stepped
      rcases stepped with ⟨unused, rfl⟩
      exact ⟨listed, create_ordered arguments answers ordered unused⟩
  | access thread => exact access_ordered ordered apart stepped

theorem read_kept {state next : State} {action : Action} {thread : Nat} {call : Call}
    (traced : Traced state) (stepped : step state action = some next)
    (present : state.calls thread = some call) (read : .readTail ∉ call.remaining) :
    ∃ later, next.calls thread = some later ∧ .readTail ∉ later.remaining ∧
      later.exBlink = call.exBlink := by
  cases action with
  | create other arguments answers =>
      simp only [step, Option.ite_none_right_eq_some, Option.some.injEq] at stepped
      rcases stepped with ⟨unused, rfl⟩
      have apart : thread ≠ other := fun same => unused (same ▸ traced.began thread call present)
      exact ⟨call, (enter_other arguments answers apart).trans present, read, rfl⟩
  | access other =>
      rcases access_some stepped with ⟨active, current, rest, presentOther, program, rfl⟩
      by_cases own : thread = other
      · subst own
        cases present.symm.trans presentOther
        rw [program] at read
        have reads : current ≠ .readTail := fun same => read (same ▸ List.mem_cons_self)
        refine ⟨_, effect_own current, ?_, tailRead_kept _ _ reads⟩
        exact fun pending => read (List.mem_cons_of_mem current pending)
      · exact ⟨call, (effect_other current own).trans present, read, rfl⟩

theorem step_clashing {state next : State} {action : Action} (clashing : Clashing state)
    (stepped : step state action = some next) : Clashing next := by
  rcases clashing with ⟨traced, first, second, one, other, apart, presentFirst, presentSecond,
    readFirst, readSecond, same⟩
  rcases read_kept traced stepped presentFirst readFirst with
    ⟨laterFirst, foundFirst, stillFirst, keptFirst⟩
  rcases read_kept traced stepped presentSecond readSecond with
    ⟨laterSecond, foundSecond, stillSecond, keptSecond⟩
  refine ⟨step_traced traced stepped, first, second, laterFirst, laterSecond, apart, foundFirst,
    foundSecond, stillFirst, stillSecond, ?_⟩
  rw [keptFirst, keptSecond, same]

theorem overlap_clashing {state next : State} {action : Action} {listed : List Nat}
    (ordered : Ordered state listed) (traced : Traced state) (overlaps : ¬ Apart state action)
    (stepped : step state action = some next) : Clashing next := by
  refine ⟨step_traced traced stepped, ?_⟩
  cases action with
  | create thread arguments answers => exact absurd trivial overlaps
  | access thread =>
      simp only [Apart, not_forall, not_not] at overlaps
      rcases overlaps with ⟨call, present, reads, other, active, presentOther, inserting⟩
      rcases access_some stepped with ⟨found, current, rest, same, program, rfl⟩
      cases present.symm.trans same
      rw [program] at reads
      cases reads
      have apart : other ≠ thread := by
        intro own
        subst own
        cases present.symm.trans presentOther
        exact inserting.1 (program ▸ List.mem_cons_self)
      have later : rest = [.entryFlink, .entryBlink, .tailFlink, .headBlink] :=
        order_of ordered.toRecorded present program
      refine ⟨thread, other, _, active, apart.symm, effect_own _,
        (effect_other _ apart).trans presentOther, ?_, inserting.1, ?_⟩
      · rw [later]
        simp [Call.after]
      · exact (ordered.underway other active presentOther inserting).tail.symm

/-- No walk along the forward links from the head comes to the block. -/
def Lost (state : State) (thread : Nat) : Prop :=
  ∀ steps, state.links.flink^[steps] .head ≠ .block thread

theorem walk_tail {state : State} (traced : Traced state) {thread : Nat} {call : Call}
    (present : state.calls thread = some call) {steps : Nat}
    (reached : state.links.flink^[steps] .head = .block thread) :
    state.links.flink call.exBlink = .block thread := by
  cases steps with
  | zero => cases reached
  | succ before =>
      have written : Written state (state.links.flink^[before] .head) :=
        Function.Iterate.rec (Written state) (Or.inl rfl) traced.closed before
      rw [Function.iterate_succ_apply'] at reached
      rw [(traced.arrives _ thread call written reached present).2]
      exact reached

/-- Of two blocks behind the same tail one at most can be found. -/
theorem clashing_lost {state : State} (clashing : Clashing state) :
    ∃ thread ∈ state.created, Lost state thread := by
  rcases clashing with ⟨traced, first, second, one, other, apart, presentFirst, presentSecond, _,
    _, same⟩
  by_cases lost : Lost state first
  · exact ⟨first, traced.began first one presentFirst, lost⟩
  · refine ⟨second, traced.began second other presentSecond, fun steps reached => ?_⟩
    simp only [Lost, not_forall, not_not] at lost
    rcases lost with ⟨before, found⟩
    have leadsFirst := walk_tail traced presentFirst found
    have leadsSecond := walk_tail traced presentSecond reached
    rw [same] at leadsFirst
    exact apart (Node.block.inj (leadsFirst.symm.trans leadsSecond))

theorem lost_incomplete {state : State} {thread : Nat} (created : thread ∈ state.created)
    (lost : Lost state thread) : ¬ Complete state := by
  intro complete
  rcases complete with ⟨entries, ring, whole⟩
  rcases linked_iterate ring.forward (whole thread created) with ⟨steps, reached⟩
  exact lost steps reached

/-- Once all creations of a run have returned, the list is whole and holds every
block exactly when no insertion has begun during another one; otherwise a block
is lost. -/
theorem creations_complete_iff (links : Links Node) (blocks : Nat → TxThread) (listed : List Nat)
    (ring : Ring links .head (listed.map .block)) (schedule : List Action) (final : State)
    (executed : run step (State.initial links blocks listed) schedule = some final)
    (quiet : Quiet final) :
    (Complete final ↔ Along step Apart (State.initial links blocks listed) schedule) ∧
      (¬ Complete final → ∃ thread ∈ final.created, Lost final thread) := by
  have kept : (∃ grown, Ordered (State.initial links blocks listed) grown) ∧
      Traced (State.initial links blocks listed) :=
    ⟨⟨listed, initial_ordered blocks ring⟩, initial_traced blocks ring⟩
  have divided := run_divided step (fun state => (∃ grown, Ordered state grown) ∧ Traced state)
    Clashing Apart
    (fun _ _ _ both apart stepped =>
      ⟨both.1.elim fun _ ordered => step_ordered ordered apart stepped,
        step_traced both.2 stepped⟩)
    (fun _ _ _ both overlaps stepped =>
      both.1.elim fun _ ordered => overlap_clashing ordered both.2 overlaps stepped)
    (fun _ _ _ clashing stepped => step_clashing clashing stepped) kept executed
  rcases divided with ⟨along, ordered, _⟩ | ⟨overlapping, clashing⟩
  · have complete := ordered.elim fun _ ordered => ordered_complete ordered quiet
    exact ⟨iff_of_true complete along, fun incomplete => absurd complete incomplete⟩
  · rcases clashing_lost clashing with ⟨thread, created, lost⟩
    exact ⟨iff_of_false (lost_incomplete created lost) overlapping,
      fun _ => ⟨thread, created, lost⟩⟩

def nested : List Action :=
  .create 1 ThreadStart.alone.arguments ThreadStart.alone.answers ::
    List.replicate 12 (.access 1) ++
    .create 2 ThreadStart.alone.arguments ThreadStart.alone.answers ::
      List.replicate 15 (.access 2) ++ List.replicate 3 (.access 1)

theorem nested_creations :
    ∃ final, run step (State.initial ThreadStart.emptyList (fun _ => ThreadStart.noBlock) [])
        nested = some final ∧
      (Complete final ↔
        Along step Apart
          (State.initial ThreadStart.emptyList (fun _ => ThreadStart.noBlock) []) nested) ∧
      (¬ Complete final → ∃ thread ∈ final.created, Lost final thread) := by
  have returns : (run step (State.initial ThreadStart.emptyList (fun _ => ThreadStart.noBlock) [])
      nested).isSome = true := by decide
  have quiet : ∀ final ∈ run step
      (State.initial ThreadStart.emptyList (fun _ => ThreadStart.noBlock) []) nested,
        Quiet final := by decide
  rcases Option.isSome_iff_exists.mp returns with ⟨final, executed⟩
  exact ⟨final, executed,
    creations_complete_iff ThreadStart.emptyList (fun _ => ThreadStart.noBlock) []
      { distinct := by decide, forward := rfl, backward := rfl } nested final executed
      (quiet final executed)⟩

end UsbxNxdk.ThreadCreations
