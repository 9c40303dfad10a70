import UsbxNxdk.Execution
import UsbxNxdk.ThreadAccesses

/-! The creation of a thread, interleaved with the new thread's own calls of
`_tx_thread_identify`. -/

namespace UsbxNxdk.ThreadStart

open Execution LinkedRing LinkedRoutes Thread ThreadTable

inductive Stage where
  | unborn
  | running
  | walking (entry : Node)
  | passed (entry : Node)
  | returned (thread : Nat)
  | asserted
  deriving DecidableEq, Repr

structure Setting where
  arguments : CreateArguments
  answers : CreateAnswers
  thread : Nat
  listed : List Nat

/-- `exBlink` is the local variable of `InsertTailList`; `visited` counts the
entries that the current walk has reached. -/
structure State where
  links : Links Node
  blocks : Nat → TxThread
  remaining : List CreateStep
  exBlink : Node
  stage : Stage
  visited : Nat

inductive Action where
  | create
  | start
  | identify
  | compare
  | advance
  | resume
  deriving DecidableEq, Repr

namespace Setting

variable (setting : Setting)

def nodes : List Node := setting.listed.map .block

def tail : Node := setting.nodes.getLastD .head

def effect (state : State) (current : CreateStep) : State :=
  let table : Table := ⟨state.links, state.blocks⟩
  let after := table.access setting.thread setting.arguments setting.answers state.exBlink current
  { state with
    links := after.links
    blocks := after.blocks
    exBlink := table.tailRead state.exBlink current }

end Setting

/-- The loop test of `_tx_thread_identify` on an entry just read. -/
def State.look (state : State) (visited : Nat) (entry : Node) : State :=
  if entry = .head then { state with stage := .asserted }
  else { state with stage := .walking entry, visited := visited + 1 }

/-- The kernel may run the new thread as soon as `CreateThread` has made it,
unless it was made suspended. -/
def step (setting : Setting) (state : State) : Action → Option State
  | .create =>
      match state.remaining with
      | [] => none
      | current :: rest => some { setting.effect state current with remaining := rest }
  | .start =>
      if state.stage = .unborn ∧ .write .createThread ∉ state.remaining ∧
          createdSuspendCount (creationFlags setting.arguments) = 0 then
        some { state with stage := .running }
      else none
  | .identify =>
      match state.stage with
      | .running => some (state.look 0 (state.links.flink .head))
      | _ => none
  | .compare =>
      match state.stage with
      | .walking (.block thread) =>
          if (state.blocks thread).win32ThreadId = setting.answers.threadId then
            some { state with stage := .returned thread }
          else some { state with stage := .passed (.block thread) }
      | _ => none
  | .advance =>
      match state.stage with
      | .passed entry => some (state.look state.visited (state.links.flink entry))
      | _ => none
  | .resume =>
      match state.stage with
      | .returned _ => some { state with stage := .running }
      | _ => none

def creating (links : Links Node) (blocks : Nat → TxThread) : State :=
  { links := links
    blocks := blocks
    remaining := createSteps
    exBlink := .null
    stage := .unborn
    visited := 0 }

structure Setting.Prepared (setting : Setting) (links : Links Node) (blocks : Nat → TxThread) :
    Prop where
  ring : Ring links .head setting.nodes
  unlisted : setting.thread ∉ setting.listed
  distinct : ∀ thread ∈ setting.listed,
    (blocks thread).win32ThreadId ≠ setting.answers.threadId

def Stage.standing : Stage → Option Node
  | .walking entry => some entry
  | .passed entry => some entry
  | _ => none

/-- A call of `_tx_thread_identify` by the new thread returns its own block
after at most one visit to each entry, stands on blocks of the list only, and
never reaches the assertion. -/
def Identified (setting : Setting) (state : State) : Prop :=
  state.stage ≠ .asserted ∧ (∀ thread, state.stage = .returned thread → thread = setting.thread) ∧
    state.visited ≤ setting.listed.length + 1 ∧
    ∀ entry, state.stage.standing = some entry →
      ∃ thread ∈ setting.listed ++ [setting.thread], entry = .block thread

def State.reads (state : State) : Action → Option Node
  | .identify => some .head
  | .advance =>
      match state.stage with
      | .passed entry => some entry
      | _ => none
  | _ => none

/-- The new thread reads the forward link of the old tail only after the
creating thread has written it. -/
def TailLinked (setting : Setting) (state : State) (action : Action) : Prop :=
  state.reads action = some setting.tail → .tailFlink ∉ state.remaining

/-! ### Creation without interference -/

theorem effect_remaining (setting : Setting) (state : State) (remaining : List CreateStep)
    (current : CreateStep) :
    setting.effect { state with remaining := remaining } current =
      { setting.effect state current with remaining := remaining } := by
  cases current <;> rfl

theorem effects_remaining (setting : Setting) (steps : List CreateStep) (state : State)
    (remaining : List CreateStep) :
    steps.foldl setting.effect { state with remaining := remaining } =
      { steps.foldl setting.effect state with remaining := remaining } := by
  induction steps generalizing state with
  | nil => rfl
  | cons current rest ih =>
      rw [List.foldl_cons, List.foldl_cons, effect_remaining]
      exact ih (setting.effect state current)

theorem create_all (setting : Setting) (steps : List CreateStep) (state : State)
    (program : state.remaining = steps) :
    run (step setting) state (List.replicate steps.length .create) =
      some { steps.foldl setting.effect state with remaining := [] } := by
  induction steps generalizing state with
  | nil =>
      have same : { state with remaining := [] } = state := by
        rw [← program]
      rw [List.foldl_nil, same]
      rfl
  | cons current rest ih =>
      have first : step setting state .create =
          some { setting.effect state current with remaining := rest } := by
        simp only [step, program]
      calc
        run (step setting) state (List.replicate (current :: rest).length .create) =
            run (step setting) { setting.effect state current with remaining := rest }
              (List.replicate rest.length .create) := by
          rw [List.length_cons, List.replicate_succ, run_cons, first, Option.bind_some]
        _ = some
            { rest.foldl setting.effect { setting.effect state current with remaining := rest } with
              remaining := [] } := ih _ rfl
        _ = some { rest.foldl setting.effect (setting.effect state current) with
              remaining := [] } := by
          rw [effects_remaining]

theorem writes_block (setting : Setting) (writes : List BlockWrite) (state : State) :
    ((writes.map .write).foldl setting.effect state).blocks setting.thread =
      writes.foldl (BlockWrite.run setting.arguments setting.answers)
        (state.blocks setting.thread) := by
  induction writes generalizing state with
  | nil => rfl
  | cons write rest ih =>
      rw [List.map_cons, List.foldl_cons, List.foldl_cons, ih]
      simp only [Setting.effect, Table.access, Table.write, Function.update_self]

/-! ### The list under construction -/

def Setting.arrival (setting : Setting) (remaining : List CreateStep) : Node :=
  if .tailFlink ∈ remaining then .head else .block setting.thread

theorem arrival_kept (setting : Setting) {current : CreateStep} (rest : List CreateStep)
    (other : .tailFlink ≠ current) : setting.arrival (current :: rest) = setting.arrival rest := by
  simp [Setting.arrival, other]

structure Registry (setting : Setting) (state : State) : Prop where
  position : state.remaining ∈ createSteps.tails
  forward : Linked state.links.flink .head setting.nodes (setting.arrival state.remaining)
  tail : .headBlink ∈ state.remaining → state.links.blink .head = setting.tail
  exBlink : .readTail ∉ state.remaining → state.exBlink = setting.tail

theorem thread_outside {setting : Setting} (unlisted : setting.thread ∉ setting.listed) :
    .block setting.thread ∉ Node.head :: setting.nodes := by
  simpa [Setting.nodes] using unlisted

theorem create_registry {setting : Setting} {state next : State}
    (distinct : (Node.head :: setting.nodes).Nodup) (unlisted : setting.thread ∉ setting.listed)
    (registry : Registry setting state) (stepped : step setting state .create = some next) :
    Registry setting next := by
  have outside := thread_outside unlisted
  rcases registry with ⟨position, forward, tail, exBlink⟩
  cases program : state.remaining with
  | nil => simp [step, program] at stepped
  | cons current rest =>
      rw [program] at position forward
      have order := create_order _ position
      simp only [step, program] at stepped
      cases stepped
      simp only [program, List.mem_cons] at tail exBlink
      have rests := tails_rest position
      cases current with
      | write write =>
          rw [arrival_kept setting rest (by simp)] at forward
          have kept (node : Node) (apart : node ≠ .block setting.thread) :=
            write_links setting.arguments setting.answers ⟨state.links, state.blocks⟩ write apart
          exact
            { position := rests
              forward := linked_agree
                (fun node member => (kept node (ne_of_mem_of_not_mem member outside)).1) forward
              tail := fun later => (kept .head (by simp)).2.trans (tail (Or.inr later))
              exBlink := fun read => exBlink (by simpa using read) }
      | readTail =>
          have later : rest = [.entryFlink, .entryBlink, .tailFlink, .headBlink] := order
          rw [arrival_kept setting rest (by simp)] at forward
          exact
            { position := rests
              forward := forward
              tail := fun later => tail (Or.inr later)
              exBlink := fun _ => tail (Or.inr (by rw [later]; decide)) }
      | entryFlink =>
          rw [arrival_kept setting rest (by simp)] at forward
          exact
            { position := rests
              forward := linked_outside outside forward
              tail := fun later => tail (Or.inr later)
              exBlink := fun read => exBlink (by simpa using read) }
      | entryBlink =>
          rw [arrival_kept setting rest (by simp)] at forward
          exact
            { position := rests
              forward := forward
              tail := fun later => tail (Or.inr later)
              exBlink := fun read => exBlink (by simpa using read) }
      | tailFlink =>
          have later : rest = [.headBlink] := order
          subst later
          have last := exBlink (by simp)
          refine
            { position := rests
              forward := ?_
              tail := fun later => tail (Or.inr later)
              exBlink := fun _ => last }
          change Linked (Function.update state.links.flink state.exBlink (.block setting.thread))
            .head setting.nodes (.block setting.thread)
          rw [last]
          exact linked_retarget distinct forward
      | headBlink =>
          have later : rest = [] := order
          subst later
          rw [arrival_kept setting [] (by simp)] at forward
          exact
            { position := rests
              forward := forward
              tail := fun later => absurd later List.not_mem_nil
              exBlink := fun _ => exBlink (by simp) }

theorem creating_registry {setting : Setting} {links : Links Node} {blocks : Nat → TxThread}
    (prepared : setting.Prepared links blocks) : Registry setting (creating links blocks) := by
  have pending : ∀ last ∈ insertTailList, last ∈ createSteps := by decide
  constructor
  · change createSteps ∈ createSteps.tails
    decide
  · change Linked links.flink .head setting.nodes (setting.arrival createSteps)
    rw [Setting.arrival, if_pos (pending .tailFlink (by decide))]
    exact prepared.ring.forward
  · exact fun _ => ring_blink prepared.ring
  · exact fun read => absurd (pending .readTail (by decide)) read

/-! ### The walk of the new thread -/

def Setting.route (setting : Setting) : List Node :=
  .head :: (setting.nodes ++ [.block setting.thread])

def Stage.Sound (setting : Setting) (visited : Nat) : Stage → Prop
  | .walking entry => entry ≠ .head ∧ setting.route[visited]? = some entry
  | .passed entry => entry ≠ .head ∧ (.head :: setting.nodes)[visited]? = some entry
  | .returned thread => thread = setting.thread
  | .asserted => False
  | _ => True

structure Walk (setting : Setting) (state : State) : Prop where
  others : ∀ thread ∈ setting.listed,
    (state.blocks thread).win32ThreadId ≠ setting.answers.threadId
  own : .write .createThread ∉ state.remaining →
    (state.blocks setting.thread).win32ThreadId = setting.answers.threadId
  born : state.stage ≠ .unborn → .write .createThread ∉ state.remaining
  sound : state.stage.Sound setting state.visited
  visits : state.visited ≤ setting.listed.length + 1

theorem creating_walk {setting : Setting} {links : Links Node} {blocks : Nat → TxThread}
    (prepared : setting.Prepared links blocks) : Walk setting (creating links blocks) := by
  have pending : CreateStep.write .createThread ∈ createSteps := by decide
  constructor
  · exact prepared.distinct
  · exact fun made => absurd pending made
  · exact fun started => absurd rfl started
  · trivial
  · exact Nat.zero_le _

theorem create_walk {setting : Setting} {state next : State}
    (unlisted : setting.thread ∉ setting.listed) (position : state.remaining ∈ createSteps.tails)
    (walk : Walk setting state) (stepped : step setting state .create = some next) :
    Walk setting next := by
  rcases walk with ⟨others, own, born, sound, visits⟩
  cases program : state.remaining with
  | nil => simp [step, program] at stepped
  | cons current rest =>
      rw [program] at position
      have order := create_order _ position
      simp only [step, program] at stepped
      cases stepped
      simp only [program, List.mem_cons, not_or] at own born
      cases current with
      | write write =>
          have clearing := order.2.2.1
          refine ⟨?_, ?_, fun started => (born started).2, sound, visits⟩
          · intro thread member
            have different : thread ≠ setting.thread := by
              intro same
              exact unlisted (same ▸ member)
            simp only [Setting.effect, Table.access, Table.write, Function.update_of_ne different]
            exact others thread member
          · intro made
            simp only [Setting.effect, Table.access, Table.write, Function.update_self]
            apply write_identifier
            · rintro rfl
              exact made (clearing rfl)
            · intro other
              exact own ⟨by simpa using Ne.symm other, made⟩
      | _ =>
          exact ⟨others, fun made => own ⟨by simp, made⟩, fun started => (born started).2, sound,
            visits⟩

theorem route_block {setting : Setting} {place : Nat} {entry : Node}
    (found : (setting.nodes ++ [.block setting.thread])[place]? = some entry) : entry ≠ .head := by
  have member := List.mem_of_getElem? found
  rintro rfl
  simp [Setting.nodes] at member

/-- A link read at a place of the route, unless it is the old tail's link before
the creating thread has written it, leads one place further. -/
theorem look_route {setting : Setting} {state : State} {node : Node} {place : Nat}
    (forward : Linked state.links.flink .head setting.nodes (setting.arrival state.remaining))
    (here : (Node.head :: setting.nodes)[place]? = some node)
    (linked : node = setting.tail → .tailFlink ∉ state.remaining) :
    (setting.nodes ++ [.block setting.thread])[place]? = some (state.links.flink node) := by
  have next := linked_next forward here
  by_cases pending : CreateStep.tailFlink ∈ state.remaining
  · have inside : place < setting.nodes.length := by
      rcases List.getElem?_eq_some_iff.mp here with ⟨bound, _⟩
      rw [List.length_cons] at bound
      by_contra beyond
      have last : place = setting.nodes.length := by omega
      rw [last, last_place] at here
      exact linked (Option.some.inj here).symm pending
    rw [List.getElem?_append_left inside] at next ⊢
    exact next
  · rw [Setting.arrival, if_neg pending] at next
    exact next

theorem look_walk {setting : Setting} {state : State} {node : Node} {place : Nat}
    (walk : Walk setting state) (started : state.stage ≠ .unborn)
    (forward : Linked state.links.flink .head setting.nodes (setting.arrival state.remaining))
    (here : (Node.head :: setting.nodes)[place]? = some node)
    (linked : node = setting.tail → .tailFlink ∉ state.remaining) :
    Walk setting (state.look place (state.links.flink node)) := by
  have found := look_route forward here linked
  have inside := route_block found
  rcases List.getElem?_eq_some_iff.mp here with ⟨bound, _⟩
  rw [State.look, if_neg inside]
  exact
    { others := walk.others
      own := walk.own
      born := fun _ => walk.born started
      sound := ⟨inside, found⟩
      visits := by simpa [Setting.nodes, Nat.lt_succ_iff] using bound }

theorem route_listed {setting : Setting} {place thread : Nat}
    (found : setting.route[place]? = some (.block thread)) (other : thread ≠ setting.thread) :
    thread ∈ setting.listed ∧ (Node.head :: setting.nodes)[place]? = some (.block thread) := by
  have member := List.mem_of_getElem? found
  have listed : thread ∈ setting.listed := by
    simpa [Setting.route, Setting.nodes, other] using member
  apply And.intro listed
  rw [Setting.route, ← List.cons_append] at found
  by_cases inside : place < (Node.head :: setting.nodes).length
  · rw [List.getElem?_append_left inside] at found
    exact found
  · rw [List.getElem?_append_right (Nat.le_of_not_lt inside)] at found
    have own := List.mem_of_getElem? found
    simp [other] at own

theorem compare_some {setting : Setting} {state next : State}
    (stepped : step setting state .compare = some next) :
    ∃ thread, state.stage = .walking (.block thread) ∧
      next =
        { state with
          stage :=
            if (state.blocks thread).win32ThreadId = setting.answers.threadId then
              .returned thread
            else .passed (.block thread) } := by
  cases stage : state.stage with
  | walking entry =>
      cases entry with
      | block thread =>
          simp only [step, stage] at stepped
          refine ⟨thread, rfl, ?_⟩
          by_cases same : (state.blocks thread).win32ThreadId = setting.answers.threadId
          · rw [if_pos same] at stepped ⊢
            exact (Option.some.inj stepped).symm
          · rw [if_neg same] at stepped ⊢
            exact (Option.some.inj stepped).symm
      | _ => simp [step, stage] at stepped
  | _ => simp [step, stage] at stepped

theorem compare_walk {setting : Setting} {state next : State} (walk : Walk setting state)
    (stepped : step setting state .compare = some next) : Walk setting next := by
  rcases walk with ⟨others, own, born, sound, visits⟩
  rcases compare_some stepped with ⟨thread, stage, rfl⟩
  rw [stage] at sound
  have made := born (by rw [stage]; simp)
  refine ⟨others, own, fun _ => made, ?_, visits⟩
  by_cases same : (state.blocks thread).win32ThreadId = setting.answers.threadId
  · rw [if_pos same]
    by_contra other
    exact others thread (route_listed sound.2 other).1 same
  · rw [if_neg same]
    have other : thread ≠ setting.thread := by
      rintro rfl
      exact same (own made)
    exact ⟨by simp, (route_listed sound.2 other).2⟩

theorem look_registry {setting : Setting} {state : State} (registry : Registry setting state)
    (visited : Nat) (entry : Node) : Registry setting (state.look visited entry) := by
  by_cases ends : entry = .head
  · rw [State.look, if_pos ends]
    exact ⟨registry.position, registry.forward, registry.tail, registry.exBlink⟩
  · rw [State.look, if_neg ends]
    exact ⟨registry.position, registry.forward, registry.tail, registry.exBlink⟩

def Invariant (setting : Setting) (state : State) : Prop :=
  Registry setting state ∧ Walk setting state

theorem step_invariant {setting : Setting} {state next : State} {action : Action}
    (distinct : (Node.head :: setting.nodes).Nodup) (unlisted : setting.thread ∉ setting.listed)
    (invariant : Invariant setting state) (linked : TailLinked setting state action)
    (stepped : step setting state action = some next) : Invariant setting next := by
  rcases invariant with ⟨registry, walk⟩
  cases action with
  | create =>
      exact ⟨create_registry distinct unlisted registry stepped,
        create_walk unlisted registry.position walk stepped⟩
  | start =>
      by_cases ready : state.stage = .unborn ∧ .write .createThread ∉ state.remaining ∧
          createdSuspendCount (creationFlags setting.arguments) = 0
      · simp only [step, if_pos ready] at stepped
        cases stepped
        exact ⟨⟨registry.position, registry.forward, registry.tail, registry.exBlink⟩,
          ⟨walk.others, walk.own, fun _ => ready.2.1, trivial, walk.visits⟩⟩
      · simp only [step, if_neg ready] at stepped
        cases stepped
  | identify =>
      cases stage : state.stage with
      | running =>
          simp only [step, stage] at stepped
          cases stepped
          have reached := look_walk walk (by rw [stage]; simp) registry.forward
            (rfl : (Node.head :: setting.nodes)[0]? = some .head)
            (fun same => linked (congrArg some same))
          exact ⟨look_registry registry _ _, reached⟩
      | _ => simp [step, stage] at stepped
  | compare =>
      have reached := compare_walk walk stepped
      rcases compare_some stepped with ⟨thread, _, rfl⟩
      exact ⟨⟨registry.position, registry.forward, registry.tail, registry.exBlink⟩, reached⟩
  | advance =>
      cases stage : state.stage with
      | passed entry =>
          have here := walk.sound
          rw [stage] at here
          simp only [step, stage] at stepped
          cases stepped
          have reached := look_walk walk (by rw [stage]; simp) registry.forward here.2
            (fun same => linked (by rw [State.reads, stage, same]))
          exact ⟨look_registry registry _ _, reached⟩
      | _ => simp [step, stage] at stepped
  | resume =>
      cases stage : state.stage with
      | returned thread =>
          simp only [step, stage] at stepped
          cases stepped
          exact ⟨⟨registry.position, registry.forward, registry.tail, registry.exBlink⟩,
            ⟨walk.others, walk.own, fun _ => walk.born (by rw [stage]; simp), trivial,
              walk.visits⟩⟩
      | _ => simp [step, stage] at stepped

theorem identified_linked {setting : Setting} {state next : State} {action : Action}
    (invariant : Invariant setting state) (stepped : step setting state action = some next)
    (identified : Identified setting next) : TailLinked setting state action := by
  intro reads pending
  have ends : state.links.flink setting.tail = .head := by
    have forward := invariant.1.forward
    rw [Setting.arrival, if_pos pending] at forward
    exact linked_last forward
  apply identified.1
  cases action with
  | identify =>
      cases stage : state.stage with
      | running =>
          simp only [step, stage] at stepped
          cases stepped
          rw [Option.some.inj reads, State.look, if_pos ends]
      | _ => simp [step, stage] at stepped
  | advance =>
      cases stage : state.stage with
      | passed entry =>
          simp only [State.reads, stage, Option.some.injEq] at reads
          simp only [step, stage] at stepped
          cases stepped
          rw [reads, State.look, if_pos ends]
      | _ => simp [step, stage] at stepped
  | _ => cases reads

theorem route_standing {setting : Setting} {place : Nat} {entry : Node} (apart : entry ≠ .head)
    (found : setting.route[place]? = some entry) :
    ∃ thread ∈ setting.listed ++ [setting.thread], entry = .block thread := by
  rcases List.mem_cons.mp (List.mem_of_getElem? found) with head | inside
  · exact absurd head apart
  · rw [Setting.nodes, ← List.map_singleton, ← List.map_append] at inside
    rcases List.mem_map.mp inside with ⟨thread, member, same⟩
    exact ⟨thread, member, same.symm⟩

theorem sound_standing {setting : Setting} {visited : Nat} {stage : Stage} {entry : Node}
    (sound : stage.Sound setting visited) (stands : stage.standing = some entry) :
    ∃ thread ∈ setting.listed ++ [setting.thread], entry = .block thread := by
  cases stage with
  | walking place =>
      cases stands
      exact route_standing sound.1 sound.2
  | passed place =>
      cases stands
      apply route_standing sound.1
      rw [Setting.route, ← List.cons_append]
      exact List.getElem?_append_left (List.getElem?_eq_some_iff.mp sound.2).1 |>.trans sound.2
  | _ => cases stands

theorem invariant_identified {setting : Setting} {state : State}
    (invariant : Invariant setting state) : Identified setting state := by
  have sound := invariant.2.sound
  refine ⟨?_, ?_, invariant.2.visits, fun _ => sound_standing sound⟩
  · intro asserted
    rw [asserted] at sound
    exact sound
  · intro thread returned
    rw [returned] at sound
    exact sound

/-- Under every interleaving with the creating thread, a started thread's calls
of `_tx_thread_identify` find its own block exactly when it never reads the
forward link of the old tail before that link is written. -/
theorem started_thread_identified (setting : Setting) (links : Links Node)
    (blocks : Nat → TxThread) (prepared : setting.Prepared links blocks)
    (schedule : List Action) :
    Always (step setting) (Identified setting) (creating links blocks) schedule ↔
      Along (step setting) (TailLinked setting) (creating links blocks) schedule := by
  apply always_iff_along (step setting) (Invariant setting)
  · exact fun _ invariant => invariant_identified invariant
  · exact fun _ _ _ invariant linked stepped =>
      step_invariant prepared.ring.distinct prepared.unlisted invariant linked stepped
  · exact fun _ _ _ invariant stepped identified =>
      identified_linked invariant stepped identified
  · exact ⟨creating_registry prepared, creating_walk prepared⟩

def alone : Setting :=
  { arguments := { name := none, entryFunction := 0x1000, entryInput := 0, autoStart := 1 }
    answers := { handle := 4, threadId := 7, stackLimits := none }
    thread := 1
    listed := [] }

def emptyList : Links Node := { flink := fun _ => .head, blink := fun _ => .head }

def noBlock : TxThread :=
  { thread := 0, win32ThreadId := 0, txThreadStackStart := 0, txThreadStackEnd := 0
    txThreadId := 0, txThreadEntryParameter := 0, txThreadName := none, txThreadState := 0
    txThreadSuspending := 0, txThreadEntry := 0 }

/-- The new thread preempts its creator as soon as `CreateThread` has made it. -/
theorem early_identify_asserts :
    ∃ state, run (step alone) (creating emptyList fun _ => noBlock)
        (List.replicate 7 .create ++ [.start, .identify]) = some state ∧
      state.stage = .asserted ∧ ¬ Identified alone state := by
  refine ⟨_, rfl, rfl, ?_⟩
  intro identified
  exact identified.1 rfl

/-- The creator finishes before the new thread looks. -/
theorem late_identify_found :
    Always (step alone) (Identified alone) (creating emptyList fun _ => noBlock)
        (List.replicate 15 .create ++ [.start, .identify, .compare]) ↔
      Along (step alone) (TailLinked alone) (creating emptyList fun _ => noBlock)
        (List.replicate 15 .create ++ [.start, .identify, .compare]) :=
  started_thread_identified alone emptyList (fun _ => noBlock)
    { ring := { distinct := by decide, forward := rfl, backward := rfl }
      unlisted := by decide
      distinct := by decide }
    (List.replicate 15 .create ++ [.start, .identify, .compare])

end UsbxNxdk.ThreadStart
