import UsbxNxdk.LookupList

/-! Any number of creations of threads at once, access by access. Nothing keeps
their insertions into the list apart. -/

namespace UsbxNxdk.ThreadCreations

open Execution LinkedRing LinkedRoutes Thread ThreadTable

/-- A call of `_tx_thread_create`; `exBlink` is its local variable of
`InsertTailList`. -/
structure Call where
  arguments : CreateArguments
  answers : CreateAnswers
  exBlink : Node
  remaining : List CreateStep
  deriving DecidableEq, Repr

/-- `created` is a history variable: the blocks of the list before the first
call, and those of the calls since. -/
structure State where
  links : Links Node
  blocks : Nat → TxThread
  calls : Nat → Option Call
  created : List Nat

inductive Action where
  | create (thread : Nat) (arguments : CreateArguments) (answers : CreateAnswers)
  | access (thread : Nat)
  deriving DecidableEq, Repr

def Call.after (call : Call) (table : Table) (rest : List CreateStep) (current : CreateStep) :
    Call :=
  { call with
    exBlink := table.tailRead call.exBlink current
    remaining := rest }

namespace State

variable (state : State) (thread : Nat) (call : Call)

def table : Table := ⟨state.links, state.blocks⟩

def effect (rest : List CreateStep) (current : CreateStep) : State :=
  let after := state.table.access thread call.arguments call.answers call.exBlink current
  { state with
    links := after.links
    blocks := after.blocks
    calls := Function.update state.calls thread (some (call.after state.table rest current)) }

def enter (arguments : CreateArguments) (answers : CreateAnswers) : State :=
  { state with
    calls := Function.update state.calls thread (some ⟨arguments, answers, .null, createSteps⟩)
    created := state.created ++ [thread] }

def initial (links : Links Node) (blocks : Nat → TxThread) (listed : List Nat) : State :=
  { links := links
    blocks := blocks
    calls := fun _ => none
    created := listed }

end State

def step (state : State) : Action → Option State
  | .create thread arguments answers =>
      if thread ∉ state.created then some (state.enter thread arguments answers) else none
  | .access thread =>
      match state.calls thread with
      | none => none
      | some call =>
          match call.remaining with
          | [] => none
          | current :: rest => some (state.effect thread call rest current)

def Inserting (remaining : List CreateStep) : Prop :=
  .readTail ∉ remaining ∧ .headBlink ∈ remaining

instance (remaining : List CreateStep) : Decidable (Inserting remaining) :=
  inferInstanceAs (Decidable (_ ∧ _))

/-- No insertion begins while another one is under way. -/
def Apart (state : State) : Action → Prop
  | .access thread => ∀ call, state.calls thread = some call →
      call.remaining.head? = some .readTail →
        ∀ other inserting, state.calls other = some inserting → ¬ Inserting inserting.remaining
  | _ => True

def Complete (state : State) : Prop :=
  ∃ entries, Ring state.links .head entries ∧ ∀ thread ∈ state.created, .block thread ∈ entries

def Quiet (state : State) : Prop :=
  ∀ thread ∈ state.created, ∀ call ∈ state.calls thread, call.remaining = []

instance : DecidablePred Quiet := fun state =>
  inferInstanceAs (Decidable (∀ thread ∈ state.created, ∀ call ∈ state.calls thread, _))

theorem access_some {state next : State} {thread : Nat}
    (stepped : step state (.access thread) = some next) :
    ∃ call current rest, state.calls thread = some call ∧ call.remaining = current :: rest ∧
      next = state.effect thread call rest current := by
  cases present : state.calls thread with
  | none => simp [step, present] at stepped
  | some call =>
      cases program : call.remaining with
      | nil => simp [step, present, program] at stepped
      | cons current rest =>
          simp only [step, present, program] at stepped
          cases stepped
          exact ⟨call, current, rest, rfl, program, rfl⟩

/-! ### What a step does to the calls -/

theorem after_enter {state : State} {thread other : Nat} {arguments : CreateArguments}
    {answers : CreateAnswers} {call : Call}
    (present : (state.enter thread arguments answers).calls other = some call) :
    (other = thread ∧ call = ⟨arguments, answers, .null, createSteps⟩) ∨
      (other ≠ thread ∧ state.calls other = some call) := by
  simp only [State.enter] at present
  by_cases own : other = thread
  · subst own
    rw [Function.update_self] at present
    exact Or.inl ⟨rfl, (Option.some.inj present).symm⟩
  · rw [Function.update_of_ne own] at present
    exact Or.inr ⟨own, present⟩

theorem enter_own (state : State) (thread : Nat) (arguments : CreateArguments)
    (answers : CreateAnswers) :
    (state.enter thread arguments answers).calls thread =
      some ⟨arguments, answers, .null, createSteps⟩ :=
  Function.update_self _ _ _

theorem enter_other {state : State} {thread other : Nat} (arguments : CreateArguments)
    (answers : CreateAnswers) (apart : other ≠ thread) :
    (state.enter thread arguments answers).calls other = state.calls other :=
  Function.update_of_ne apart _ _

section Effect

variable {state : State} {thread : Nat} {call : Call} {rest : List CreateStep}

theorem effect_own (current : CreateStep) :
    (state.effect thread call rest current).calls thread =
      some (call.after state.table rest current) :=
  Function.update_self thread _ state.calls

theorem effect_other (current : CreateStep) {other : Nat} (apart : other ≠ thread) :
    (state.effect thread call rest current).calls other = state.calls other :=
  Function.update_of_ne apart _ state.calls

theorem after_access {current : CreateStep} {other : Nat} {found : Call}
    (present : (state.effect thread call rest current).calls other = some found) :
    (other = thread ∧ found = call.after state.table rest current) ∨
      (other ≠ thread ∧ state.calls other = some found) := by
  by_cases own : other = thread
  · subst own
    rw [effect_own] at present
    exact Or.inl ⟨rfl, (Option.some.inj present).symm⟩
  · rw [effect_other current own] at present
    exact Or.inr ⟨own, present⟩

end Effect

/-! ### The calls that have begun -/

structure Recorded (state : State) : Prop where
  position : ∀ thread call, state.calls thread = some call → call.remaining ∈ createSteps.tails
  began : ∀ thread call, state.calls thread = some call → thread ∈ state.created

theorem initial_recorded (links : Links Node) (blocks : Nat → TxThread) (listed : List Nat) :
    Recorded (State.initial links blocks listed) := by
  constructor
  · intro thread call present
    cases present
  · intro thread call present
    cases present

theorem create_recorded {state : State} {thread : Nat} (arguments : CreateArguments)
    (answers : CreateAnswers) (recorded : Recorded state) :
    Recorded (state.enter thread arguments answers) := by
  have whole : createSteps ∈ createSteps.tails := by decide
  constructor
  · intro other call present
    rcases after_enter present with ⟨_, rfl⟩ | ⟨_, before⟩
    · exact whole
    · exact recorded.position other call before
  · intro other call present
    rcases after_enter present with ⟨rfl, _⟩ | ⟨_, before⟩
    · exact List.mem_append_right _ List.mem_cons_self
    · exact List.mem_append_left _ (recorded.began other call before)

section Recording

variable {state : State} {thread : Nat} {call : Call} {current : CreateStep}
  {rest : List CreateStep}

theorem order_of (recorded : Recorded state) (present : state.calls thread = some call)
    (program : call.remaining = current :: rest) : CreateOrder (current :: rest) := by
  have position := recorded.position thread call present
  rw [program] at position
  exact create_order _ position

theorem access_recorded (recorded : Recorded state) (present : state.calls thread = some call)
    (program : call.remaining = current :: rest) :
    Recorded (state.effect thread call rest current) := by
  have position := recorded.position thread call present
  rw [program] at position
  constructor
  · intro other found presentOther
    rcases after_access presentOther with ⟨_, rfl⟩ | ⟨_, before⟩
    · exact tails_rest position
    · exact recorded.position other found before
  · intro other found presentOther
    rcases after_access presentOther with ⟨rfl, _⟩ | ⟨_, before⟩
    · exact recorded.began other call present
    · exact recorded.began other found before

end Recording

/-! ### The blocks that are linked -/

structure Listing (state : State) (listed : List Nat) : Prop where
  known : ∀ thread ∈ listed, thread ∈ state.created
  unlisted : ∀ thread call, state.calls thread = some call → .tailFlink ∈ call.remaining →
    thread ∉ listed
  present : ∀ thread ∈ state.created,
    (∀ call, state.calls thread = some call → .tailFlink ∉ call.remaining) → thread ∈ listed

theorem initial_listing (links : Links Node) (blocks : Nat → TxThread) (listed : List Nat) :
    Listing (State.initial links blocks listed) listed := by
  constructor
  · exact fun _ member => member
  · intro thread call present
    cases present
  · exact fun _ member _ => member

theorem create_listing {state : State} {listed : List Nat} {thread : Nat}
    (arguments : CreateArguments) (answers : CreateAnswers) (listing : Listing state listed)
    (unused : thread ∉ state.created) : Listing (state.enter thread arguments answers) listed := by
  have tailFlink : CreateStep.tailFlink ∈ createSteps := by decide
  constructor
  · exact fun other member => List.mem_append_left _ (listing.known other member)
  · intro other call present pending
    rcases after_enter present with ⟨rfl, _⟩ | ⟨_, before⟩
    · exact fun member => unused (listing.known other member)
    · exact listing.unlisted other call before pending
  · intro other member linked
    rcases List.mem_append.mp member with before | own
    · have apart : other ≠ thread := fun same => unused (same ▸ before)
      apply listing.present other before
      intro call present
      exact linked call ((enter_other arguments answers apart).trans present)
    · rw [List.mem_singleton.mp own] at linked
      exact absurd tailFlink (linked _ (enter_own state thread arguments answers))

section Listed

variable {state : State} {listed : List Nat} {thread : Nat} {call : Call}
  {current : CreateStep} {rest : List CreateStep}

theorem access_listing (listing : Listing state listed) (present : state.calls thread = some call)
    (program : call.remaining = current :: rest) (other : current ≠ .tailFlink) :
    Listing (state.effect thread call rest current) listed := by
  have same : .tailFlink ∈ call.remaining ↔ .tailFlink ∈ rest := by
    rw [program, List.mem_cons]
    exact or_iff_right fun equal => other equal.symm
  constructor
  · exact listing.known
  · intro other found presentOther pending
    rcases after_access presentOther with ⟨rfl, rfl⟩ | ⟨_, before⟩
    · exact listing.unlisted other call present (same.mpr pending)
    · exact listing.unlisted other found before pending
  · intro other member linked
    apply listing.present other member
    intro found presentOther
    by_cases own : other = thread
    · subst own
      cases present.symm.trans presentOther
      exact same.not.mpr (linked _ (effect_own current))
    · exact linked found ((effect_other current own).trans presentOther)

theorem tailFlink_listing (recorded : Recorded state) (listing : Listing state listed)
    (present : state.calls thread = some call) (program : call.remaining = .tailFlink :: rest) :
    Listing (state.effect thread call rest .tailFlink) (listed ++ [thread]) := by
  have later : rest = [.headBlink] := order_of recorded present program
  subst later
  constructor
  · intro other member
    rcases List.mem_append.mp member with before | own
    · exact listing.known other before
    · rw [List.mem_singleton.mp own]
      exact recorded.began thread call present
  · intro other found presentOther pending
    rcases after_access presentOther with ⟨_, rfl⟩ | ⟨apart, before⟩
    · exact absurd (List.mem_singleton.mp pending) (by simp)
    · have absent := listing.unlisted other found before pending
      simp [absent, apart]
  · intro other member linked
    by_cases own : other = thread
    · exact List.mem_append_right _ (List.mem_singleton.mpr own)
    · apply List.mem_append_left
      apply listing.present other member
      intro found presentOther
      exact linked found ((effect_other _ own).trans presentOther)

end Listed

/-! ### The list while insertions keep apart -/

/-- A call whose insertion is under way, in a list that is otherwise whole. -/
structure Underway (state : State) (listed : List Nat) (thread : Nat) (exBlink : Node)
    (remaining : List CreateStep) : Prop where
  ring : Ring
    (if .tailFlink ∈ remaining then state.links
      else state.links.setBlink .head (.block thread)) .head (listed.map .block)
  tail : exBlink = state.links.blink .head
  forward : .entryFlink ∉ remaining → .tailFlink ∈ remaining →
    state.links.flink (.block thread) = .head
  backward : .entryBlink ∉ remaining → .tailFlink ∈ remaining →
    state.links.blink (.block thread) = state.links.blink .head

structure Ordered (state : State) (listed : List Nat) : Prop
    extends Recorded state, Listing state listed where
  single : ∀ first second one other, state.calls first = some one →
    state.calls second = some other → Inserting one.remaining → Inserting other.remaining →
    first = second
  idle : (∀ thread call, state.calls thread = some call → ¬ Inserting call.remaining) →
    Ring state.links .head (listed.map .block)
  underway : ∀ thread call, state.calls thread = some call → Inserting call.remaining →
    Underway state listed thread call.exBlink call.remaining

theorem initial_ordered {links : Links Node} {listed : List Nat} (blocks : Nat → TxThread)
    (ring : Ring links .head (listed.map .block)) :
    Ordered (State.initial links blocks listed) listed where
  toRecorded := initial_recorded links blocks listed
  toListing := initial_listing links blocks listed
  single := by
    intro first second one other present
    cases present
  idle := fun _ => ring
  underway := by
    intro thread call present
    cases present

theorem outside_entered : ¬ Inserting createSteps := by
  decide

theorem create_ordered {state : State} {listed : List Nat} {thread : Nat}
    (arguments : CreateArguments) (answers : CreateAnswers) (ordered : Ordered state listed)
    (unused : thread ∉ state.created) :
    Ordered (state.enter thread arguments answers) listed where
  toRecorded := create_recorded arguments answers ordered.toRecorded
  toListing := create_listing arguments answers ordered.toListing unused
  single := by
    intro first second one other presentFirst presentSecond inserting insertingOther
    rcases after_enter presentFirst with ⟨_, rfl⟩ | ⟨_, before⟩
    · exact absurd inserting outside_entered
    · rcases after_enter presentSecond with ⟨_, rfl⟩ | ⟨_, also⟩
      · exact absurd insertingOther outside_entered
      · exact ordered.single first second one other before also inserting insertingOther
  idle := by
    intro quiet
    apply ordered.idle
    intro other call present inserting
    have apart : other ≠ thread := fun same => unused (same ▸ ordered.began other call present)
    exact quiet other call ((enter_other arguments answers apart).trans present) inserting
  underway := by
    intro other call present inserting
    rcases after_enter present with ⟨_, rfl⟩ | ⟨_, before⟩
    · exact absurd inserting outside_entered
    · have underway := ordered.underway other call before inserting
      exact ⟨underway.ring, underway.tail, underway.forward, underway.backward⟩

section Access

variable {state : State} {listed : List Nat} {thread : Nat} {call : Call}
  {current : CreateStep} {rest : List CreateStep}

theorem inserting_ordered {grown : List Nat} (ordered : Ordered state listed)
    (present : state.calls thread = some call) (program : call.remaining = current :: rest)
    (alone : ∀ other one, other ≠ thread → state.calls other = some one → ¬ Inserting one.remaining)
    (listing : Listing (state.effect thread call rest current) grown)
    (idle : ¬ Inserting rest →
      Ring (state.effect thread call rest current).links .head (grown.map .block))
    (underway : Inserting rest →
      Underway (state.effect thread call rest current) grown thread
        (state.table.tailRead call.exBlink current) rest) :
    Ordered (state.effect thread call rest current) grown where
  toRecorded := access_recorded ordered.toRecorded present program
  toListing := listing
  single := by
    intro first second one other presentFirst presentSecond inserting insertingOther
    rcases after_access presentFirst with ⟨rfl, _⟩ | ⟨apart, before⟩
    · rcases after_access presentSecond with ⟨rfl, _⟩ | ⟨apart, before⟩
      · rfl
      · exact absurd insertingOther (alone second other apart before)
    · exact absurd inserting (alone first one apart before)
  idle := fun quiet => idle (quiet thread _ (effect_own current))
  underway := by
    intro other found presentOther inserting
    rcases after_access presentOther with ⟨rfl, rfl⟩ | ⟨apart, before⟩
    · exact underway inserting
    · exact absurd inserting (alone other found apart before)

theorem alone_of (ordered : Ordered state listed) (present : state.calls thread = some call)
    (inserting : Inserting call.remaining) (other : Nat) (one : Call) (apart : other ≠ thread)
    (presentOther : state.calls other = some one) : ¬ Inserting one.remaining :=
  fun also => apart (ordered.single other thread one call presentOther present also inserting)

/-! A write to the block itself leaves the list alone, whoever else is inserting. -/

theorem write_elsewhere {write : BlockWrite} {node : Node} (apart : node ≠ .block thread) :
    (state.effect thread call rest (.write write)).links.flink node = state.links.flink node ∧
      (state.effect thread call rest (.write write)).links.blink node = state.links.blink node :=
  write_links call.arguments call.answers state.table write apart

theorem write_underway {write : BlockWrite} {other : Nat} {exBlink : Node}
    {remaining : List CreateStep} (unlisted : thread ∉ listed) (apart : other ≠ thread)
    (underway : Underway state listed other exBlink remaining) :
    Underway (state.effect thread call rest (.write write)) listed other exBlink remaining := by
  have elsewhere : ∀ node ∈ Node.head :: listed.map .block, node ≠ .block thread :=
    fun node member => ne_of_mem_of_not_mem member (block_outside unlisted)
  have own : Node.block other ≠ Node.block thread := fun same => apart (Node.block.inj same)
  have head : Node.head ≠ .block thread := by simp
  constructor
  · have ring := underway.ring
    by_cases pending : .tailFlink ∈ remaining
    · rw [if_pos pending] at ring ⊢
      exact write_ring call.arguments call.answers state.table write (block_outside unlisted) ring
    · rw [if_neg pending] at ring ⊢
      apply ring_agree _ _ ring
      · exact fun node member => (write_elsewhere (elsewhere node member)).1
      · intro node member
        by_cases first : node = .head
        · subst first
          simp only [Links.setBlink, Function.update_self]
        · simp only [Links.setBlink, Function.update_of_ne first]
          exact (write_elsewhere (elsewhere node member)).2
  · rw [(write_elsewhere head).2]
    exact underway.tail
  · intro written pending
    rw [(write_elsewhere own).1]
    exact underway.forward written pending
  · intro written pending
    rw [(write_elsewhere own).2, (write_elsewhere head).2]
    exact underway.backward written pending

theorem write_ordered {write : BlockWrite} (ordered : Ordered state listed)
    (present : state.calls thread = some call)
    (program : call.remaining = .write write :: rest) :
    Ordered (state.effect thread call rest (.write write)) listed := by
  rcases order_of ordered.toRecorded present program with ⟨_, later, _, _⟩
  have readTail : .readTail ∈ rest := later _ (by decide)
  have tailFlink : .tailFlink ∈ rest := later _ (by decide)
  have unlisted : thread ∉ listed :=
    ordered.unlisted thread call present (program ▸ List.mem_cons_of_mem _ tailFlink)
  have outside : ¬ Inserting rest := fun inserting => inserting.1 readTail
  refine
    { toRecorded := access_recorded ordered.toRecorded present program
      toListing := access_listing ordered.toListing present program (by simp)
      single := ?_
      idle := ?_
      underway := ?_ }
  · intro first second one other presentFirst presentSecond inserting insertingOther
    rcases after_access presentFirst with ⟨_, rfl⟩ | ⟨_, before⟩
    · exact absurd inserting outside
    · rcases after_access presentSecond with ⟨_, rfl⟩ | ⟨_, also⟩
      · exact absurd insertingOther outside
      · exact ordered.single first second one other before also inserting insertingOther
  · intro quiet
    apply write_ring call.arguments call.answers state.table write (block_outside unlisted)
    apply ordered.idle
    intro other found presentOther inserting
    by_cases own : other = thread
    · subst own
      cases present.symm.trans presentOther
      exact inserting.1 (program ▸ List.mem_cons_of_mem _ readTail)
    · exact quiet other found ((effect_other _ own).trans presentOther) inserting
  · intro other found presentOther inserting
    rcases after_access presentOther with ⟨_, rfl⟩ | ⟨apart, before⟩
    · exact absurd inserting outside
    · exact write_underway unlisted apart (ordered.underway other found before inserting)

theorem readTail_ordered (ordered : Ordered state listed)
    (present : state.calls thread = some call) (program : call.remaining = .readTail :: rest)
    (quiet : ∀ other one, state.calls other = some one → ¬ Inserting one.remaining) :
    Ordered (state.effect thread call rest .readTail) listed := by
  have later : rest = [.entryFlink, .entryBlink, .tailFlink, .headBlink] :=
    order_of ordered.toRecorded present program
  subst later
  apply inserting_ordered ordered present program (fun other one _ => quiet other one)
    (access_listing ordered.toListing present program (by simp))
  · exact fun outside => absurd (by decide) outside
  · intro _
    constructor
    · exact ordered.idle quiet
    · rfl
    · exact fun written => absurd (by decide) written
    · exact fun written => absurd (by decide) written

theorem entryFlink_ordered (ordered : Ordered state listed)
    (present : state.calls thread = some call) (program : call.remaining = .entryFlink :: rest) :
    Ordered (state.effect thread call rest .entryFlink) listed := by
  have later : rest = [.entryBlink, .tailFlink, .headBlink] :=
    order_of ordered.toRecorded present program
  subst later
  have inserting : Inserting call.remaining := by rw [program]; decide
  have underway := ordered.underway thread call present inserting
  rw [program] at underway
  have unlisted := ordered.unlisted thread call present (by rw [program]; decide)
  apply inserting_ordered ordered present program (alone_of ordered present inserting)
    (access_listing ordered.toListing present program (by simp))
  · exact fun outside => absurd (by decide) outside
  · intro _
    constructor
    · have ring := underway.ring
      rw [if_pos (by decide)] at ring
      exact (ring_outside (block_outside unlisted) ring).1
    · exact underway.tail
    · exact fun _ _ => Function.update_self _ _ _
    · exact fun written => absurd (by decide) written

theorem entryBlink_ordered (ordered : Ordered state listed)
    (present : state.calls thread = some call) (program : call.remaining = .entryBlink :: rest) :
    Ordered (state.effect thread call rest .entryBlink) listed := by
  have later : rest = [.tailFlink, .headBlink] := order_of ordered.toRecorded present program
  subst later
  have inserting : Inserting call.remaining := by rw [program]; decide
  have underway := ordered.underway thread call present inserting
  rw [program] at underway
  have unlisted := ordered.unlisted thread call present (by rw [program]; decide)
  have tail := underway.tail
  have apart : Node.head ≠ .block thread := by simp
  have head : (state.links.setBlink (.block thread) call.exBlink).blink .head =
      state.links.blink .head := Function.update_of_ne apart call.exBlink state.links.blink
  apply inserting_ordered ordered present program (alone_of ordered present inserting)
    (access_listing ordered.toListing present program (by simp))
  · exact fun outside => absurd (by decide) outside
  · intro _
    constructor
    · have ring := underway.ring
      rw [if_pos (by decide)] at ring
      exact (ring_outside (block_outside unlisted) ring).2
    · exact tail.trans head.symm
    · exact fun _ _ => underway.forward (by decide) (by decide)
    · exact fun _ _ => (Function.update_self _ _ _).trans (tail.trans head.symm)

theorem tailFlink_ordered (ordered : Ordered state listed)
    (present : state.calls thread = some call) (program : call.remaining = .tailFlink :: rest) :
    Ordered (state.effect thread call rest .tailFlink) (listed ++ [thread]) := by
  have later : rest = [.headBlink] := order_of ordered.toRecorded present program
  subst later
  have inserting : Inserting call.remaining := by rw [program]; decide
  have underway := ordered.underway thread call present inserting
  rw [program] at underway
  have unlisted := ordered.unlisted thread call present (by rw [program]; decide)
  apply inserting_ordered ordered present program (alone_of ordered present inserting)
    (tailFlink_listing ordered.toRecorded ordered.toListing present program)
  · exact fun outside => absurd (by decide) outside
  · intro _
    constructor
    · have ring := underway.ring
      rw [if_pos (by decide)] at ring
      have inserted := ring_insertTail (block_outside unlisted) ring
      rw [insertTail_prepared
        (underway.forward (by decide) (by decide))
        (underway.backward (by decide) (by decide)),
        ← underway.tail, ← List.map_singleton, ← List.map_append]
        at inserted
      exact inserted
    · exact underway.tail
    · exact fun _ pending => absurd pending (by decide)
    · exact fun _ pending => absurd pending (by decide)

theorem headBlink_ordered (ordered : Ordered state listed)
    (present : state.calls thread = some call) (program : call.remaining = .headBlink :: rest) :
    Ordered (state.effect thread call rest .headBlink) listed := by
  have later : rest = [] := order_of ordered.toRecorded present program
  subst later
  have inserting : Inserting call.remaining := by rw [program]; decide
  have underway := ordered.underway thread call present inserting
  rw [program] at underway
  have ring := underway.ring
  rw [if_neg (by decide)] at ring
  apply inserting_ordered ordered present program (alone_of ordered present inserting)
    (access_listing ordered.toListing present program (by simp))
  · exact fun _ => ring
  · exact fun also => absurd also.2 (by decide)

end Access

theorem access_ordered {state next : State} {listed : List Nat} {thread : Nat}
    (ordered : Ordered state listed) (apart : Apart state (.access thread))
    (stepped : step state (.access thread) = some next) : ∃ grown, Ordered next grown := by
  rcases access_some stepped with ⟨call, current, rest, present, program, rfl⟩
  cases current with
  | write write => exact ⟨listed, write_ordered ordered present program⟩
  | readTail =>
      have quiet := apart call present (by rw [program]; rfl)
      exact ⟨listed, readTail_ordered ordered present program quiet⟩
  | entryFlink => exact ⟨listed, entryFlink_ordered ordered present program⟩
  | entryBlink => exact ⟨listed, entryBlink_ordered ordered present program⟩
  | tailFlink => exact ⟨listed ++ [thread], tailFlink_ordered ordered present program⟩
  | headBlink => exact ⟨listed, headBlink_ordered ordered present program⟩

theorem ordered_complete {state : State} {listed : List Nat} (ordered : Ordered state listed)
    (quiet : Quiet state) : Complete state := by
  refine ⟨listed.map .block, ordered.idle ?_, ?_⟩
  · intro thread call present inserting
    have inside := inserting.2
    rw [quiet thread (ordered.began thread call present) call present] at inside
    cases inside
  · intro thread member
    apply List.mem_map_of_mem
    apply ordered.present thread member
    intro call present
    rw [quiet thread member call present]
    exact List.not_mem_nil

end UsbxNxdk.ThreadCreations
