import UsbxNxdk.ThreadTable

/-! The list of threads over any sequence of creations and deletions. -/

namespace UsbxNxdk.ThreadRegistry

open Execution LinkedRing Thread ThreadStart ThreadTable Win32

/-- `registered` is a history variable: the blocks created and not yet deleted
with `TX_SUCCESS`, in creation order. -/
structure State where
  table : Table
  kernel : HandleTable
  registered : List Nat

inductive Action where
  | create (thread : Nat) (arguments : CreateArguments) (answers : CreateAnswers)
  | delete (thread : Nat) (waitResult : WaitResult)
  deriving DecidableEq, Repr

namespace State

/-- What `CreateThread` promises when it succeeds: a handle that is not open yet,
and an identifier that no thread with an open handle has. -/
def CanMake (state : State) (answers : CreateAnswers) : Prop :=
  answers.handle ≠ 0 ∧ ¬ state.kernel.isOpen answers.handle ∧
    ∀ opened ∈ state.kernel.opened, opened.2.identifier ≠ some answers.threadId

instance (state : State) (answers : CreateAnswers) : Decidable (state.CanMake answers) :=
  inferInstanceAs (Decidable (_ ∧ _))

def create (state : State) (thread : Nat) (arguments : CreateArguments)
    (answers : CreateAnswers) : State :=
  let returned := state.table.createThread arguments answers thread state.kernel
  { table := returned.2.1
    kernel := returned.2.2
    registered := state.registered ++ [thread] }

def delete (state : State) (thread : Nat) (waitResult : WaitResult) : State :=
  let returned := state.table.deleteThread thread state.kernel waitResult
  { table := returned.2.1
    kernel := returned.2.2
    registered :=
      if returned.1 = txSuccess then state.registered.erase thread else state.registered }

def initial (stale : Links Node) (blocks : Nat → TxThread) : State :=
  { table :=
      { links := (stale.setFlink .head .head).setBlink .head .head
        blocks := blocks }
    kernel := HandleTable.initial
    registered := [] }

def nodes (state : State) : List Node := state.registered.map .block

end State

/-- The calls run one at a time: a creation on a block that is not linked, a
deletion on one that is. -/
def step (state : State) : Action → Option State
  | .create thread arguments answers =>
      if thread ∉ state.registered ∧ state.CanMake answers then
        some (state.create thread arguments answers)
      else none
  | .delete thread waitResult =>
      if thread ∈ state.registered then some (state.delete thread waitResult) else none

structure Listed (state : State) : Prop where
  distinct : state.registered.Nodup
  inverse : ∀ node ∈ Node.head :: state.nodes,
    state.table.links.blink (state.table.links.flink node) = node ∧
      state.table.links.flink (state.table.links.blink node) = node
  walk : Linked state.table.links.flink .head state.nodes .head
  refused : ∀ thread waitResult,
    (state.table.deleteThread thread state.kernel waitResult).1 = txDeleteError →
      (state.table.deleteThread thread state.kernel waitResult).2.1 = state.table

/-- The lookup by a thread ends after one visit to each entry at most, with the
thread's own block if that is linked and with `TX_NULL` otherwise. -/
structure Identified (state : State) : Prop where
  running : ∀ thread ∈ state.registered, ∃ handle id,
    (handle, .thread id thread) ∈ state.kernel.opened
  own : ∀ handle id thread, (handle, .thread id thread) ∈ state.kernel.opened →
    thread ∈ state.registered ∧ ∀ fuel, state.registered.length < fuel →
      state.table.txThreadIdentify id fuel = some (some thread)
  foreign : ∀ id, (∀ opened ∈ state.kernel.opened, opened.2.identifier ≠ some id) →
    ∀ fuel, state.registered.length < fuel → state.table.txThreadIdentify id fuel = some none

def described (table : Table) (thread : Nat) : HANDLE × KernelObject :=
  ((table.blocks thread).thread, .thread (table.blocks thread).win32ThreadId thread)

structure Invariant (state : State) : Prop where
  ring : Ring state.table.links .head state.nodes
  opened : state.kernel.opened = state.registered.map (described state.table)
  handles : (state.registered.map fun thread => (state.table.blocks thread).thread).Nodup
  identifiers :
    (state.registered.map fun thread => (state.table.blocks thread).win32ThreadId).Nodup

theorem invariant_open {state : State} (invariant : Invariant state) (handle : HANDLE) :
    state.kernel.isOpen handle ↔
      handle ∈ state.registered.map fun thread => (state.table.blocks thread).thread := by
  unfold HandleTable.isOpen
  rw [invariant.opened, List.map_map]
  exact Iff.rfl

theorem initial_invariant (stale : Links Node) (blocks : Nat → TxThread) :
    Invariant (State.initial stale blocks) := by
  have forward : Function.update stale.flink .head .head .head = Node.head :=
    Function.update_self Node.head Node.head stale.flink
  have backward : Function.update stale.blink .head .head .head = Node.head :=
    Function.update_self Node.head Node.head stale.blink
  exact
    { ring :=
        { distinct := List.nodup_singleton Node.head
          forward := forward
          backward := backward }
      opened := rfl
      handles := List.nodup_nil
      identifiers := List.nodup_nil }

theorem create_kept {state : State} {thread other : Nat} (arguments : CreateArguments)
    (answers : CreateAnswers) (unregistered : thread ∉ state.registered)
    (member : other ∈ state.registered) :
    (state.create thread arguments answers).table.blocks other = state.table.blocks other :=
  createThread_other _ _ _ _ _ (ne_of_mem_of_not_mem member unregistered)

theorem created_values {Value : Type} (read : TxThread → Value) {state : State} {thread : Nat}
    (arguments : CreateArguments) (answers : CreateAnswers)
    (unregistered : thread ∉ state.registered) :
    ((state.create thread arguments answers).registered.map fun other =>
        read ((state.create thread arguments answers).table.blocks other)) =
      (state.registered.map fun other => read (state.table.blocks other)) ++
        [read ((state.create thread arguments answers).table.blocks thread)] := by
  have registered : (state.create thread arguments answers).registered =
      state.registered ++ [thread] := rfl
  rw [registered, List.map_append, List.map_singleton]
  congr 1
  apply List.map_congr_left
  intro other member
  rw [create_kept arguments answers unregistered member]

theorem create_invariant {state : State} {thread : Nat} (arguments : CreateArguments)
    {answers : CreateAnswers} (invariant : Invariant state)
    (unregistered : thread ∉ state.registered) (promised : state.CanMake answers) :
    Invariant (state.create thread arguments answers) := by
  rcases promised with ⟨made, closed, unused⟩
  have outside := block_outside unregistered
  rcases createThread_block arguments answers thread state.table state.kernel with
    ⟨handle, identifier, _⟩
  rw [if_neg made] at identifier
  have own : described (state.create thread arguments answers).table thread =
      (answers.handle, .thread answers.threadId thread) := by
    simp only [described, State.create, handle, identifier]
  constructor
  · rw [State.nodes, State.create, List.map_append]
    exact ring_insertTail outside (clearEntry_ring outside invariant.ring)
  · have opened := createThread_opened arguments answers thread state.table state.kernel
    rw [HandleTable.makeObject_opened state.kernel made] at opened
    calc
      (state.create thread arguments answers).kernel.opened =
          state.kernel.opened ++ [(answers.handle, KernelObject.thread answers.threadId thread)] :=
        opened
      _ = state.registered.map (described state.table) ++
          [described (state.create thread arguments answers).table thread] := by
        rw [invariant.opened, own]
      _ = state.registered.map (described (state.create thread arguments answers).table) ++
          [thread].map (described (state.create thread arguments answers).table) := by
        congr 1
        apply List.map_congr_left
        intro other member
        rw [described, described, create_kept arguments answers unregistered member]
      _ = (state.registered ++ [thread]).map
          (described (state.create thread arguments answers).table) := List.map_append.symm
  · have same : ((state.create thread arguments answers).table.blocks thread).thread =
        answers.handle := handle
    rw [created_values TxThread.thread arguments answers unregistered, same]
    have fresh := (invariant_open invariant answers.handle).not.mp closed
    simpa using List.Nodup.concat fresh invariant.handles
  · have same : ((state.create thread arguments answers).table.blocks thread).win32ThreadId =
        answers.threadId := identifier
    rw [created_values TxThread.win32ThreadId arguments answers unregistered, same]
    have fresh : answers.threadId ∉
        state.registered.map fun other => (state.table.blocks other).win32ThreadId := by
      intro member
      rcases List.mem_map.mp member with ⟨other, listed, same⟩
      apply unused (described state.table other)
      · rw [invariant.opened]
        exact List.mem_map_of_mem listed
      · exact congrArg some same
    simpa using List.Nodup.concat fresh invariant.identifiers

theorem described_clear (table : Table) (links : Links Node) (thread other : Nat) :
    described
        { links := links
          blocks := Function.update table.blocks thread
            { table.blocks thread with txThreadId := txClearId } } other =
      described table other := by
  by_cases same : other = thread
  · simp only [same, described, Function.update_self]
  · simp only [described, Function.update_of_ne same]

theorem ended_invariant {state : State} {thread : Nat} (invariant : Invariant state)
    (listed : thread ∈ state.registered) : Invariant (state.delete thread .object0) := by
  have isOpen : state.kernel.isOpen (state.table.blocks thread).thread :=
    (invariant_open invariant _).mpr (List.mem_map_of_mem listed)
  have distinct : state.registered.Nodup :=
    List.Nodup.of_map _ (List.nodup_cons.mp invariant.ring.distinct).2
  have returned := deleteThread_ended thread state.table state.kernel isOpen
  have registered : (state.delete thread .object0).registered = state.registered.erase thread := by
    rw [State.delete, returned]
    rfl
  have kept : ∀ other, described (state.delete thread .object0).table other =
        described state.table other := by
    intro other
    rw [State.delete, returned]
    exact described_clear state.table _ thread other
  have shorter : (state.registered.erase thread).Sublist state.registered :=
    List.erase_sublist
  constructor
  · rcases List.append_of_mem listed with ⟨before, after, split⟩
    have absent : thread ∉ before := by
      rw [split] at distinct
      exact fun member => (List.nodup_append.mp distinct).2.2 thread member thread
        List.mem_cons_self rfl
    have remaining : state.registered.erase thread = before ++ after := by
      rw [split, List.erase_append_right _ absent, List.erase_cons_head]
    have ring := invariant.ring
    rw [State.nodes, split, List.map_append, List.map_cons] at ring
    rw [State.nodes, registered, remaining, List.map_append, State.delete, returned]
    exact ring_removeEntry ring
  · calc
      (state.delete thread .object0).kernel.opened =
          state.kernel.opened.filter fun opened =>
            opened.1 ≠ (state.table.blocks thread).thread := by
        rw [State.delete, returned]
        rfl
      _ = (state.registered.erase thread).map (described state.table) := by
        rw [invariant.opened]
        exact filter_distinct (described state.table) Prod.fst invariant.handles listed
      _ = (state.delete thread .object0).registered.map
          (described (state.delete thread .object0).table) := by
        rw [registered]
        exact (List.map_congr_left fun other _ => kept other).symm
  · have same : ((state.delete thread .object0).registered.map fun other =>
        ((state.delete thread .object0).table.blocks other).thread) =
          (state.registered.erase thread).map fun other => (state.table.blocks other).thread := by
      rw [registered]
      exact List.map_congr_left fun other _ => congrArg Prod.fst (kept other)
    rw [same]
    exact List.Nodup.sublist (shorter.map _) invariant.handles
  · have same : ((state.delete thread .object0).registered.map fun other =>
        ((state.delete thread .object0).table.blocks other).win32ThreadId) =
          (state.registered.erase thread).map fun other =>
            (state.table.blocks other).win32ThreadId := by
      rw [registered]
      apply List.map_congr_left
      intro other _
      have object := congrArg Prod.snd (kept other)
      simp only [described, KernelObject.thread.injEq, and_true] at object
      exact object
    rw [same]
    exact List.Nodup.sublist (shorter.map _) invariant.identifiers

theorem delete_refused {state : State} {thread : Nat} {waitResult : WaitResult}
    (pending : waitResult ≠ .object0) : state.delete thread waitResult = state := by
  rw [State.delete, deleteThread_refused thread state.table state.kernel (Or.inr pending)]
  rfl

theorem step_invariant {state next : State} {action : Action} (invariant : Invariant state)
    (stepped : step state action = some next) : Invariant next := by
  cases action with
  | create thread arguments answers =>
      simp only [step, Option.ite_none_right_eq_some, Option.some.injEq] at stepped
      rcases stepped with ⟨⟨unregistered, promised⟩, rfl⟩
      exact create_invariant arguments invariant unregistered promised
  | delete thread waitResult =>
      simp only [step, Option.ite_none_right_eq_some, Option.some.injEq] at stepped
      rcases stepped with ⟨listed, rfl⟩
      by_cases ended : waitResult = .object0
      · rw [ended]
        exact ended_invariant invariant listed
      · rw [delete_refused ended]
        exact invariant

/-! ### What the invariant says -/

theorem invariant_listed {state : State} (invariant : Invariant state) : Listed state where
  distinct := List.Nodup.of_map _ (List.nodup_cons.mp invariant.ring.distinct).2
  inverse := fun _ member => ring_inverse invariant.ring member
  walk := invariant.ring.forward
  refused := by
    intro thread waitResult error
    by_cases ended :
        state.kernel.isOpen (state.table.blocks thread).thread ∧ waitResult = .object0
    · rcases ended with ⟨isOpen, rfl⟩
      rw [deleteThread_ended thread state.table state.kernel isOpen] at error
      cases error
    · rw [deleteThread_refused thread state.table state.kernel (not_and_or.mp ended)]

theorem find_identifier {threads : List Nat} {identifier : Nat → ULONG} {thread : Nat}
    (distinct : (threads.map identifier).Nodup) (listed : thread ∈ threads) :
    (threads.find? fun other => identifier other = identifier thread) = some thread := by
  cases found : threads.find? fun other => identifier other = identifier thread with
  | none =>
      have missed := List.find?_eq_none.mp found thread listed
      simp at missed
  | some other =>
      have equal : identifier other = identifier thread := by
        simpa using List.find?_some found
      have member := List.mem_of_find?_eq_some found
      exact congrArg some (List.inj_on_of_nodup_map distinct member listed equal)

theorem identify_registered {state : State} (invariant : Invariant state) (id : ULONG) {fuel : Nat}
    (enough : state.registered.length < fuel) :
    state.table.txThreadIdentify id fuel =
      some (state.registered.find? fun thread =>
        (state.table.blocks thread).win32ThreadId = id) :=
  identifyLoop_linked invariant.ring.forward enough

theorem invariant_identified {state : State} (invariant : Invariant state) : Identified state := by
  constructor
  · intro thread listed
    have member : described state.table thread ∈ state.kernel.opened := by
      rw [invariant.opened]
      exact List.mem_map_of_mem listed
    exact ⟨_, _, member⟩
  · intro handle id thread running
    rw [invariant.opened] at running
    rcases List.mem_map.mp running with ⟨other, listed, same⟩
    simp only [described, Prod.mk.injEq, KernelObject.thread.injEq] at same
    rcases same with ⟨_, rfl, rfl⟩
    refine ⟨listed, fun fuel enough => ?_⟩
    rw [identify_registered invariant _ enough]
    exact congrArg some (find_identifier invariant.identifiers listed)
  · intro id unused fuel enough
    rw [identify_registered invariant id enough]
    congr 1
    apply List.find?_eq_none.mpr
    intro thread listed found
    apply unused (described state.table thread)
    · rw [invariant.opened]
      exact List.mem_map_of_mem listed
    · simp only [decide_eq_true_eq] at found
      exact congrArg some found

/-- Over any sequence of creations and deletions the list stays circular and
holds exactly the registered threads, and every lookup ends with the caller's
own block. -/
theorem threads_registered (stale : Links Node) (blocks : Nat → TxThread)
    (schedule : List Action) :
    Always step (fun state => Listed state ∧ Identified state) (State.initial stale blocks)
      schedule := by
  have always : Always step Invariant (State.initial stale blocks) schedule :=
    always_invariant step Invariant (fun _ _ _ => step_invariant) _ schedule
      (initial_invariant stale blocks)
  exact always_mono step (fun _ invariant =>
    ⟨invariant_listed invariant, invariant_identified invariant⟩) _ schedule always

end UsbxNxdk.ThreadRegistry
