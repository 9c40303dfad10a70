import UsbxNxdk.SemaphoreCalls
import Mathlib.Algebra.BigOperators.Group.Finset.Piecewise

/-! A semaphore's own counter beside the count of the kernel object. -/

namespace UsbxNxdk.SemaphoreCounter

open Execution Win32 ControlBlocks SemaphoreCalls

variable {Thread : Type} [DecidableEq Thread]

/-- The counter mirrors the kernel object and the calls that succeeded. -/
def Mirrors (initialCount : ULONG) (state : State Thread) : Prop :=
  state.block.txSemaphoreCount.toNat + state.gets = initialCount.toNat + state.puts ∧
    state.block.txSemaphoreCount.toNat = state.object.available ∧
    state.object.available ≤ semaphoreMaximum

/-- Every wait that ends is granted, every release finds room, and no counter
update starts inside another. -/
def Counted (state : State Thread) : Action Thread → Prop
  | .wait _ fault => fault = false ∧ 0 < state.object.available
  | .release _ => state.object.available < state.object.maximum
  | .load _ => ∀ other, ¬ (state.calls other).Loaded
  | _ => True

/-- No call updates the counter while the kernel has answered an opposite call
that has not updated it yet. -/
def Unopposed (state : State Thread) : Action Thread → Prop
  | .load thread => ∀ other kind opposite, (state.calls thread).owes kind →
      (state.calls other).owes opposite → kind = opposite
  | _ => True

/-- A wait that finds a unit and does not fail, or a release that finds room. -/
def Granted (state : State Thread) : Call → Prop
  | .get _ fault => fault = false ∧ 0 < state.object.available
  | .put => state.object.available < state.object.maximum

/-! ### Calls the counter does not show yet -/

section Outstanding

variable [Fintype Thread]

def outstanding (kind : CallKind) (calls : Thread → Stage) : Nat :=
  ∑ thread, ((calls thread).owes kind).toNat

theorem outstanding_update (kind : CallKind) (calls : Thread → Stage) (thread : Thread)
    (stage : Stage) :
    outstanding kind (Function.update calls thread stage) + ((calls thread).owes kind).toNat =
      outstanding kind calls + (stage.owes kind).toNat := by
  have pointwise : ∀ other,
      ((Function.update calls thread stage other).owes kind).toNat =
        Function.update (fun other => ((calls other).owes kind).toNat) thread
          (stage.owes kind).toNat other := by
    intro other
    by_cases same : other = thread
    · rw [same, Function.update_self, Function.update_self]
    · rw [Function.update_of_ne same, Function.update_of_ne same]
  have member : thread ∈ Finset.univ := Finset.mem_univ thread
  unfold outstanding
  rw [Finset.sum_congr rfl fun other _ => pointwise other, Finset.sum_update_of_mem member,
    Finset.sdiff_singleton_eq_erase, ← Finset.add_sum_erase Finset.univ _ member]
  omega

theorem outstanding_kept {calls : Thread → Stage} {thread : Thread} {stage : Stage}
    (owes : ∀ kind, stage.owes kind = (calls thread).owes kind) (kind : CallKind) :
    outstanding kind (Function.update calls thread stage) = outstanding kind calls := by
  have moved := outstanding_update kind calls thread stage
  rw [owes kind] at moved
  omega

theorem outstanding_answered {calls : Thread → Stage} {thread : Thread} (called : CallKind)
    (status : UINT) (quiet : ∀ kind, (calls thread).owes kind = false) :
    outstanding called (Function.update calls thread (.answered called status)) =
        outstanding called calls + 1 ∧
      ∀ kind, called ≠ kind →
        outstanding kind (Function.update calls thread (.answered called status)) =
          outstanding kind calls := by
  have moved := fun kind => outstanding_update kind calls thread (.answered called status)
  simp only [quiet, Bool.toNat_false, Nat.add_zero] at moved
  simp only [Stage.owes] at moved
  constructor
  · rw [moved called, decide_eq_true rfl, Bool.toNat_true]
  · intro kind different
    rw [moved kind, decide_eq_false different, Bool.toNat_false, Nat.add_zero]

theorem outstanding_settled {calls : Thread → Stage} {thread : Thread} {called : CallKind}
    {status : UINT} {count : ULONG} (stage : calls thread = .loaded called status count) :
    outstanding called (Function.update calls thread .idle) + 1 = outstanding called calls ∧
      ∀ kind, called ≠ kind →
        outstanding kind (Function.update calls thread .idle) = outstanding kind calls := by
  have moved := fun kind => outstanding_update kind calls thread .idle
  simp only [stage, Stage.owes, Bool.toNat_false, Nat.add_zero] at moved
  constructor
  · rw [← moved called, decide_eq_true rfl, Bool.toNat_true]
  · intro kind different
    rw [← moved kind, decide_eq_false different, Bool.toNat_false, Nat.add_zero]

omit [DecidableEq Thread] in
theorem outstanding_quiescent {state : State Thread} (quiescent : Quiescent state)
    (kind : CallKind) : outstanding kind state.calls = 0 := by
  apply Finset.sum_eq_zero
  intro thread _
  rw [quiescent thread]
  rfl

omit [DecidableEq Thread] in
theorem outstanding_positive {kind : CallKind} {calls : Thread → Stage} {thread : Thread}
    (owes : (calls thread).owes kind = true) : 0 < outstanding kind calls := by
  apply Nat.pos_of_ne_zero
  intro zero
  have own := Finset.sum_eq_zero_iff.mp zero thread (Finset.mem_univ thread)
  rw [owes] at own
  cases own

omit [DecidableEq Thread] in
theorem outstanding_none {kind : CallKind} {calls : Thread → Stage}
    (none : ∀ thread, (calls thread).owes kind = false) : outstanding kind calls = 0 := by
  apply Finset.sum_eq_zero
  intro thread _
  rw [none thread]
  rfl

end Outstanding

/-! ### The counter under interleaved calls -/

theorem ofNat_succ (level : Nat) : BitVec.ofNat 32 (level + 1) = BitVec.ofNat 32 level + 1#32 :=
  BitVec.ofNat_add level 1

theorem count_down {count credit level : ULONG} (shown : count + credit = level + 1#32) :
    count - 1 + credit = level := by
  bv_omega

theorem count_up {count credit level : ULONG} (shown : count + (credit + 1#32) = level) :
    count + 1 + credit = level := by
  bv_omega

theorem every_call {calls : Thread → Stage} {thread : Thread} {stage : Stage}
    (holds : Stage → Prop) (now : holds stage)
    (others : ∀ other, other ≠ thread → holds (calls other)) :
    ∀ other, holds (Function.update calls thread stage other) := by
  apply (Function.forall_update_iff calls (fun _ stage => holds stage)).mpr
  exact ⟨now, others⟩

def Alone (calls : Thread → Stage) : Prop :=
  ∀ first second, (calls first).Loaded → (calls second).Loaded → first = second

theorem alone_update {calls : Thread → Stage} {thread : Thread} {stage : Stage}
    (alone : Alone calls) (fits : stage.Loaded → ∀ other, ¬ (calls other).Loaded) :
    Alone (Function.update calls thread stage) := by
  intro first second
  by_cases firstMoved : first = thread
  · by_cases secondMoved : second = thread
    · intro _ _
      rw [firstMoved, secondMoved]
    · rw [firstMoved, Function.update_self, Function.update_of_ne secondMoved]
      intro now before
      exact absurd before (fits now second)
  · rw [Function.update_of_ne firstMoved]
    intro before
    by_cases secondMoved : second = thread
    · rw [secondMoved, Function.update_self]
      intro now
      exact absurd before (fits now first)
    · rw [Function.update_of_ne secondMoved]
      exact alone first second before

variable [Fintype Thread]

structure Accounted (initialCount : ULONG) (state : State Thread) : Prop where
  conserved : state.object.available + state.gets + outstanding .get state.calls =
    initialCount.toNat + state.puts + outstanding .put state.calls
  room : state.object.available ≤ semaphoreMaximum
  maximum : state.object.maximum = semaphoreMaximum
  shown : state.block.txSemaphoreCount + BitVec.ofNat 32 (outstanding .put state.calls) =
    BitVec.ofNat 32 (state.object.available + outstanding .get state.calls)
  sound : ∀ thread, (state.calls thread).Sound state.block.txSemaphoreCount
  alone : Alone state.calls

omit [DecidableEq Thread] in
theorem accounted_created {handle : HANDLE} {name : Option String} {initialCount : ULONG}
    {state : State Thread} (started : created handle name initialCount = some state) :
    Quiescent state ∧ Accounted initialCount state := by
  by_cases bound : initialCount.toNat ≤ semaphoreMaximum
  · simp only [created, txSemaphoreCreate, createAlone, SemaphoreObject.create, if_pos bound,
      Option.map_some] at started
    cases started
    have quiescent : ∀ kind, outstanding kind (fun _ : Thread => Stage.idle) = 0 :=
      fun kind => outstanding_none fun _ => rfl
    refine ⟨fun _ => rfl, ?_⟩
    constructor
    · simp only [quiescent]
    · exact bound
    · rfl
    · simp only [quiescent, Nat.add_zero, BitVec.ofNat_toNat, BitVec.setWidth_eq]
      exact BitVec.add_zero _
    · exact fun _ => trivial
    · exact fun _ _ loaded => absurd loaded id
  · simp only [created, txSemaphoreCreate, createAlone, SemaphoreObject.create, if_neg bound,
      Option.map_none] at started
    cases started

theorem accounted_move {initialCount : ULONG} {state : State Thread} {thread : Thread}
    {stage : Stage} (accounted : Accounted initialCount state)
    (owes : ∀ kind, stage.owes kind = (state.calls thread).owes kind)
    (sound : stage.Sound state.block.txSemaphoreCount)
    (alone : stage.Loaded → ∀ other, ¬ (state.calls other).Loaded) :
    Accounted initialCount (state.move thread stage) := by
  have same := outstanding_kept owes
  constructor
  · simp only [State.move, same]
    exact accounted.conserved
  · exact accounted.room
  · exact accounted.maximum
  · simp only [State.move, same]
    exact accounted.shown
  · exact every_call _ sound fun other _ => accounted.sound other
  · exact alone_update accounted.alone alone

theorem accounted_wait {initialCount : ULONG} {state next : State Thread} {thread : Thread}
    (accounted : Accounted initialCount state) (present : 0 < state.object.available)
    (stepped : step state (.wait thread false) = some next) : Accounted initialCount next := by
  rcases wait_some stepped with ⟨waitOption, result, object, stage, ended, rfl⟩
  have granted := semaphore_wait_present (waitDuration waitOption) present
  rw [waitAlone, if_neg Bool.false_ne_true, granted] at ended
  cases ended
  have quiet : ∀ kind, (state.calls thread).owes kind = false := fun kind => by rw [stage]; rfl
  have owed := outstanding_answered .get txSuccess quiet
  have debit := owed.1
  have credit := owed.2 .put (by decide)
  constructor
  · have conserved := accounted.conserved
    simp only [State.move, waitStatus, debit, credit]
    omega
  · have room := accounted.room
    simp only
    omega
  · exact accounted.maximum
  · have moved : state.object.available - 1 + (outstanding .get state.calls + 1) =
        state.object.available + outstanding .get state.calls := by omega
    simp only [State.move, waitStatus, debit, credit, moved]
    exact accounted.shown
  · exact every_call _ rfl fun other _ => accounted.sound other
  · exact alone_update accounted.alone fun loaded => absurd loaded id

theorem accounted_release {initialCount : ULONG} {state next : State Thread} {thread : Thread}
    (accounted : Accounted initialCount state)
    (room : state.object.available < state.object.maximum)
    (stepped : step state (.release thread) = some next) : Accounted initialCount next := by
  rcases release_some stepped with ⟨stage, rfl⟩
  rw [semaphore_release_room room]
  have quiet : ∀ kind, (state.calls thread).owes kind = false := fun kind => by rw [stage]; rfl
  have owed := outstanding_answered .put txSuccess quiet
  have credit := owed.1
  have debit := owed.2 .get (by decide)
  constructor
  · have conserved := accounted.conserved
    simp only [State.move, if_true, debit, credit]
    omega
  · rw [accounted.maximum] at room
    exact room
  · exact accounted.maximum
  · have moved : state.object.available + 1 + outstanding .get state.calls =
        state.object.available + outstanding .get state.calls + 1 := by omega
    simp only [State.move, if_true, debit, credit, moved]
    calc
      state.block.txSemaphoreCount + BitVec.ofNat 32 (outstanding .put state.calls + 1) =
          state.block.txSemaphoreCount + BitVec.ofNat 32 (outstanding .put state.calls) + 1#32 := by
        rw [ofNat_succ, BitVec.add_assoc]
      _ = BitVec.ofNat 32 (state.object.available + outstanding .get state.calls) + 1#32 := by
        rw [accounted.shown]
      _ = BitVec.ofNat 32 (state.object.available + outstanding .get state.calls + 1) :=
        (ofNat_succ _).symm
  · exact every_call _ rfl fun other _ => accounted.sound other
  · exact alone_update accounted.alone fun loaded => absurd loaded id

theorem accounted_store {initialCount : ULONG} {state next : State Thread} {thread : Thread}
    (accounted : Accounted initialCount state)
    (stepped : step state (.store thread) = some next) : Accounted initialCount next := by
  rcases store_some stepped with ⟨kind, status, count, stage, rfl⟩
  have sound := accounted.sound thread
  rw [stage] at sound
  rcases sound with ⟨rfl, rfl⟩
  have owed := outstanding_settled stage
  have conserved := accounted.conserved
  have shown := accounted.shown
  have others : ∀ value, ∀ other, other ≠ thread → (state.calls other).Sound value := by
    intro value other different
    apply sound_unloaded (accounted.sound other)
    intro loaded
    exact different (accounted.alone other thread loaded (by rw [stage]; trivial))
  cases kind with
  | get =>
      have debit := owed.1
      have credit := owed.2 .put (by decide)
      constructor
      · simp [State.move, counted, credit]
        omega
      · exact accounted.room
      · exact accounted.maximum
      · simp only [State.move, countAfter, credit]
        rw [← debit, ← Nat.add_assoc, ofNat_succ] at shown
        exact count_down shown
      · exact every_call _ trivial (others _)
      · exact alone_update accounted.alone fun loaded => absurd loaded id
  | put =>
      have credit := owed.1
      have debit := owed.2 .get (by decide)
      constructor
      · simp [State.move, counted, debit]
        omega
      · exact accounted.room
      · exact accounted.maximum
      · simp only [State.move, countAfter, debit]
        rw [← credit, ofNat_succ] at shown
        exact count_up shown
      · exact every_call _ trivial (others _)
      · exact alone_update accounted.alone fun loaded => absurd loaded id

theorem accounted_step {initialCount : ULONG} {state next : State Thread}
    {action : Action Thread} (accounted : Accounted initialCount state)
    (allowed : Counted state action) (stepped : step state action = some next) :
    Accounted initialCount next := by
  cases action with
  | get thread waitOption =>
      rcases get_some stepped with ⟨stage, rfl⟩
      exact accounted_move accounted (fun _ => by rw [stage]; rfl) trivial
        (fun loaded => absurd loaded id)
  | put thread =>
      rcases put_some stepped with ⟨stage, rfl⟩
      exact accounted_move accounted (fun _ => by rw [stage]; rfl) trivial
        (fun loaded => absurd loaded id)
  | wait thread fault =>
      rcases allowed with ⟨rfl, present⟩
      exact accounted_wait accounted present stepped
  | release thread => exact accounted_release accounted allowed stepped
  | load thread =>
      rcases load_some stepped with ⟨kind, status, stage, rfl⟩
      have sound := accounted.sound thread
      rw [stage] at sound
      exact accounted_move accounted (fun _ => by rw [stage]; rfl) ⟨sound, rfl⟩
        (fun _ => allowed)
  | store thread => exact accounted_store accounted stepped

omit [DecidableEq Thread] in
theorem accounted_mirrors {initialCount : ULONG} {state : State Thread}
    (accounted : Accounted initialCount state) (quiescent : Quiescent state) :
    Mirrors initialCount state := by
  have conserved := accounted.conserved
  have shown := accounted.shown
  have room := accounted.room
  have bound : semaphoreMaximum = 4096 := rfl
  rw [outstanding_quiescent quiescent, outstanding_quiescent quiescent] at conserved shown
  have count : state.block.txSemaphoreCount.toNat = state.object.available := by
    have word : state.block.txSemaphoreCount = BitVec.ofNat 32 state.object.available := by
      calc
        state.block.txSemaphoreCount = state.block.txSemaphoreCount + 0#32 := by simp
        _ = BitVec.ofNat 32 state.object.available := shown
    rw [word, BitVec.toNat_ofNat]
    omega
  have total : state.block.txSemaphoreCount.toNat + state.gets =
      initialCount.toNat + state.puts := by omega
  exact ⟨total, count, room⟩

structure Bounded (state : State Thread) : Prop where
  level : state.block.txSemaphoreCount.toNat + outstanding .put state.calls =
    state.object.available + outstanding .get state.calls
  range : state.block.txSemaphoreCount.toNat ≤ semaphoreMaximum
  fits : ∀ thread, (state.calls thread).Fits state.block.txSemaphoreCount.toNat

omit [DecidableEq Thread] in
theorem bounded_created {initialCount : ULONG} {state : State Thread}
    (accounted : Accounted initialCount state) (quiescent : Quiescent state) : Bounded state := by
  have mirrors := accounted_mirrors accounted quiescent
  constructor
  · calc
      state.block.txSemaphoreCount.toNat + outstanding .put state.calls =
          state.object.available + 0 := by rw [mirrors.2.1, outstanding_quiescent quiescent]
      _ = state.object.available + outstanding .get state.calls := by
        rw [outstanding_quiescent quiescent]
  · rw [mirrors.2.1]
    exact mirrors.2.2
  · intro thread
    rw [quiescent thread]
    trivial

theorem bounded_move {state : State Thread} {thread : Thread} {stage : Stage}
    (bounded : Bounded state) (owes : ∀ kind, stage.owes kind = (state.calls thread).owes kind)
    (fits : stage.Fits state.block.txSemaphoreCount.toNat) : Bounded (state.move thread stage) := by
  constructor
  · simp only [State.move, outstanding_kept owes]
    exact bounded.level
  · exact bounded.range
  · exact every_call _ fits fun other _ => bounded.fits other

theorem bounded_load {initialCount : ULONG} {state next : State Thread} {thread : Thread}
    (accounted : Accounted initialCount state) (bounded : Bounded state)
    (unopposed : Unopposed state (.load thread))
    (stepped : step state (.load thread) = some next) : Bounded next := by
  rcases load_some stepped with ⟨kind, status, stage, rfl⟩
  have owes : (state.calls thread).owes kind = true := by
    rw [stage]
    exact decide_eq_true rfl
  have own := outstanding_positive owes
  have opposite : ∀ other, kind ≠ other → outstanding other state.calls = 0 := by
    intro other different
    apply outstanding_none
    intro caller
    apply Bool.eq_false_iff.mpr
    intro present
    exact different (unopposed caller kind other owes present)
  have level := bounded.level
  have room := accounted.room
  apply bounded_move bounded (fun _ => by rw [stage]; rfl)
  cases kind with
  | get =>
      have none := opposite .put (by decide)
      simp only [Stage.Fits]
      omega
  | put =>
      have none := opposite .get (by decide)
      simp only [Stage.Fits]
      omega

theorem bounded_store {initialCount : ULONG} {state next : State Thread} {thread : Thread}
    (accounted : Accounted initialCount state) (bounded : Bounded state)
    (stepped : step state (.store thread) = some next) : Bounded next := by
  rcases store_some stepped with ⟨kind, status, count, stage, rfl⟩
  have sound := accounted.sound thread
  have fits := bounded.fits thread
  rw [stage] at sound fits
  rcases sound with ⟨rfl, rfl⟩
  have owed := outstanding_settled stage
  have level := bounded.level
  have range := bounded.range
  have bound : semaphoreMaximum = 4096 := rfl
  have others : ∀ value, ∀ other, other ≠ thread → (state.calls other).Fits value := by
    intro value other different
    apply fits_unloaded
    intro loaded
    exact different (accounted.alone other thread loaded (by rw [stage]; trivial))
  cases kind with
  | get =>
      have debit := owed.1
      have credit := owed.2 .put (by decide)
      have lowered : (countAfter .get state.block.txSemaphoreCount).toNat + 1 =
          state.block.txSemaphoreCount.toNat := by
        simp only [Stage.Fits] at fits
        simp only [countAfter]
        bv_omega
      constructor
      · simp only [State.move, credit]
        omega
      · simp only
        omega
      · exact every_call _ trivial (others _)
  | put =>
      have credit := owed.1
      have debit := owed.2 .get (by decide)
      have raised : (countAfter .put state.block.txSemaphoreCount).toNat =
          state.block.txSemaphoreCount.toNat + 1 := by
        simp only [Stage.Fits] at fits
        simp only [countAfter]
        bv_omega
      simp only [Stage.Fits] at fits
      constructor
      · simp only [State.move, debit]
        omega
      · simp only
        omega
      · exact every_call _ trivial (others _)

theorem bounded_step {initialCount : ULONG} {state next : State Thread} {action : Action Thread}
    (accounted : Accounted initialCount state) (bounded : Bounded state)
    (allowed : Counted state action) (unopposed : Unopposed state action)
    (stepped : step state action = some next) : Bounded next := by
  have level := bounded.level
  cases action with
  | get thread waitOption =>
      rcases get_some stepped with ⟨stage, rfl⟩
      exact bounded_move bounded (fun _ => by rw [stage]; rfl) trivial
  | put thread =>
      rcases put_some stepped with ⟨stage, rfl⟩
      exact bounded_move bounded (fun _ => by rw [stage]; rfl) trivial
  | wait thread fault =>
      rcases allowed with ⟨rfl, present⟩
      rcases wait_some stepped with ⟨waitOption, result, object, stage, ended, rfl⟩
      have granted := semaphore_wait_present (waitDuration waitOption) present
      rw [waitAlone, if_neg Bool.false_ne_true, granted] at ended
      cases ended
      have quiet : ∀ kind, (state.calls thread).owes kind = false := fun kind => by rw [stage]; rfl
      have owed := outstanding_answered .get txSuccess quiet
      have debit := owed.1
      have credit := owed.2 .put (by decide)
      constructor
      · simp only [State.move, waitStatus, debit, credit]
        omega
      · exact bounded.range
      · exact every_call _ trivial fun other _ => bounded.fits other
  | release thread =>
      rcases release_some stepped with ⟨stage, rfl⟩
      rw [semaphore_release_room allowed]
      have quiet : ∀ kind, (state.calls thread).owes kind = false := fun kind => by rw [stage]; rfl
      have owed := outstanding_answered .put txSuccess quiet
      have credit := owed.1
      have debit := owed.2 .get (by decide)
      constructor
      · simp only [State.move, if_true, debit, credit]
        omega
      · exact bounded.range
      · exact every_call _ trivial fun other _ => bounded.fits other
  | load thread => exact bounded_load accounted bounded unopposed stepped
  | store thread => exact bounded_store accounted bounded stepped

/-! ### Calls made one at a time -/

omit [DecidableEq Thread] [Fintype Thread] in
theorem granted_call {state next : State Thread} {call : Call} (granted : Granted state call)
    (called : callStep state call = some next) :
    next.object.maximum = state.object.maximum ∧
      match call with
      | .get _ _ =>
          next.block.txSemaphoreCount = state.block.txSemaphoreCount - 1 ∧
            next.object.available + 1 = state.object.available ∧
            next.gets = state.gets + 1 ∧ next.puts = state.puts
      | .put =>
          next.block.txSemaphoreCount = state.block.txSemaphoreCount + 1 ∧
            next.object.available = state.object.available + 1 ∧
            next.gets = state.gets ∧ next.puts = state.puts + 1 := by
  cases call with
  | get waitOption fault =>
      rcases granted with ⟨rfl, present⟩
      have taken := semaphore_wait_present (waitDuration waitOption) present
      simp only [callStep, txSemaphoreGet, waitAlone, if_neg Bool.false_ne_true, taken,
        Option.bind_eq_bind, Option.bind_some] at called
      cases called
      exact ⟨rfl, rfl, Nat.sub_add_cancel present, rfl, rfl⟩
  | put =>
      simp only [callStep, txSemaphorePut, releaseAlone, semaphore_release_room granted] at called
      cases called
      exact ⟨rfl, rfl, rfl, rfl, rfl⟩

omit [DecidableEq Thread] [Fintype Thread] in
theorem refused_call {state next : State Thread} {call : Call} (refused : ¬ Granted state call)
    (called : callStep state call = some next) :
    next.object = state.object ∧
      next.block.txSemaphoreCount ≠ state.block.txSemaphoreCount := by
  have lowered : ∀ count : ULONG, count - 1 ≠ count := by
    intro count
    bv_omega
  have raised : ∀ count : ULONG, count + 1 ≠ count := by
    intro count
    bv_omega
  cases call with
  | get waitOption fault =>
      cases fault with
      | true =>
          cases called
          exact ⟨rfl, lowered _⟩
      | false =>
          have empty : ¬ 0 < state.object.available := fun present => refused ⟨rfl, present⟩
          cases ended : state.object.wait (waitDuration waitOption) with
          | none => simp [callStep, txSemaphoreGet, waitAlone, ended] at called
          | some answer =>
              have kept := semaphore_wait_empty empty ended
              simp only [callStep, txSemaphoreGet, waitAlone, if_neg Bool.false_ne_true, ended,
                Option.bind_eq_bind, Option.bind_some] at called
              cases called
              exact ⟨kept.2, lowered _⟩
  | put =>
      simp only [callStep, txSemaphorePut, releaseAlone, semaphore_release_full refused] at called
      cases called
      exact ⟨rfl, raised _⟩

def Between (initialCount : ULONG) (state : State Thread) : Prop :=
  Mirrors initialCount state ∧ state.object.maximum = semaphoreMaximum

omit [DecidableEq Thread] [Fintype Thread] in
theorem granted_between {initialCount : ULONG} {state next : State Thread} {call : Call}
    (between : Between initialCount state) (granted : Granted state call)
    (called : callStep state call = some next) : Between initialCount next := by
  rcases between with ⟨⟨total, mirrored, room⟩, maximum⟩
  have bound : semaphoreMaximum = 4096 := rfl
  have moved := granted_call granted called
  cases call with
  | get waitOption fault =>
      rcases moved with ⟨sameMaximum, count, available, gets, puts⟩
      have present := granted.2
      have lowered : next.block.txSemaphoreCount.toNat + 1 =
          state.block.txSemaphoreCount.toNat := by
        rw [count]
        bv_omega
      exact ⟨⟨by omega, by omega, by omega⟩, by rw [sameMaximum, maximum]⟩
  | put =>
      rcases moved with ⟨sameMaximum, count, available, gets, puts⟩
      have found : state.object.available < state.object.maximum := granted
      have raised : next.block.txSemaphoreCount.toNat =
          state.block.txSemaphoreCount.toNat + 1 := by
        rw [count]
        bv_omega
      exact ⟨⟨by omega, by omega, by omega⟩, by rw [sameMaximum, maximum]⟩

omit [DecidableEq Thread] [Fintype Thread] in
theorem mirrors_granted {initialCount : ULONG} {state next : State Thread} {call : Call}
    (between : Between initialCount state) (called : callStep state call = some next)
    (mirrors : Mirrors initialCount next) : Granted state call := by
  by_contra refused
  have kept := refused_call refused called
  apply kept.2
  apply BitVec.eq_of_toNat_eq
  calc
    next.block.txSemaphoreCount.toNat = next.object.available := mirrors.2.1
    _ = state.object.available := by rw [kept.1]
    _ = state.block.txSemaphoreCount.toNat := between.1.2.1.symm

/-- In every interleaving whose waits are granted, whose releases find room and
whose counter updates do not overlap, the counter is right whenever no call is
in flight; it stays within its range throughout when, besides, no update is made
across an opposite call. For calls made one at a time the condition is exact. -/
theorem counter_mirrors (handle : HANDLE) (name : Option String) (initialCount : ULONG)
    (bound : initialCount.toNat ≤ semaphoreMaximum) :
    ∃ state : State Thread, created handle name initialCount = some state ∧
      (∀ schedule, Along step Counted state schedule →
        Always step (fun reached => Quiescent reached → Mirrors initialCount reached)
          state schedule) ∧
      (∀ schedule,
        Along step (fun reached action => Counted reached action ∧ Unopposed reached action)
          state schedule →
        Always step (fun reached => reached.block.txSemaphoreCount.toNat ≤ semaphoreMaximum)
          state schedule) ∧
      (∀ calls, Always callStep (Mirrors initialCount) state calls ↔
        Along callStep Granted state calls) := by
  cases started : (created handle name initialCount : Option (State Thread)) with
  | none => simp [created, txSemaphoreCreate, createAlone, SemaphoreObject.create, bound] at started
  | some state =>
      have initial := accounted_created started
      have between : Between initialCount state :=
        ⟨accounted_mirrors initial.2 initial.1, initial.2.maximum⟩
      refine ⟨state, rfl, ?_, ?_, ?_⟩
      · intro schedule allowed
        have accounted := always_of_along step (Accounted initialCount) Counted
          (fun _ _ _ now allowed stepped => accounted_step now allowed stepped)
          state schedule initial.2 allowed
        exact always_mono step (fun _ now quiescent => accounted_mirrors now quiescent)
          state schedule accounted
      · intro schedule allowed
        have bounded := always_of_along step
          (fun reached => Accounted initialCount reached ∧ Bounded reached)
          (fun reached action => Counted reached action ∧ Unopposed reached action)
          (fun _ _ _ now allowed stepped =>
            ⟨accounted_step now.1 allowed.1 stepped,
              bounded_step now.1 now.2 allowed.1 allowed.2 stepped⟩)
          state schedule ⟨initial.2, bounded_created initial.2 initial.1⟩ allowed
        exact always_mono step (fun _ now => now.2.range) state schedule bounded
      · intro calls
        exact always_iff_along callStep (Between initialCount) (Mirrors initialCount) Granted
          (fun _ now => now.1)
          (fun _ _ _ now granted called => granted_between now granted called)
          (fun _ _ _ now called mirrors => mirrors_granted now called mirrors)
          state calls between

/-- A poll of an empty semaphore takes the counter below 0. -/
theorem poll_wraps_counter :
    ∃ state final : State Unit, created 1 none 0 = some state ∧
      run step state [.get () txNoWait, .wait () false, .load (), .store ()] = some final ∧
      Quiescent final ∧ final.block.txSemaphoreCount = 0xFFFFFFFF ∧ ¬ Mirrors 0 final := by
  refine ⟨_, _, rfl, rfl, fun _ => rfl, by decide, ?_⟩
  intro mirrors
  exact absurd mirrors.1 (by decide)

/-- One unit is taken and given back by a single call each. -/
theorem unit_returned :
    ∃ state : State Bool, created 1 none 1 = some state ∧
      Always callStep (Mirrors 1) state [.get txNoWait false, .put] := by
  obtain ⟨state, started, _, _, sequential⟩ :=
    (counter_mirrors 1 none 1 (by decide) : ∃ state : State Bool, _)
  refine ⟨state, started, (sequential _).mpr ?_⟩
  cases started
  intro next called
  cases called
  refine ⟨⟨rfl, by decide⟩, ?_⟩
  intro last released
  have room : 0 < 4096 := by decide
  exact ⟨room, trivial⟩

end UsbxNxdk.SemaphoreCounter
