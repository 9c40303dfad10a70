import UsbxNxdk.LockOrder
import UsbxNxdk.MutexExclusion
import UsbxNxdk.SharingRuns

/-! Any number of threads that wait for any number of mutexes in one order. -/

namespace UsbxNxdk.MutexOrder

open Execution Win32 ControlBlocks BlockSystem BlockIsolation LockOrder
open MutexOwnership (recursion_owner recursion_exclusive)
open NamedBlocks (get_blocked)

variable {Rank : Type*}

def counted (thread address : Nat) (balance : Nat) (answer : Answer) : Nat :=
  if answer.address = address then
    match answer.call with
    | .semaphoreCreate _ => 0
    | .mutexCreate => 0
    | .get caller _ => if caller = thread ∧ answer.status = txSuccess then balance + 1 else balance
    | .put caller => if caller = thread ∧ answer.status = txSuccess then balance - 1 else balance
    | .delete => 0
  else balance

/-- What the statuses of its calls tell a thread about a block. -/
def balance (system : System) (thread address : Nat) : Nat :=
  system.log.foldl (counted thread address) 0

structure Contention where
  system : System
  waits : Nat → Option Nat

def Contention.initial : Contention where
  system := System.initial
  waits := fun _ => none

/-- A thread that waits makes no other call; the same get ends its wait. -/
def contend (contention : Contention) (action : Action) : Option Contention :=
  match action with
  | .get address thread waitOption =>
      if contention.waits thread = none ∨
          contention.waits thread = some address ∧ waitOption = txWaitForever then
        match step contention.system action with
        | some system =>
            some { system := system, waits := Function.update contention.waits thread none }
        | none =>
            some { contention with
                   waits := Function.update contention.waits thread (some address) }
      else none
  | .put _ thread =>
      if contention.waits thread = none then
        (step contention.system action).map fun system => { contention with system := system }
      else none
  | _ => (step contention.system action).map fun system => { contention with system := system }

def MutexAt (system : System) (address : Nat) : Prop :=
  ∃ object, system.standing address = some (.mutex object)

def locksOf (contention : Contention) : Locks Nat Nat where
  has := fun thread address =>
    MutexAt contention.system address ∧ 0 < balance contention.system thread address
  awaits := fun thread address =>
    MutexAt contention.system address ∧ contention.waits thread = some address

/-- A get that may wait for a mutex is made by a thread whose other mutexes are all
of lower rank. A live block is not created anew, and none is deleted that a
thread has or waits for. -/
def InOrder [LT Rank] (rank : Nat → Rank) (contention : Contention) : Action → Prop
  | .semaphoreCreate address _ _ _ => contention.system.live address = false
  | .mutexCreate address _ _ => contention.system.live address = false
  | .get address thread waitOption =>
      waitOption = txWaitForever → MutexAt contention.system address →
        ∀ held, (locksOf contention).has thread held → held ≠ address → rank held < rank address
  | .put _ _ => True
  | .delete address =>
      ∀ thread, ¬ (locksOf contention).has thread address ∧
        contention.waits thread ≠ some address

structure Disciplined [LT Rank] (rank : Nat → Rank) (contention : Contention) (action : Action) :
    Prop where
  proper : Proper contention.system action
  ordered : InOrder rank contention action

/-- A get of a mutex stays blocked exactly while another thread has the mutex, and
every such wait ends with a thread that waits for no mutex of another. -/
def Clear (contention : Contention) : Prop :=
  ∀ thread address, (locksOf contention).awaits thread address →
    (step contention.system (.get address thread txWaitForever) = none ↔
        ∃ holder, (locksOf contention).BlockedBy thread holder) ∧
      (locksOf contention).WaitEnds thread

/-! ### Statuses and owners -/

def Owned (standing : Option Body) (balance : Nat → Nat) : Prop :=
  ∀ object, standing = some (.mutex object) →
    object ≠ .free true ∧ ∀ thread, object.recursion thread = balance thread

theorem balance_step {system next : System} {answer : Answer}
    (log : next.log = system.log ++ [answer]) (thread address : Nat) :
    balance next thread address = counted thread address (balance system thread address) answer := by
  rw [balance, log, List.foldl_append]
  rfl

theorem counted_other {thread address : Nat} {answer : Answer} (other : answer.address ≠ address)
    (balance : Nat) : counted thread address balance answer = balance :=
  if_neg other

theorem get_owned {object after : MutexObject} {caller : Nat} {waitOption : ULONG}
    {result : WaitResult} {balance : Nat → Nat} (kept : object ≠ .free true)
    (owned : ∀ thread, object.recursion thread = balance thread)
    (ended : object.wait caller waitOption = some (result, after)) :
    after ≠ .free true ∧ ∀ thread, after.recursion thread =
      if caller = thread ∧ waitStatus result = txSuccess then balance thread + 1
      else balance thread := by
  rcases mutex_wait_cases ended with ⟨abandoned, rfl, rfl, rfl⟩ | ⟨again, rfl, rfl, rfl⟩ | refused
  · cases abandoned with
    | true => exact absurd rfl kept
    | false =>
        refine ⟨by simp, ?_⟩
        intro thread
        rw [← owned thread, mutex_wait_granted ended (by decide) thread]
        by_cases own : caller = thread <;> simp [own, waitStatus]
  · refine ⟨by simp, ?_⟩
    intro thread
    rw [← owned thread, mutex_wait_granted ended (by decide) thread]
    by_cases own : caller = thread <;> simp [own, waitStatus]
  · rcases refused with ⟨_, _, _, _, rfl, rfl⟩
    refine ⟨kept, ?_⟩
    intro thread
    rw [owned thread, if_neg]
    exact fun success => absurd success.2 (by decide)

theorem put_owned {object : MutexObject} {caller : Nat} {balance : Nat → Nat}
    (kept : object ≠ .free true) (owned : ∀ thread, object.recursion thread = balance thread) :
    (object.release caller).2 ≠ .free true ∧ ∀ thread,
      (object.release caller).2.recursion thread =
        if caller = thread ∧
            (if (object.release caller).1 then txSuccess else txMutexError) = txSuccess then
          balance thread - 1
        else balance thread := by
  constructor
  · cases object with
    | free abandoned => exact kept
    | held owner again =>
        by_cases own : owner = caller
        · cases again <;> simp [MutexObject.release, own]
        · simp [MutexObject.release, own]
  · intro thread
    have released := mutex_release_recursion caller object thread
    have told : (if (object.release caller).1 then txSuccess else txMutexError) = txSuccess ↔
        (object.release caller).1 = true := by
      cases (object.release caller).1 <;> decide
    simp only [told]
    rw [owned thread] at released
    by_cases given : caller = thread ∧ (object.release caller).1 = true
    · rw [if_pos given] at released ⊢
      omega
    · rw [if_neg given] at released ⊢
      exact released

theorem own_owned {standing after : Option Body} {answer : Answer} {balance : Nat → Nat}
    (owned : Owned standing balance)
    (answered : own standing answer.call = some (answer.status, after)) :
    Owned after fun thread => counted thread answer.address (balance thread) answer := by
  intro object left
  subst left
  rcases answer with ⟨address, call, status⟩
  simp only [counted, if_true]
  cases call with
  | semaphoreCreate initialCount =>
      cases answered
  | mutexCreate =>
      cases answered
      exact ⟨by decide, fun _ => rfl⟩
  | delete =>
      cases standing <;> cases answered
  | get caller waitOption =>
      cases standing with
      | none => cases answered
      | some body =>
          cases body with
          | semaphore semaphore =>
              cases ended : semaphore.wait (waitDuration waitOption) <;>
                simp [own, Body.wait, ended] at answered
          | mutex mutex =>
              rcases owned mutex rfl with ⟨kept, known⟩
              cases ended : mutex.wait caller (waitDuration waitOption) with
              | none => simp [own, Body.wait, ended] at answered
              | some reached =>
                  simp only [own, Body.wait, ended] at answered
                  cases answered
                  exact get_owned kept known ended
  | put caller =>
      cases standing with
      | none => cases answered
      | some body =>
          cases body with
          | semaphore semaphore => cases answered
          | mutex mutex =>
              rcases owned mutex rfl with ⟨kept, known⟩
              cases answered
              exact put_owned kept known

theorem owned_step {system next : System} {action : Action}
    (settled : Settled system next action)
    (owned : ∀ address, Owned (system.standing address) fun thread => balance system thread address)
    (address : Nat) : Owned (next.standing address) fun thread => balance next thread address := by
  rcases settled.answered with ⟨status, answered, log⟩
  simp only [balance_step log]
  by_cases other : address = action.address
  · subst other
    exact own_owned (owned action.address) answered
  · have unchanged : ∀ thread balance, counted thread address balance
        { address := action.address, call := action.call, status := status } = balance :=
      fun _ balance => counted_other (Ne.symm other) balance
    rw [settled.framed address other]
    simp only [unchanged]
    exact owned address

/-! ### What a call changes of the locks -/

theorem own_mutex {standing : Option Body} {call : BlockCall} {status : UINT}
    {object : MutexObject} (answered : own standing call = some (status, some (.mutex object)))
    (older : call ≠ .mutexCreate) : ∃ before, standing = some (.mutex before) := by
  cases standing with
  | none =>
      cases call with
      | mutexCreate => exact absurd rfl older
      | _ => cases answered
  | some body =>
      cases body with
      | mutex before => exact ⟨before, rfl⟩
      | semaphore semaphore =>
          cases call with
          | mutexCreate => exact absurd rfl older
          | get caller waitOption =>
              cases ended : semaphore.wait (waitDuration waitOption) <;>
                simp [own, Body.wait, ended] at answered
          | _ => cases answered

theorem mutexAt_before [LT Rank] {rank : Nat → Rank} {contention : Contention} {next : System}
    {action : Action} (settled : Settled contention.system next action)
    (ordered : InOrder rank contention action) {address : Nat}
    (live : contention.system.live address = true) (found : MutexAt next address) :
    MutexAt contention.system address := by
  rcases found with ⟨object, standing⟩
  by_cases other : address = action.address
  · subst other
    rcases settled.answered with ⟨status, answered, _⟩
    rw [standing] at answered
    apply own_mutex answered
    intro call
    cases action with
    | mutexCreate address handle name => exact Bool.false_ne_true (ordered.symm.trans live)
    | _ => cases call
  · exact ⟨object, (settled.framed address other).symm.trans standing⟩

theorem has_before {system next : System} {action : Action} (settled : Settled system next action)
    {thread address : Nat} (found : MutexAt next address)
    (having : 0 < balance next thread address) :
    (MutexAt system address ∧ 0 < balance system thread address) ∨
      ∃ waitOption, action = .get address thread waitOption := by
  rcases settled.answered with ⟨status, answered, log⟩
  rw [balance_step log] at having
  by_cases other : address = action.address
  · subst other
    rcases found with ⟨object, standing⟩
    rw [standing] at answered
    rw [counted, if_pos rfl] at having
    cases action with
    | semaphoreCreate address handle name count => exact absurd having (Nat.lt_irrefl 0)
    | mutexCreate address handle name => exact absurd having (Nat.lt_irrefl 0)
    | delete address => exact absurd having (Nat.lt_irrefl 0)
    | get address caller waitOption =>
        by_cases own : caller = thread
        · exact Or.inr ⟨waitOption, by rw [own]; rfl⟩
        · simp only [Action.call, own, false_and, if_false] at having
          exact Or.inl ⟨own_mutex answered (by simp [Action.call]), having⟩
    | put address caller =>
        refine Or.inl ⟨own_mutex answered (by simp [Action.call]), ?_⟩
        simp only [Action.call] at having
        split at having <;> omega
  · rw [counted_other (Ne.symm other)] at having
    rw [MutexAt, settled.framed address other] at found
    exact Or.inl ⟨found, having⟩

theorem step_finish {system next : System} {action : Action}
    (stepped : step system action = some next) : ∃ live returned,
      next = system.finish action live returned ∧
        (live = false → action = .delete action.address ∨ system.live action.address = false) := by
  cases action with
  | semaphoreCreate address handle name count =>
      by_cases given : system.canGive handle
      · simp only [step, if_pos given] at stepped
        cases stepped
        exact ⟨true, _, rfl, fun dead => absurd dead (by decide)⟩
      · simp only [step, if_neg given] at stepped
        cases stepped
  | mutexCreate address handle name =>
      by_cases given : system.canGive handle
      · simp only [step, if_pos given] at stepped
        cases stepped
        exact ⟨true, _, rfl, fun dead => absurd dead (by decide)⟩
      · simp only [step, if_neg given] at stepped
        cases stepped
  | get address thread waitOption =>
      cases present : system.blocks address with
      | none => simp [step, present] at stepped
      | some block =>
          cases called : block.get thread waitOption system.kernel with
          | none => simp [step, present, called] at stepped
          | some returned =>
              simp only [step, present, called] at stepped
              cases stepped
              exact ⟨system.live address, returned, rfl, Or.inr⟩
  | put address thread =>
      cases present : system.blocks address with
      | none => simp [step, present] at stepped
      | some block =>
          simp only [step, present] at stepped
          cases stepped
          exact ⟨system.live address, _, rfl, Or.inr⟩
  | delete address =>
      cases present : system.blocks address with
      | none => simp [step, present] at stepped
      | some block =>
          simp only [step, present] at stepped
          cases stepped
          exact ⟨false, _, rfl, fun _ => Or.inl rfl⟩

theorem live_kept {system next : System} {action : Action}
    (stepped : step system action = some next) {address : Nat}
    (alive : system.live address = true) (kept : action ≠ .delete address) :
    next.live address = true := by
  rcases step_finish stepped with ⟨live, returned, rfl, dead⟩
  by_cases own : address = action.address
  · subst own
    simp only [System.finish, Function.update_self]
    cases live with
    | true => rfl
    | false =>
        rcases dead rfl with deleted | unused
        · exact absurd deleted kept
        · exact unused.symm.trans alive
  · simp only [System.finish, Function.update_of_ne own]
    exact alive

/-! ### When a get stays blocked -/

theorem mutex_wait_none {object : MutexObject} {thread : Nat} {timeout : ULONG} :
    object.wait thread timeout = none ↔
      timeout = infinite ∧ ∃ owner, owner ≠ thread ∧ 0 < object.recursion owner := by
  constructor
  · intro blocked
    cases object with
    | free abandoned => cases blocked
    | held owner again =>
        by_cases own : owner = thread
        · simp [MutexObject.wait, own] at blocked
        · by_cases forever : timeout = infinite
          · exact ⟨forever, owner, own, by simp [MutexObject.recursion]⟩
          · simp [MutexObject.wait, own, forever] at blocked
  · rintro ⟨rfl, owner, apart, owned⟩
    rcases recursion_owner owned with ⟨again, rfl⟩
    simp [MutexObject.wait, apart]

theorem get_waits_iff {system : System} (sound : Sound system) {address : Nat}
    (live : system.live address = true) (thread : Nat) (waitOption : ULONG) :
    step system (.get address thread waitOption) = none ↔
      ∃ body, system.standing address = some body ∧ body.wait thread waitOption = none := by
  rcases sound.opened address live with ⟨block, object, present, found, _⟩
  have behind := objectOf_live live present found
  constructor
  · intro stuck
    refine ⟨(system.kernel.objects object).body, by rw [System.standing, behind]; rfl, ?_⟩
    cases called : block.get thread waitOption system.kernel with
    | none => exact get_blocked found called
    | some returned => simp [step, present, called] at stuck
  · rintro ⟨body, standing, blocked⟩
    cases stepped : step system (.get address thread waitOption) with
    | none => rfl
    | some next =>
        have proper : Proper system (.get address thread waitOption) := live
        rcases (step_settled sound proper stepped).answered with ⟨status, answered, _⟩
        simp [own, Action.address, Action.call, standing, waitDuration_eq, blocked] at answered

/-! ### The invariant -/

structure Kept [LT Rank] (rank : Nat → Rank) (contention : Contention) : Prop where
  sound : Sound contention.system
  owned : ∀ address, Owned (contention.system.standing address)
    fun thread => balance contention.system thread address
  waiting : ∀ thread address, contention.waits thread = some address →
    contention.system.live address = true
  ordered : (locksOf contention).Ordered rank

section Step

variable [LT Rank] {rank : Nat → Rank} {contention : Contention} {action : Action}

theorem kept_returned (kept : Kept rank contention)
    (disciplined : Disciplined rank contention action) {next : System}
    (stepped : step contention.system action = some next) {waits : Nat → Option Nat}
    (fewer : ∀ thread address, waits thread = some address →
      contention.waits thread = some address)
    (caller : ∀ address thread waitOption, action = .get address thread waitOption →
      waits thread = none) : Kept rank { system := next, waits := waits } := by
  have settled := step_settled kept.sound disciplined.proper stepped
  constructor
  · exact settled.sound
  · exact owned_step settled kept.owned
  · intro thread address waiting
    have before := fewer thread address waiting
    apply live_kept stepped (kept.waiting thread address before)
    rintro rfl
    exact (disciplined.ordered thread).2 before
  · apply ordered_mono kept.ordered
    · rintro thread address ⟨found, waiting⟩
      have before := fewer thread address waiting
      exact ⟨mutexAt_before settled disciplined.ordered (kept.waiting thread address before) found,
        before⟩
    · rintro thread held awaited ⟨_, waiting⟩ ⟨found, having⟩
      rcases has_before settled found having with before | ⟨waitOption, own⟩
      · exact before
      · cases waiting.symm.trans (caller held thread waitOption own)

theorem kept_blocked {address thread : Nat} {waitOption : ULONG} (kept : Kept rank contention)
    (disciplined : Disciplined rank contention (.get address thread waitOption))
    (stuck : step contention.system (.get address thread waitOption) = none) :
    Kept rank { contention with
                waits := Function.update contention.waits thread (some address) } := by
  have live : contention.system.live address = true := disciplined.proper
  have waits : ∀ other asked,
      Function.update contention.waits thread (some address) other = some asked →
        contention.waits other = some asked ∨ other = thread ∧ asked = address := by
    intro other asked waiting
    by_cases own : other = thread
    · subst own
      rw [Function.update_self] at waiting
      exact Or.inr ⟨rfl, (Option.some.inj waiting).symm⟩
    · rw [Function.update_of_ne own] at waiting
      exact Or.inl waiting
  constructor
  · exact kept.sound
  · exact kept.owned
  · intro other asked waiting
    rcases waits other asked waiting with before | ⟨_, rfl⟩
    · exact kept.waiting other asked before
    · exact live
  · by_cases mutex : MutexAt contention.system address
    · have forever : waitOption = txWaitForever := by
        rcases (get_waits_iff kept.sound live thread waitOption).mp stuck with
          ⟨body, standing, blocked⟩
        rcases mutex with ⟨object, found⟩
        cases standing.symm.trans found
        have none : object.wait thread waitOption = none := by
          cases ended : object.wait thread waitOption with
          | none => rfl
          | some answer => simp [Body.wait, ended] at blocked
        exact (mutex_wait_none.mp none).1
      apply ordered_await kept.ordered thread address
      · rintro other asked ⟨found, waiting⟩
        rcases waits other asked waiting with before | own
        · exact Or.inl ⟨found, before⟩
        · exact Or.inr own
      · exact fun _ _ having => having
      · exact disciplined.ordered forever mutex
    · apply ordered_mono kept.ordered
      · rintro other asked ⟨found, waiting⟩
        rcases waits other asked waiting with before | ⟨_, rfl⟩
        · exact ⟨found, before⟩
        · exact absurd found mutex
      · exact fun _ _ _ _ having => having

theorem contend_kept {next : Contention} (kept : Kept rank contention)
    (disciplined : Disciplined rank contention action)
    (stepped : contend contention action = some next) : Kept rank next := by
  have unchanged : ∀ thread address, contention.waits thread = some address →
      contention.waits thread = some address := fun _ _ waiting => waiting
  cases action with
  | get address thread waitOption =>
      simp only [contend] at stepped
      split at stepped
      · split at stepped
        · next reached =>
            cases stepped
            apply kept_returned kept disciplined reached
            · intro other asked waiting
              by_cases own : other = thread
              · subst own
                rw [Function.update_self] at waiting
                cases waiting
              · rw [Function.update_of_ne own] at waiting
                exact waiting
            · intro _ caller _ own
              cases own
              exact Function.update_self thread none contention.waits
        · next stuck =>
            cases stepped
            exact kept_blocked kept disciplined stuck
      · cases stepped
  | put address thread =>
      simp only [contend] at stepped
      split at stepped
      · rcases Option.map_eq_some_iff.mp stepped with ⟨system, reached, rfl⟩
        exact kept_returned kept disciplined reached unchanged fun _ _ _ own => by cases own
      · cases stepped
  | semaphoreCreate address handle name count =>
      rcases Option.map_eq_some_iff.mp stepped with ⟨system, reached, rfl⟩
      exact kept_returned kept disciplined reached unchanged fun _ _ _ own => by cases own
  | mutexCreate address handle name =>
      rcases Option.map_eq_some_iff.mp stepped with ⟨system, reached, rfl⟩
      exact kept_returned kept disciplined reached unchanged fun _ _ _ own => by cases own
  | delete address =>
      rcases Option.map_eq_some_iff.mp stepped with ⟨system, reached, rfl⟩
      exact kept_returned kept disciplined reached unchanged fun _ _ _ own => by cases own

end Step

/-! ### Waits that end -/

theorem balance_listed {system : System} {thread address : Nat}
    (having : 0 < balance system thread address) :
    address ∈ system.log.map Answer.address := by
  by_contra absent
  have untouched : ∀ (log : List Answer) (start : Nat), address ∉ log.map Answer.address →
      log.foldl (counted thread address) start = start := by
    intro log start
    induction log generalizing start with
    | nil => exact fun _ => rfl
    | cons answer rest ih =>
        intro missing
        rw [List.map_cons, List.mem_cons, not_or] at missing
        rw [List.foldl_cons, counted_other (Ne.symm missing.1), ih start missing.2]
  rw [balance, untouched system.log 0 absent] at having
  exact Nat.lt_irrefl 0 having

theorem has_finite (contention : Contention) :
    {address | ∃ thread, (locksOf contention).has thread address}.Finite := by
  apply (contention.system.log.map Answer.address).finite_toSet.subset
  rintro address ⟨thread, _, having⟩
  exact balance_listed having

section Clear

variable [LT Rank] {rank : Nat → Rank} {contention : Contention}

theorem has_iff (kept : Kept rank contention) {address : Nat} {object : MutexObject}
    (standing : contention.system.standing address = some (.mutex object)) (thread : Nat) :
    (locksOf contention).has thread address ↔ 0 < object.recursion thread := by
  rw [(kept.owned address object standing).2 thread]
  exact and_iff_right ⟨object, standing⟩

theorem has_exclusive (kept : Kept rank contention) : (locksOf contention).Exclusive := by
  rintro first second address havingFirst havingSecond
  rcases havingFirst.1 with ⟨object, standing⟩
  exact recursion_exclusive ((has_iff kept standing first).mp havingFirst)
    ((has_iff kept standing second).mp havingSecond)

theorem blocked_iff (kept : Kept rank contention) {thread address : Nat}
    (awaits : (locksOf contention).awaits thread address) :
    step contention.system (.get address thread txWaitForever) = none ↔
      ∃ holder, (locksOf contention).BlockedBy thread holder := by
  rcases awaits with ⟨⟨object, standing⟩, waiting⟩
  have wait_none : (Body.mutex object).wait thread txWaitForever = none ↔
      object.wait thread txWaitForever = none := by
    cases ended : object.wait thread txWaitForever <;> simp [Body.wait, ended]
  rw [get_waits_iff kept.sound (kept.waiting thread address waiting)]
  constructor
  · rintro ⟨body, found, blocked⟩
    cases standing.symm.trans found
    rcases (mutex_wait_none.mp (wait_none.mp blocked)).2 with ⟨owner, apart, owned⟩
    exact ⟨owner, Ne.symm apart, address, ⟨⟨object, standing⟩, waiting⟩,
      (has_iff kept standing owner).mpr owned⟩
  · rintro ⟨holder, apart, lock, ⟨_, same⟩, having⟩
    cases waiting.symm.trans same
    refine ⟨.mutex object, standing, wait_none.mpr (mutex_wait_none.mpr ⟨rfl, holder, ?_⟩)⟩
    exact ⟨Ne.symm apart, (has_iff kept standing holder).mp having⟩

end Clear

theorem initial_kept [LT Rank] (rank : Nat → Rank) : Kept rank Contention.initial where
  sound := sound_initial
  owned := fun _ _ standing => by cases standing
  waiting := fun _ _ waiting => by cases waiting
  ordered := fun _ _ _ awaits => by cases awaits.2

/-- In every run in which the creates use fresh names and the threads wait for
mutexes in the order of a rank, a get stays blocked exactly while another thread
has the mutex, by the statuses of its calls, and the waits lead to a thread that
waits for no mutex of another. -/
theorem mutex_waits_end [Preorder Rank] (rank : Nat → Rank) (schedule : List Action)
    (disciplined : Along contend (Disciplined rank) Contention.initial schedule) :
    Always contend Clear Contention.initial schedule := by
  have kept := always_of_along contend (Kept rank) (Disciplined rank)
    (fun _ _ _ => contend_kept) _ schedule (initial_kept rank) disciplined
  apply always_mono contend ?_ _ schedule kept
  intro contention now thread address awaits
  exact ⟨blocked_iff now awaits, waitEnds (has_exclusive now) now.ordered (has_finite contention)
    thread⟩

def queued : List Action :=
  [.mutexCreate 1 4 none, .mutexCreate 2 8 none, .get 1 1 txWaitForever, .get 2 2 txWaitForever,
    .get 2 1 txWaitForever]

theorem queued_wait_ends :
    ∃ contention, run contend Contention.initial queued = some contention ∧
      (locksOf contention).awaits 1 2 ∧ Clear contention := by
  have ordered : Along contend (Disciplined fun address : Nat => address) Contention.initial
      queued := by
    refine along_cons contend rfl ⟨rfl, rfl⟩ (along_cons contend rfl ⟨rfl, rfl⟩
      (along_cons contend rfl ⟨rfl, ?_⟩ (along_cons contend rfl ⟨rfl, ?_⟩
        (along_cons contend rfl ⟨rfl, ?_⟩ trivial))))
    · intro _ _ held having other
      have listed : held ∈ [1, 2] := balance_listed having.2
      have second : held = 2 := by simpa [other] using listed
      subst second
      exact absurd having.2 (by decide)
    · intro _ _ held having other
      have listed : held ∈ [1, 2, 1] := balance_listed having.2
      have first : held = 1 := by simpa [other] using listed
      subst first
      decide
    · intro _ _ held having other
      have listed : held ∈ [1, 2, 1, 2] := balance_listed having.2
      have first : held = 1 := by simpa [other] using listed
      subst first
      decide
  have clear := mutex_waits_end _ queued ordered
  refine ⟨_, rfl, ⟨⟨.held 2 0, rfl⟩, rfl⟩, ?_⟩
  exact ((((clear.2 _ rfl).2 _ rfl).2 _ rfl).2 _ rfl).2 _ rfl

end UsbxNxdk.MutexOrder
