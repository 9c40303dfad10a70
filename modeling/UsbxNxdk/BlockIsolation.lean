import UsbxNxdk.BlockSystem

/-! What one control block offers, whatever is done to the others. -/

namespace UsbxNxdk.BlockIsolation

open Execution Win32 ControlBlocks BlockSystem

def own (standing : Option Body) : BlockCall → Option (UINT × Option Body)
  | .semaphoreCreate initialCount =>
      some (txSuccess,
        some (.semaphore { available := initialCount.toNat, maximum := semaphoreMaximum }))
  | .mutexCreate => some (txSuccess, some (.mutex (.free false)))
  | .get thread waitOption =>
      match standing with
      | none => none
      | some body =>
          match body.wait thread (waitDuration waitOption) with
          | none => none
          | some (result, body) => some (waitStatus result, some body)
  | .put thread =>
      match standing with
      | none => none
      | some (.semaphore object) =>
          some (if object.release.1 then txSuccess else txSemaphoreError,
            some (.semaphore object.release.2))
      | some (.mutex object) =>
          some (if (object.release thread).1 then txSuccess else txMutexError,
            some (.mutex (object.release thread).2))
  | .delete =>
      match standing with
      | none => none
      | some _ => some (txSuccess, none)

/-- A block's own history, replayed from before its first creation. -/
def replayStep (replayed : List UINT × Option Body) (call : BlockCall) :
    Option (List UINT × Option Body) :=
  match own replayed.2 call with
  | none => none
  | some (status, body) => some (replayed.1 ++ [status], body)

def replay (calls : List BlockCall) : Option (List UINT × Option Body) :=
  run replayStep ([], none) calls

def onBlock (log : List Answer) (address : Nat) : List Answer :=
  log.filter fun answer => answer.address = address

def callsOn (log : List Answer) (address : Nat) : List BlockCall :=
  (onBlock log address).map Answer.call

def statusesOn (log : List Answer) (address : Nat) : List UINT :=
  (onBlock log address).map Answer.status

/-- Every block has answered, and stands, as its own history alone says. -/
def Isolated (system : System) : Prop :=
  ∀ address, replay (callsOn system.log address) =
    some (statusesOn system.log address, system.standing address)

def Framed (system : System) (action : Action) : Prop :=
  ∀ next, step system action = some next →
    ∀ other, other ≠ action.address → next.standing other = system.standing other

/-- A create passes no name, or one that no live object bears, and asks for no
more than the maximum; every other call is made on a live block. -/
def Proper (system : System) : Action → Prop
  | .semaphoreCreate _ _ name initialCount =>
      initialCount.toNat ≤ semaphoreMaximum ∧ name.bind system.kernel.named = none
  | .mutexCreate _ _ name => name.bind system.kernel.named = none
  | .get address _ _ => system.live address = true
  | .put address _ => system.live address = true
  | .delete address => system.live address = true

/-! ### Blocks and the objects behind them -/

structure Sound (system : System) : Prop where
  numbered : system.kernel.Numbered
  opened : ∀ address, system.live address = true → ∃ block object,
    system.blocks address = some block ∧ system.kernel.lookup block.handle = some object ∧
      block.isSemaphore = (system.kernel.objects object).body.isSemaphore
  separate : ∀ first second object, system.objectOf first = some object →
    system.objectOf second = some object → first = second

theorem sound_initial : Sound System.initial where
  numbered _ member := absurd member List.not_mem_nil
  opened _ live := absurd live Bool.false_ne_true
  separate _ _ _ found := by cases found

theorem objectOf_live {system : System} {address object : Nat} {block : ControlBlock}
    (live : system.live address = true) (present : system.blocks address = some block)
    (found : system.kernel.lookup block.handle = some object) :
    system.objectOf address = some object := by
  rw [System.objectOf, if_pos live, present]
  exact found

theorem objectOf_some {system : System} {address object : Nat}
    (behind : system.objectOf address = some object) :
    ∃ block, system.live address = true ∧ system.blocks address = some block ∧
      system.kernel.lookup block.handle = some object := by
  by_cases live : system.live address = true
  · rw [System.objectOf, if_pos live] at behind
    rcases Option.bind_eq_some_iff.mp behind with ⟨block, present, found⟩
    exact ⟨block, live, present, found⟩
  · rw [System.objectOf, if_neg live] at behind
    cases behind

structure Keeps (system : System) (address : Nat) (kernel : Kernel) : Prop where
  handles : ∀ other block object, other ≠ address → system.live other = true →
    system.blocks other = some block → system.kernel.lookup block.handle = some object →
    kernel.lookup block.handle = some object
  bodies : ∀ other object, other ≠ address → system.objectOf other = some object →
    (kernel.objects object).body = (system.kernel.objects object).body

theorem keeps_objectOf {system : System} (sound : Sound system) {action : Action} {live : Bool}
    {returned : UINT × ControlBlock × Kernel} (keeps : Keeps system action.address returned.2.2)
    {other : Nat} (different : other ≠ action.address) :
    (system.finish action live returned).objectOf other = system.objectOf other := by
  simp only [System.objectOf, System.finish, Function.update_of_ne different]
  by_cases alive : system.live other = true
  · rcases sound.opened other alive with ⟨block, object, present, found, _⟩
    rw [if_pos alive, if_pos alive, present]
    calc
      returned.2.2.lookup block.handle = some object :=
        keeps.handles other block object different alive present found
      _ = system.kernel.lookup block.handle := found.symm
  · rw [if_neg alive, if_neg alive]

theorem keeps_standing {system : System} (sound : Sound system) {action : Action} {live : Bool}
    {returned : UINT × ControlBlock × Kernel} (keeps : Keeps system action.address returned.2.2)
    {other : Nat} (different : other ≠ action.address) :
    (system.finish action live returned).standing other = system.standing other := by
  rw [System.standing, System.standing, keeps_objectOf sound keeps different]
  cases behind : system.objectOf other with
  | none => rfl
  | some object => exact congrArg some (keeps.bodies other object different behind)

theorem finish_own (system : System) (action : Action) (live : Bool)
    (returned : UINT × ControlBlock × Kernel) :
    (system.finish action live returned).objectOf action.address =
      if live then returned.2.2.lookup returned.2.1.handle else none := by
  simp only [System.objectOf, System.finish, Function.update_self, Option.bind_some]

structure Owns (system : System) (address : Nat) (returned : UINT × ControlBlock × Kernel)
    (object : Nat) : Prop where
  found : returned.2.2.lookup returned.2.1.handle = some object
  typed : returned.2.1.isSemaphore = (returned.2.2.objects object).body.isSemaphore
  apart : ∀ other, other ≠ address → system.objectOf other ≠ some object

theorem sound_finish {system : System} (sound : Sound system) {action : Action} {live : Bool}
    {returned : UINT × ControlBlock × Kernel} (keeps : Keeps system action.address returned.2.2)
    (numbered : returned.2.2.Numbered)
    (owns : live = true → ∃ object, Owns system action.address returned object) :
    Sound (system.finish action live returned) := by
  have apart : ∀ other object, other ≠ action.address →
      (system.finish action live returned).objectOf action.address = some object →
      (system.finish action live returned).objectOf other ≠ some object := by
    intro other object different behind
    rw [finish_own] at behind
    by_cases alive : live = true
    · rcases owns alive with ⟨made, own⟩
      rw [if_pos alive, own.found] at behind
      cases behind
      rw [keeps_objectOf sound keeps different]
      exact own.apart other different
    · rw [if_neg alive] at behind
      cases behind
  constructor
  · exact numbered
  · intro other alive
    by_cases same : other = action.address
    · subst same
      simp only [System.finish, Function.update_self] at alive ⊢
      rcases owns alive with ⟨object, own⟩
      exact ⟨returned.2.1, object, rfl, own.found, own.typed⟩
    · simp only [System.finish, Function.update_of_ne same] at alive ⊢
      rcases sound.opened other alive with ⟨block, object, present, found, typed⟩
      refine ⟨block, object, present, keeps.handles other block object same alive present found, ?_⟩
      rw [keeps.bodies other object same (objectOf_live alive present found)]
      exact typed
  · intro first second object firstBehind secondBehind
    by_cases firstOwn : first = action.address
    · by_cases secondOwn : second = action.address
      · rw [firstOwn, secondOwn]
      · rw [firstOwn] at firstBehind
        exact absurd secondBehind (apart second object secondOwn firstBehind)
    · by_cases secondOwn : second = action.address
      · rw [secondOwn] at secondBehind
        exact absurd firstBehind (apart first object firstOwn secondBehind)
      · rw [keeps_objectOf sound keeps firstOwn] at firstBehind
        rw [keeps_objectOf sound keeps secondOwn] at secondBehind
        exact sound.separate first second object firstBehind secondBehind

theorem keeps_setBody {system : System} (sound : Sound system) {address object : Nat}
    (behind : system.objectOf address = some object) (body : Body) :
    Keeps system address (system.kernel.setBody object body) where
  handles _ _ _ _ _ _ found := found
  bodies other made different found := by
    have apart : made ≠ object := by
      rintro rfl
      exact different (sound.separate other address made found behind)
    rw [Kernel.setBody_other system.kernel apart]

theorem keeps_create {system : System} (sound : Sound system) (address : Nat) {handle : HANDLE}
    (given : system.canGive handle) (name : Option String) (body : Body) :
    Keeps system address
      ((system.kernel.addObject name body).openHandle handle system.kernel.next) where
  handles other block object _ _ _ found := by
    have different : block.handle ≠ handle := by
      intro same
      rw [same, given.2] at found
      cases found
    rw [Kernel.openHandle_other _ different]
    exact found
  bodies other object _ found := by
    rcases objectOf_some found with ⟨block, _, _, opened⟩
    have older : object ≠ system.kernel.next :=
      Nat.ne_of_lt (Kernel.lookup_below sound.numbered opened)
    simp [Kernel.openHandle, Kernel.addObject, older]

theorem keeps_close {system : System} (sound : Sound system) {address object : Nat}
    {block : ControlBlock} (behind : system.objectOf address = some object)
    (found : system.kernel.lookup block.handle = some object) :
    Keeps system address (system.kernel.closeHandle block.handle) where
  handles other another made different live present opened := by
    have apart : another.handle ≠ block.handle := by
      intro same
      have shared : some made = some object := by
        calc
          some made = system.kernel.lookup another.handle := opened.symm
          _ = system.kernel.lookup block.handle := by rw [same]
          _ = some object := found
      cases shared
      exact different
        (sound.separate other address object (objectOf_live live present opened) behind)
    rw [Kernel.closeHandle_lookup system.kernel apart]
    exact opened
  bodies _ _ _ _ := rfl

/-! ### One call -/

theorem block_get {block : ControlBlock} {kernel : Kernel} {object thread : Nat}
    {waitOption : ULONG} {returned : UINT × ControlBlock × Kernel}
    (found : kernel.lookup block.handle = some object)
    (called : block.get thread waitOption kernel = some returned) :
    ∃ result body,
      (kernel.objects object).body.wait thread (waitDuration waitOption) = some (result, body) ∧
        returned.1 = waitStatus result ∧ returned.2.1.handle = block.handle ∧
        returned.2.1.isSemaphore = block.isSemaphore ∧
        returned.2.2 = kernel.setBody object body := by
  cases ended : (kernel.objects object).body.wait thread (waitDuration waitOption) with
  | none =>
      cases block <;> simp only [ControlBlock.handle] at found <;>
        simp [ControlBlock.get, txSemaphoreGet, txMutexGet, Kernel.waitForSingleObject, found,
          ended] at called
  | some answer =>
      cases block <;> simp only [ControlBlock.handle] at found <;>
        simp only [ControlBlock.get, txSemaphoreGet, txMutexGet, Kernel.waitForSingleObject, found,
          ended, Option.bind_eq_bind, Option.bind_some] at called <;>
        cases called <;> exact ⟨answer.1, answer.2, rfl, rfl, rfl, rfl, rfl⟩

theorem put_block (block : ControlBlock) (thread : Nat) (kernel : Kernel) :
    (block.put thread kernel).2.1.handle = block.handle ∧
      (block.put thread kernel).2.1.isSemaphore = block.isSemaphore := by
  cases block with
  | semaphore block => exact ⟨rfl, rfl⟩
  | mutex block => exact ⟨rfl, rfl⟩

theorem semaphore_put {block : TxSemaphore} {kernel : Kernel} {object : Nat}
    {semaphore : SemaphoreObject} (thread : Nat)
    (found : kernel.lookup block.semaphore = some object)
    (standing : (kernel.objects object).body = .semaphore semaphore) :
    ((ControlBlock.semaphore block).put thread kernel).1 =
        (if semaphore.release.1 then txSuccess else txSemaphoreError) ∧
      ((ControlBlock.semaphore block).put thread kernel).2.2 =
        kernel.setBody object (.semaphore semaphore.release.2) := by
  have released : Kernel.releaseSemaphore block.semaphore kernel =
      (semaphore.release.1, kernel.setBody object (.semaphore semaphore.release.2)) := by
    simp only [Kernel.releaseSemaphore, Kernel.releaseThrough, found, standing,
      Body.releaseSemaphore]
  simp only [ControlBlock.put, txSemaphorePut, released, and_self]

theorem mutex_put {block : TxMutex} {kernel : Kernel} {object : Nat} {mutex : MutexObject}
    (thread : Nat) (found : kernel.lookup block.mutex = some object)
    (standing : (kernel.objects object).body = .mutex mutex) :
    ((ControlBlock.mutex block).put thread kernel).1 =
        (if (mutex.release thread).1 then txSuccess else txMutexError) ∧
      ((ControlBlock.mutex block).put thread kernel).2.2 =
        kernel.setBody object (.mutex (mutex.release thread).2) := by
  have released : Kernel.releaseMutex thread block.mutex kernel =
      ((mutex.release thread).1, kernel.setBody object (.mutex (mutex.release thread).2)) := by
    simp only [Kernel.releaseMutex, Kernel.releaseThrough, found, standing, Body.releaseMutex]
  simp only [ControlBlock.put, txMutexPut, released, and_self]

theorem block_put {block : ControlBlock} {kernel : Kernel} {object : Nat} (thread : Nat)
    (found : kernel.lookup block.handle = some object)
    (typed : block.isSemaphore = (kernel.objects object).body.isSemaphore) :
    ∃ body, own (some (kernel.objects object).body) (.put thread) =
        some ((block.put thread kernel).1, some body) ∧
      body.isSemaphore = block.isSemaphore ∧
      (block.put thread kernel).2.2 = kernel.setBody object body := by
  cases block with
  | semaphore block =>
      cases standing : (kernel.objects object).body with
      | mutex mutex => simp [standing, ControlBlock.isSemaphore, Body.isSemaphore] at typed
      | semaphore semaphore =>
          have answer := semaphore_put thread found standing
          refine ⟨.semaphore semaphore.release.2, ?_, rfl, answer.2⟩
          rw [answer.1]
          rfl
  | mutex block =>
      cases standing : (kernel.objects object).body with
      | semaphore semaphore => simp [standing, ControlBlock.isSemaphore, Body.isSemaphore] at typed
      | mutex mutex =>
          have answer := mutex_put thread found standing
          refine ⟨.mutex (mutex.release thread).2, ?_, rfl, answer.2⟩
          rw [answer.1]
          rfl

structure Settled (system next : System) (action : Action) : Prop where
  sound : Sound next
  framed : ∀ other, other ≠ action.address → next.standing other = system.standing other
  answered : ∃ status, own (system.standing action.address) action.call =
      some (status, next.standing action.address) ∧
    next.log = system.log ++
      [{ address := action.address, call := action.call, status := status }]

theorem settled_finish {system : System} (sound : Sound system) {action : Action} {live : Bool}
    {returned : UINT × ControlBlock × Kernel} (keeps : Keeps system action.address returned.2.2)
    (numbered : returned.2.2.Numbered)
    (owns : live = true → ∃ object, Owns system action.address returned object)
    (answered : own (system.standing action.address) action.call =
      some (returned.1, (system.finish action live returned).standing action.address)) :
    Settled system (system.finish action live returned) action where
  sound := sound_finish sound keeps numbered owns
  framed _ different := keeps_standing sound keeps different
  answered := ⟨returned.1, answered, rfl⟩

theorem finish_standing (system : System) (action : Action)
    {returned : UINT × ControlBlock × Kernel} {object : Nat}
    (found : returned.2.2.lookup returned.2.1.handle = some object) :
    (system.finish action true returned).standing action.address =
      some (returned.2.2.objects object).body := by
  rw [System.standing, finish_own, if_pos rfl, found]
  rfl

theorem create_settled {system : System} (sound : Sound system) {action : Action}
    {handle : HANDLE} (given : system.canGive handle) (name : Option String) {body : Body}
    {status : UINT} {block : ControlBlock} (opened : block.handle = handle)
    (typed : block.isSemaphore = body.isSemaphore)
    (answered : own (system.standing action.address) action.call = some (status, some body)) :
    Settled system
      (system.finish action true (status, block,
        (system.kernel.addObject name body).openHandle handle system.kernel.next)) action := by
  have found : ((system.kernel.addObject name body).openHandle handle
      system.kernel.next).lookup block.handle = some system.kernel.next := by
    rw [opened]
    exact Kernel.openHandle_lookup _ handle system.kernel.next
  have made : (((system.kernel.addObject name body).openHandle handle
      system.kernel.next).objects system.kernel.next).body = body := by
    simp [Kernel.openHandle, Kernel.addObject]
  apply settled_finish sound (keeps_create sound action.address given name body)
    (Kernel.fresh_numbered sound.numbered name body handle)
  · intro _
    refine ⟨system.kernel.next, found, by rw [made]; exact typed, ?_⟩
    intro other _ behind
    rcases objectOf_some behind with ⟨_, _, _, older⟩
    exact Nat.lt_irrefl _ (Kernel.lookup_below sound.numbered older)
  · rw [finish_standing system action found, made]
    exact answered

theorem touch_settled {system : System} (sound : Sound system) (action : Action) {object : Nat}
    {block : ControlBlock} {returned : UINT × ControlBlock × Kernel} {body : Body}
    (behind : system.objectOf action.address = some object)
    (found : system.kernel.lookup block.handle = some object)
    (sameHandle : returned.2.1.handle = block.handle)
    (typed : returned.2.1.isSemaphore = body.isSemaphore)
    (kernel : returned.2.2 = system.kernel.setBody object body)
    (answered : own (some (system.kernel.objects object).body) action.call =
      some (returned.1, some body)) :
    Settled system (system.finish action true returned) action := by
  have reached : returned.2.2.lookup returned.2.1.handle = some object := by
    rw [sameHandle, kernel]
    exact found
  have left : (returned.2.2.objects object).body = body := by
    rw [kernel, Kernel.setBody_self]
  apply settled_finish sound
  · rw [kernel]
    exact keeps_setBody sound behind body
  · rw [kernel]
    exact Kernel.setBody_numbered sound.numbered object body
  · intro _
    refine ⟨object, reached, by rw [left, typed], ?_⟩
    intro other different same
    exact different (sound.separate other action.address object same behind)
  · rw [finish_standing system action reached, left, System.standing, behind]
    exact answered

theorem delete_settled {system : System} (sound : Sound system) {action : Action} {object : Nat}
    {block : ControlBlock} (deleting : action.call = .delete)
    (behind : system.objectOf action.address = some object)
    (found : system.kernel.lookup block.handle = some object) :
    Settled system (system.finish action false (block.delete system.kernel)) action := by
  have deleted : (block.delete system.kernel).1 = txSuccess ∧
      (block.delete system.kernel).2.2 = system.kernel.closeHandle block.handle := by
    cases block <;> exact ⟨rfl, rfl⟩
  apply settled_finish sound
  · rw [deleted.2]
    exact keeps_close sound behind found
  · rw [deleted.2]
    exact Kernel.closeHandle_numbered sound.numbered block.handle
  · intro alive
    cases alive
  · rw [System.standing, System.standing, finish_own, behind, deleting, deleted.1]
    rfl

theorem step_settled {system next : System} {action : Action} (sound : Sound system)
    (proper : Proper system action) (stepped : step system action = some next) :
    Settled system next action := by
  cases action with
  | semaphoreCreate address handle name initialCount =>
      rcases proper with ⟨bound, unused⟩
      by_cases given : system.canGive handle
      · simp only [step, if_pos given, txSemaphoreCreate, Kernel.createSemaphore,
          SemaphoreObject.create, if_pos bound, Option.map_some,
          Kernel.create_fresh Body.isSemaphore unused] at stepped
        cases stepped
        exact create_settled sound given name rfl rfl rfl
      · simp only [step, if_neg given] at stepped
        cases stepped
  | mutexCreate address handle name =>
      by_cases given : system.canGive handle
      · simp only [step, if_pos given, txMutexCreate, Kernel.createMutexA,
          Kernel.create_fresh (fun body => !body.isSemaphore) proper] at stepped
        cases stepped
        exact create_settled sound given name rfl rfl rfl
      · simp only [step, if_neg given] at stepped
        cases stepped
  | get address thread waitOption =>
      have live : system.live address = true := proper
      rcases sound.opened address live with ⟨block, object, present, found, typed⟩
      cases called : block.get thread waitOption system.kernel with
      | none => simp [step, present, called] at stepped
      | some returned =>
          rcases block_get found called with ⟨result, body, ended, status, handle, sameType, kernel⟩
          simp only [step, present, called, live] at stepped
          cases stepped
          apply touch_settled sound (.get address thread waitOption)
            (objectOf_live live present found) found handle _ kernel
          · simp only [own, Action.call, ended, status]
          · calc
              returned.2.1.isSemaphore = block.isSemaphore := sameType
              _ = (system.kernel.objects object).body.isSemaphore := typed
              _ = body.isSemaphore := (Body.wait_type ended).symm
  | put address thread =>
      have live : system.live address = true := proper
      rcases sound.opened address live with ⟨block, object, present, found, typed⟩
      have kept := put_block block thread system.kernel
      rcases block_put thread found typed with ⟨body, answered, bodyType, kernel⟩
      simp only [step, present, live] at stepped
      cases stepped
      exact touch_settled sound (.put address thread) (objectOf_live live present found) found
        kept.1 (kept.2.trans bodyType.symm) kernel answered
  | delete address =>
      have live : system.live address = true := proper
      rcases sound.opened address live with ⟨block, object, present, found, typed⟩
      simp only [step, present] at stepped
      cases stepped
      exact delete_settled sound rfl (objectOf_live live present found) found

/-! ### Whole runs -/

theorem onBlock_append (log : List Answer) (answer : Answer) (address : Nat) :
    onBlock (log ++ [answer]) address =
      onBlock log address ++ if answer.address = address then [answer] else [] := by
  rw [onBlock, List.filter_append]
  by_cases same : answer.address = address
  · simp [onBlock, same]
  · simp [onBlock, same]

theorem replay_append {calls : List BlockCall} {statuses : List UINT}
    {standing after : Option Body} {call : BlockCall} {status : UINT}
    (replayed : replay calls = some (statuses, standing))
    (answered : own standing call = some (status, after)) :
    replay (calls ++ [call]) = some (statuses ++ [status], after) := by
  have last : replayStep (statuses, standing) call = some (statuses ++ [status], after) := by
    simp only [replayStep, answered]
  calc
    replay (calls ++ [call]) =
        (replay calls).bind fun replayed => run replayStep replayed [call] :=
      run_append replayStep ([], none) calls [call]
    _ = run replayStep (statuses, standing) [call] := by rw [replayed, Option.bind_some]
    _ = some (statuses ++ [status], after) := by rw [run_cons, last, Option.bind_some, run_nil]

theorem isolated_step {system next : System} {action : Action} (isolated : Isolated system)
    (settled : Settled system next action) : Isolated next := by
  rcases settled.answered with ⟨status, answered, log⟩
  intro address
  by_cases same : action.address = address
  · subst same
    rw [callsOn, statusesOn, log, onBlock_append, if_pos rfl, List.map_append, List.map_append]
    exact replay_append (isolated action.address) answered
  · rw [callsOn, statusesOn, log, onBlock_append, if_neg same, List.append_nil,
      settled.framed address (Ne.symm same)]
    exact isolated address

theorem proper_isolated (schedule : List Action)
    (proper : Along step Proper System.initial schedule) :
    Always step Isolated System.initial schedule := by
  have held := always_of_along step (fun system => Sound system ∧ Isolated system) Proper
    (fun _ _ _ now proper stepped =>
      have settled := step_settled now.1 proper stepped
      ⟨settled.sound, isolated_step now.2 settled⟩)
    System.initial schedule ⟨sound_initial, fun _ => rfl⟩ proper
  exact always_mono step (fun _ now => now.2) System.initial schedule held

theorem proper_framed {system : System} (sound : Sound system) (schedule : List Action)
    (proper : Along step Proper system schedule) : Along step Framed system schedule := by
  induction schedule generalizing system with
  | nil => trivial
  | cons action rest ih =>
      intro next stepped
      have now := proper next stepped
      have settled := step_settled sound now.1 stepped
      have framed : Framed system action := by
        intro other same
        cases Option.some.inj (stepped.symm.trans same)
        exact settled.framed
      exact ⟨framed, ih settled.sound now.2⟩

/-- In every run whose creates use fresh names, whose counts are within the
maximum and whose other calls are made on live blocks, no call touches what
another block offers, every block answers as its own history alone says, and so
two such runs that make the same calls on a block get the same statuses from
it. -/
theorem blocks_isolated (schedule : List Action)
    (proper : Along step Proper System.initial schedule) :
    Along step Framed System.initial schedule ∧
      Always step Isolated System.initial schedule ∧
      ∀ other, Along step Proper System.initial other → ∀ first second,
        run step System.initial schedule = some first →
        run step System.initial other = some second →
        ∀ address, callsOn first.log address = callsOn second.log address →
          statusesOn first.log address = statusesOn second.log address := by
  have isolated := proper_isolated schedule proper
  apply And.intro (proper_framed sound_initial schedule proper)
  apply And.intro isolated
  intro other otherProper first second firstRan secondRan address same
  have otherIsolated := proper_isolated other otherProper
  have firstReplay := (always_iff step Isolated System.initial schedule).mp isolated
    schedule [] first (List.append_nil schedule).symm firstRan address
  have secondReplay := (always_iff step Isolated System.initial other).mp otherIsolated
    other [] second (List.append_nil other).symm secondRan address
  rw [same] at firstReplay
  have equal := Option.some.inj (firstReplay.symm.trans secondReplay)
  exact congrArg Prod.fst equal

def namesakes : List Action :=
  [.semaphoreCreate 1 4 (some "usb") 1, .semaphoreCreate 2 8 (some "usb") 1]

/-- Taking the unit of the first takes the unit of the second. -/
theorem namesake_drained :
    ∃ shared drained answered, run step System.initial namesakes = some shared ∧
      step shared (.get 1 1 txNoWait) = some drained ∧
      step drained (.get 2 2 txNoWait) = some answered ∧
      shared.standing 2 ≠ drained.standing 2 ∧
      statusesOn answered.log 2 = [txSuccess, txNoInstance] ∧
      (replay (callsOn answered.log 2)).map Prod.fst = some [txSuccess, txSuccess] ∧
      ¬ Isolated answered := by
  refine ⟨_, _, _, rfl, rfl, rfl, by decide, rfl, rfl, ?_⟩
  intro isolated
  exact absurd (congrArg (Option.map Prod.fst) (isolated 2)) (by decide)

/-- Without names each semaphore keeps its own unit. -/
theorem unnamed_isolated :
    Along step Framed System.initial
        [.semaphoreCreate 1 4 none 1, .semaphoreCreate 2 8 none 1, .get 1 1 txNoWait] ∧
      Always step Isolated System.initial
        [.semaphoreCreate 1 4 none 1, .semaphoreCreate 2 8 none 1, .get 1 1 txNoWait] := by
  have proper : Along step Proper System.initial
      [.semaphoreCreate 1 4 none 1, .semaphoreCreate 2 8 none 1, .get 1 1 txNoWait] := by
    intro first firstStepped
    cases firstStepped
    refine ⟨⟨by decide, rfl⟩, ?_⟩
    intro second secondStepped
    cases secondStepped
    refine ⟨⟨by decide, rfl⟩, ?_⟩
    intro third thirdStepped
    exact ⟨rfl, trivial⟩
  have isolated := blocks_isolated _ proper
  exact ⟨isolated.1, isolated.2.1⟩

end UsbxNxdk.BlockIsolation
