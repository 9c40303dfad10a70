import UsbxNxdk.EventFlagsSystem
import UsbxNxdk.Linearizability

/-! The calls of any number of threads on one event flags group, from entry to
return, as operations on a single word. -/

namespace UsbxNxdk.EventFlagsCalls

open EventFlags Execution Linearizability

/-- A get with the argument that its loop does not look at. -/
structure WaitingCall extends EventFlagsSystem.GetCall where
  waitOption : ULONG
  deriving DecidableEq, Repr

/-- A thread is in no get, in the loop of one, or behind the loop with what the
last pass stored. -/
inductive Stage where
  | idle
  | polling (call : WaitingCall)
  | leaving (call : WaitingCall) (actualFlags flagsSatisfied : ULONG)
  deriving DecidableEq, Repr

structure Calls where
  group : TxEventFlagsGroup
  stages : Nat → Stage

inductive Action where
  | set (thread : Nat) (flagsToSet : ULONG) (setOption : UINT)
  | enter (thread : Nat) (requestedFlags : ULONG) (getOption : UINT)
      (waitOption stackTimeout tickCount : ULONG)
  | pass (thread : Nat) (tickCount : ULONG)
  | leave (thread : Nat) (tickCount : ULONG)
  deriving DecidableEq, Repr

def created (name : Option String) : Calls where
  group := (txEventFlagsCreate name).2
  stages := fun _ => .idle

def passed (calls : Calls) (thread : Nat) (call : WaitingCall) (tickCount : ULONG) : Calls :=
  let pass := loopPass calls.group call.requestedFlags call.getOption
  { group := pass.group
    stages :=
      if pass.flagsSatisfied = 0 ∧ tickCount < call.timeout then calls.stages
      else Function.update calls.stages thread
        (.leaving call pass.actualFlags pass.flagsSatisfied) }

/-- The clock is read behind an unsatisfied pass, and again for the status. -/
def step (calls : Calls) : Action → Option Calls
  | .set thread flagsToSet setOption =>
      if calls.stages thread = .idle then
        some { calls with group := (txEventFlagsSet calls.group flagsToSet setOption).2 }
      else none
  | .enter thread requestedFlags getOption waitOption stackTimeout tickCount =>
      if calls.stages thread = .idle then
        (initialTimeout waitOption stackTimeout [tickCount]).map fun timeout =>
          { calls with
            stages := Function.update calls.stages thread
              (.polling ⟨⟨requestedFlags, getOption, timeout.1⟩, waitOption⟩) }
      else none
  | .pass thread tickCount =>
      match calls.stages thread with
      | .polling call => some (passed calls thread call tickCount)
      | _ => none
  | .leave thread _ =>
      match calls.stages thread with
      | .leaving _ _ _ => some { calls with stages := Function.update calls.stages thread .idle }
      | _ => none

theorem set_some {calls next : Calls} {thread : Nat} {flagsToSet : ULONG} {setOption : UINT}
    (stepped : step calls (.set thread flagsToSet setOption) = some next) :
    calls.stages thread = .idle ∧
      next = { calls with group := (txEventFlagsSet calls.group flagsToSet setOption).2 } := by
  simp only [step] at stepped
  split at stepped
  · next idle => exact ⟨idle, (Option.some.inj stepped).symm⟩
  · cases stepped

theorem enter_some {calls next : Calls} {thread : Nat} {requestedFlags : ULONG}
    {getOption : UINT} {waitOption stackTimeout tickCount : ULONG}
    (stepped : step calls
      (.enter thread requestedFlags getOption waitOption stackTimeout tickCount) = some next) :
    calls.stages thread = .idle ∧
      ∃ timeout, initialTimeout waitOption stackTimeout [tickCount] = some timeout ∧
        next = { calls with
          stages := Function.update calls.stages thread
            (.polling ⟨⟨requestedFlags, getOption, timeout.1⟩, waitOption⟩) } := by
  simp only [step] at stepped
  split at stepped
  · next idle =>
      rcases Option.map_eq_some_iff.mp stepped with ⟨timeout, made, rfl⟩
      exact ⟨idle, timeout, made, rfl⟩
  · cases stepped

theorem pass_some {calls next : Calls} {thread : Nat} {tickCount : ULONG}
    (stepped : step calls (.pass thread tickCount) = some next) :
    ∃ call, calls.stages thread = .polling call ∧ next = passed calls thread call tickCount := by
  cases stage : calls.stages thread with
  | idle => simp [step, stage] at stepped
  | polling call =>
      simp only [step, stage] at stepped
      exact ⟨call, rfl, (Option.some.inj stepped).symm⟩
  | leaving call actualFlags flagsSatisfied => simp [step, stage] at stepped

theorem leave_some {calls next : Calls} {thread : Nat} {tickCount : ULONG}
    (stepped : step calls (.leave thread tickCount) = some next) :
    ∃ call actualFlags flagsSatisfied,
      calls.stages thread = .leaving call actualFlags flagsSatisfied ∧
      next = { calls with stages := Function.update calls.stages thread .idle } := by
  cases stage : calls.stages thread with
  | idle => simp [step, stage] at stepped
  | polling call => simp [step, stage] at stepped
  | leaving call actualFlags flagsSatisfied =>
      simp only [step, stage] at stepped
      exact ⟨call, actualFlags, flagsSatisfied, rfl, (Option.some.inj stepped).symm⟩

/-! ### The group as one word -/

inductive Operation where
  | set (flagsToSet : ULONG) (setOption : UINT)
  | get (requestedFlags : ULONG) (getOption : UINT) (waitOption : ULONG)
  deriving DecidableEq, Repr

inductive Response where
  | done (status : UINT)
  | got (status : Option UINT) (actualFlags : ULONG)
  deriving DecidableEq, Repr

def shown (withStatus : Bool) (status : UINT) : Option UINT :=
  if withStatus then some status else none

def setValue (value flagsToSet : ULONG) (setOption : UINT) : ULONG :=
  if setOption = txOr then value ||| flagsToSet
  else if setOption = txAnd then value &&& flagsToSet
  else value

/-- A get takes the flags it asks for when they are there, and else gives up,
unless it waits forever. -/
inductive Effect (withStatus : Bool) : ULONG → Operation → Response → ULONG → Prop where
  | set (value flagsToSet : ULONG) (setOption : UINT) :
      Effect withStatus value (.set flagsToSet setOption) (.done txSuccess)
        (setValue value flagsToSet setOption)
  | taken {value requestedFlags : ULONG} {getOption : UINT} (waitOption : ULONG)
      (satisfied : Satisfied getOption requestedFlags value) :
      Effect withStatus value (.get requestedFlags getOption waitOption)
        (.got (shown withStatus txSuccess) value)
        (if Clears getOption then value &&& ~~~requestedFlags else value)
  | refused {value requestedFlags : ULONG} {getOption : UINT} {waitOption : ULONG}
      (unsatisfied : ¬ Satisfied getOption requestedFlags value)
      (bounded : withStatus = true → waitOption ≠ txWaitForever) :
      Effect withStatus value (.get requestedFlags getOption waitOption)
        (.got (shown withStatus txNoEvents) value) value

def events (withStatus : Bool) (calls : Calls) : Action → List (Event Nat Operation Response)
  | .set thread flagsToSet setOption =>
      [.invoke thread (.set flagsToSet setOption),
        .respond thread (.done (txEventFlagsSet calls.group flagsToSet setOption).1)]
  | .enter thread requestedFlags getOption waitOption _ _ =>
      [.invoke thread (.get requestedFlags getOption waitOption)]
  | .pass _ _ => []
  | .leave thread tickCount =>
      match calls.stages thread with
      | .leaving call actualFlags _ =>
          [.respond thread
            (.got (shown withStatus (exitStatus tickCount call.timeout)) actualFlags)]
      | _ => []

/-- The clock is not at its maximum behind a pass of a get that waits forever, and
passes the timeout for the status exactly when the last pass was unsatisfied. -/
def Timely (calls : Calls) : Action → Prop
  | .pass thread tickCount => ∀ call, calls.stages thread = .polling call →
      call.waitOption = txWaitForever → tickCount ≠ infinite
  | .leave thread tickCount => ∀ call actualFlags flagsSatisfied,
      calls.stages thread = .leaving call actualFlags flagsSatisfied →
        (call.timeout ≤ tickCount ↔ flagsSatisfied = 0)
  | _ => True

def phaseOf (withStatus : Bool) : Stage → Phase Operation Response
  | .idle => .outside
  | .polling call => .invoked (.get call.requestedFlags call.getOption call.waitOption)
  | .leaving _ actualFlags flagsSatisfied =>
      .effected (.got
        (shown withStatus (if flagsSatisfied = 0 then txNoEvents else txSuccess)) actualFlags)

def canonicalOf (withStatus : Bool) (calls : Calls) : Canonical Nat ULONG Operation Response where
  value := calls.group.txEventFlagsGroupCurrent
  phase := fun thread => phaseOf withStatus (calls.stages thread)

def ForeverInfinite (calls : Calls) : Prop :=
  ∀ thread call, calls.stages thread = .polling call → call.waitOption = txWaitForever →
    call.timeout = infinite

structure Stands (withStatus : Bool) (calls : Calls)
    (canonical : Canonical Nat ULONG Operation Response) : Prop where
  same : canonical = canonicalOf withStatus calls
  forever : ForeverInfinite calls

/-! ### One step -/

theorem phaseOf_update (withStatus : Bool) (calls : Calls) (group : TxEventFlagsGroup)
    (thread : Nat) (stage : Stage) :
    canonicalOf withStatus { group := group, stages := Function.update calls.stages thread stage } =
      { value := group.txEventFlagsGroupCurrent
        phase := Function.update (canonicalOf withStatus calls).phase thread
          (phaseOf withStatus stage) } := by
  have phases : (fun other =>
      phaseOf withStatus (Function.update calls.stages thread stage other)) =
      Function.update (canonicalOf withStatus calls).phase thread (phaseOf withStatus stage) := by
    funext other
    by_cases own : other = thread
    · subst own
      rw [Function.update_self, Function.update_self]
    · rw [Function.update_of_ne own, Function.update_of_ne own]
      rfl
  rw [canonicalOf, phases]

theorem forever_update {calls : Calls} (forever : ForeverInfinite calls) (group : TxEventFlagsGroup)
    (thread : Nat) {stage : Stage}
    (bounded : ∀ call, stage = .polling call → call.waitOption = txWaitForever →
      call.timeout = infinite) :
    ForeverInfinite { group := group, stages := Function.update calls.stages thread stage } := by
  intro other call found waits
  by_cases own : other = thread
  · subst own
    simp only [Function.update_self] at found
    exact bounded call found waits
  · simp only [Function.update_of_ne own] at found
    exact forever other call found waits

theorem set_status (group : TxEventFlagsGroup) (flagsToSet : ULONG) (setOption : UINT) :
    (txEventFlagsSet group flagsToSet setOption).1 = txSuccess := by
  unfold txEventFlagsSet
  split
  · rfl
  · split <;> rfl

theorem set_follows {withStatus : Bool} {calls : Calls} {thread : Nat}
    (forever : ForeverInfinite calls) (idle : calls.stages thread = .idle) (flagsToSet : ULONG)
    (setOption : UINT) :
    ∃ order after,
      Reaches (Effect withStatus) (canonicalOf withStatus calls)
        (events withStatus calls (.set thread flagsToSet setOption)) order after ∧
      Stands withStatus
        { calls with group := (txEventFlagsSet calls.group flagsToSet setOption).2 } after := by
  have outside : (canonicalOf withStatus calls).phase thread = .outside := by
    simp only [canonicalOf, idle, phaseOf]
  have takes : Effect withStatus (canonicalOf withStatus calls).value (.set flagsToSet setOption)
      (.done txSuccess) (setValue calls.group.txEventFlagsGroupCurrent flagsToSet setOption) :=
    .set _ flagsToSet setOption
  rw [events, set_status]
  refine ⟨_, _, reaches_once outside takes, ?_, forever⟩
  simp only [canonicalOf, txEventFlagsSet_current, setValue]

theorem enter_follows {withStatus : Bool} {calls : Calls} {thread : Nat}
    (forever : ForeverInfinite calls) (idle : calls.stages thread = .idle)
    {requestedFlags : ULONG} {getOption : UINT} {waitOption stackTimeout tickCount : ULONG}
    {timeout : ULONG × List ULONG}
    (made : initialTimeout waitOption stackTimeout [tickCount] = some timeout) :
    ∃ order after,
      Reaches (Effect withStatus) (canonicalOf withStatus calls)
        (events withStatus calls
          (.enter thread requestedFlags getOption waitOption stackTimeout tickCount)) order after ∧
      Stands withStatus
        { calls with
          stages := Function.update calls.stages thread
            (.polling ⟨⟨requestedFlags, getOption, timeout.1⟩, waitOption⟩) } after := by
  have outside : (canonicalOf withStatus calls).phase thread = .outside := by
    simp only [canonicalOf, idle, phaseOf]
  have started : Reaches (Effect withStatus) (canonicalOf withStatus calls) [] [] _ := .start
  have invoked := started.invoke thread (.get requestedFlags getOption waitOption) outside
  refine ⟨[], _, invoked, ?_, ?_⟩
  · exact (phaseOf_update withStatus calls calls.group thread
      (.polling ⟨⟨requestedFlags, getOption, timeout.1⟩, waitOption⟩)).symm
  · apply forever_update forever
    intro call same waits
    cases same
    have forever : waitOption = txWaitForever := waits
    subst forever
    rw [initialTimeout, if_neg (by decide), if_pos rfl] at made
    cases made
    rfl

theorem pass_effect {withStatus : Bool} (group : TxEventFlagsGroup) (call : WaitingCall)
    (bounded : withStatus = true →
      (loopPass group call.requestedFlags call.getOption).flagsSatisfied = 0 →
        call.waitOption ≠ txWaitForever) :
    Effect withStatus group.txEventFlagsGroupCurrent
      (.get call.requestedFlags call.getOption call.waitOption)
      (.got (shown withStatus
          (if (loopPass group call.requestedFlags call.getOption).flagsSatisfied = 0 then txNoEvents
          else txSuccess)) (loopPass group call.requestedFlags call.getOption).actualFlags)
      (loopPass group call.requestedFlags call.getOption).group.txEventFlagsGroupCurrent := by
  have decided := loopPass_satisfied group call.requestedFlags call.getOption
  rw [loopPass_current]
  by_cases satisfied :
      Satisfied call.getOption call.requestedFlags group.txEventFlagsGroupCurrent
  · rw [if_neg (decided.mpr satisfied)]
    simp only [satisfied, true_and]
    exact .taken call.waitOption satisfied
  · have empty := Classical.not_not.mp (mt decided.mp satisfied)
    rw [if_pos empty, if_neg (fun both => satisfied both.1)]
    exact .refused satisfied fun told => bounded told empty

theorem pass_follows {withStatus : Bool} {calls : Calls} {thread : Nat} {call : WaitingCall}
    (forever : ForeverInfinite calls) (polling : calls.stages thread = .polling call)
    {tickCount : ULONG} (timely : withStatus = true → Timely calls (.pass thread tickCount)) :
    ∃ order after,
      Reaches (Effect withStatus) (canonicalOf withStatus calls)
        (events withStatus calls (.pass thread tickCount)) order after ∧
      Stands withStatus (passed calls thread call tickCount) after := by
  have started : Reaches (Effect withStatus) (canonicalOf withStatus calls) [] [] _ := .start
  by_cases stays : (loopPass calls.group call.requestedFlags call.getOption).flagsSatisfied = 0 ∧
      tickCount < call.timeout
  · have unsatisfied : ¬ Satisfied call.getOption call.requestedFlags
        calls.group.txEventFlagsGroupCurrent :=
      fun satisfied => (loopPass_satisfied _ _ _).mpr satisfied stays.1
    simp only [passed, if_pos stays, loopPass_keeps _ _ _ (Or.inl unsatisfied)]
    exact ⟨[], _, started, rfl, forever⟩
  · have bounded : withStatus = true →
        (loopPass calls.group call.requestedFlags call.getOption).flagsSatisfied = 0 →
          call.waitOption ≠ txWaitForever := by
      intro told empty waits
      have early : tickCount < infinite :=
        BitVec.not_le.mp (mt (infinite_le_iff tickCount).mp (timely told call polling waits))
      exact stays ⟨empty, forever thread call polling waits ▸ early⟩
    have invoked : (canonicalOf withStatus calls).phase thread =
        .invoked (.get call.requestedFlags call.getOption call.waitOption) := by
      simp only [canonicalOf, polling, phaseOf]
    have effected := started.effect _ _ invoked (pass_effect calls.group call bounded)
    simp only [passed, if_neg stays]
    refine ⟨_, _, effected, ?_, ?_⟩
    · exact (phaseOf_update withStatus calls _ thread (.leaving call _ _)).symm
    · apply forever_update forever
      intro other same
      cases same

theorem leave_follows {withStatus : Bool} {calls : Calls} {thread : Nat} {call : WaitingCall}
    {actualFlags flagsSatisfied : ULONG} (forever : ForeverInfinite calls)
    (leaving : calls.stages thread = .leaving call actualFlags flagsSatisfied)
    {tickCount : ULONG} (timely : withStatus = true → Timely calls (.leave thread tickCount)) :
    ∃ order after,
      Reaches (Effect withStatus) (canonicalOf withStatus calls)
        (events withStatus calls (.leave thread tickCount)) order after ∧
      Stands withStatus
        { calls with stages := Function.update calls.stages thread .idle } after := by
  have status : shown withStatus (exitStatus tickCount call.timeout) =
      shown withStatus (if flagsSatisfied = 0 then txNoEvents else txSuccess) := by
    cases withStatus with
    | false => rfl
    | true =>
        have told := timely rfl call actualFlags flagsSatisfied leaving
        simp only [exitStatus, ge_iff_le, told]
  have effected : (canonicalOf withStatus calls).phase thread =
      .effected (.got (shown withStatus (exitStatus tickCount call.timeout)) actualFlags) := by
    rw [status]
    simp only [canonicalOf, leaving, phaseOf]
  have started : Reaches (Effect withStatus) (canonicalOf withStatus calls) [] [] _ := .start
  have responded := started.respond effected
  simp only [events, leaving]
  refine ⟨_, _, responded, ?_, ?_⟩
  · exact (phaseOf_update withStatus calls calls.group thread .idle).symm
  · apply forever_update forever
    intro other same
    cases same

/-! ### Runs -/

theorem step_follows (withStatus : Bool) :
    Follows step (events withStatus) (Effect withStatus)
      (fun calls action => withStatus = true → Timely calls action) (Stands withStatus) := by
  intro calls action next canonical timely stands stepped
  rw [stands.same]
  cases action with
  | set thread flagsToSet setOption =>
      rcases set_some stepped with ⟨idle, rfl⟩
      exact set_follows stands.forever idle flagsToSet setOption
  | enter thread requestedFlags getOption waitOption stackTimeout tickCount =>
      rcases enter_some stepped with ⟨idle, timeout, made, rfl⟩
      exact enter_follows stands.forever idle made
  | pass thread tickCount =>
      rcases pass_some stepped with ⟨call, polling, rfl⟩
      exact pass_follows stands.forever polling timely
  | leave thread tickCount =>
      rcases leave_some stepped with ⟨call, actualFlags, flagsSatisfied, leaving, rfl⟩
      exact leave_follows stands.forever leaving timely

theorem created_stands (withStatus : Bool) (name : Option String) :
    Stands withStatus (created name) (Canonical.initial 0) where
  same := rfl
  forever := fun _ _ found => by cases found

/-- In every run of any number of threads the sets and gets are operations on one
word that take effect one at a time, each between its entry and its return; and
so are they with the statuses of the gets, as long as the clock is timely. -/
theorem flags_linearizable (name : Option String) (schedule : List Action) (final : Calls)
    (ran : run step (created name) schedule = some final) :
    Linearizes (Effect false) 0 (history step (events false) (created name) schedule)
        final.group.txEventFlagsGroupCurrent ∧
      (Along step Timely (created name) schedule →
        Linearizes (Effect true) 0 (history step (events true) (created name) schedule)
          final.group.txEventFlagsGroupCurrent) := by
  have value : ∀ withStatus after, Stands withStatus final after →
      after.value = final.group.txEventFlagsGroupCurrent := by
    intro withStatus after stands
    rw [stands.same]
    rfl
  constructor
  · apply follows_linearizes (step_follows false) (created_stands false name) ?_ ran (value false)
    apply along_of_steps
    intro _ _ _ _ told
    cases told
  · intro timely
    apply follows_linearizes (step_follows true) (created_stands true name) ?_ ran (value true)
    exact along_mono step (fun _ _ now _ => now) _ schedule timely

def handedOver : List Action :=
  [.enter 1 0x3 txAnd txWaitForever 0 10, .pass 1 11, .set 2 0x3 txOr, .pass 1 12, .leave 1 12]

theorem handedOver_linearizes :
    ∃ final, run step (created none) handedOver = some final ∧
      Linearizes (Effect true) 0 (history step (events true) (created none) handedOver)
        final.group.txEventFlagsGroupCurrent := by
  have timely : Along step Timely (created none) handedOver := by
    refine along_cons step rfl trivial (along_cons step rfl ?_ (along_cons step rfl trivial
      (along_cons step rfl ?_ (along_cons step rfl ?_ trivial))))
    · intro _ _ _
      decide
    · intro _ _ _
      decide
    · intro call actualFlags flagsSatisfied left
      cases left
      decide
  exact ⟨_, rfl, (flags_linearizable none handedOver _ rfl).2 timely⟩

end UsbxNxdk.EventFlagsCalls
