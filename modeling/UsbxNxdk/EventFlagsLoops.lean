import UsbxNxdk.EventFlagsCalls
import UsbxNxdk.Simulation

/-! A get among any number of other calls is the polling loop among the critical
sections that these run. -/

namespace UsbxNxdk.EventFlagsCalls

open EventFlags Execution Simulation

def sections (calls : Calls) : Action → List Section
  | .set _ flagsToSet setOption => [.set flagsToSet setOption]
  | .pass thread _ =>
      match calls.stages thread with
      | .polling call => [.pass call.requestedFlags call.getOption]
      | _ => []
  | _ => []

/-- What the clock shows a thread's loop: a satisfied pass does not read it. -/
def readings (thread : Nat) (calls : Calls) : Action → List ULONG
  | .pass other tickCount =>
      match calls.stages other with
      | .polling call =>
          if other = thread ∧
              (loopPass calls.group call.requestedFlags call.getOption).flagsSatisfied = 0 then
            [tickCount]
          else []
      | _ => []
  | _ => []

def Action.thread : Action → Nat
  | .set thread _ _ => thread
  | .enter thread _ _ _ _ _ => thread
  | .pass thread _ => thread
  | .leave thread _ => thread

/-- The sections of the others before each step of a thread, and behind the last. -/
def others (thread : Nat) : Calls → List Action → List (List Section)
  | _, [] => [[]]
  | calls, action :: rest =>
      match step calls action with
      | none => [[]]
      | some next =>
          if action.thread = thread then [] :: others thread next rest
          else (others thread next rest).modifyHead (sections calls action ++ ·)

theorem step_group {calls next : Calls} {action : Action}
    (stepped : step calls action = some next) :
    next.group = runSections calls.group (sections calls action) := by
  cases action with
  | set thread flagsToSet setOption =>
      rcases set_some stepped with ⟨_, rfl⟩
      rfl
  | enter thread requestedFlags getOption waitOption stackTimeout tickCount =>
      rcases enter_some stepped with ⟨_, timeout, _, rfl⟩
      rfl
  | pass thread tickCount =>
      rcases pass_some stepped with ⟨call, polling, rfl⟩
      simp only [sections, polling]
      rfl
  | leave thread tickCount =>
      rcases leave_some stepped with ⟨call, actualFlags, flagsSatisfied, _, rfl⟩
      rfl

theorem getLoop_behind (requestedFlags : ULONG) (getOption : UINT) (timeout : ULONG)
    (before : List Section) (around : List (List Section)) (readings : List ULONG)
    (group : TxEventFlagsGroup) :
    getLoop requestedFlags getOption timeout (around.modifyHead (before ++ ·)) readings group =
      getLoop requestedFlags getOption timeout around readings (runSections group before) := by
  cases around with
  | nil => rfl
  | cons first rest =>
      have joined : runSections group (before ++ first) =
          runSections (runSections group before) first := by
        simp only [runSections, List.foldl_append]
      simp only [List.modifyHead_cons, getLoop, joined]

theorem passed_elsewhere (calls : Calls) {acting thread : Nat} (other : acting ≠ thread)
    (call : WaitingCall) (tickCount : ULONG) :
    (passed calls acting call tickCount).stages thread = calls.stages thread := by
  simp only [passed]
  split
  · rfl
  · exact Function.update_of_ne (Ne.symm other) _ _

theorem step_elsewhere {calls next : Calls} {action : Action} {thread : Nat}
    (stepped : step calls action = some next) (other : action.thread ≠ thread) :
    next.stages thread = calls.stages thread := by
  cases action with
  | set acting flagsToSet setOption =>
      rcases set_some stepped with ⟨_, rfl⟩
      rfl
  | enter acting requestedFlags getOption waitOption stackTimeout tickCount =>
      rcases enter_some stepped with ⟨_, timeout, _, rfl⟩
      exact Function.update_of_ne (Ne.symm other) _ _
  | pass acting tickCount =>
      rcases pass_some stepped with ⟨call, _, rfl⟩
      exact passed_elsewhere calls other call tickCount
  | leave acting tickCount =>
      rcases leave_some stepped with ⟨call, actualFlags, flagsSatisfied, _, rfl⟩
      exact Function.update_of_ne (Ne.symm other) _ _

theorem polling_passes {calls next : Calls} {action : Action} {call : WaitingCall}
    (stepped : step calls action = some next)
    (polling : calls.stages action.thread = .polling call) :
    ∃ tickCount, action = .pass action.thread tickCount := by
  cases action with
  | set thread flagsToSet setOption => cases polling.symm.trans (set_some stepped).1
  | enter thread requestedFlags getOption waitOption stackTimeout tickCount =>
      cases polling.symm.trans (enter_some stepped).1
  | pass thread tickCount => exact ⟨tickCount, rfl⟩
  | leave thread tickCount =>
      rcases leave_some stepped with ⟨held, actualFlags, flagsSatisfied, leaving, _⟩
      cases polling.symm.trans leaving

theorem leaving_leaves {calls next : Calls} {action : Action} {call : WaitingCall}
    {actualFlags flagsSatisfied : ULONG} (stepped : step calls action = some next)
    (leaving : calls.stages action.thread = .leaving call actualFlags flagsSatisfied) :
    ∃ tickCount, action = .leave action.thread tickCount := by
  cases action with
  | set thread flagsToSet setOption => cases leaving.symm.trans (set_some stepped).1
  | enter thread requestedFlags getOption waitOption stackTimeout tickCount =>
      cases leaving.symm.trans (enter_some stepped).1
  | pass thread tickCount =>
      rcases pass_some stepped with ⟨held, polling, _⟩
      cases leaving.symm.trans polling
  | leave thread tickCount => exact ⟨tickCount, rfl⟩

theorem readings_elsewhere (calls : Calls) {action : Action} {thread : Nat}
    (other : action.thread ≠ thread) : readings thread calls action = [] := by
  cases action with
  | set acting flagsToSet setOption => rfl
  | enter acting requestedFlags getOption waitOption stackTimeout tickCount => rfl
  | pass acting tickCount =>
      have apart : acting ≠ thread := other
      simp only [readings, apart, false_and, if_false]
      split <;> rfl
  | leave acting tickCount => rfl

theorem leaving_stays {calls final : Calls} {thread : Nat} {schedule : List Action}
    {call : WaitingCall} {actualFlags flagsSatisfied : ULONG}
    (inside : ∀ tickCount, .leave thread tickCount ∉ schedule)
    (leaving : calls.stages thread = .leaving call actualFlags flagsSatisfied)
    (executed : run step calls schedule = some final) :
    final.stages thread = .leaving call actualFlags flagsSatisfied ∧
      mirrored step (readings thread) calls schedule = [] := by
  induction schedule generalizing calls with
  | nil =>
      cases executed
      exact ⟨leaving, rfl⟩
  | cons action rest ih =>
      rcases run_cons_some step executed with ⟨next, stepped, remaining⟩
      have other : action.thread ≠ thread := by
        intro own
        rcases leaving_leaves stepped (own ▸ leaving) with ⟨tickCount, returns⟩
        rw [own] at returns
        exact inside tickCount (returns ▸ List.mem_cons_self)
      have later := ih (fun tickCount member => inside tickCount (List.mem_cons_of_mem _ member))
        ((step_elsewhere stepped other).trans leaving) remaining
      rw [mirrored_cons stepped, readings_elsewhere calls other, List.nil_append]
      exact later

theorem others_own {calls next : Calls} {action : Action} (stepped : step calls action = some next)
    (rest : List Action) :
    others action.thread calls (action :: rest) = [] :: others action.thread next rest := by
  simp only [others, stepped, if_true]

theorem others_elsewhere {calls next : Calls} {action : Action} {thread : Nat}
    (stepped : step calls action = some next) (other : action.thread ≠ thread)
    (rest : List Action) :
    others thread calls (action :: rest) =
      (others thread next rest).modifyHead (sections calls action ++ ·) := by
  simp only [others, stepped, if_neg other]

theorem passed_cases {calls : Calls} {thread : Nat} {call : WaitingCall}
    (polling : calls.stages thread = .polling call) (tickCount : ULONG) :
    ((loopPass calls.group call.requestedFlags call.getOption).flagsSatisfied = 0 ∧
        tickCount < call.timeout ∧
        (passed calls thread call tickCount).stages thread = .polling call) ∨
      (¬ ((loopPass calls.group call.requestedFlags call.getOption).flagsSatisfied = 0 ∧
          tickCount < call.timeout) ∧
        (passed calls thread call tickCount).stages thread =
          .leaving call (loopPass calls.group call.requestedFlags call.getOption).actualFlags
            (loopPass calls.group call.requestedFlags call.getOption).flagsSatisfied) := by
  by_cases stays : (loopPass calls.group call.requestedFlags call.getOption).flagsSatisfied = 0 ∧
      tickCount < call.timeout
  · left
    refine ⟨stays.1, stays.2, ?_⟩
    simp only [passed, if_pos stays, polling]
  · right
    refine ⟨stays, ?_⟩
    simp only [passed, if_neg stays, Function.update_self]

theorem readings_own {calls : Calls} {thread : Nat} {tickCount : ULONG} {call : WaitingCall}
    (polling : calls.stages thread = .polling call) :
    readings thread calls (.pass thread tickCount) =
      if (loopPass calls.group call.requestedFlags call.getOption).flagsSatisfied = 0 then
        [tickCount]
      else [] := by
  simp only [readings, polling, true_and]

theorem getLoop_leaves {requestedFlags : ULONG} {getOption : UINT} {timeout tickCount : ULONG}
    {group : TxEventFlagsGroup}
    (leaves : ¬ ((loopPass group requestedFlags getOption).flagsSatisfied = 0 ∧
      tickCount < timeout)) (around : List (List Section)) (reading : ULONG) :
    ∃ outcome,
      getLoop requestedFlags getOption timeout ([] :: around)
        ((if (loopPass group requestedFlags getOption).flagsSatisfied = 0 then [tickCount]
          else []) ++ [reading]) group = some outcome ∧
      outcome.status = exitStatus reading timeout ∧
      outcome.actualFlags = (loopPass group requestedFlags getOption).actualFlags := by
  have entered : runSections group [] = group := rfl
  by_cases empty : (loopPass group requestedFlags getOption).flagsSatisfied = 0
  · have late : ¬ tickCount < timeout := fun early => leaves ⟨empty, early⟩
    simp only [getLoop, entered, ne_eq, empty, not_true_eq_false, if_false, if_true,
      List.singleton_append, late, leaveLoop]
    exact ⟨_, rfl, rfl, rfl⟩
  · simp only [getLoop, entered, ne_eq, empty, not_false_eq_true, if_true, if_false,
      List.nil_append, leaveLoop]
    exact ⟨_, rfl, rfl, rfl⟩

theorem getLoop_stays {requestedFlags : ULONG} {getOption : UINT} {timeout tickCount : ULONG}
    {group : TxEventFlagsGroup}
    (empty : (loopPass group requestedFlags getOption).flagsSatisfied = 0)
    (early : tickCount < timeout) (around : List (List Section)) (later : List ULONG) :
    ∃ record,
      getLoop requestedFlags getOption timeout ([] :: around) (tickCount :: later) group =
        (getLoop requestedFlags getOption timeout around later
          (loopPass group requestedFlags getOption).group).map
            fun outcome => { outcome with passes := record :: outcome.passes } := by
  have entered : runSections group [] = group := rfl
  simp only [getLoop, entered, ne_eq, empty, not_true_eq_false, if_false, early, if_true]
  exact ⟨_, rfl⟩

/-- A loop that other threads interrupt stores and returns what the loop of the
source does among their sections. -/
theorem loop_returns {calls final : Calls} {thread : Nat} {schedule : List Action}
    {call left : WaitingCall} {actualFlags flagsSatisfied : ULONG}
    (inside : ∀ tickCount, .leave thread tickCount ∉ schedule)
    (polling : calls.stages thread = .polling call)
    (executed : run step calls schedule = some final)
    (leaving : final.stages thread = .leaving left actualFlags flagsSatisfied)
    (reading : ULONG) :
    left = call ∧
      ∃ outcome,
        getLoop call.requestedFlags call.getOption call.timeout (others thread calls schedule)
          (mirrored step (readings thread) calls schedule ++ [reading]) calls.group =
            some outcome ∧
        outcome.status = exitStatus reading call.timeout ∧ outcome.actualFlags = actualFlags := by
  induction schedule generalizing calls with
  | nil =>
      cases executed
      rw [polling] at leaving
      cases leaving
  | cons action rest ih =>
      rcases run_cons_some step executed with ⟨next, stepped, remaining⟩
      have behind : ∀ tickCount, .leave thread tickCount ∉ rest :=
        fun tickCount member => inside tickCount (List.mem_cons_of_mem _ member)
      by_cases own : action.thread = thread
      · subst own
        rcases polling_passes stepped polling with ⟨tickCount, passes⟩
        rw [others_own stepped, mirrored_cons stepped]
        have shown := congrArg (readings action.thread calls) passes
        rw [readings_own polling] at shown
        rw [passes] at stepped
        rcases pass_some stepped with ⟨held, found, rfl⟩
        cases polling.symm.trans found
        rcases passed_cases polling tickCount with stays | leaves
        · rcases stays with ⟨empty, early, still⟩
          rcases ih behind still remaining with ⟨same, outcome, loops, status, stored⟩
          rcases getLoop_stays empty early
            (others action.thread (passed calls action.thread call tickCount) rest)
            (mirrored step (readings action.thread) (passed calls action.thread call tickCount)
              rest ++ [reading]) with ⟨record, first⟩
          refine ⟨same, { outcome with passes := record :: outcome.passes }, ?_, status, stored⟩
          rw [shown, if_pos empty, List.singleton_append, List.cons_append, first]
          exact congrArg (Option.map _) loops
        · rcases leaves with ⟨done, away⟩
          rcases leaving_stays behind away remaining with ⟨ends, unread⟩
          rw [leaving] at ends
          cases ends
          rcases getLoop_leaves done
            (others action.thread (passed calls action.thread call tickCount) rest) reading with
            ⟨outcome, loops, status, stored⟩
          refine ⟨rfl, outcome, ?_, status, stored⟩
          rw [shown, unread, List.append_nil, loops]
      · rw [mirrored_cons stepped, readings_elsewhere calls own, List.nil_append,
          others_elsewhere stepped own, getLoop_behind, ← step_group stepped]
        exact ih behind ((step_elsewhere stepped own).trans polling) remaining

def entryReadings (waitOption tickCount : ULONG) : List ULONG :=
  if waitOption = txNoWait then [tickCount] else []

theorem initialTimeout_later {waitOption stackTimeout tickCount : ULONG}
    {timeout : ULONG × List ULONG}
    (made : initialTimeout waitOption stackTimeout [tickCount] = some timeout)
    (later : List ULONG) :
    initialTimeout waitOption stackTimeout (entryReadings waitOption tickCount ++ later) =
      some (timeout.1, later) := by
  unfold initialTimeout entryReadings at *
  by_cases none : waitOption = txNoWait
  · rw [if_pos none] at made
    cases made
    simp only [if_pos none, List.singleton_append]
  · rw [if_neg none] at made
    cases made
    simp only [if_neg none, List.nil_append]

/-- Between entry and return a get is `_tx_event_flags_get` among the sections of
the other threads, whatever they are and whenever they run. -/
theorem get_returns {calls entered left : Calls} {thread : Nat} {requestedFlags : ULONG}
    {getOption : UINT} {waitOption stackTimeout tickCount : ULONG} {schedule : List Action}
    {call : WaitingCall} {actualFlags flagsSatisfied : ULONG}
    (enters : step calls
      (.enter thread requestedFlags getOption waitOption stackTimeout tickCount) = some entered)
    (inside : ∀ reading, .leave thread reading ∉ schedule)
    (executed : run step entered schedule = some left)
    (leaving : left.stages thread = .leaving call actualFlags flagsSatisfied)
    (reading : ULONG) :
    ∃ outcome,
      txEventFlagsGet calls.group requestedFlags getOption waitOption stackTimeout
        (others thread entered schedule)
        (entryReadings waitOption tickCount ++
          (mirrored step (readings thread) entered schedule ++ [reading])) = some outcome ∧
      events true left (.leave thread reading) =
        [.respond thread (.got (some outcome.status) outcome.actualFlags)] := by
  rcases enter_some enters with ⟨_, timeout, made, rfl⟩
  have polling : Function.update calls.stages thread
      (.polling ⟨⟨requestedFlags, getOption, timeout.1⟩, waitOption⟩) thread =
        .polling ⟨⟨requestedFlags, getOption, timeout.1⟩, waitOption⟩ :=
    Function.update_self ..
  rcases loop_returns inside polling executed leaving reading with
    ⟨rfl, outcome, loops, status, stored⟩
  refine ⟨outcome, ?_, ?_⟩
  · rw [txEventFlagsGet, initialTimeout_later made]
    exact loops
  · simp only [events, leaving, status, stored, shown, if_true]

/-! ### The other threads of a loop -/

def sectionCalls (thread : Nat) : Section → List Action
  | .set flagsToSet setOption => [.set thread flagsToSet setOption]
  | .pass requestedFlags getOption =>
      [.enter thread requestedFlags getOption txNoWait 0 0, .pass thread 0, .leave thread 0]

theorem section_runs {calls : Calls} {thread : Nat} (idle : calls.stages thread = .idle)
    (critical : Section) :
    run step calls (sectionCalls thread critical) =
      some { calls with group := critical.run calls.group } := by
  cases critical with
  | set flagsToSet setOption =>
      simp only [sectionCalls, run_cons, run_nil, step, if_pos idle, Option.bind_some]
      rfl
  | pass requestedFlags getOption =>
      have waits : initialTimeout txNoWait 0 [0] = some (0, []) := rfl
      have late : ¬ (0 : ULONG) < 0 := BitVec.lt_irrefl 0
      simp only [sectionCalls, run_cons, run_nil, step, if_pos idle, waits, Option.map_some,
        Option.bind_some, passed, Function.update_self, late, and_false, if_false,
        Function.update_idem]
      rw [← idle, Function.update_eq_self]
      rfl

theorem sections_run {calls : Calls} {thread : Nat} (idle : calls.stages thread = .idle)
    (criticals : List Section) :
    run step calls (criticals.flatMap (sectionCalls thread)) =
      some { calls with group := runSections calls.group criticals } := by
  induction criticals generalizing calls with
  | nil => rfl
  | cons critical rest ih =>
      rw [List.flatMap_cons, run_append, section_runs idle, Option.bind_some]
      exact ih idle

theorem leaveLoop_some {timeout : ULONG} {pass : LoopPass} {record : PassRecord}
    {readings : List ULONG} {outcome : GetOutcome}
    (left : leaveLoop timeout pass record readings = some outcome) :
    ∃ reading, outcome.status = exitStatus reading timeout ∧
      outcome.actualFlags = pass.actualFlags ∧ outcome.group = pass.group := by
  cases readings with
  | nil => cases left
  | cons reading later =>
      cases left
      exact ⟨reading, rfl, rfl, rfl⟩

theorem turn_runs {calls : Calls} {thread other : Nat} {call : WaitingCall}
    (polling : calls.stages thread = .polling call) (idle : calls.stages other = .idle)
    (criticals : List Section) (tickCount : ULONG) :
    run step calls (criticals.flatMap (sectionCalls other) ++ [.pass thread tickCount]) =
      some (passed { calls with group := runSections calls.group criticals } thread call
        tickCount) := by
  rw [run_append, sections_run idle, Option.bind_some]
  simp only [run_cons, run_nil, step, polling, Option.bind_some]

theorem loop_reached {thread other : Nat} (apart : thread ≠ other) {call : WaitingCall}
    {around : List (List Section)} {readings : List ULONG} {calls : Calls} {outcome : GetOutcome}
    (polling : calls.stages thread = .polling call) (idle : calls.stages other = .idle)
    (loops : getLoop call.requestedFlags call.getOption call.timeout around readings calls.group =
      some outcome) :
    ∃ schedule left flagsSatisfied reading,
      run step calls schedule = some left ∧
      left.stages thread = .leaving call outcome.actualFlags flagsSatisfied ∧
      left.group = outcome.group ∧ outcome.status = exitStatus reading call.timeout := by
  induction around generalizing calls readings outcome with
  | nil => cases loops
  | cons criticals around ih =>
      let met : Calls := { calls with group := runSections calls.group criticals }
      have standing : met.stages thread = .polling call := polling
      simp only [getLoop] at loops
      split at loops
      · next satisfied =>
          rcases leaveLoop_some loops with ⟨reading, status, stored, group⟩
          have executed := turn_runs polling idle criticals 0
          rcases passed_cases standing 0 with stays | leaves
          · exact absurd stays.1 satisfied
          · exact ⟨_, _, _, reading, executed, stored ▸ leaves.2, group.symm, status⟩
      · next empty =>
          have unsatisfied := Classical.not_not.mp empty
          cases readings with
          | nil => cases loops
          | cons tickCount later =>
              have executed := turn_runs polling idle criticals tickCount
              rcases passed_cases standing tickCount with stays | leaves
              · rcases stays with ⟨_, early, still⟩
                simp only [if_pos early] at loops
                rcases Option.map_eq_some_iff.mp loops with ⟨rested, looped, rfl⟩
                have resting := (passed_elsewhere met apart call tickCount).trans idle
                rcases ih still resting looped with
                  ⟨schedule, left, flagsSatisfied, reading, ran, leaving, group, status⟩
                have together : run step calls
                    ((criticals.flatMap (sectionCalls other) ++ [.pass thread tickCount]) ++
                      schedule) = some left := by
                  rw [run_append, executed, Option.bind_some]
                  exact ran
                exact ⟨_, left, flagsSatisfied, reading, together, leaving, group, status⟩
              · have late : ¬ tickCount < call.timeout :=
                  fun early => leaves.1 ⟨unsatisfied, early⟩
                simp only [if_neg late] at loops
                rcases leaveLoop_some loops with ⟨reading, status, stored, group⟩
                exact ⟨_, _, _, reading, executed, stored ▸ leaves.2, group.symm, status⟩

theorem initialTimeout_first {waitOption stackTimeout timeout : ULONG}
    {readings later : List ULONG}
    (made : initialTimeout waitOption stackTimeout readings = some (timeout, later)) :
    ∃ tickCount unread,
      initialTimeout waitOption stackTimeout [tickCount] = some (timeout, unread) := by
  unfold initialTimeout at *
  by_cases none : waitOption = txNoWait
  · simp only [if_pos none] at made ⊢
    cases readings with
    | nil => cases made
    | cons tickCount rest =>
        cases made
        exact ⟨timeout, [], rfl⟩
  · simp only [if_neg none] at made ⊢
    cases made
    exact ⟨0, [0], rfl⟩

/-- Every outcome of `_tx_event_flags_get` is the response of a get that enters,
with the sections it met run by another thread. -/
theorem get_reached {calls : Calls} {thread other : Nat} (apart : thread ≠ other)
    (idle : calls.stages thread = .idle) (resting : calls.stages other = .idle)
    {requestedFlags : ULONG} {getOption : UINT} {waitOption stackTimeout : ULONG}
    {around : List (List Section)} {readings : List ULONG} {outcome : GetOutcome}
    (gets : txEventFlagsGet calls.group requestedFlags getOption waitOption stackTimeout around
      readings = some outcome) :
    ∃ tickCount schedule left reading,
      run step calls
        (.enter thread requestedFlags getOption waitOption stackTimeout tickCount :: schedule) =
          some left ∧
      left.group = outcome.group ∧
      events true left (.leave thread reading) =
        [.respond thread (.got (some outcome.status) outcome.actualFlags)] := by
  unfold txEventFlagsGet at gets
  split at gets
  · cases gets
  · next timeout later made =>
      rcases initialTimeout_first made with ⟨tickCount, unread, entered⟩
      have enters : step calls
          (.enter thread requestedFlags getOption waitOption stackTimeout tickCount) =
            some { calls with
              stages := Function.update calls.stages thread
                (.polling ⟨⟨requestedFlags, getOption, timeout⟩, waitOption⟩) } := by
        simp only [step, if_pos idle, entered, Option.map_some]
      have polling : Function.update calls.stages thread
          (.polling ⟨⟨requestedFlags, getOption, timeout⟩, waitOption⟩) thread =
            .polling ⟨⟨requestedFlags, getOption, timeout⟩, waitOption⟩ :=
        Function.update_self ..
      have behind := (step_elsewhere enters apart).trans resting
      rcases loop_reached apart polling behind gets with
        ⟨schedule, left, flagsSatisfied, reading, ran, leaving, group, status⟩
      refine ⟨tickCount, schedule, left, reading, ?_, group, ?_⟩
      · rw [run_cons, enters, Option.bind_some, ran]
      · simp only [events, leaving, status, shown, if_true]

end UsbxNxdk.EventFlagsCalls
