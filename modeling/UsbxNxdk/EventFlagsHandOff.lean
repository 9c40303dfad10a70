import UsbxNxdk.EventFlagsSystem

/-! The polling getters against the hand-off of the replaced kernel, where a
set resumes the waiters its value satisfies. A polling waiter samples later,
so an event can be taken between the set and its pass. -/

namespace UsbxNxdk.EventFlagsHandOff

open Execution EventFlags EventFlagsSystem

/-- The hand-off: a set that leaves this state resumes the waiting thread. -/
def HandedOff (system : System) (thread : Nat) : Prop :=
  ∃ call, system.calls thread = some call ∧
    Satisfied call.getOption call.requestedFlags system.current

def PassSatisfied (system : System) (thread : Nat) : Prop :=
  ∃ call, system.calls thread = some call ∧
    (loopPass system.group call.requestedFlags call.getOption).flagsSatisfied ≠ 0

/-- A step that removes a set flag of the request: a `TX_AND` set whose mask
leaves it out, or a satisfied clearing pass of a call that shares it. -/
def Takes (requestedFlags : ULONG) (system : System) : Action → Prop
  | .set _ flagsToSet setOption =>
      setOption = txAnd ∧ system.current &&& requestedFlags &&& ~~~flagsToSet ≠ 0
  | .enter _ _ _ _ _ _ => False
  | .pass thread _ => ∃ taker, system.calls thread = some taker ∧
      Satisfied taker.getOption taker.requestedFlags system.current ∧ Clears taker.getOption ∧
      system.current &&& requestedFlags &&& taker.requestedFlags ≠ 0

theorem passSatisfied_iff (system : System) (thread : Nat) :
    PassSatisfied system thread ↔ HandedOff system thread := by
  simp only [PassSatisfied, HandedOff, loopPass_satisfied]

theorem satisfied_congr {getOption : UINT} {requestedFlags current next : ULONG}
    (same : next &&& requestedFlags = current &&& requestedFlags)
    (satisfied : Satisfied getOption requestedFlags current) :
    Satisfied getOption requestedFlags next := by
  unfold Satisfied at satisfied ⊢
  rwa [same]

private theorem masked_ext (left right mask : ULONG)
    (agree : ∀ bit, mask.getLsbD bit = true → left.getLsbD bit = right.getLsbD bit) :
    left &&& mask = right &&& mask := by
  apply BitVec.eq_of_getLsbD_eq
  intro bit _
  simp only [BitVec.getLsbD_and]
  cases requested : mask.getLsbD bit with
  | false => simp only [Bool.and_false]
  | true => rw [agree bit requested]

theorem satisfied_union {getOption : UINT} {requestedFlags current flagsToSet : ULONG}
    (satisfied : Satisfied getOption requestedFlags current) :
    Satisfied getOption requestedFlags (current ||| flagsToSet) := by
  have grows : ∀ bit, (current &&& requestedFlags).getLsbD bit = true →
      ((current ||| flagsToSet) &&& requestedFlags).getLsbD bit = true := by
    intro bit present
    simp only [BitVec.getLsbD_and, BitVec.getLsbD_or, Bool.and_eq_true, Bool.or_eq_true]
      at present ⊢
    exact ⟨Or.inl present.1, present.2⟩
  unfold Satisfied at satisfied ⊢
  by_cases all : getOption &&& txAnd = txAnd
  · rw [if_pos all] at satisfied ⊢
    refine ⟨satisfied.1, ?_⟩
    apply BitVec.eq_of_getLsbD_eq
    intro bit _
    have whole := grows bit
    rw [satisfied.2] at whole
    cases requested : requestedFlags.getLsbD bit with
    | false => simp only [BitVec.getLsbD_and, requested, Bool.and_false]
    | true => exact whole requested
  · rw [if_neg all] at satisfied ⊢
    intro empty
    apply satisfied
    apply BitVec.eq_of_getLsbD_eq
    intro bit _
    cases present : (current &&& requestedFlags).getLsbD bit with
    | false => simp
    | true =>
        have still := grows bit present
        rw [empty] at still
        simp at still

theorem satisfied_masked {getOption : UINT} {requestedFlags current kept : ULONG}
    (untouched : current &&& requestedFlags &&& ~~~kept = 0)
    (satisfied : Satisfied getOption requestedFlags current) :
    Satisfied getOption requestedFlags (current &&& kept) := by
  apply satisfied_congr _ satisfied
  apply masked_ext
  intro bit requested
  have inside : bit < 32 := BitVec.lt_of_getLsbD requested
  have clear := congrArg (fun word : ULONG => word.getLsbD bit) untouched
  simp only [BitVec.getLsbD_and, BitVec.getLsbD_not, requested, inside, decide_true,
    Bool.true_and, Bool.and_true] at clear ⊢
  cases held : current.getLsbD bit with
  | false => rfl
  | true =>
      rw [held] at clear
      simpa using clear

theorem lost_by_taking (system next : System) (action : Action) (call : GetCall)
    (stepped : step system action = some next)
    (satisfied : Satisfied call.getOption call.requestedFlags system.current)
    (lost : ¬ Satisfied call.getOption call.requestedFlags next.current) :
    Takes call.requestedFlags system action := by
  cases action with
  | set thread flagsToSet setOption =>
      rw [set_some stepped] at lost
      simp only [System.current, txEventFlagsSet_current] at lost
      by_cases union : setOption = txOr
      · rw [if_pos union] at lost
        exact absurd (satisfied_union satisfied) lost
      · rw [if_neg union] at lost
        by_cases meet : setOption = txAnd
        · rw [if_pos meet] at lost
          refine ⟨meet, ?_⟩
          intro untouched
          exact lost (satisfied_masked untouched satisfied)
        · rw [if_neg meet] at lost
          exact absurd satisfied lost
  | enter thread requestedFlags getOption waitOption stackTimeout tickCount =>
      rw [System.current, enter_some stepped] at lost
      exact absurd satisfied lost
  | pass thread tickCount =>
      rcases pass_some stepped with ⟨taker, present, after⟩
      rw [System.current, after, loopPass_current] at lost
      by_cases consuming : Satisfied taker.getOption taker.requestedFlags system.current ∧
          Clears taker.getOption
      · rw [if_pos consuming] at lost
        refine ⟨taker, present, consuming.1, consuming.2, ?_⟩
        intro untouched
        apply lost
        apply satisfied_masked _ satisfied
        rwa [BitVec.not_not]
      · rw [if_neg consuming] at lost
        exact absurd satisfied lost

theorem other_keeps_call (system next : System) (action : Action) (waiter : Nat)
    (other : action.thread ≠ waiter) (stepped : step system action = some next) :
    next.calls waiter = system.calls waiter := by
  have apart : waiter ≠ action.thread := Ne.symm other
  cases action with
  | set thread flagsToSet setOption => rw [set_some stepped]
  | enter thread requestedFlags getOption waitOption stackTimeout tickCount =>
      simp only [step] at stepped
      split at stepped
      · rcases Option.map_eq_some_iff.mp stepped with ⟨timeout, _, rfl⟩
        exact Function.update_of_ne apart _ _
      · cases stepped
  | pass thread tickCount =>
      rcases Option.map_eq_some_iff.mp stepped with ⟨call, _, rfl⟩
      simp only [passStep]
      split
      · rfl
      · exact Function.update_of_ne apart _ _

theorem gap_keeps_or_takes (waiter : Nat) (call : GetCall) (start stop : System)
    (gap : List Action) (present : start.calls waiter = some call)
    (satisfied : Satisfied call.getOption call.requestedFlags start.current)
    (others : ∀ action ∈ gap, action.thread ≠ waiter)
    (executed : run step start gap = some stop) :
    stop.calls waiter = some call ∧
      (Satisfied call.getOption call.requestedFlags stop.current ∨
        ∃ before taker after reached next, gap = before ++ taker :: after ∧
          run step start before = some reached ∧ step reached taker = some next ∧
          Satisfied call.getOption call.requestedFlags reached.current ∧
          ¬ Satisfied call.getOption call.requestedFlags next.current ∧
          Takes call.requestedFlags reached taker) := by
  induction gap using List.reverseRecOn generalizing stop with
  | nil =>
      have same : start = stop := by simpa using executed
      subst same
      exact ⟨present, Or.inl satisfied⟩
  | append_singleton gap action ih =>
      rcases run_append_some step executed with ⟨middle, ran, last⟩
      rcases run_cons_some step last with ⟨next, stepped, done⟩
      have same : next = stop := by simpa using done
      subst same
      have earlier := ih middle
        (fun item member => others item (List.mem_append_left _ member)) ran
      have apart := others action (List.mem_append_right _ (List.mem_singleton_self _))
      refine ⟨(other_keeps_call middle next action waiter apart stepped).trans earlier.1, ?_⟩
      rcases earlier.2 with held | ⟨before, taker, after, reached, lost, split, rest⟩
      · by_cases still : Satisfied call.getOption call.requestedFlags next.current
        · exact Or.inl still
        · exact Or.inr ⟨gap, action, [], middle, next, rfl, ran, stepped, held, still,
            lost_by_taking middle next action call stepped held still⟩
      · exact Or.inr ⟨before, taker, after ++ [action], reached, lost,
          by rw [split, List.append_assoc, List.cons_append], rest⟩

/-- A waiter that a completed set would have resumed is satisfied at its next
pass, unless a step of another thread took a flag of its request first. -/
theorem polling_refines_unless_taken (setter : Nat) (flagsToSet : ULONG) (setOption : UINT)
    (gap : List Action) (waiter : Nat) (call : GetCall) (waiting released polling : System)
    (inLoop : waiting.calls waiter = some call)
    (set : step waiting (.set setter flagsToSet setOption) = some released)
    (handedOff : HandedOff released waiter)
    (others : ∀ action ∈ gap, action.thread ≠ waiter)
    (executed : run step released gap = some polling) :
    PassSatisfied polling waiter ∨
      ∃ before taker after system next, gap = before ++ taker :: after ∧
        run step released before = some system ∧ step system taker = some next ∧
        HandedOff system waiter ∧ ¬ HandedOff next waiter ∧
        Takes call.requestedFlags system taker := by
  have present : released.calls waiter = some call := by
    rw [set_some set]
    exact inLoop
  rcases handedOff with ⟨found, same, satisfied⟩
  have equal : found = call := Option.some.inj (same.symm.trans present)
  subst equal
  obtain ⟨still, outcome⟩ :=
    gap_keeps_or_takes waiter found released polling gap present satisfied others executed
  rcases outcome with held |
    ⟨before, taker, after, system, next, split, ran, stepped, held, lost, takes⟩
  · exact Or.inl ((passSatisfied_iff polling waiter).mpr ⟨found, still, held⟩)
  · have beforeOthers : ∀ action ∈ before, action.thread ≠ waiter := by
      intro action member
      exact others action (split ▸ List.mem_append_left _ member)
    have kept := (gap_keeps_or_takes waiter found released system before present satisfied
      beforeOthers ran).1
    have apart : taker.thread ≠ waiter :=
      others taker (split ▸ List.mem_append_right _ List.mem_cons_self)
    have keptNext : next.calls waiter = some found := by
      calc
        next.calls waiter = system.calls waiter :=
          other_keeps_call system next taker waiter apart stepped
        _ = some found := kept
    refine Or.inr ⟨before, taker, after, system, next, split, ran, stepped,
      ⟨found, kept, held⟩, ?_, takes⟩
    rintro ⟨other, same, satisfiedNext⟩
    have equal : other = found := Option.some.inj (same.symm.trans keptNext)
    exact lost (equal ▸ satisfiedNext)

theorem hand_off_missed :
    ∃ waiting released polling,
      run step (created none)
        [.enter 0 1 txOr txWaitForever 0 0, .pass 0 10, .enter 2 1 txOrClear txNoWait 0 10] =
          some waiting ∧
      waiting.calls 0 = some ⟨1, txOr, infinite⟩ ∧
      step waiting (.set 1 1 txOr) = some released ∧ HandedOff released 0 ∧
      run step released [.pass 2 11] = some polling ∧ ¬ PassSatisfied polling 0 := by
  refine ⟨_, _, _, rfl, rfl, rfl, ?_, rfl, ?_⟩
  · exact ⟨⟨1, txOr, infinite⟩, rfl, by decide⟩
  · intro found
    rcases found with ⟨call, present, satisfied⟩
    cases present
    exact satisfied (by decide)

theorem hand_off_kept :
    ∃ released polling,
      step ⟨⟨none, 0, txEventFlagsId⟩,
          Function.update (fun _ => none) 0 (some ⟨1, txOr, infinite⟩)⟩ (.set 1 1 txOr) =
        some released ∧
      run step released [.set 1 2 txOr] = some polling ∧
      (PassSatisfied polling 0 ∨
        ∃ before taker after system next, [.set 1 2 txOr] = before ++ taker :: after ∧
          run step released before = some system ∧ step system taker = some next ∧
          HandedOff system 0 ∧ ¬ HandedOff next 0 ∧ Takes 1 system taker) :=
  ⟨_, _, rfl, rfl,
    polling_refines_unless_taken 1 1 txOr [.set 1 2 txOr] 0 ⟨1, txOr, infinite⟩
      ⟨⟨none, 0, txEventFlagsId⟩, Function.update (fun _ => none) 0 (some ⟨1, txOr, infinite⟩)⟩
      _ _ rfl rfl ⟨⟨1, txOr, infinite⟩, rfl, by decide⟩ (by decide) rfl⟩

end UsbxNxdk.EventFlagsHandOff
