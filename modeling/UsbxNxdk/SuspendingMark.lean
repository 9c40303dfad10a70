import UsbxNxdk.SelfSuspension

/-! The suspending mark of a thread that any number of other threads suspend
and resume, interleaved at every access, with kernel calls that may fail. -/

namespace UsbxNxdk.SuspendingMark

open Execution Thread SelfSuspension

inductive Call where
  | suspend (status : ULONG)
  | resume (status : ULONG)
  deriving DecidableEq, Repr

def Call.run (block : TxThread) : Call → UINT × TxThread
  | .suspend status => txThreadSuspend block status
  | .resume status => txThreadResume block status

inductive Access where
  | raise
  | kernel
  | record (state : UINT)
  | lower
  deriving DecidableEq, Repr

def Access.apply (block : TxThread) : Access → TxThread
  | .raise => raiseMark block
  | .kernel => block
  | .record state => recordState state block
  | .lower => lowerMark block

/-- What a call does, in program order. -/
def Call.accesses : Call → List Access
  | .suspend status =>
      if ntSuccess status then [.raise, .kernel, .record txSuspended, .lower]
      else [.raise, .kernel]
  | .resume status =>
      if ntSuccess status then [.kernel, .record txReady, .lower] else [.kernel]

def Call.succeeds : Call → Bool
  | .suspend status => ntSuccess status
  | .resume status => ntSuccess status

theorem accesses_run (call : Call) (block : TxThread) :
    call.run block =
      (if call.succeeds then txSuccess else txResumeError,
        call.accesses.foldl Access.apply block) := by
  cases call with
  | suspend status =>
      cases answer : ntSuccess status <;>
        simp [Call.run, Call.succeeds, Call.accesses, Access.apply, txThreadSuspend, answer,
          raiseMark, lowerMark, recordState]
  | resume status =>
      cases answer : ntSuccess status <;>
        simp [Call.run, Call.succeeds, Call.accesses, Access.apply, txThreadResume, answer,
          lowerMark, recordState]

/-- A call in flight with what it has still to do. `before` is a history
variable: the block as it was when the call began, with what others have written
since then and without the writes of the call itself. -/
structure Flight where
  call : Call
  remaining : List Access
  before : TxThread
  deriving DecidableEq, Repr

structure State (Caller : Type) where
  block : TxThread
  programs : Caller → List Call
  flights : Caller → Option Flight

section States

variable {Caller : Type}

def quiet (block : TxThread) (programs : Caller → List Call) : State Caller :=
  { block := block, programs := programs, flights := fun _ => none }

def Settled (state : State Caller) : Prop :=
  (∀ caller, state.flights caller = none) → state.block.txThreadSuspending = txFalse

/-- A call that returns an error has left the state and the mark to the others. -/
def ErrorLeaves (state : State Caller) (caller : Caller) : Prop :=
  ∀ flight, state.flights caller = some flight → flight.remaining = [] →
    (flight.call.run flight.before).1 ≠ txSuccess →
    state.block.txThreadState = flight.before.txThreadState ∧
      state.block.txThreadSuspending = flight.before.txThreadSuspending

end States

section System

variable {Caller : Type} [DecidableEq Caller]

def accessFlights (flights : Caller → Option Flight) (caller : Caller) (flight : Flight)
    (access : Access) (remaining : List Access) : Caller → Option Flight :=
  Function.update
    (fun other => (flights other).map fun flight =>
      { flight with before := access.apply flight.before })
    caller (some { flight with remaining := remaining })

/-- The next step of one thread: it begins a call, makes the next access of the
one in flight, or returns from it. -/
def step (state : State Caller) (caller : Caller) : Option (State Caller) :=
  match state.flights caller with
  | none =>
      match state.programs caller with
      | [] => none
      | call :: rest =>
          some { state with
            programs := Function.update state.programs caller rest
            flights := Function.update state.flights caller
              (some ⟨call, call.accesses, state.block⟩) }
  | some flight =>
      match flight.remaining with
      | [] => some { state with flights := Function.update state.flights caller none }
      | access :: remaining =>
          some { state with
            block := access.apply state.block
            flights := accessFlights state.flights caller flight access remaining }

def MarkKept (block : TxThread) (programs : Caller → List Call) (schedule : List Caller) : Prop :=
  Always step Settled (quiet block programs) schedule ∧
    Along step ErrorLeaves (quiet block programs) schedule

end System

def Call.SuspendSucceeds : Call → Prop
  | .suspend status => ntSuccess status = true
  | .resume _ => True

/-- A thread that begins a call does not begin a suspend that the kernel refuses. -/
def Accepted {Caller : Type} (state : State Caller) (caller : Caller) : Prop :=
  state.flights caller = none →
    ∀ call rest, state.programs caller = call :: rest → call.SuspendSucceeds

theorem apply_mark (access : Access) (block : TxThread) :
    (access.apply block).txThreadSuspending =
      if access = .raise then txTrue else if access = .lower then txFalse
      else block.txThreadSuspending := by
  cases access <;> rfl

/-! ### When every suspend succeeds -/

def LowersBehind : List Access → Prop
  | [] => True
  | access :: rest => (access = .raise → .lower ∈ rest) ∧ LowersBehind rest

structure FlightSound (block : TxThread) (flight : Flight) : Prop where
  lowers : LowersBehind flight.remaining
  failed : flight.call.succeeds = false →
    flight.before = block ∧ ∀ access ∈ flight.remaining, access = .kernel

theorem accesses_sound (call : Call) (block : TxThread) (succeeds : call.SuspendSucceeds) :
    FlightSound block ⟨call, call.accesses, block⟩ := by
  cases call with
  | suspend status =>
      have answer : ntSuccess status = true := succeeds
      constructor
      · simp [Call.accesses, answer, LowersBehind]
      · intro failed
        exact absurd answer (Bool.eq_false_iff.mp failed)
  | resume status =>
      constructor
      · cases answer : ntSuccess status <;> simp [Call.accesses, answer, LowersBehind]
      · intro failed
        have answer : ntSuccess status = false := failed
        simp [Call.accesses, answer]

theorem run_status (call : Call) (block : TxThread) :
    (call.run block).1 ≠ txSuccess → call.succeeds = false := by
  rw [accesses_run]
  cases call.succeeds with
  | true => exact fun error => absurd rfl error
  | false => exact fun _ => rfl

section Invariant

variable {Caller : Type}

structure Invariant (state : State Caller) : Prop where
  flights : ∀ caller flight, state.flights caller = some flight → FlightSound state.block flight
  raised : state.block.txThreadSuspending = txFalse ∨
    ∃ caller flight, state.flights caller = some flight ∧ .lower ∈ flight.remaining

theorem quiet_invariant (block : TxThread) (programs : Caller → List Call)
    (low : block.txThreadSuspending = txFalse) : Invariant (quiet block programs) where
  flights := by
    intro caller flight present
    cases present
  raised := Or.inl low

theorem invariant_settled (state : State Caller) (invariant : Invariant state) :
    Settled state := by
  intro idle
  rcases invariant.raised with low | ⟨holder, flight, present, _⟩
  · exact low
  · rw [idle holder] at present
    cases present

theorem invariant_errorLeaves (state : State Caller) (caller : Caller)
    (invariant : Invariant state) : ErrorLeaves state caller := by
  intro flight acting _ error
  have unwritten :=
    ((invariant.flights caller flight acting).failed (run_status flight.call _ error)).1
  rw [unwritten]
  exact ⟨rfl, rfl⟩

end Invariant

section Steps

variable {Caller : Type} [DecidableEq Caller]

theorem accessFlights_acting (flights : Caller → Option Flight) (caller : Caller)
    (flight : Flight) (access : Access) (remaining : List Access) :
    accessFlights flights caller flight access remaining caller =
      some { flight with remaining := remaining } :=
  Function.update_self ..

theorem accessFlights_some {flights : Caller → Option Flight} {caller other : Caller}
    {flight found : Flight} {access : Access} {remaining : List Access}
    (present : accessFlights flights caller flight access remaining other = some found) :
    (other = caller ∧ found = { flight with remaining := remaining }) ∨
      (other ≠ caller ∧ ∃ earlier, flights other = some earlier ∧
        found = { earlier with before := access.apply earlier.before }) := by
  unfold accessFlights at present
  by_cases same : other = caller
  · rw [same, Function.update_self] at present
    exact Or.inl ⟨same, (Option.some.inj present).symm⟩
  · rw [Function.update_of_ne same] at present
    rcases Option.map_eq_some_iff.mp present with ⟨earlier, before, after⟩
    exact Or.inr ⟨same, earlier, before, after.symm⟩

theorem accessFlights_lower {flights : Caller → Option Flight} {caller other : Caller}
    {flight earlier : Flight} {access : Access} {remaining : List Access}
    (acting : flights caller = some flight) (order : flight.remaining = access :: remaining)
    (kept : access ≠ .lower) (present : flights other = some earlier)
    (lowers : .lower ∈ earlier.remaining) :
    ∃ holder found, accessFlights flights caller flight access remaining holder = some found ∧
      .lower ∈ found.remaining := by
  unfold accessFlights
  by_cases same : other = caller
  · rw [same, acting] at present
    cases present
    rw [order, List.mem_cons] at lowers
    rcases lowers with now | later
    · exact absurd now.symm kept
    · exact ⟨caller, _, accessFlights_acting .., later⟩
  · refine ⟨other, { earlier with before := access.apply earlier.before }, ?_, lowers⟩
    rw [Function.update_of_ne same, present]
    rfl

theorem begin_invariant {state : State Caller} {caller : Caller} {call : Call}
    {rest : List Call} (invariant : Invariant state) (idle : state.flights caller = none)
    (succeeds : call.SuspendSucceeds) :
    Invariant { state with
      programs := Function.update state.programs caller rest
      flights := Function.update state.flights caller
        (some ⟨call, call.accesses, state.block⟩) } where
  flights := by
    intro other flight present
    change Function.update state.flights caller _ other = some flight at present
    by_cases same : other = caller
    · rw [same, Function.update_self] at present
      cases present
      exact accesses_sound call state.block succeeds
    · rw [Function.update_of_ne same] at present
      exact invariant.flights other flight present
  raised := by
    rcases invariant.raised with lowered | ⟨holder, flight, present, lowers⟩
    · exact Or.inl lowered
    · refine Or.inr ⟨holder, flight, ?_, lowers⟩
      have other : holder ≠ caller := by
        intro same
        rw [same, idle] at present
        cases present
      exact (Function.update_of_ne other _ _).trans present

theorem return_invariant {state : State Caller} {caller : Caller} {flight : Flight}
    (invariant : Invariant state) (acting : state.flights caller = some flight)
    (finished : flight.remaining = []) :
    Invariant { state with flights := Function.update state.flights caller none } where
  flights := by
    intro other found present
    change Function.update state.flights caller none other = some found at present
    by_cases same : other = caller
    · rw [same, Function.update_self] at present
      cases present
    · rw [Function.update_of_ne same] at present
      exact invariant.flights other found present
  raised := by
    rcases invariant.raised with lowered | ⟨holder, found, present, lowers⟩
    · exact Or.inl lowered
    · refine Or.inr ⟨holder, found, ?_, lowers⟩
      have other : holder ≠ caller := by
        intro same
        rw [same, acting] at present
        cases present
        rw [finished] at lowers
        cases lowers
      exact (Function.update_of_ne other _ _).trans present

theorem access_invariant {state : State Caller} {caller : Caller} {flight : Flight}
    {access : Access} {remaining : List Access} (invariant : Invariant state)
    (acting : state.flights caller = some flight)
    (order : flight.remaining = access :: remaining) :
    Invariant { state with
      block := access.apply state.block
      flights := accessFlights state.flights caller flight access remaining } where
  flights := by
    intro other found present
    have own := invariant.flights caller flight acting
    have lowers := own.lowers
    rw [order] at lowers
    rcases accessFlights_some present with ⟨_, rfl⟩ | ⟨_, earlier, before, rfl⟩
    · constructor
      · exact lowers.2
      · intro failed
        rcases own.failed failed with ⟨unwritten, harmless⟩
        rw [order] at harmless
        constructor
        · rw [harmless access List.mem_cons_self]
          exact unwritten
        · exact fun access member => harmless access (List.mem_cons_of_mem _ member)
    · have sound := invariant.flights other earlier before
      constructor
      · exact sound.lowers
      · intro failed
        rcases sound.failed failed with ⟨unwritten, harmless⟩
        exact ⟨congrArg access.apply unwritten, harmless⟩
  raised := by
    have lowers := (invariant.flights caller flight acting).lowers
    rw [order] at lowers
    rw [apply_mark]
    by_cases raises : access = .raise
    · exact Or.inr ⟨caller, _, accessFlights_acting .., lowers.1 raises⟩
    · by_cases lowered : access = .lower
      · rw [if_neg raises, if_pos lowered]
        exact Or.inl rfl
      · rw [if_neg raises, if_neg lowered]
        rcases invariant.raised with low | ⟨holder, earlier, present, pending⟩
        · exact Or.inl low
        · exact Or.inr (accessFlights_lower acting order lowered present pending)

theorem step_invariant (state : State Caller) (caller : Caller) (next : State Caller)
    (invariant : Invariant state) (accepted : Accepted state caller)
    (taken : step state caller = some next) : Invariant next := by
  unfold step at taken
  split at taken
  case h_1 idle =>
      split at taken
      case h_1 => cases taken
      case h_2 call rest program =>
          cases taken
          exact begin_invariant invariant idle (accepted idle call rest program)
  case h_2 flight acting =>
      split at taken
      case h_1 finished =>
          cases taken
          exact return_invariant invariant acting finished
      case h_2 access remaining order =>
          cases taken
          exact access_invariant invariant acting order

theorem step_programs {state next : State Caller} {caller : Caller}
    (taken : step state caller = some next) (other : Caller) :
    ∀ call ∈ next.programs other, call ∈ state.programs other := by
  unfold step at taken
  split at taken
  case h_1 =>
      split at taken
      case h_1 => cases taken
      case h_2 first rest program =>
          cases taken
          intro call member
          change call ∈ Function.update state.programs caller rest other at member
          by_cases same : other = caller
          · rw [same, Function.update_self] at member
            rw [same, program]
            exact List.mem_cons_of_mem first member
          · rw [Function.update_of_ne same] at member
            exact member
  case h_2 =>
      split at taken <;> cases taken <;> exact fun call member => member

theorem programs_accepted (block : TxThread) (programs : Caller → List Call)
    (succeed : ∀ caller, ∀ call ∈ programs caller, call.SuspendSucceeds)
    (schedule : List Caller) : Along step Accepted (quiet block programs) schedule := by
  have always := always_invariant step
    (fun state => ∀ caller, ∀ call ∈ state.programs caller, call.SuspendSucceeds)
    (fun _ _ _ all taken caller call member =>
      all caller call (step_programs taken caller call member))
    (quiet block programs) schedule succeed
  refine along_of_always step ?_ _ schedule always
  intro state caller next all _ _ call rest program
  apply all caller
  rw [program]
  exact List.mem_cons_self

theorem accepted_kept (block : TxThread) (programs : Caller → List Call)
    (low : block.txThreadSuspending = txFalse) (schedule : List Caller)
    (accepted : Along step Accepted (quiet block programs) schedule) :
    MarkKept block programs schedule := by
  have always := always_of_along step Invariant Accepted step_invariant _ schedule
    (quiet_invariant block programs low) accepted
  constructor
  · exact always_mono step invariant_settled _ schedule always
  · refine along_of_always step ?_ _ schedule always
    exact fun state caller _ invariant _ => invariant_errorLeaves state caller invariant

/-! ### One thread that runs alone -/

theorem run_accesses (block before : TxThread) (programs : Caller → List Call) (caller : Caller)
    (call : Call) (remaining : List Access) :
    run step
        { block := block, programs := programs
          flights := Function.update (fun _ => none) caller (some ⟨call, remaining, before⟩) }
        (List.replicate (remaining.length + 1) caller) =
      some (quiet (remaining.foldl Access.apply block) programs) := by
  induction remaining generalizing block with
  | nil =>
      simp [step, quiet]
  | cons access remaining ih =>
      rw [List.length_cons, List.replicate_succ, run_cons]
      have flights : accessFlights
          (Function.update (fun _ => none) caller (some ⟨call, access :: remaining, before⟩))
          caller ⟨call, access :: remaining, before⟩ access remaining =
          Function.update (fun _ => none) caller (some ⟨call, remaining, before⟩) := by
        funext other
        by_cases same : other = caller
        · simp [accessFlights, same]
        · simp [accessFlights, same]
      simp only [step, Function.update_self, flights, Option.bind_some]
      exact ih (access.apply block)

theorem run_call (block : TxThread) (programs : Caller → List Call) (caller : Caller)
    {call : Call} {rest : List Call} (next : programs caller = call :: rest) :
    run step (quiet block programs) (List.replicate (call.accesses.length + 2) caller) =
      some (quiet (call.run block).2 (Function.update programs caller rest)) := by
  rw [List.replicate_succ, run_cons, accesses_run]
  have begun : step (quiet block programs) caller =
      some { block := block, programs := Function.update programs caller rest
             flights := Function.update (fun _ => none) caller
               (some ⟨call, call.accesses, block⟩) } := by
    simp only [step, quiet, next]
  rw [begun, Option.bind_some]
  exact run_accesses block block _ caller call call.accesses

theorem run_calls (block : TxThread) (programs : Caller → List Call) (caller : Caller)
    {front rest : List Call} (next : programs caller = front ++ rest) :
    ∃ schedule, run step (quiet block programs) schedule =
      some (quiet (front.foldl (fun block call => (call.run block).2) block)
        (Function.update programs caller rest)) := by
  induction front generalizing block programs with
  | nil =>
      refine ⟨[], ?_⟩
      rw [run_nil, ← List.nil_append rest, ← next, Function.update_eq_self]
      rfl
  | cons call front ih =>
      have first := run_call block programs caller next
      rcases ih (call.run block).2 (Function.update programs caller (front ++ rest))
        (Function.update_self ..) with ⟨schedule, later⟩
      refine ⟨List.replicate (call.accesses.length + 2) caller ++ schedule, ?_⟩
      rw [run_append, first, Option.bind_some]
      rw [Function.update_idem] at later
      exact later

theorem kept_succeeds (block : TxThread) (programs : Caller → List Call)
    (kept : ∀ schedule, MarkKept block programs schedule) (caller : Caller) (status : ULONG)
    (member : .suspend status ∈ programs caller) : ntSuccess status = true := by
  by_contra refused
  have failed : ntSuccess status = false := Bool.eq_false_iff.mpr refused
  rcases List.append_of_mem member with ⟨front, rest, program⟩
  rw [← List.singleton_append, ← List.append_assoc] at program
  rcases run_calls block programs caller program with ⟨schedule, executed⟩
  have settled := (always_iff step Settled _ schedule).mp (kept schedule).1 schedule [] _
    (List.append_nil schedule).symm executed
  have lowered := settled fun _ => rfl
  rw [List.foldl_append] at lowered
  have raised : ∀ start : TxThread,
      (Call.run start (.suspend status)).2.txThreadSuspending = txTrue := by
    intro start
    rw [Call.run, suspend_refused start status failed]
    rfl
  have apart : txTrue ≠ txFalse := by decide
  exact apart ((raised _).symm.trans lowered)

/-- For every thread that `_tx_thread_create` made, whatever the other threads
are going to call: the mark is kept in every interleaving that begins no refused
suspend, and it is kept in all of them exactly when no suspend is refused. -/
theorem mark_kept_iff (arguments : CreateArguments) (answers : CreateAnswers) (block : TxThread)
    (programs : Caller → List Call) :
    (∀ schedule,
      Along step Accepted (quiet (txThreadCreate arguments answers block).2 programs) schedule →
        MarkKept (txThreadCreate arguments answers block).2 programs schedule) ∧
    ((∀ schedule, MarkKept (txThreadCreate arguments answers block).2 programs schedule) ↔
      ∀ caller, ∀ call ∈ programs caller, call.SuspendSucceeds) := by
  have sufficient := accepted_kept (txThreadCreate arguments answers block).2 programs
    (txThreadCreate_state arguments answers block).2
  refine ⟨sufficient, ?_, ?_⟩
  · intro kept caller call member
    cases call with
    | suspend status => exact kept_succeeds _ programs kept caller status member
    | resume status => trivial
  · intro succeed schedule
    exact sufficient schedule (programs_accepted _ programs succeed schedule)

end Steps

def ended : TxThread :=
  (txThreadCreate ⟨none, 0, 0, 1⟩ ⟨8, 4, none⟩
    ⟨0, 0, 0, 0, 0, 0, none, 0, 0, 0⟩).2

def lateSuspend : Unit → List Call := fun _ => [.suspend 0xC000004B]

/-- The suspend returns its error and leaves the mark raised. -/
theorem late_suspend_leaves_mark :
    (∃ final, run step (quiet ended lateSuspend) [(), (), (), ()] = some final ∧
      (∀ caller, final.flights caller = none) ∧ final.block.txThreadSuspending = txTrue) ∧
      ¬ ∀ schedule, MarkKept ended lateSuspend schedule := by
  refine ⟨⟨_, run_call ended lateSuspend () rfl, fun _ => rfl, rfl⟩, ?_⟩
  intro kept
  have accepted := kept_succeeds ended lateSuspend kept () 0xC000004B (List.mem_singleton_self _)
  exact absurd accepted (by decide)

end UsbxNxdk.SuspendingMark
