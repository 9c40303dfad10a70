import UsbxNxdk.ThreadOutline

/-! What holds over the lives of any number of threads. -/

namespace UsbxNxdk.ThreadLives

open Execution LinkedRing Thread ThreadStart ThreadTable Win32

/-- What the threads have done so far: a thread that is awake was created so or
has been resumed, and one that is still loading has loaded what its creation was
given and has called nothing. -/
structure Turns (system : System) : Prop where
  awake : ∀ handle thread arguments, system.threads handle = some thread →
    system.created[thread.serial]? = some arguments → arguments.autoStart = 0 →
    thread.suspendCount = 0 → thread.serial ∈ system.resumed
  loaded : ∀ handle thread arguments entry parameter, system.threads handle = some thread →
    system.created[thread.serial]? = some arguments →
    thread.stage = .loading entry parameter →
    (∀ word ∈ entry, word = arguments.entryFunction) ∧
      (∀ word ∈ parameter, word = arguments.entryInput) ∧
      thread.serial ∉ system.calls.map Prod.fst
  faithful : CallsFaithful system

/-! ### Steps and the outline -/

section Outlines

variable {system : System} {address : Nat} {handle : HANDLE}

theorem outline_setThread {thread : KernelThread} (changed : KernelThread)
    (found : system.threads handle = some thread) (block : changed.block = thread.block)
    (serial : changed.serial = thread.serial) :
    (system.setThread handle (some changed)).outline = system.outline := by
  apply Outline.ext
  · rfl
  · funext other
    by_cases own : other = handle
    · simp only [System.outline, System.setThread, own, Function.update_self, found,
        Option.map_some, block, serial]
    · simp only [System.outline, System.setThread, Function.update_of_ne own]
  · rfl
  · rfl
  · rfl

theorem outline_setBlock {block : TxThread}
    (thread : block.thread = (system.table.blocks address).thread)
    (entry : block.txThreadEntry = (system.table.blocks address).txThreadEntry)
    (parameter : block.txThreadEntryParameter =
      (system.table.blocks address).txThreadEntryParameter) :
    (system.setBlock address block).outline = system.outline := by
  apply Outline.ext
  · rfl
  · rfl
  · funext other
    by_cases own : other = address
    · simp only [System.outline, System.setBlock, own, Function.update_self, thread]
    · simp only [System.outline, System.setBlock, Function.update_of_ne own]
  · funext other
    by_cases own : other = address
    · simp only [System.outline, System.setBlock, own, Function.update_self, entry, parameter]
    · simp only [System.outline, System.setBlock, Function.update_of_ne own]
  · rfl

theorem outline_resume (system : System) (address : Nat) (status : ULONG) :
    (system.setBlock address
      (txThreadResume (system.table.blocks address) status).2).outline = system.outline := by
  apply outline_setBlock
  all_goals cases accepted : ntSuccess status <;> simp [txThreadResume, accepted]

theorem outline_suspend (system : System) (address : Nat) (status : ULONG) :
    (system.setBlock address
      (txThreadSuspend (system.table.blocks address) status).2).outline = system.outline := by
  apply outline_setBlock
  all_goals cases accepted : ntSuccess status <;> simp [txThreadSuspend, accepted]

theorem outline_store (system : System) (address : Nat) (arguments : CreateArguments)
    (answers : CreateAnswers) (write : BlockWrite) :
    ((system.writeBlock address arguments answers write).setPhase address
        (.creating arguments answers (later write))).outline =
      system.outline.store address arguments answers write := by
  have fields := write_fields arguments answers (system.table.blocks address) write
  apply Outline.ext
  · rfl
  · rfl
  · funext other
    by_cases own : other = address
    · simp only [System.outline, System.setPhase, System.writeBlock, Table.write, Outline.store,
        own, Function.update_self, fields.1]
    · simp only [System.outline, System.setPhase, System.writeBlock, Table.write, Outline.store,
        Function.update_of_ne own]
  · funext other
    by_cases own : other = address
    · simp only [System.outline, System.setPhase, System.writeBlock, Table.write, Outline.store,
        own, Function.update_self, fields.2.1, fields.2.2]
    · simp only [System.outline, System.setPhase, System.writeBlock, Table.write, Outline.store,
        Function.update_of_ne own]
  · rfl

theorem outline_make {written made : System} {arguments : CreateArguments}
    {answers : CreateAnswers}
    (stored : written.outline =
      { system.outline with
        phase := Function.update system.phase address
          (.creating arguments answers (later .createThread)) })
    (called : written.makeThread address arguments answers.handle = some made) :
    made.outline = system.outline.make address arguments answers := by
  have phases := congrArg Outline.phase stored
  have threads := congrArg Outline.threads stored
  have handles := congrArg Outline.handle stored
  have entries := congrArg Outline.entry stored
  have created : written.created = system.created := congrArg Outline.created stored
  by_cases null : answers.handle = 0
  · rw [System.makeThread, if_pos null] at called
    cases called
    rw [stored, Outline.make, if_pos null, if_pos null]
    rfl
  · rw [System.makeThread, if_neg null] at called
    by_cases used : written.threads answers.handle ≠ none
    · rw [if_pos used] at called
      cases called
    · rw [if_neg used] at called
      cases called
      apply Outline.ext
      · exact phases
      · funext other
        by_cases own : other = answers.handle
        · simp only [System.outline, System.setThread, Outline.make, own, if_neg null,
            Function.update_self, Option.map_some, created]
        · simp only [System.outline, System.setThread, Outline.make, if_neg null,
            Function.update_of_ne own]
          exact congrFun threads other
      · exact handles
      · exact entries
      · simp only [System.outline, Outline.make, if_neg null, created]

end Outlines

/-! ### Steps and what the threads have done -/

section Steps

variable {system next : System} {handle : HANDLE}

theorem calls_resumed (faithful : CallsFaithful system) (calls : next.calls = system.calls)
    (created : ∀ (serial : Nat) (arguments : CreateArguments),
      system.created[serial]? = some arguments → next.created[serial]? = some arguments)
    (resumed : ∀ serial ∈ system.resumed, serial ∈ next.resumed) : CallsFaithful next where
  once := by
    rw [calls]
    exact faithful.once
  own call member := by
    rw [calls] at member
    rcases faithful.own call member with ⟨arguments, present, same, woken⟩
    exact ⟨arguments, created _ _ present, same, fun auto => resumed _ (woken auto)⟩

theorem turns_kept (turns : Turns system)
    (threads : ∀ handle thread, next.threads handle = some thread →
      system.threads handle = some thread)
    (created : next.created = system.created) (resumed : next.resumed = system.resumed)
    (calls : next.calls = system.calls) : Turns next where
  awake other thread arguments found present := by
    rw [created] at present
    rw [resumed]
    exact turns.awake other thread arguments (threads other thread found) present
  loaded other thread arguments entry parameter found present := by
    rw [created] at present
    rw [calls]
    exact turns.loaded other thread arguments entry parameter (threads other thread found) present
  faithful := by
    apply calls_resumed turns.faithful calls
    · rw [created]
      exact fun _ _ present => present
    · rw [resumed]
      exact fun _ member => member

theorem turns_thread (next : System) {thread : KernelThread} (changed : KernelThread)
    (placed : system.outline.Placed)
    (turns : Turns system) (found : system.threads handle = some thread)
    (threads : next.threads = Function.update system.threads handle (some changed))
    (serial : changed.serial = thread.serial) (created : next.created = system.created)
    (resumed : ∀ serial ∈ system.resumed, serial ∈ next.resumed)
    (calls : ∀ call ∈ next.calls, call ∈ system.calls ∨ call.1 = thread.serial)
    (awake : changed.suspendCount = 0 →
      thread.suspendCount = 0 ∨ thread.serial ∈ next.resumed)
    (loaded : ∀ arguments entry parameter, system.created[thread.serial]? = some arguments →
      changed.stage = .loading entry parameter →
      (∀ word ∈ entry, word = arguments.entryFunction) ∧
        (∀ word ∈ parameter, word = arguments.entryInput) ∧
        thread.serial ∉ next.calls.map Prod.fst)
    (faithful : CallsFaithful next) : Turns next where
  awake other known arguments present given auto zero := by
    rw [created] at given
    rw [threads] at present
    by_cases own : other = handle
    · rw [own, Function.update_self] at present
      cases present
      rw [serial] at given ⊢
      rcases awake zero with before | woken
      · exact resumed _ (turns.awake handle thread arguments found given auto before)
      · exact woken
    · rw [Function.update_of_ne own] at present
      exact resumed _ (turns.awake other known arguments present given auto zero)
  loaded other known arguments entry parameter present given loading := by
    rw [created] at given
    rw [threads] at present
    by_cases own : other = handle
    · rw [own, Function.update_self] at present
      cases present
      rw [serial] at given ⊢
      exact loaded arguments entry parameter given loading
    · rw [Function.update_of_ne own] at present
      rcases turns.loaded other known arguments entry parameter present given loading with
        ⟨function, input, uncalled⟩
      refine ⟨function, input, ?_⟩
      intro member
      rcases List.mem_map.mp member with ⟨call, listed, same⟩
      rcases calls call listed with old | mine
      · exact uncalled (List.mem_map.mpr ⟨call, old, same⟩)
      · have equal : known.serial = thread.serial := same.symm.trans mine
        have knownAt : system.outline.threads other = some (known.block, thread.serial) := by
          simp only [System.outline, present, Option.map_some, equal]
        have threadAt : system.outline.threads handle = some (thread.block, thread.serial) := by
          simp only [System.outline, found, Option.map_some]
        exact own (placed.serials other handle _ _ _ knownAt threadAt)
  faithful := faithful

theorem created_awake {arguments : CreateArguments} (auto : arguments.autoStart = 0) :
    createdSuspendCount (creationFlags arguments) = 1 := by
  rw [creationFlags, if_neg (not_not.mpr auto)]
  rfl

theorem turns_make {written made : System} {address : Nat} {arguments : CreateArguments}
    (turns : Turns written)
    (below : ∀ other thread, written.threads other = some thread →
      thread.serial < written.created.length)
    (called : written.makeThread address arguments handle = some made) : Turns made := by
  by_cases null : handle = 0
  · rw [System.makeThread, if_pos null] at called
    cases called
    exact turns
  · rw [System.makeThread, if_neg null] at called
    by_cases used : written.threads handle ≠ none
    · rw [if_pos used] at called
      cases called
    · rw [if_neg used] at called
      cases called
      constructor
      · intro other thread given found present auto awake
        by_cases own : other = handle
        · simp only [System.setThread, own, Function.update_self] at found
          cases found
          rw [List.getElem?_concat_length] at present
          cases present
          rw [created_awake auto] at awake
          cases awake
        · simp only [System.setThread, Function.update_of_ne own] at found
          rw [List.getElem?_append_left (below other thread found)] at present
          exact turns.awake other thread given found present auto awake
      · intro other thread given entry parameter found present loading
        by_cases own : other = handle
        · simp only [System.setThread, own, Function.update_self] at found
          cases found
          cases loading
          refine ⟨fun _ absent => (by cases absent), fun _ absent => (by cases absent), ?_⟩
          intro member
          rcases List.mem_map.mp member with ⟨call, listed, same⟩
          rcases turns.faithful.own call listed with ⟨_, made, _⟩
          rw [same, List.getElem?_eq_none (Nat.le_refl _)] at made
          cases made
        · simp only [System.setThread, Function.update_of_ne own] at found
          rw [List.getElem?_append_left (below other thread found)] at present
          exact turns.loaded other thread given entry parameter found present loading
      · refine calls_resumed turns.faithful ?_ ?_ ?_
        · rfl
        · intro serial given present
          rw [List.getElem?_append_left (List.getElem?_eq_some_iff.mp present).1]
          exact present
        · exact fun _ member => member

end Steps

/-! ### One step -/

section Cases

variable {system next : System}

theorem proceed_cases {address : Nat} (proceeded : system.proceed address = some next) :
    (∃ arguments answers write rest,
        system.phase address = .creating arguments answers (write :: rest) ∧
          if write = .createThread then
            ((system.writeBlock address arguments answers write).setPhase address
              (.creating arguments answers rest)).makeThread address arguments answers.handle =
                some next
          else
            next = (system.writeBlock address arguments answers write).setPhase address
              (.creating arguments answers rest)) ∨
      (∃ arguments answers, system.phase address = .creating arguments answers [] ∧
        next =
          { system.setPhase address .live with
            table := { system.table with
              links := system.table.links.insertTail .head (.block address) } }) := by
  cases phase : system.phase address with
  | free => simp [System.proceed, phase] at proceeded
  | live => simp [System.proceed, phase] at proceeded
  | creating arguments answers remaining =>
      cases remaining with
      | nil =>
          simp only [System.proceed, phase] at proceeded
          cases proceeded
          exact Or.inr ⟨arguments, answers, rfl, rfl⟩
      | cons write rest =>
          refine Or.inl ⟨arguments, answers, write, rest, rfl, ?_⟩
          simp only [System.proceed, phase] at proceeded
          by_cases make : write = .createThread
          · rw [if_pos make] at proceeded ⊢
            exact proceeded
          · rw [if_neg make] at proceeded ⊢
            exact (Option.some.inj proceeded).symm

theorem advance_some {handle : HANDLE} {act : KernelThread → Option System}
    (advanced : system.advance handle act = some next) :
    ∃ thread, system.threads handle = some thread ∧ thread.suspendCount = 0 ∧
      act thread = some next := by
  cases found : system.threads handle with
  | none => simp [System.advance, found] at advanced
  | some thread =>
      simp only [System.advance, found] at advanced
      by_cases awake : thread.suspendCount = 0
      · rw [if_pos awake] at advanced
        exact ⟨thread, rfl, awake, advanced⟩
      · rw [if_neg awake] at advanced
        cases advanced

theorem serial_below {handle : HANDLE} {thread : KernelThread} (placed : system.outline.Placed)
    (found : system.threads handle = some thread) :
    thread.serial < system.created.length := by
  have known : system.outline.threads handle = some (thread.block, thread.serial) := by
    simp only [System.outline, found, Option.map_some]
  exact Outline.given_below placed known

theorem block_given {handle : HANDLE} {thread : KernelThread} {arguments : CreateArguments}
    (placed : system.outline.Placed) (found : system.threads handle = some thread)
    (present : system.created[thread.serial]? = some arguments) :
    (system.table.blocks thread.block).txThreadEntry = arguments.entryFunction ∧
      (system.table.blocks thread.block).txThreadEntryParameter = arguments.entryInput := by
  have known : system.outline.threads handle = some (thread.block, thread.serial) := by
    simp only [System.outline, found, Option.map_some]
  rcases placed.given handle _ _ known with ⟨given, made, holds⟩
  have same : given = arguments := Option.some.inj (made.symm.trans present)
  rw [same] at holds
  exact Prod.mk.inj holds

theorem create_lives {address : Nat} {arguments : CreateArguments} {answers : CreateAnswers}
    (placed : system.outline.Placed) (turns : Turns system)
    (free : system.phase address = .free) :
    (system.setPhase address (.creating arguments answers blockWrites)).outline.Placed ∧
      Turns (system.setPhase address (.creating arguments answers blockWrites)) :=
  ⟨Outline.begin_placed placed free, turns_kept turns (fun _ _ found => found) rfl rfl rfl⟩

theorem proceed_lives {address : Nat} (placed : system.outline.Placed) (turns : Turns system)
    (proceeded : system.proceed address = some next) :
    next.outline.Placed ∧ Turns next := by
  rcases proceed_cases proceeded with
    ⟨arguments, answers, write, rest, creating, stepped⟩ | ⟨arguments, answers, creating, rfl⟩
  · have after : rest = later write := Outline.later_of_creating placed creating
    subst after
    have kept : Turns ((system.writeBlock address arguments answers write).setPhase address
        (.creating arguments answers (later write))) :=
      turns_kept turns (fun _ _ found => found) rfl rfl rfl
    by_cases make : write = .createThread
    · subst make
      rw [if_pos rfl] at stepped
      have stored := outline_store system address arguments answers .createThread
      have unchanged : (system.outline.store address arguments answers .createThread) =
          { system.outline with
            phase := Function.update system.phase address
              (.creating arguments answers (later .createThread)) } := by
        apply Outline.ext
        · rfl
        · rfl
        · exact Function.update_eq_self address _
        · exact Function.update_eq_self address _
        · rfl
      have outline := outline_make (stored.trans unchanged) stepped
      have fresh : answers.handle ≠ 0 → system.outline.threads answers.handle = none := by
        intro null
        rw [System.makeThread, if_neg null] at stepped
        by_cases used : system.threads answers.handle ≠ none
        · have taken := if_pos used ▸ stepped
          cases taken
        · simp only [System.outline, not_not.mp used, Option.map_none]
      rw [outline]
      refine ⟨Outline.make_placed placed creating fresh, ?_⟩
      have below : ∀ other thread, system.threads other = some thread →
          thread.serial < system.created.length := fun _ _ found => serial_below placed found
      exact turns_make kept below stepped
    · rw [if_neg make] at stepped
      subst stepped
      rw [outline_store]
      exact ⟨Outline.store_placed placed make creating, kept⟩
  · exact ⟨Outline.finish_placed placed creating,
      turns_kept turns (fun _ _ found => found) rfl rfl rfl⟩

theorem loading_lives {handle : HANDLE} {thread : KernelThread} {before after : Option ULONG}
    {others changed : Option ULONG} (placed : system.outline.Placed) (turns : Turns system)
    (found : system.threads handle = some thread) (loading : thread.stage = .loading before others)
    (entry : ∀ arguments, system.created[thread.serial]? = some arguments → ∀ word ∈ after,
      word ∈ before ∨ word = arguments.entryFunction)
    (parameter : ∀ arguments, system.created[thread.serial]? = some arguments → ∀ word ∈ changed,
      word ∈ others ∨ word = arguments.entryInput) :
    (system.setThread handle
        (some { thread with stage := .loading after changed })).outline.Placed ∧
      Turns (system.setThread handle (some { thread with stage := .loading after changed })) := by
  constructor
  · rw [outline_setThread { thread with stage := .loading after changed } found rfl rfl]
    exact placed
  · refine turns_thread _ { thread with stage := .loading after changed } placed turns found rfl
      rfl rfl (fun _ member => member) (fun _ listed => Or.inl listed)
      (fun awake => Or.inl awake) ?_ ?_
    · intro arguments first second present now
      cases now
      rcases turns.loaded handle thread arguments before others found present loading with
        ⟨function, input, uncalled⟩
      refine ⟨?_, ?_, uncalled⟩
      · intro word member
        rcases entry arguments present word member with old | new
        · exact function word old
        · exact new
      · intro word member
        rcases parameter arguments present word member with old | new
        · exact input word old
        · exact new
    · exact ⟨turns.faithful.once, turns.faithful.own⟩

theorem call_lives {handle : HANDLE} {thread : KernelThread} {entry parameter : ULONG}
    (placed : system.outline.Placed) (turns : Turns system)
    (found : system.threads handle = some thread) (awake : thread.suspendCount = 0)
    (loading : thread.stage = .loading (some entry) (some parameter))
    (called : next =
      { system.setThread handle (some { thread with stage := .running }) with
        calls := system.calls ++ [(thread.serial, entry, parameter)] }) :
    next.outline.Placed ∧ Turns next := by
  subst called
  have known : system.outline.threads handle = some (thread.block, thread.serial) := by
    simp only [System.outline, found, Option.map_some]
  rcases placed.given handle _ _ known with ⟨arguments, present, _⟩
  rcases turns.loaded handle thread arguments _ _ found present loading with
    ⟨function, input, uncalled⟩
  constructor
  · have same := outline_setThread { thread with stage := .running } found rfl rfl
    exact same ▸ placed
  · refine turns_thread _ { thread with stage := .running } placed turns found rfl rfl rfl
      (fun _ member => member) ?_ ?_ ?_ ?_
    · intro call listed
      rcases List.mem_append.mp listed with old | new
      · exact Or.inl old
      · rw [List.mem_singleton.mp new]
        exact Or.inr rfl
    · exact fun zero => Or.inl zero
    · intro _ _ _ _ now
      cases now
    · constructor
      · simp only [List.map_append, List.map_cons, List.map_nil]
        rw [List.nodup_append]
        refine ⟨turns.faithful.once, List.nodup_singleton _, ?_⟩
        intro serial member other listed same
        rw [List.mem_singleton.mp listed] at same
        rw [same] at member
        exact uncalled member
      · intro call listed
        rcases List.mem_append.mp listed with old | new
        · exact turns.faithful.own call old
        · rw [List.mem_singleton.mp new]
          refine ⟨arguments, present, ?_, ?_⟩
          · rw [function entry rfl, input parameter rfl]
          · exact fun auto => turns.awake handle thread arguments found present auto awake

theorem finish_lives {handle : HANDLE} {thread : KernelThread} (placed : system.outline.Placed)
    (turns : Turns system) (found : system.threads handle = some thread) :
    (system.setThread handle (some { thread with stage := .ended })).outline.Placed ∧
      Turns (system.setThread handle (some { thread with stage := .ended })) := by
  constructor
  · rw [outline_setThread { thread with stage := .ended } found rfl rfl]
    exact placed
  · refine turns_thread _ { thread with stage := .ended } placed turns found rfl rfl rfl
      (fun _ member => member) (fun _ listed => Or.inl listed)
      (fun awake => Or.inl awake) ?_ ⟨turns.faithful.once, turns.faithful.own⟩
    intro _ _ _ _ now
    cases now

theorem counted_lives {address : Nat} {block : TxThread} {handle : HANDLE}
    {thread : KernelThread} {count : Nat} {resumed : List Nat}
    (placed : system.outline.Placed) (turns : Turns system)
    (same : (system.setBlock address block).outline = system.outline)
    (found : system.threads handle = some thread)
    (kept : ∀ serial ∈ system.resumed, serial ∈ resumed)
    (awake : count = 0 → thread.suspendCount = 0 ∨ thread.serial ∈ resumed)
    (counted : next =
      { (system.setBlock address block).setThread handle
          (some { thread with suspendCount := count }) with
        resumed := resumed }) :
    next.outline.Placed ∧ Turns next := by
  subst counted
  have foundAfter : (system.setBlock address block).threads handle = some thread := found
  have outline := outline_setThread { thread with suspendCount := count } foundAfter rfl rfl
  constructor
  · exact (outline.trans same) ▸ placed
  · refine turns_thread _ { thread with suspendCount := count } placed turns found rfl rfl rfl
      kept (fun _ listed => Or.inl listed) awake ?_ ?_
    · intro arguments entry parameter present loading
      exact turns.loaded handle thread arguments entry parameter found present loading
    · refine calls_resumed turns.faithful rfl ?_ kept
      exact fun _ _ present => present

theorem marked_lives {address : Nat} {block : TxThread} (placed : system.outline.Placed)
    (turns : Turns system) (same : (system.setBlock address block).outline = system.outline) :
    (system.setBlock address block).outline.Placed ∧ Turns (system.setBlock address block) := by
  rw [same]
  exact ⟨placed, turns_kept turns (fun _ _ found => found) rfl rfl rfl⟩

theorem resumed_awake {thread : KernelThread} {status : ULONG} {resumed : List Nat}
    (awake : ntResumeThread thread.suspendCount status = 0) :
    thread.suspendCount = 0 ∨
      thread.serial ∈ if ntSuccess status then resumed ++ [thread.serial] else resumed := by
  cases accepted : ntSuccess status with
  | true =>
      rw [if_pos rfl]
      exact Or.inr (List.mem_append_right _ (List.mem_singleton_self _))
  | false =>
      rw [ntResumeThread, accepted, if_neg Bool.false_ne_true] at awake
      exact Or.inl awake

theorem suspended_asleep {thread : KernelThread} {status : ULONG}
    (awake : ntSuspendThread thread.suspendCount status = 0) : thread.suspendCount = 0 := by
  cases accepted : ntSuccess status with
  | true =>
      rw [ntSuspendThread, accepted, if_pos rfl] at awake
      cases awake
  | false =>
      rw [ntSuspendThread, accepted, if_neg Bool.false_ne_true] at awake
      exact awake

def deleted (system : System) (address : Nat) : System :=
  { system with
    table :=
      { links := system.table.links.removeEntry (.block address)
        blocks := Function.update system.table.blocks address
          { system.table.blocks address with txThreadId := txClearId } }
    threads := Function.update system.threads (system.table.blocks address).thread none
    phase := Function.update system.phase address .free }

theorem delete_cases {address : Nat} {waitResult : WaitResult}
    (stepped : step system (.delete address waitResult) = some next) :
    (∃ thread, system.phase address = .live ∧
        system.threads (system.table.blocks address).thread = some thread ∧
        next = deleted system address) ∨ next = system := by
  by_cases allowed : system.phase address = .live ∧
      (waitResult = .object0 ↔ ∃ thread ∈ system.behind address, thread.stage = .ended)
  · rw [step, if_pos allowed] at stepped
    by_cases ended : waitResult = .object0
    · rcases allowed.2.mp ended with ⟨thread, behind, _⟩
      rw [txThreadDelete_ended ended] at stepped
      exact Or.inl ⟨thread, allowed.1, behind, (Option.some.inj stepped).symm⟩
    · rw [txThreadDelete_refused ended] at stepped
      exact Or.inr (Option.some.inj stepped).symm
  · rw [step, if_neg allowed] at stepped
    cases stepped

theorem outline_deleted (system : System) (address : Nat) :
    (deleted system address).outline = system.outline.remove address := by
  apply Outline.ext
  · rfl
  · funext other
    by_cases same : other = (system.table.blocks address).thread
    · simp [System.outline, Outline.remove, deleted, same]
    · simp [System.outline, Outline.remove, deleted, same]
  · funext other
    by_cases same : other = address
    · simp [System.outline, Outline.remove, deleted, same]
    · simp [System.outline, Outline.remove, deleted, same]
  · funext other
    by_cases same : other = address
    · simp [System.outline, Outline.remove, deleted, same]
    · simp [System.outline, Outline.remove, deleted, same]
  · rfl

theorem delete_lives {address : Nat} {thread : KernelThread} (placed : system.outline.Placed)
    (turns : Turns system) (live : system.phase address = .live)
    (found : system.threads (system.table.blocks address).thread = some thread) :
    (deleted system address).outline.Placed ∧ Turns (deleted system address) := by
  have present : system.outline.threads (system.outline.handle address) =
      some (thread.block, thread.serial) := by
    simp only [System.outline, found, Option.map_some]
  have started : (system.outline.phase address).Started := by
    simp only [System.outline, live]
    trivial
  constructor
  · rw [outline_deleted]
    rcases placed.owns address started with null | ⟨serial, own⟩
    · rw [null, placed.null] at present
      cases present
    · exact Outline.remove_placed placed own
  · refine turns_kept turns ?_ rfl rfl rfl
    intro other known remains
    by_cases same : other = (system.table.blocks address).thread
    · simp [deleted, same] at remains
    · simpa [deleted, same] using remains

theorem load_some {stage after : Stage} {block : TxThread} {field : EntryField}
    (loaded : stage.load block field = some after) :
    ∃ entry parameter entryAfter parameterAfter, stage = .loading entry parameter ∧
      after = .loading entryAfter parameterAfter ∧
      (∀ word ∈ entryAfter, word ∈ entry ∨ word = block.txThreadEntry) ∧
      ∀ word ∈ parameterAfter, word ∈ parameter ∨ word = block.txThreadEntryParameter := by
  cases stage with
  | running => cases field <;> cases loaded
  | ended => cases field <;> cases loaded
  | loading entry parameter =>
      cases field with
      | entry =>
          cases entry with
          | some word => cases loaded
          | none =>
              cases loaded
              exact ⟨none, parameter, _, _, rfl, rfl,
                fun word member => Or.inr (Option.some.inj member).symm, fun _ => Or.inl⟩
      | parameter =>
          cases parameter with
          | some word => cases loaded
          | none =>
              cases loaded
              exact ⟨entry, none, _, _, rfl, rfl, fun _ => Or.inl,
                fun word member => Or.inr (Option.some.inj member).symm⟩

theorem load_lives {handle : HANDLE} {field : EntryField} (placed : system.outline.Placed)
    (turns : Turns system) (stepped : step system (.load handle field) = some next) :
    next.outline.Placed ∧ Turns next := by
  rcases advance_some stepped with ⟨thread, found, _, acted⟩
  rcases Option.map_eq_some_iff.mp acted with ⟨stage, loaded, rfl⟩
  rcases load_some loaded with ⟨_, _, _, _, loading, rfl, entry, parameter⟩
  apply loading_lives placed turns found loading
  · intro arguments present word member
    rw [← (block_given placed found present).1]
    exact entry word member
  · intro arguments present word member
    rw [← (block_given placed found present).2]
    exact parameter word member

theorem resume_lives {address : Nat} {status : ULONG} (placed : system.outline.Placed)
    (turns : Turns system) (stepped : step system (.resume address status) = some next) :
    next.outline.Placed ∧ Turns next := by
  by_cases started : (system.phase address).Started
  · rw [step, if_pos started] at stepped
    have same := outline_resume system address status
    cases found : system.threads (system.table.blocks address).thread with
    | none =>
        cases accepted : ntSuccess status with
        | true => simp [found, accepted] at stepped
        | false =>
            simp only [found, accepted, if_neg Bool.false_ne_true] at stepped
            cases stepped
            exact marked_lives placed turns same
    | some thread =>
        simp only [found] at stepped
        refine counted_lives placed turns same found ?_ resumed_awake
          (Option.some.inj stepped).symm
        intro serial member
        cases ntSuccess status with
        | true => exact List.mem_append_left _ member
        | false => exact member
  · rw [step, if_neg started] at stepped
    cases stepped

theorem suspend_lives {address : Nat} {status : ULONG} (placed : system.outline.Placed)
    (turns : Turns system) (stepped : step system (.suspend address status) = some next) :
    next.outline.Placed ∧ Turns next := by
  by_cases started : (system.phase address).Started
  · rw [step, if_pos started] at stepped
    have same := outline_suspend system address status
    cases found : system.threads (system.table.blocks address).thread with
    | none =>
        cases accepted : ntSuccess status with
        | true => simp [found, accepted] at stepped
        | false =>
            simp only [found, accepted, if_neg Bool.false_ne_true] at stepped
            cases stepped
            exact marked_lives placed turns same
    | some thread =>
        simp only [found] at stepped
        exact counted_lives placed turns same found (fun _ member => member)
          (fun awake => Or.inl (suspended_asleep awake)) (Option.some.inj stepped).symm
  · rw [step, if_neg started] at stepped
    cases stepped

theorem lives_step {action : Action} (placed : system.outline.Placed) (turns : Turns system)
    (stepped : step system action = some next) : next.outline.Placed ∧ Turns next := by
  cases action with
  | create address arguments answers =>
      by_cases allowed : system.phase address = .free ∧
          (answers.handle = 0 → answers.threadId = 0 ∧ answers.stackLimits = none)
      · rw [step, if_pos allowed] at stepped
        cases stepped
        exact create_lives placed turns allowed.1
      · rw [step, if_neg allowed] at stepped
        cases stepped
  | proceed address => exact proceed_lives placed turns stepped
  | resume address status => exact resume_lives placed turns stepped
  | suspend address status => exact suspend_lives placed turns stepped
  | load handle field => exact load_lives placed turns stepped
  | call handle =>
      rcases advance_some stepped with ⟨thread, found, awake, acted⟩
      cases stage : thread.stage with
      | running => simp [stage] at acted
      | ended => simp [stage] at acted
      | loading entry parameter =>
          cases entry with
          | none => simp [stage] at acted
          | some entry =>
              cases parameter with
              | none => simp [stage] at acted
              | some parameter =>
                  simp only [stage] at acted
                  exact call_lives placed turns found awake stage (Option.some.inj acted).symm
  | finish handle =>
      rcases advance_some stepped with ⟨thread, found, _, acted⟩
      cases stage : thread.stage with
      | loading entry parameter => simp [stage] at acted
      | ended => simp [stage] at acted
      | running =>
          simp only [stage] at acted
          cases acted
          exact finish_lives placed turns found
  | delete address waitResult =>
      rcases delete_cases stepped with ⟨thread, live, found, rfl⟩ | rfl
      · exact delete_lives placed turns live found
      · exact ⟨placed, turns⟩

end Cases

/-! ### Whole runs -/

theorem placed_kept {system : System} (placed : system.outline.Placed) : BlocksKept system := by
  have known : ∀ {handle thread}, system.threads handle = some thread →
      system.outline.threads handle = some (thread.block, thread.serial) := by
    intro handle thread found
    simp only [System.outline, found, Option.map_some]
  constructor
  · intro handle thread found
    exact placed.started handle _ _ (known found)
  · intro first second one other oneFound otherFound same
    have oneKnown := known oneFound
    rw [same] at oneKnown
    exact placed.sole first second _ _ _ oneKnown (known otherFound)
  · intro handle thread found
    rcases placed.given handle _ _ (known found) with ⟨arguments, present, holds⟩
    exact ⟨arguments, present, Prod.mk.inj holds⟩

theorem initial_placed (table : Table) : (System.initial table).outline.Placed where
  null := rfl
  started _ _ _ found := by cases found
  sole _ _ _ _ _ found := by cases found
  serials _ _ _ _ _ found := by cases found
  given _ _ _ found := by cases found
  owns _ started := by cases started
  written _ _ _ _ creating := by cases creating

theorem initial_turns (table : Table) : Turns (System.initial table) where
  awake _ _ _ found := by cases found
  loaded _ _ _ _ _ found := by cases found
  faithful :=
    { once := List.nodup_nil
      own := fun _ member => absurd member List.not_mem_nil }

/-- In every interleaving of any number of creations, access by access, with the
threads they make, and of resumes, suspensions and deletions: every thread calls
its entry function at most once, with the function and the input its own
creation was given, and not before it is resumed if it was created suspended;
and as long as the kernel knows a thread its block is in use for that thread
alone, so that no thread reads a block that was deleted or is being made anew. -/
theorem lives_faithful (table : Table) (schedule : List Action) :
    Always step (fun system => CallsFaithful system ∧ BlocksKept system)
      (System.initial table) schedule := by
  have held := always_invariant step (fun system => system.outline.Placed ∧ Turns system)
    (fun _ _ _ both stepped => lives_step both.1 both.2 stepped)
    (System.initial table) schedule ⟨initial_placed table, initial_turns table⟩
  exact always_mono step (fun _ both => ⟨both.2.faithful, placed_kept both.1⟩)
    (System.initial table) schedule held

/-- A thread that is created suspended, resumed, run and deleted. -/
example :
    (run step
      (System.initial
        { links := { flink := fun _ => .head, blink := fun _ => .head }
          blocks := fun _ =>
            { thread := 9, win32ThreadId := 0, txThreadStackStart := 0, txThreadStackEnd := 0
              txThreadId := 0, txThreadEntryParameter := 0, txThreadName := none
              txThreadState := 0, txThreadSuspending := 0, txThreadEntry := 0 } })
      ([.create 1 { name := none, entryFunction := 50, entryInput := 7, autoStart := 0 }
          { handle := 4, threadId := 5, stackLimits := none }] ++
        List.replicate 11 (.proceed 1) ++
        [.resume 1 0, .load 4 .parameter, .load 4 .entry, .call 4, .finish 4,
          .delete 1 .object0])).map
      (fun system => (system.calls, system.phase 1)) = some ([(0, 50, 7)], .free) := by
  decide

end UsbxNxdk.ThreadLives
