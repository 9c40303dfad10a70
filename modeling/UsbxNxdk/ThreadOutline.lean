import UsbxNxdk.ThreadLives

/-! Which thread has which block, whatever the threads are doing. -/

namespace UsbxNxdk.ThreadLives

open Execution LinkedRing Thread ThreadStart ThreadTable Win32

/-- What the threads of a system and their blocks have to do with each other:
the block and the serial of each thread, and the handle, the entry function and
the parameter of each block. -/
@[ext] structure Outline where
  phase : Nat → Phase
  threads : HANDLE → Option (Nat × Nat)
  handle : Nat → HANDLE
  entry : Nat → ULONG × ULONG
  created : List CreateArguments

def System.outline (system : System) : Outline where
  phase := system.phase
  threads handle := (system.threads handle).map fun thread => (thread.block, thread.serial)
  handle address := (system.table.blocks address).thread
  entry address :=
    ((system.table.blocks address).txThreadEntry,
      (system.table.blocks address).txThreadEntryParameter)
  created := system.created

namespace Outline

def Owns (outline : Outline) (address : Nat) (handle : HANDLE) : Prop :=
  handle = 0 ∨ ∃ serial, outline.threads handle = some (address, serial)

structure Written (outline : Outline) (address : Nat) (arguments : CreateArguments)
    (answers : CreateAnswers) (remaining : List BlockWrite) : Prop where
  order : remaining ∈ blockWrites.tails
  entry : .entry ∉ remaining → (outline.entry address).1 = arguments.entryFunction
  parameter : .entryParameter ∉ remaining → (outline.entry address).2 = arguments.entryInput
  cleared : .clear ∉ remaining → .handle ∈ remaining → outline.handle address = 0
  stored : .handle ∉ remaining → outline.handle address = answers.handle
  made : .createThread ∉ remaining → outline.Owns address answers.handle

/-- `given` is what the creation of each thread was given, and still stands in
its block. -/
structure Placed (outline : Outline) : Prop where
  null : outline.threads 0 = none
  started : ∀ handle address serial, outline.threads handle = some (address, serial) →
    (outline.phase address).Started
  sole : ∀ first second address one other, outline.threads first = some (address, one) →
    outline.threads second = some (address, other) → first = second
  serials : ∀ first second address other serial, outline.threads first = some (address, serial) →
    outline.threads second = some (other, serial) → first = second
  given : ∀ handle address serial, outline.threads handle = some (address, serial) →
    ∃ arguments, outline.created[serial]? = some arguments ∧
      outline.entry address = (arguments.entryFunction, arguments.entryInput)
  owns : ∀ address, (outline.phase address).Started → outline.Owns address (outline.handle address)
  written : ∀ address arguments answers remaining,
    outline.phase address = .creating arguments answers remaining →
    outline.Written address arguments answers remaining

end Outline

/-! ### The order of the writes -/

def later (write : BlockWrite) : List BlockWrite :=
  (blockWrites.dropWhile fun other => other ≠ write).tail

theorem remaining_later : ∀ remaining ∈ blockWrites.tails, ∀ write ∈ remaining.head?,
    remaining.tail = later write := by
  decide

theorem later_tails (write : BlockWrite) : later write ∈ blockWrites.tails := by
  cases write <;> decide

theorem later_once (write : BlockWrite) : write ∉ later write := by
  cases write <;> decide

/-- `CreateThread` is called behind the writes that `thread_entry` relies on. -/
theorem behind_makes (write : BlockWrite) (behind : .createThread ∉ write :: later write) :
    write ≠ .clear ∧ write ≠ .entry ∧ write ≠ .entryParameter := by
  revert behind
  cases write <;> decide

theorem write_fields (arguments : CreateArguments) (answers : CreateAnswers) (block : TxThread)
    (write : BlockWrite) :
    (write.run arguments answers block).thread =
        (if write = .clear then 0 else if write = .handle then answers.handle
          else block.thread) ∧
      (write.run arguments answers block).txThreadEntry =
        (if write = .clear then 0 else if write = .entry then arguments.entryFunction
          else block.txThreadEntry) ∧
      (write.run arguments answers block).txThreadEntryParameter =
        (if write = .clear then 0 else if write = .entryParameter then arguments.entryInput
          else block.txThreadEntryParameter) := by
  rcases answers with ⟨handle, threadId, limits⟩
  cases write <;> cases limits <;> simp [BlockWrite.run]

/-! ### What the steps do to the outline -/

namespace Outline

section Steps

variable {outline : Outline} {address : Nat} {arguments : CreateArguments}
  {answers : CreateAnswers} {write : BlockWrite} {remaining : List BlockWrite}

theorem written_kept {next : Outline} {other : Nat}
    (written : outline.Written other arguments answers remaining)
    (handle : next.handle other = outline.handle other)
    (entry : next.entry other = outline.entry other)
    (threads : ∀ handle serial, outline.threads handle = some (other, serial) →
      next.threads handle = some (other, serial)) :
    next.Written other arguments answers remaining where
  order := written.order
  entry := by rw [entry]; exact written.entry
  parameter := by rw [entry]; exact written.parameter
  cleared := by rw [handle]; exact written.cleared
  stored := by rw [handle]; exact written.stored
  made missing := by
    rcases written.made missing with null | ⟨serial, found⟩
    · exact Or.inl null
    · exact Or.inr ⟨serial, threads _ serial found⟩

theorem placed_unstarted (placed : outline.Placed) (fresh : ¬ (outline.phase address).Started)
    {handle : HANDLE} {other serial : Nat}
    (found : outline.threads handle = some (other, serial)) : other ≠ address := by
  intro same
  rw [same] at found
  exact fresh (placed.started handle address serial found)

theorem started_update {phase : Phase} (same : phase.Started ↔ (outline.phase address).Started)
    (other : Nat) :
    (Function.update outline.phase address phase other).Started ↔
      (outline.phase other).Started := by
  by_cases own : other = address
  · rw [own, Function.update_self, same]
  · rw [Function.update_of_ne own]

def begin (outline : Outline) (address : Nat) (arguments : CreateArguments)
    (answers : CreateAnswers) : Outline :=
  { outline with
    phase := Function.update outline.phase address
      (.creating arguments answers blockWrites) }

theorem begin_placed (placed : outline.Placed) (free : outline.phase address = .free) :
    (outline.begin address arguments answers).Placed := by
  have unstarted : ∀ other, ((outline.begin address arguments answers).phase other).Started ↔
      (outline.phase other).Started := by
    apply started_update
    rw [free]
    exact iff_of_false (fun started => started (by decide)) id
  constructor
  · exact placed.null
  · intro handle other serial found
    exact (unstarted other).mpr (placed.started handle other serial found)
  · exact placed.sole
  · exact placed.serials
  · exact placed.given
  · intro other started
    exact placed.owns other ((unstarted other).mp started)
  · intro other otherArguments otherAnswers remaining creating
    by_cases own : other = address
    · simp only [own, begin, Function.update_self] at creating
      cases creating
      exact
        { order := by decide
          entry := fun missing => absurd (by decide) missing
          parameter := fun missing => absurd (by decide) missing
          cleared := fun missing => absurd (by decide) missing
          stored := fun missing => absurd (by decide) missing
          made := fun missing => absurd (by decide) missing }
    · simp only [begin, Function.update_of_ne own] at creating
      exact written_kept (placed.written other _ _ _ creating) rfl rfl fun _ _ found => found

def store (outline : Outline) (address : Nat) (arguments : CreateArguments)
    (answers : CreateAnswers) (write : BlockWrite) : Outline :=
  { outline with
    phase := Function.update outline.phase address (.creating arguments answers (later write))
    handle := Function.update outline.handle address
      (if write = .clear then 0 else if write = .handle then answers.handle
        else outline.handle address)
    entry := Function.update outline.entry address
      (if write = .clear then 0 else if write = .entry then arguments.entryFunction
          else (outline.entry address).1,
        if write = .clear then 0 else if write = .entryParameter then arguments.entryInput
          else (outline.entry address).2) }

theorem later_of_creating (placed : outline.Placed) {rest : List BlockWrite}
    (creating : outline.phase address = .creating arguments answers (write :: rest)) :
    rest = later write :=
  remaining_later _ (placed.written address _ _ _ creating).order write rfl

theorem written_store (placed : outline.Placed) (kept : write ≠ .createThread)
    (creating : outline.phase address = .creating arguments answers (write :: later write)) :
    (outline.store address arguments answers write).Written address arguments answers
      (later write) := by
  have before := placed.written address _ _ _ creating
  have unwritten : ∀ other : BlockWrite, other ≠ write → other ∉ later write →
      other ∉ write :: later write := by
    intro other different missing member
    rcases List.mem_cons.mp member with same | listed
    · exact different same
    · exact missing listed
  constructor
  · exact later_tails write
  · intro missing
    by_cases clear : write = .clear
    · rw [clear] at missing
      exact absurd (by decide) missing
    · simp only [store, Function.update_self, if_neg clear]
      by_cases own : write = .entry
      · rw [if_pos own]
      · rw [if_neg own]
        exact before.entry (unwritten _ (Ne.symm own) missing)
  · intro missing
    by_cases clear : write = .clear
    · rw [clear] at missing
      exact absurd (by decide) missing
    · simp only [store, Function.update_self, if_neg clear]
      by_cases own : write = .entryParameter
      · rw [if_pos own]
      · rw [if_neg own]
        exact before.parameter (unwritten _ (Ne.symm own) missing)
  · intro missing listed
    by_cases clear : write = .clear
    · simp only [store, Function.update_self, if_pos clear]
    · have own : write ≠ .handle := by
        intro same
        rw [same] at listed
        exact absurd listed (by decide)
      simp only [store, Function.update_self, if_neg clear, if_neg own]
      exact before.cleared (unwritten _ (Ne.symm clear) missing) (List.mem_cons_of_mem write listed)
  · intro missing
    by_cases clear : write = .clear
    · rw [clear] at missing
      exact absurd (by decide) missing
    · simp only [store, Function.update_self, if_neg clear]
      by_cases own : write = .handle
      · rw [if_pos own]
      · rw [if_neg own]
        exact before.stored (unwritten _ (Ne.symm own) missing)
  · intro missing
    exact before.made (unwritten _ (Ne.symm kept) missing)

theorem store_entry
    (creating : outline.phase address = .creating arguments answers (write :: later write))
    {other : Nat} (started : (outline.phase other).Started) :
    (outline.store address arguments answers write).entry other = outline.entry other := by
  by_cases own : other = address
  · rw [own, creating] at started
    rcases behind_makes write started with ⟨clear, entry, parameter⟩
    rw [own]
    simp only [store, Function.update_self, if_neg clear, if_neg entry, if_neg parameter]
  · simp only [store, Function.update_of_ne own]

theorem store_owns (placed : outline.Placed)
    (creating : outline.phase address = .creating arguments answers (write :: later write))
    {other : Nat} (started : (outline.phase other).Started) :
    (outline.store address arguments answers write).Owns other
      ((outline.store address arguments answers write).handle other) := by
  by_cases own : other = address
  · rw [own] at started ⊢
    have behind := started
    rw [creating] at behind
    simp only [store, Function.update_self, if_neg (behind_makes write behind).1]
    by_cases handle : write = .handle
    · rw [if_pos handle]
      exact (placed.written address _ _ _ creating).made behind
    · rw [if_neg handle]
      exact placed.owns address started
  · simp only [store, Function.update_of_ne own]
    exact placed.owns other started

theorem store_placed (placed : outline.Placed) (kept : write ≠ .createThread)
    (creating : outline.phase address = .creating arguments answers (write :: later write)) :
    (outline.store address arguments answers write).Placed := by
  have unstarted : ∀ other, ((outline.store address arguments answers write).phase other).Started ↔
      (outline.phase other).Started := by
    apply started_update
    rw [creating]
    constructor
    · intro missing member
      rcases List.mem_cons.mp member with same | listed
      · exact kept same.symm
      · exact missing listed
    · exact fun missing listed => missing (List.mem_cons_of_mem write listed)
  constructor
  · exact placed.null
  · intro handle other serial found
    exact (unstarted other).mpr (placed.started handle other serial found)
  · exact placed.sole
  · exact placed.serials
  · intro handle other serial found
    rw [store_entry creating (placed.started handle other serial found)]
    exact placed.given handle other serial found
  · intro other started
    exact store_owns placed creating ((unstarted other).mp started)
  · intro other otherArguments otherAnswers remaining now
    by_cases own : other = address
    · simp only [own, store, Function.update_self] at now
      cases now
      rw [own]
      exact written_store placed kept creating
    · simp only [store, Function.update_of_ne own] at now
      refine written_kept (placed.written other _ _ _ now) ?_ ?_ fun _ _ found => found
      · exact Function.update_of_ne own _ _
      · exact Function.update_of_ne own _ _

def make (outline : Outline) (address : Nat) (arguments : CreateArguments)
    (answers : CreateAnswers) : Outline :=
  { outline with
    phase := Function.update outline.phase address
      (.creating arguments answers (later .createThread))
    threads :=
      if answers.handle = 0 then outline.threads
      else Function.update outline.threads answers.handle (some (address, outline.created.length))
    created := if answers.handle = 0 then outline.created else outline.created ++ [arguments] }

theorem given_below (placed : outline.Placed) {handle : HANDLE} {other serial : Nat}
    (found : outline.threads handle = some (other, serial)) : serial < outline.created.length := by
  rcases placed.given handle other serial found with ⟨_, present, _⟩
  exact (List.getElem?_eq_some_iff.mp present).1

theorem make_threads (fresh : answers.handle ≠ 0 → outline.threads answers.handle = none)
    {handle : HANDLE} {other serial : Nat}
    (found : outline.threads handle = some (other, serial)) :
    (outline.make address arguments answers).threads handle = some (other, serial) := by
  by_cases null : answers.handle = 0
  · simp only [make, if_pos null]
    exact found
  · have different : handle ≠ answers.handle := by
      intro same
      rw [same, fresh null] at found
      cases found
    simp only [make, if_neg null, Function.update_of_ne different]
    exact found

theorem make_found (placed : outline.Placed)
    {handle : HANDLE} {other serial : Nat}
    (found : (outline.make address arguments answers).threads handle = some (other, serial)) :
    (answers.handle ≠ 0 ∧ handle = answers.handle ∧ other = address ∧
        serial = outline.created.length) ∨
      (outline.threads handle = some (other, serial) ∧ serial ≠ outline.created.length) := by
  by_cases null : answers.handle = 0
  · simp only [make, if_pos null] at found
    exact Or.inr ⟨found, Nat.ne_of_lt (given_below placed found)⟩
  · by_cases own : handle = answers.handle
    · simp only [make, if_neg null, own, Function.update_self] at found
      cases found
      exact Or.inl ⟨null, own, rfl, rfl⟩
    · simp only [make, if_neg null, Function.update_of_ne own] at found
      exact Or.inr ⟨found, Nat.ne_of_lt (given_below placed found)⟩

theorem make_created (null : answers.handle ≠ 0) :
    (outline.make address arguments answers).created = outline.created ++ [arguments] :=
  if_neg null

theorem created_kept {serial : Nat} {given : CreateArguments}
    (present : outline.created[serial]? = some given) :
    (outline.make address arguments answers).created[serial]? = some given := by
  by_cases null : answers.handle = 0
  · simp only [make, if_pos null]
    exact present
  · rw [make_created null, List.getElem?_append_left (List.getElem?_eq_some_iff.mp present).1]
    exact present

theorem make_sole (placed : outline.Placed) (unstarted : ¬ (outline.phase address).Started)
    {first second : HANDLE} {other one two : Nat}
    (firstFound : (outline.make address arguments answers).threads first = some (other, one))
    (secondFound : (outline.make address arguments answers).threads second = some (other, two)) :
    first = second := by
  rcases make_found placed firstFound with ⟨_, firstNew, same, _⟩ | ⟨firstOld, _⟩
  · rcases make_found placed secondFound with ⟨_, secondNew, _⟩ | ⟨secondOld, _⟩
    · exact firstNew.trans secondNew.symm
    · exact absurd same (placed_unstarted placed unstarted secondOld)
  · rcases make_found placed secondFound with ⟨_, _, same, _⟩ | ⟨secondOld, _⟩
    · exact absurd same (placed_unstarted placed unstarted firstOld)
    · exact placed.sole first second other one two firstOld secondOld

theorem make_serials (placed : outline.Placed) {first second : HANDLE} {one two serial : Nat}
    (firstFound : (outline.make address arguments answers).threads first = some (one, serial))
    (secondFound : (outline.make address arguments answers).threads second = some (two, serial)) :
    first = second := by
  rcases make_found placed firstFound with ⟨_, firstNew, _, same⟩ | ⟨firstOld, older⟩
  · rcases make_found placed secondFound with ⟨_, secondNew, _⟩ | ⟨_, secondOlder⟩
    · exact firstNew.trans secondNew.symm
    · exact absurd same secondOlder
  · rcases make_found placed secondFound with ⟨_, _, _, same⟩ | ⟨secondOld, _⟩
    · exact absurd same older
    · exact placed.serials first second one two serial firstOld secondOld

theorem make_given (placed : outline.Placed)
    (creating : outline.phase address =
      .creating arguments answers (.createThread :: later .createThread))
    {handle : HANDLE} {other serial : Nat}
    (found : (outline.make address arguments answers).threads handle = some (other, serial)) :
    ∃ given, (outline.make address arguments answers).created[serial]? = some given ∧
      outline.entry other = (given.entryFunction, given.entryInput) := by
  have before := placed.written address _ _ _ creating
  rcases make_found placed found with ⟨null, _, rfl, rfl⟩ | ⟨old, _⟩
  · refine ⟨arguments, ?_, ?_⟩
    · rw [make_created null]
      exact List.getElem?_concat_length
    · exact Prod.ext (before.entry (by decide)) (before.parameter (by decide))
  · rcases placed.given handle other serial old with ⟨given, present, stands⟩
    exact ⟨given, created_kept present, stands⟩

theorem make_written
    (before : outline.Written address arguments answers (.createThread :: later .createThread)) :
    (outline.make address arguments answers).Written address arguments answers
      (later .createThread) where
  order := later_tails .createThread
  entry := fun _ => before.entry (by decide)
  parameter := fun _ => before.parameter (by decide)
  cleared := fun _ _ => before.cleared (by decide) (by decide)
  stored := fun missing => absurd (by decide) missing
  made := by
    intro _
    by_cases null : answers.handle = 0
    · exact Or.inl null
    · refine Or.inr ⟨outline.created.length, ?_⟩
      simp only [make, if_neg null, Function.update_self]

theorem make_placed (placed : outline.Placed)
    (creating : outline.phase address =
      .creating arguments answers (.createThread :: later .createThread))
    (fresh : answers.handle ≠ 0 → outline.threads answers.handle = none) :
    (outline.make address arguments answers).Placed := by
  have before := placed.written address _ _ _ creating
  have unstarted : ¬ (outline.phase address).Started := by
    rw [creating]
    exact fun started => started List.mem_cons_self
  have phaseOwn : ((outline.make address arguments answers).phase address).Started := by
    simp only [make, Function.update_self]
    exact later_once .createThread
  have phaseOther : ∀ other, other ≠ address →
      (outline.make address arguments answers).phase other = outline.phase other :=
    fun _ different => Function.update_of_ne different _ _
  constructor
  · by_cases null : answers.handle = 0
    · simp only [make, if_pos null]
      exact placed.null
    · simp only [make, if_neg null, Function.update_of_ne (Ne.symm null)]
      exact placed.null
  · intro handle other serial found
    rcases make_found placed found with ⟨_, _, rfl, _⟩ | ⟨old, _⟩
    · exact phaseOwn
    · rw [phaseOther other (placed_unstarted placed unstarted old)]
      exact placed.started handle other serial old
  · exact fun _ _ _ _ _ => make_sole placed unstarted
  · exact fun _ _ _ _ _ => make_serials placed
  · exact fun _ _ _ => make_given placed creating
  · intro other started
    by_cases own : other = address
    · rw [own]
      exact Or.inl (before.cleared (by decide) (by decide))
    · rw [phaseOther other own] at started
      rcases placed.owns other started with null | ⟨serial, found⟩
      · exact Or.inl null
      · exact Or.inr ⟨serial, make_threads fresh found⟩
  · intro other otherArguments otherAnswers remaining now
    by_cases own : other = address
    · simp only [own, make, Function.update_self] at now
      cases now
      rw [own]
      exact make_written before
    · rw [phaseOther other own] at now
      exact written_kept (placed.written other _ _ _ now) rfl rfl
        fun _ _ found => make_threads fresh found

def finishCreation (outline : Outline) (address : Nat) : Outline :=
  { outline with phase := Function.update outline.phase address .live }

theorem finish_placed (placed : outline.Placed)
    (creating : outline.phase address = .creating arguments answers []) :
    (outline.finishCreation address).Placed := by
  have unstarted : ∀ other, ((outline.finishCreation address).phase other).Started ↔
      (outline.phase other).Started := by
    apply started_update
    rw [creating]
    exact iff_of_true trivial List.not_mem_nil
  constructor
  · exact placed.null
  · intro handle other serial found
    exact (unstarted other).mpr (placed.started handle other serial found)
  · exact placed.sole
  · exact placed.serials
  · exact placed.given
  · intro other started
    exact placed.owns other ((unstarted other).mp started)
  · intro other otherArguments otherAnswers remaining now
    by_cases own : other = address
    · simp only [own, finishCreation, Function.update_self] at now
      cases now
    · simp only [finishCreation, Function.update_of_ne own] at now
      exact written_kept (placed.written other _ _ _ now) rfl rfl fun _ _ found => found

def remove (outline : Outline) (address : Nat) : Outline :=
  { outline with
    phase := Function.update outline.phase address .free
    threads := Function.update outline.threads (outline.handle address) none }

theorem remove_placed (placed : outline.Placed) {serial : Nat}
    (own : outline.threads (outline.handle address) = some (address, serial)) :
    (outline.remove address).Placed := by
  have remains : ∀ handle other one,
      (outline.remove address).threads handle = some (other, one) →
      outline.threads handle = some (other, one) ∧ other ≠ address := by
    intro handle other one found
    by_cases same : handle = outline.handle address
    · simp only [remove, same, Function.update_self] at found
      cases found
    · simp only [remove, Function.update_of_ne same] at found
      refine ⟨found, ?_⟩
      intro equal
      rw [equal] at found
      exact same (placed.sole handle (outline.handle address) address one serial found own)
  have stays : ∀ handle other one, other ≠ address →
      outline.threads handle = some (other, one) →
      (outline.remove address).threads handle = some (other, one) := by
    intro handle other one different found
    have elsewhere : handle ≠ outline.handle address := by
      intro same
      rw [same, own] at found
      exact different (congrArg Prod.fst (Option.some.inj found)).symm
    simp only [remove, Function.update_of_ne elsewhere]
    exact found
  constructor
  · by_cases null : 0 = outline.handle address
    · simp only [remove, null, Function.update_self]
    · simp only [remove, Function.update_of_ne null]
      exact placed.null
  · intro handle other one found
    rcases remains handle other one found with ⟨old, different⟩
    simp only [remove, Function.update_of_ne different]
    exact placed.started handle other one old
  · intro first second other one two firstFound secondFound
    exact placed.sole first second other one two (remains first other one firstFound).1
      (remains second other two secondFound).1
  · intro first second one two other firstFound secondFound
    exact placed.serials first second one two other (remains first one other firstFound).1
      (remains second two other secondFound).1
  · intro handle other one found
    exact placed.given handle other one (remains handle other one found).1
  · intro other started
    have different : other ≠ address := by
      intro same
      simp only [remove, same, Function.update_self] at started
      exact started
    simp only [remove, Function.update_of_ne different] at started
    rcases placed.owns other started with null | ⟨one, found⟩
    · exact Or.inl null
    · exact Or.inr ⟨one, stays _ other one different found⟩
  · intro other otherArguments otherAnswers remaining now
    have different : other ≠ address := by
      intro same
      simp only [remove, same, Function.update_self] at now
      cases now
    simp only [remove, Function.update_of_ne different] at now
    exact written_kept (placed.written other _ _ _ now) rfl rfl
      fun handle one found => stays handle other one different found

end Steps

end Outline

end UsbxNxdk.ThreadLives
