import UsbxNxdk.ThreadLookups

/-! The list of threads between two accesses of the call that changes it. -/

namespace UsbxNxdk.ThreadLookups

open LinkedRing LinkedRoutes Thread ThreadTable

def DeleteStep.later : DeleteStep → List DeleteStep
  | .clearId => [.readFlink, .readBlink, .blinkFlink, .flinkBlink]
  | .readFlink => [.readBlink, .blinkFlink, .flinkBlink]
  | .readBlink => [.blinkFlink, .flinkBlink]
  | .blinkFlink => [.flinkBlink]
  | .flinkBlink => []

theorem delete_order : ∀ remaining ∈ deleteSteps.tails, ∀ current ∈ remaining.head?,
    remaining.tail = current.later := by
  decide

/-- The links once a half-done update is finished. -/
def State.settled (state : State) : Links Node :=
  match state.writer with
  | .idle => state.links
  | .creating creation remaining =>
      if .tailFlink ∈ remaining then state.links
      else state.links.setBlink .head (.block creation.thread)
  | .deleting _ remaining =>
      if .blinkFlink ∈ remaining then state.links
      else state.links.setBlink state.exFlink state.exBlink

structure Creating (state : State) (creation : Creation) (remaining : List CreateStep) :
    Prop where
  position : remaining ∈ createSteps.tails
  unlisted : .tailFlink ∈ remaining →
    creation.thread ∉ state.listed ∧ creation.thread ∉ state.retired
  fresh : .tailFlink ∈ remaining →
    ∀ other ∈ state.listed, state.identifiers other ≠ creation.answers.threadId
  unmade : .write .createThread ∈ remaining → ¬ (state.stage creation.thread).Alive
  made : .write .createThread ∉ remaining →
    (state.blocks creation.thread).win32ThreadId = creation.answers.threadId ∧
      state.identifiers creation.thread = creation.answers.threadId
  tail : .readTail ∉ remaining → .tailFlink ∈ remaining →
    state.exBlink = state.links.blink .head
  forward : .entryFlink ∉ remaining → .tailFlink ∈ remaining →
    state.links.flink (.block creation.thread) = .head
  backward : .entryBlink ∉ remaining → .tailFlink ∈ remaining →
    state.links.blink (.block creation.thread) = state.links.blink .head

structure Deleting (state : State) (thread : Nat) (remaining : List DeleteStep) : Prop where
  position : remaining ∈ deleteSteps.tails
  listed : .blinkFlink ∈ remaining → thread ∈ state.listed ∧ state.stage thread = .ended
  flink : .readFlink ∉ remaining → .blinkFlink ∈ remaining →
    state.exFlink = state.links.flink (.block thread)
  blink : .readBlink ∉ remaining → .blinkFlink ∈ remaining →
    state.exBlink = state.links.blink (.block thread)

structure Registry (state : State) : Prop where
  ring : Ring state.settled .head (state.listed.map .block)
  identified : ∀ thread ∈ state.listed,
    (state.blocks thread).win32ThreadId = state.identifiers thread
  distinct : (state.listed.map state.identifiers).Nodup
  creating : ∀ creation remaining, state.writer = .creating creation remaining →
    Creating state creation remaining
  deleting : ∀ thread remaining, state.writer = .deleting thread remaining →
    Deleting state thread remaining

/-! ### A creation -/

section Create

variable {state : State} {creation : Creation} {rest : List CreateStep}

def State.created (state : State) (creation : Creation) (current : CreateStep)
    (rest : List CreateStep) : State :=
  { state.createEffect creation current with
    writer := if rest = [] then .idle else .creating creation rest }

theorem created_writer (current : CreateStep) {later : CreateStep} (more : later ∈ rest) :
    (state.created creation current rest).writer = .creating creation rest := by
  apply if_neg
  intro none
  rw [none] at more
  cases more

theorem settled_creating {remaining : List CreateStep}
    (writer : state.writer = .creating creation remaining) (pending : .tailFlink ∈ remaining) :
    state.settled = state.links := by
  rw [State.settled, writer]
  exact if_pos pending

theorem created_ring {current : CreateStep}
    (registry : Registry state) (writer : state.writer = .creating creation (current :: rest))
    (more : .tailFlink ∈ rest)
    (listed : (state.created creation current rest).listed = state.listed)
    (links : Ring state.links .head (state.listed.map .block) →
      Ring (state.created creation current rest).links .head (state.listed.map .block)) :
    Ring (state.created creation current rest).settled .head
      ((state.created creation current rest).listed.map .block) := by
  have before := registry.ring
  rw [settled_creating writer (List.mem_cons_of_mem current more)] at before
  rw [settled_creating (created_writer current more) more, listed]
  exact links before

theorem write_identifiers {write : BlockWrite} {thread : Nat} (apart : thread ≠ creation.thread) :
    (state.created creation (.write write) rest).identifiers thread =
      state.identifiers thread := by
  simp only [State.created, State.createEffect, CreateStep.write.injEq]
  by_cases makes : write = .createThread
  · rw [if_pos makes, Function.update_of_ne apart]
  · rw [if_neg makes]

/-- Behind `CreateThread` the block bears the new thread's identifier. -/
theorem write_made {write : BlockWrite}
    (creating : Creating state creation (.write write :: rest))
    (done : .write .createThread ∉ rest) (kept : write ≠ .clear) :
    ((state.created creation (.write write) rest).blocks creation.thread).win32ThreadId =
        creation.answers.threadId ∧
      (state.created creation (.write write) rest).identifiers creation.thread =
        creation.answers.threadId := by
  have before : write ≠ .createThread →
      (state.blocks creation.thread).win32ThreadId = creation.answers.threadId ∧
        state.identifiers creation.thread = creation.answers.threadId := by
    intro other
    apply creating.made
    intro pending
    rcases List.mem_cons.mp pending with same | after
    · exact other (CreateStep.write.inj same).symm
    · exact done after
  simp only [State.created, State.createEffect, Table.access, Table.write,
    CreateStep.write.injEq, Function.update_self]
  refine ⟨write_identifier kept fun other => (before other).1, ?_⟩
  by_cases makes : write = .createThread
  · rw [if_pos makes, Function.update_self]
  · rw [if_neg makes]
    exact (before makes).2

theorem write_registry {write : BlockWrite} (registry : Registry state)
    (writer : state.writer = .creating creation (.write write :: rest)) :
    Registry (state.created creation (.write write) rest) := by
  have creating := registry.creating creation _ writer
  rcases create_order _ creating.position with ⟨position, later, clearing, making⟩
  have readTail : .readTail ∈ rest := later _ (by decide)
  have entryFlink : .entryFlink ∈ rest := later _ (by decide)
  have entryBlink : .entryBlink ∈ rest := later _ (by decide)
  have tailFlink : .tailFlink ∈ rest := later _ (by decide)
  rcases creating.unlisted (List.mem_cons_of_mem _ tailFlink) with ⟨unlisted, unretired⟩
  have outside := block_outside unlisted
  have apart : ∀ thread ∈ state.listed, thread ≠ creation.thread :=
    fun thread member => ne_of_mem_of_not_mem member unlisted
  have identifiers : ∀ thread ∈ state.listed,
      (state.created creation (.write write) rest).identifiers thread =
        state.identifiers thread :=
    fun thread member => write_identifiers (apart thread member)
  constructor
  · apply created_ring registry writer tailFlink rfl
    exact write_ring creation.arguments creation.answers ⟨state.links, state.blocks⟩ write outside
  · intro thread member
    rw [identifiers thread member, ← registry.identified thread member]
    exact congrArg TxThread.win32ThreadId (Function.update_of_ne (apart thread member) _ _)
  · have same : (state.created creation (.write write) rest).listed.map
        (state.created creation (.write write) rest).identifiers =
          state.listed.map state.identifiers := List.map_congr_left identifiers
    rw [same]
    exact registry.distinct
  · intro other remaining equal
    rw [created_writer _ tailFlink] at equal
    cases equal
    constructor
    · exact position
    · exact fun _ => ⟨unlisted, unretired⟩
    · intro _ thread member
      rw [identifiers thread member]
      exact creating.fresh (List.mem_cons_of_mem _ tailFlink) thread member
    · intro pending alive
      have other : write ≠ .createThread := fun makes => making makes pending
      apply creating.unmade (List.mem_cons_of_mem _ pending)
      simpa [State.created, State.createEffect, State.stage, other] using alive
    · exact fun done => write_made creating done fun clears => done (clearing clears)
    · exact fun read => absurd readTail read
    · exact fun written => absurd entryFlink written
    · exact fun written => absurd entryBlink written
  · intro thread remaining equal
    rw [created_writer _ tailFlink] at equal
    cases equal

theorem prepare_registry {current : CreateStep} (registry : Registry state)
    (writer : state.writer = .creating creation (current :: rest)) (more : .tailFlink ∈ rest)
    (blocks : (state.created creation current rest).blocks = state.blocks)
    (identifiers : (state.created creation current rest).identifiers = state.identifiers)
    (listed : (state.created creation current rest).listed = state.listed)
    (links : Ring state.links .head (state.listed.map .block) →
      Ring (state.created creation current rest).links .head (state.listed.map .block))
    (sound : Creating state creation (current :: rest) →
      Creating (state.created creation current rest) creation rest) :
    Registry (state.created creation current rest) := by
  constructor
  · exact created_ring registry writer more listed links
  · rw [listed, blocks, identifiers]
    exact registry.identified
  · rw [listed, identifiers]
    exact registry.distinct
  · intro other remaining equal
    rw [created_writer _ more] at equal
    cases equal
    exact sound (registry.creating creation _ writer)
  · intro thread remaining equal
    rw [created_writer _ more] at equal
    cases equal

theorem readTail_registry (registry : Registry state)
    (writer : state.writer = .creating creation (.readTail :: rest)) :
    Registry (state.created creation .readTail rest) := by
  have program : rest = [.entryFlink, .entryBlink, .tailFlink, .headBlink] :=
    create_order _ (registry.creating creation _ writer).position
  subst program
  apply prepare_registry registry writer (by decide) rfl rfl rfl id
  intro creating
  exact
    { position := by decide
      unlisted := fun _ => creating.unlisted (by decide)
      fresh := fun _ => creating.fresh (by decide)
      unmade := fun pending => absurd pending (by decide)
      made := fun _ => creating.made (by decide)
      tail := fun _ _ => rfl
      forward := fun written => absurd (by decide) written
      backward := fun written => absurd (by decide) written }

theorem entryFlink_registry (registry : Registry state)
    (writer : state.writer = .creating creation (.entryFlink :: rest)) :
    Registry (state.created creation .entryFlink rest) := by
  have program : rest = [.entryBlink, .tailFlink, .headBlink] :=
    create_order _ (registry.creating creation _ writer).position
  subst program
  have unlisted := ((registry.creating creation _ writer).unlisted (by decide)).1
  apply prepare_registry registry writer (by decide) rfl rfl rfl
  · exact fun ring => (ring_outside (block_outside unlisted) ring).1
  · intro creating
    exact
      { position := by decide
        unlisted := fun _ => creating.unlisted (by decide)
        fresh := fun _ => creating.fresh (by decide)
        unmade := fun pending => absurd pending (by decide)
        made := fun _ => creating.made (by decide)
        tail := fun _ _ => creating.tail (by decide) (by decide)
        forward := fun _ _ => Function.update_self _ _ _
        backward := fun written => absurd (by decide) written }

theorem entryBlink_registry (registry : Registry state)
    (writer : state.writer = .creating creation (.entryBlink :: rest)) :
    Registry (state.created creation .entryBlink rest) := by
  have program : rest = [.tailFlink, .headBlink] :=
    create_order _ (registry.creating creation _ writer).position
  subst program
  have unlisted := ((registry.creating creation _ writer).unlisted (by decide)).1
  apply prepare_registry registry writer (by decide) rfl rfl rfl
  · exact fun ring => (ring_outside (block_outside unlisted) ring).2
  · intro creating
    have tail := creating.tail (by decide) (by decide)
    have apart : Node.head ≠ .block creation.thread := by simp
    have head : (state.links.setBlink (.block creation.thread) state.exBlink).blink .head =
        state.links.blink .head := by
      exact Function.update_of_ne apart state.exBlink state.links.blink
    exact
      { position := by decide
        unlisted := fun _ => creating.unlisted (by decide)
        fresh := fun _ => creating.fresh (by decide)
        unmade := fun pending => absurd pending (by decide)
        made := fun _ => creating.made (by decide)
        tail := fun _ _ => tail.trans head.symm
        forward := fun _ _ => creating.forward (by decide) (by decide)
        backward := fun _ _ =>
          (Function.update_self _ _ _).trans (tail.trans head.symm) }

theorem tailFlink_registry (registry : Registry state)
    (writer : state.writer = .creating creation (.tailFlink :: rest)) :
    Registry (state.created creation .tailFlink rest) := by
  have creating := registry.creating creation _ writer
  have program : rest = [.headBlink] := create_order _ creating.position
  subst program
  rcases creating.made (by decide) with ⟨identified, identifier⟩
  have unlisted := (creating.unlisted (by decide)).1
  have tail := creating.tail (by decide) (by decide)
  have ring := registry.ring
  rw [settled_creating writer (by decide)] at ring
  constructor
  · have inserted := ring_insertTail (block_outside unlisted) ring
    rw [insertTail_prepared (creating.forward (by decide) (by decide))
      (creating.backward (by decide) (by decide)), ← tail] at inserted
    rw [← List.map_singleton, ← List.map_append] at inserted
    exact inserted
  · intro thread member
    rcases List.mem_append.mp member with before | own
    · exact registry.identified thread before
    · rw [List.mem_singleton.mp own]
      exact identified.trans identifier.symm
  · change ((state.listed ++ [creation.thread]).map state.identifiers).Nodup
    rw [List.map_append, List.map_singleton, identifier]
    have fresh : creation.answers.threadId ∉ state.listed.map state.identifiers := by
      intro member
      rcases List.mem_map.mp member with ⟨other, listed, same⟩
      exact creating.fresh (by decide) other listed same
    simpa using List.Nodup.concat fresh registry.distinct
  · intro other remaining equal
    cases equal
    exact
      { position := by decide
        unlisted := fun pending => absurd pending (by decide)
        fresh := fun pending => absurd pending (by decide)
        unmade := fun pending => absurd pending (by decide)
        made := fun _ => ⟨identified, identifier⟩
        tail := fun _ pending => absurd pending (by decide)
        forward := fun _ pending => absurd pending (by decide)
        backward := fun _ pending => absurd pending (by decide) }
  · intro thread remaining equal
    cases equal

theorem headBlink_registry (registry : Registry state)
    (writer : state.writer = .creating creation (.headBlink :: rest)) :
    Registry (state.created creation .headBlink rest) := by
  have program : rest = [] := create_order _ (registry.creating creation _ writer).position
  subst program
  have ring := registry.ring
  rw [State.settled, writer] at ring
  constructor
  · exact ring
  · exact registry.identified
  · exact registry.distinct
  · intro other remaining equal
    cases equal
  · intro thread remaining equal
    cases equal

theorem created_registry {current : CreateStep} (registry : Registry state)
    (writer : state.writer = .creating creation (current :: rest)) :
    Registry (state.created creation current rest) := by
  cases current with
  | write write => exact write_registry registry writer
  | readTail => exact readTail_registry registry writer
  | entryFlink => exact entryFlink_registry registry writer
  | entryBlink => exact entryBlink_registry registry writer
  | tailFlink => exact tailFlink_registry registry writer
  | headBlink => exact headBlink_registry registry writer

end Create

/-! ### A deletion -/

section Delete

variable {state : State} {thread : Nat} {rest : List DeleteStep}

def State.deleted (state : State) (thread : Nat) (current : DeleteStep)
    (rest : List DeleteStep) : State :=
  { state.deleteEffect thread current with
    writer := if rest = [] then .idle else .deleting thread rest }

theorem deleting_later {current : DeleteStep} (registry : Registry state)
    (writer : state.writer = .deleting thread (current :: rest)) : rest = current.later :=
  delete_order _ (registry.deleting thread _ writer).position current rfl

theorem settled_deleting {remaining : List DeleteStep}
    (writer : state.writer = .deleting thread remaining) (pending : .blinkFlink ∈ remaining) :
    state.settled = state.links := by
  rw [State.settled, writer]
  exact if_pos pending

theorem read_registry {current : DeleteStep} (registry : Registry state)
    (writer : state.writer = .deleting thread (current :: rest)) (more : .blinkFlink ∈ rest)
    (later : (state.deleted thread current rest).writer = .deleting thread rest)
    (links : (state.deleted thread current rest).links = state.links)
    (identified : ∀ other, ((state.deleted thread current rest).blocks other).win32ThreadId =
      (state.blocks other).win32ThreadId)
    (identifiers : (state.deleted thread current rest).identifiers = state.identifiers)
    (listed : (state.deleted thread current rest).listed = state.listed)
    (sound : Deleting state thread (current :: rest) →
      Deleting (state.deleted thread current rest) thread rest) :
    Registry (state.deleted thread current rest) := by
  constructor
  · have ring := registry.ring
    rw [settled_deleting writer (List.mem_cons_of_mem current more)] at ring
    rw [settled_deleting later more, links, listed]
    exact ring
  · intro other member
    rw [listed] at member
    rw [identified, identifiers]
    exact registry.identified other member
  · rw [listed, identifiers]
    exact registry.distinct
  · intro creation remaining equal
    rw [later] at equal
    cases equal
  · intro other remaining equal
    rw [later] at equal
    cases equal
    exact sound (registry.deleting thread _ writer)

theorem clearId_kept (state : State) (thread other : Nat) :
    ((state.deleteEffect thread .clearId).blocks other).win32ThreadId =
      (state.blocks other).win32ThreadId := by
  simp only [State.deleteEffect]
  by_cases own : other = thread
  · subst own
    rw [Function.update_self]
  · rw [Function.update_of_ne own]

theorem blinkFlink_registry (registry : Registry state)
    (writer : state.writer = .deleting thread (.blinkFlink :: rest)) :
    Registry (state.deleted thread .blinkFlink rest) := by
  have program : rest = [.flinkBlink] := deleting_later registry writer
  subst program
  have deleting := registry.deleting thread _ writer
  have listed := (deleting.listed (by decide)).1
  have flink := deleting.flink (by decide) (by decide)
  have blink := deleting.blink (by decide) (by decide)
  have ring := registry.ring
  rw [settled_deleting writer (by decide)] at ring
  have distinct : state.listed.Nodup := List.Nodup.of_map _ registry.distinct
  constructor
  · rcases List.append_of_mem listed with ⟨before, after, split⟩
    have absent : thread ∉ before := by
      rw [split] at distinct
      exact fun member => (List.nodup_append.mp distinct).2.2 thread member thread
        List.mem_cons_self rfl
    have remaining : state.listed.erase thread = before ++ after := by
      rw [split, List.erase_append_right _ absent, List.erase_cons_head]
    rw [split, List.map_append, List.map_cons] at ring
    have removed := ring_removeEntry ring
    rw [Links.removeEntry, ← flink, ← blink] at removed
    change Ring _ _ ((state.listed.erase thread).map Node.block)
    rw [remaining, List.map_append]
    exact removed
  · exact fun other member => registry.identified other (List.mem_of_mem_erase member)
  · exact List.Nodup.sublist (List.erase_sublist.map _) registry.distinct
  · intro creation remaining equal
    cases equal
  · intro other remaining equal
    cases equal
    exact
      { position := by decide
        listed := fun pending => absurd pending (by decide)
        flink := fun _ pending => absurd pending (by decide)
        blink := fun _ pending => absurd pending (by decide) }

theorem flinkBlink_registry (registry : Registry state)
    (writer : state.writer = .deleting thread (.flinkBlink :: rest)) :
    Registry (state.deleted thread .flinkBlink rest) := by
  have program : rest = [] := deleting_later registry writer
  subst program
  have ring := registry.ring
  rw [State.settled, writer] at ring
  constructor
  · exact ring
  · exact registry.identified
  · exact registry.distinct
  · intro creation remaining equal
    cases equal
  · intro other remaining equal
    cases equal

theorem deleted_registry {current : DeleteStep} (registry : Registry state)
    (writer : state.writer = .deleting thread (current :: rest)) :
    Registry (state.deleted thread current rest) := by
  have program := deleting_later registry writer
  cases current with
  | clearId =>
      subst program
      apply read_registry registry writer (by decide) rfl rfl (clearId_kept state thread) rfl rfl
      intro deleting
      exact
        { position := by decide
          listed := fun _ => deleting.listed (by decide)
          flink := fun read => absurd (by decide) read
          blink := fun read => absurd (by decide) read }
  | readFlink =>
      subst program
      apply read_registry registry writer (by decide) rfl rfl (fun _ => rfl) rfl rfl
      intro deleting
      exact
        { position := by decide
          listed := fun _ => deleting.listed (by decide)
          flink := fun _ _ => rfl
          blink := fun read => absurd (by decide) read }
  | readBlink =>
      subst program
      apply read_registry registry writer (by decide) rfl rfl (fun _ => rfl) rfl rfl
      intro deleting
      exact
        { position := by decide
          listed := fun _ => deleting.listed (by decide)
          flink := fun _ _ => deleting.flink (by decide) (by decide)
          blink := fun _ _ => rfl }
  | blinkFlink => exact blinkFlink_registry registry writer
  | flinkBlink => exact flinkBlink_registry registry writer

end Delete

end UsbxNxdk.ThreadLookups
