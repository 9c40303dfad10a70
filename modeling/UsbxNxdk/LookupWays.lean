import UsbxNxdk.LookupList

/-! The calls of `_tx_thread_identify` on their way through a list that another
call changes. -/

namespace UsbxNxdk.ThreadLookups

open LinkedRing LinkedRoutes Thread ThreadTable

def State.Clear (state : State) (thread : Nat) (node : Node) : Prop :=
  ∃ other, node = .block other ∧ (other ∈ state.listed ∨ other ∈ state.retired) ∧
    (state.blocks other).win32ThreadId ≠ state.identifiers thread

/-- From an entry the links lead a call to the thread's own block. -/
def State.Way (state : State) (thread steps : Nat) (entry : Node) : Prop :=
  Reaches state.links.flink (state.Clear thread) (.block thread) steps entry

structure CallerSound (state : State) (thread : Nat) (caller : Caller) : Prop where
  way : ∀ entry, caller.stage.standing = some entry → thread ∈ state.listed ∧
    ∃ steps, state.Way thread steps entry ∧ caller.visited + steps ≤ caller.allowance
  apart : ∀ entry, caller.stage = .passed entry → entry ≠ .block thread
  found : caller.stage ≠ .asserted ∧ ∀ other, caller.stage = .returned other → other = thread
  bounded : caller.visited ≤ caller.allowance
  present : caller.stage.Alive → thread ∈ state.listed ∨ state.Unlinked thread

def Callers (state : State) : Prop :=
  ∀ thread, CallerSound state thread (state.callers thread)

theorem way_standing {state : State} {thread steps : Nat} {entry : Node}
    (listed : thread ∈ state.listed) (way : state.Way thread steps entry) :
    ∃ other, entry = .block other ∧ (other ∈ state.listed ∨ other ∈ state.retired) := by
  by_cases own : entry = .block thread
  · exact ⟨thread, own, Or.inl listed⟩
  · rcases reaches_passed way own with ⟨_, _, passes, _⟩
    rcases passes with ⟨other, same, used, _⟩
    exact ⟨other, same, used⟩

theorem callers_kept {state next : State} (callers : Callers state)
    (same : next.callers = state.callers)
    (ways : ∀ thread entry, (state.stage thread).standing = some entry → thread ∈ state.listed →
      thread ∈ next.listed ∧
        ∀ steps, state.Way thread steps entry → next.Way thread steps entry)
    (present : ∀ thread, (state.stage thread).Alive →
      thread ∈ state.listed ∨ state.Unlinked thread →
        thread ∈ next.listed ∨ next.Unlinked thread) : Callers next := by
  intro thread
  have sound := callers thread
  rw [same]
  constructor
  · intro entry stands
    rcases sound.way entry stands with ⟨listed, steps, way, enough⟩
    rcases ways thread entry stands listed with ⟨still, kept⟩
    exact ⟨still, steps, kept steps way, enough⟩
  · exact sound.apart
  · exact sound.found
  · exact sound.bounded
  · exact fun alive => present thread alive (sound.present alive)

theorem callers_update {state : State} {thread : Nat} {caller : Caller} (callers : Callers state)
    (sound : CallerSound state thread caller) :
    Callers { state with callers := Function.update state.callers thread caller } := by
  intro other
  change CallerSound _ other (Function.update state.callers thread caller other)
  by_cases own : other = thread
  · subst own
    rw [Function.update_self]
    exact ⟨sound.way, sound.apart, sound.found, sound.bounded, sound.present⟩
  · rw [Function.update_of_ne own]
    have kept := callers other
    exact ⟨kept.way, kept.apart, kept.found, kept.bounded, kept.present⟩

theorem way_unlinked {state next : State} {fresh thread steps : Nat} {entry : Node}
    (unlisted : fresh ∉ state.listed) (unretired : fresh ∉ state.retired)
    (listed : next.listed = state.listed) (retired : next.retired = state.retired)
    (blocks : ∀ other, other ≠ fresh → next.blocks other = state.blocks other)
    (identifiers : ∀ other, other ≠ fresh → next.identifiers other = state.identifiers other)
    (flink : ∀ node, node ≠ .block fresh → next.links.flink node = state.links.flink node)
    (member : thread ∈ state.listed) (way : state.Way thread steps entry) :
    next.Way thread steps entry := by
  have apart : ∀ other, other ∈ state.listed ∨ other ∈ state.retired → other ≠ fresh := by
    intro other used same
    subst same
    exact used.elim unlisted unretired
  have clear : ∀ node, state.Clear thread node → next.Clear thread node := by
    intro node passes
    rcases passes with ⟨other, rfl, used, different⟩
    refine ⟨other, rfl, ?_, ?_⟩
    · rw [listed, retired]
      exact used
    · rw [blocks other (apart other used), identifiers thread (apart thread (Or.inl member))]
      exact different
  apply reaches_weaken clear
  apply reaches_congr way
  intro node _ passes _
  rcases passes with ⟨other, rfl, used, _⟩
  exact flink _ fun same => apart other used (Node.block.inj same)

/-! ### A creation -/

section Create

variable {state : State} {creation : Creation} {rest : List CreateStep}

theorem unlinked_callers {next : State} {current : CreateStep} (callers : Callers state)
    (writer : state.writer = .creating creation (current :: rest))
    (creating : Creating state creation (current :: rest)) (more : .tailFlink ∈ rest)
    (later : next.writer = .creating creation rest) (same : next.callers = state.callers)
    (listed : next.listed = state.listed) (retired : next.retired = state.retired)
    (blocks : ∀ other, other ≠ creation.thread → next.blocks other = state.blocks other)
    (identifiers : ∀ other, other ≠ creation.thread →
      next.identifiers other = state.identifiers other)
    (flink : ∀ node, node ≠ .block creation.thread →
      next.links.flink node = state.links.flink node) :
    Callers next := by
  rcases creating.unlisted (List.mem_cons_of_mem current more) with ⟨unlisted, unretired⟩
  apply callers_kept callers same
  · intro thread entry _ member
    constructor
    · rw [listed]
      exact member
    · intro steps way
      exact way_unlinked unlisted unretired listed retired blocks identifiers flink member way
  · intro thread _ present
    rcases present with member | unlinked
    · exact Or.inl (listed ▸ member)
    · rcases unlinked with ⟨other, remaining, equal, own, _⟩
      rw [writer] at equal
      cases equal
      exact Or.inr ⟨creation, rest, later, own, more⟩

theorem write_callers {write : BlockWrite} (registry : Registry state) (callers : Callers state)
    (writer : state.writer = .creating creation (.write write :: rest)) :
    Callers (state.created creation (.write write) rest) := by
  have creating := registry.creating creation _ writer
  rcases create_order _ creating.position with ⟨_, later, _, _⟩
  have tailFlink : .tailFlink ∈ rest := later _ (by decide)
  have pending : (state.created creation (.write write) rest).writer = .creating creation rest :=
    created_writer (.write write) tailFlink
  have others : Callers
      { state.created creation (.write write) rest with callers := state.callers } := by
    refine unlinked_callers callers writer creating tailFlink ?_ ?_ ?_ ?_ ?_ ?_ ?_
    · exact pending
    · rfl
    · rfl
    · rfl
    · exact fun other apart => Function.update_of_ne apart _ _
    · intro other apart
      simp only [State.created, State.createEffect, CreateStep.write.injEq]
      by_cases makes : write = .createThread
      · rw [if_pos makes, Function.update_of_ne apart]
      · rw [if_neg makes]
    · exact fun node apart =>
        (write_links creation.arguments creation.answers ⟨state.links, state.blocks⟩ write apart).1
  by_cases makes : write = .createThread
  · have ready : CallerSound
        { state.created creation (.write write) rest with callers := state.callers }
        creation.thread ⟨.ready, 0, 0⟩ := by
      constructor
      · intro entry stands
        cases stands
      · intro entry passed
        cases passed
      · exact ⟨by simp, by simp⟩
      · exact Nat.le_refl 0
      · exact fun _ => Or.inr ⟨creation, rest, pending, rfl, tailFlink⟩
    have made := callers_update others ready
    simpa only [State.created, State.createEffect, CreateStep.write.injEq, if_pos makes] using made
  · simpa only [State.created, State.createEffect, CreateStep.write.injEq, if_neg makes] using others

/-- The old tail leads to the head until the new block is linked behind it, so
no call is on its way through it. -/
theorem tailFlink_callers (registry : Registry state) (callers : Callers state)
    (writer : state.writer = .creating creation (.tailFlink :: rest)) :
    Callers (state.created creation .tailFlink rest) := by
  have creating := registry.creating creation _ writer
  have ring := registry.ring
  rw [settled_creating writer List.mem_cons_self] at ring
  have program : rest = [.headBlink] := create_order _ creating.position
  subst program
  have tail : state.links.flink state.exBlink = .head := by
    rw [creating.tail (by decide) (by decide)]
    exact (ring_inverse ring List.mem_cons_self).2
  have same : (state.created creation .tailFlink [.headBlink]).callers = state.callers := rfl
  apply callers_kept callers same
  · intro thread entry _ member
    refine ⟨List.mem_append_left _ member, fun steps way => ?_⟩
    have clear : ∀ node, state.Clear thread node →
        (state.created creation .tailFlink [.headBlink]).Clear thread node := by
      intro node passes
      rcases passes with ⟨other, same, used, different⟩
      exact ⟨other, same, used.imp_left (List.mem_append_left _), different⟩
    apply reaches_weaken clear
    apply reaches_congr way
    intro node fewer _ onward
    apply Function.update_of_ne
    intro same
    rw [same, tail] at onward
    apply reaches_stuck _ _ fewer onward
    · simp
    · intro passes
      rcases passes with ⟨other, equal, _⟩
      cases equal
  · intro thread _ present
    rcases present with member | unlinked
    · exact Or.inl (List.mem_append_left _ member)
    · rcases unlinked with ⟨other, remaining, equal, own, _⟩
      rw [writer] at equal
      cases equal
      exact Or.inl (List.mem_append_right _ (List.mem_singleton.mpr own.symm))

theorem headBlink_callers (registry : Registry state) (callers : Callers state)
    (writer : state.writer = .creating creation (.headBlink :: rest)) :
    Callers (state.created creation .headBlink rest) := by
  have program : rest = [] := create_order _ (registry.creating creation _ writer).position
  subst program
  have same : (state.created creation .headBlink []).callers = state.callers := rfl
  apply callers_kept callers same
  · exact fun _ _ _ member => ⟨member, fun _ way => way⟩
  · intro thread _ present
    rcases present with member | unlinked
    · exact Or.inl member
    · rcases unlinked with ⟨other, remaining, equal, _, pending⟩
      rw [writer] at equal
      cases equal
      exact absurd pending (by decide)

theorem created_callers {current : CreateStep} (registry : Registry state)
    (callers : Callers state) (writer : state.writer = .creating creation (current :: rest)) :
    Callers (state.created creation current rest) := by
  have creating := registry.creating creation _ writer
  have order := create_order _ creating.position
  cases current with
  | write write => exact write_callers registry callers writer
  | readTail =>
      have more : .tailFlink ∈ rest := by
        rw [show rest = _ from order]
        decide
      exact unlinked_callers callers writer creating more (created_writer _ more) rfl rfl rfl
        (fun _ _ => rfl) (fun _ _ => rfl) fun _ _ => rfl
  | entryFlink =>
      have more : .tailFlink ∈ rest := by
        rw [show rest = _ from order]
        decide
      exact unlinked_callers callers writer creating more (created_writer _ more) rfl rfl rfl
        (fun _ _ => rfl) (fun _ _ => rfl) fun _ apart => Function.update_of_ne apart _ _
  | entryBlink =>
      have more : .tailFlink ∈ rest := by
        rw [show rest = _ from order]
        decide
      exact unlinked_callers callers writer creating more (created_writer _ more) rfl rfl rfl
        (fun _ _ => rfl) (fun _ _ => rfl) fun _ _ => rfl
  | tailFlink => exact tailFlink_callers registry callers writer
  | headBlink => exact headBlink_callers registry callers writer

end Create

/-! ### A deletion -/

section Delete

variable {state : State} {thread : Nat} {rest : List DeleteStep}

theorem read_callers {next : State} {remaining : List DeleteStep} (callers : Callers state)
    (writer : state.writer = .deleting thread remaining) (same : next.callers = state.callers)
    (listed : next.listed = state.listed) (retired : next.retired = state.retired)
    (identified : ∀ other, (next.blocks other).win32ThreadId =
      (state.blocks other).win32ThreadId)
    (identifiers : next.identifiers = state.identifiers)
    (flink : next.links.flink = state.links.flink) : Callers next := by
  apply callers_kept callers same
  · intro walker entry _ member
    refine ⟨listed ▸ member, fun steps way => ?_⟩
    rw [State.Way, flink]
    apply reaches_weaken _ way
    intro node passes
    rcases passes with ⟨other, equal, used, different⟩
    refine ⟨other, equal, ?_, ?_⟩
    · rw [listed, retired]
      exact used
    · rw [identified, identifiers]
      exact different
  · intro walker _ present
    rcases present with member | unlinked
    · exact Or.inl (listed ▸ member)
    · rcases unlinked with ⟨creation, steps, equal, _⟩
      rw [writer] at equal
      cases equal

theorem blinkFlink_callers (registry : Registry state) (callers : Callers state)
    (writer : state.writer = .deleting thread (.blinkFlink :: rest)) :
    Callers (state.deleted thread .blinkFlink rest) := by
  have program : rest = [.flinkBlink] := deleting_later registry writer
  subst program
  have deleting := registry.deleting thread _ writer
  rcases deleting.listed (by decide) with ⟨listed, ended⟩
  have flink := deleting.flink (by decide) (by decide)
  have blink := deleting.blink (by decide) (by decide)
  have ring := registry.ring
  rw [settled_deleting writer (by decide)] at ring
  have entry : Node.block thread ∈ state.listed.map Node.block := List.mem_map_of_mem listed
  have behind : state.links.flink state.exBlink = .block thread := by
    rw [blink]
    exact (ring_inverse ring (List.mem_cons_of_mem _ entry)).2
  have erased : ∀ other ∈ state.listed, other ≠ thread → other ∈ state.listed.erase thread :=
    fun other member apart => (List.mem_erase_of_ne apart).mpr member
  have same : (state.deleted thread .blinkFlink [.flinkBlink]).callers = state.callers := rfl
  apply callers_kept callers same
  · intro walker place stands member
    have apart : walker ≠ thread := by
      intro own
      rw [own, ended] at stands
      cases stands
    refine ⟨erased walker member apart, fun steps way => ?_⟩
    have clear : ∀ node, state.Clear walker node →
        (state.deleted thread .blinkFlink [.flinkBlink]).Clear walker node := by
      intro node passes
      rcases passes with ⟨other, equal, used, different⟩
      refine ⟨other, equal, ?_, different⟩
      rcases used with inside | outside
      · by_cases own : other = thread
        · exact Or.inr (own ▸ List.mem_cons_self)
        · exact Or.inl (erased other inside own)
      · exact Or.inr (List.mem_cons_of_mem thread outside)
    have bypass := reaches_bypass state.exBlink way
    rw [behind] at bypass
    apply reaches_weaken clear
    change Reaches (Function.update state.links.flink state.exBlink state.exFlink) _ _ _ _
    rw [flink]
    apply bypass
    · exact fun own => apart (Node.block.inj own).symm
    · rw [blink]
      exact (ring_apart ring entry).symm
  · intro walker alive present
    rcases present with member | unlinked
    · apply Or.inl
      apply erased walker member
      intro own
      rw [own, ended] at alive
      exact alive.2 rfl
    · rcases unlinked with ⟨creation, steps, equal, _⟩
      rw [writer] at equal
      cases equal

theorem deleted_callers {current : DeleteStep} (registry : Registry state)
    (callers : Callers state) (writer : state.writer = .deleting thread (current :: rest)) :
    Callers (state.deleted thread current rest) := by
  cases current with
  | clearId =>
      exact read_callers callers writer rfl rfl rfl (clearId_kept state thread) rfl rfl
  | blinkFlink => exact blinkFlink_callers registry callers writer
  | _ => exact read_callers callers writer rfl rfl rfl (fun _ => rfl) rfl rfl

end Delete

end UsbxNxdk.ThreadLookups
