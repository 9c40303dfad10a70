import Mathlib.Logic.Relation
import Mathlib.Order.WellFoundedSet

/-! Locks that are taken in the order of a rank: threads that wait for each other
wait, in the end, for one that does not. -/

namespace UsbxNxdk.LockOrder

variable {Thread Lock Rank : Type*}

structure Locks (Thread Lock : Type*) where
  has : Thread → Lock → Prop
  awaits : Thread → Lock → Prop

namespace Locks

variable (locks : Locks Thread Lock)

def BlockedBy (first second : Thread) : Prop :=
  first ≠ second ∧ ∃ lock, locks.awaits first lock ∧ locks.has second lock

def Exclusive : Prop :=
  ∀ first second lock, locks.has first lock → locks.has second lock → first = second

def Ordered [LT Rank] (rank : Lock → Rank) : Prop :=
  ∀ thread awaited held, locks.awaits thread awaited → locks.has thread held → held ≠ awaited →
    rank held < rank awaited

/-- The wait of a thread ends with one that nobody blocks. -/
def WaitEnds (thread : Thread) : Prop :=
  ∃ last, Relation.ReflTransGen locks.BlockedBy thread last ∧ ∀ other, ¬ locks.BlockedBy last other

end Locks

variable {before after : Locks Thread Lock}

/-! ### What keeps the order -/

theorem ordered_mono [LT Rank] {rank : Lock → Rank} (ordered : before.Ordered rank)
    (awaits : ∀ thread lock, after.awaits thread lock → before.awaits thread lock)
    (has : ∀ thread lock awaited, after.awaits thread awaited → after.has thread lock →
      before.has thread lock) : after.Ordered rank := by
  intro thread awaited held waiting having other
  exact ordered thread awaited held (awaits thread awaited waiting)
    (has thread held awaited waiting having) other

theorem ordered_await [LT Rank] {rank : Lock → Rank} (ordered : before.Ordered rank)
    (caller : Thread) (asked : Lock)
    (awaits : ∀ thread lock, after.awaits thread lock →
      before.awaits thread lock ∨ thread = caller ∧ lock = asked)
    (has : ∀ thread lock, after.has thread lock → before.has thread lock)
    (above : ∀ held, before.has caller held → held ≠ asked → rank held < rank asked) :
    after.Ordered rank := by
  intro thread awaited held waiting having other
  rcases awaits thread awaited waiting with earlier | ⟨rfl, rfl⟩
  · exact ordered thread awaited held earlier (has thread held having) other
  · exact above held (has thread held having) other

/-! ### Chains of waiting threads -/

variable {locks : Locks Thread Lock}

/-- Along a chain the awaited locks rise, and there are finitely many of them. -/
theorem holder_waitEnds [Preorder Rank] {rank : Lock → Rank} (exclusive : locks.Exclusive)
    (ordered : locks.Ordered rank) (finite : {lock | ∃ thread, locks.has thread lock}.Finite)
    {lock : Lock} {holder : Thread} (having : locks.has holder lock) : locks.WaitEnds holder := by
  have rising : IsStrictOrder Lock fun upper lower => rank lower < rank upper :=
    { irrefl := fun _ => lt_irrefl _
      trans := fun _ _ _ first second => lt_trans second first }
  have descends := finite.wellFoundedOn (r := fun upper lower => rank lower < rank upper)
  have every := descends.induction (x := lock) ⟨holder, having⟩
    (P := fun lock => ∀ holder, locks.has holder lock → locks.WaitEnds holder)
  apply every ?_ holder having
  intro lock _ above holder having
  by_cases blocked : ∃ next, locks.BlockedBy holder next
  · rcases blocked with ⟨next, apart, awaited, waiting, taken⟩
    have other : lock ≠ awaited := by
      rintro rfl
      exact apart (exclusive holder next lock having taken)
    have rises := ordered holder awaited lock waiting having other
    rcases above awaited ⟨next, taken⟩ rises next taken with ⟨last, chain, free⟩
    exact ⟨last, chain.head ⟨apart, awaited, waiting, taken⟩, free⟩
  · exact ⟨holder, Relation.ReflTransGen.refl, fun other blocks => blocked ⟨other, blocks⟩⟩

theorem waitEnds [Preorder Rank] {rank : Lock → Rank} (exclusive : locks.Exclusive)
    (ordered : locks.Ordered rank) (finite : {lock | ∃ thread, locks.has thread lock}.Finite)
    (thread : Thread) : locks.WaitEnds thread := by
  by_cases blocked : ∃ next, locks.BlockedBy thread next
  · rcases blocked with ⟨next, blocks⟩
    rcases blocks.2 with ⟨lock, _, taken⟩
    rcases holder_waitEnds exclusive ordered finite taken with ⟨last, chain, free⟩
    exact ⟨last, chain.head blocks, free⟩
  · exact ⟨thread, Relation.ReflTransGen.refl, fun other blocks => blocked ⟨other, blocks⟩⟩

end UsbxNxdk.LockOrder
