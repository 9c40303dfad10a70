import Mathlib.Data.Option.Basic
import Mathlib.Logic.Function.Basic

/-! Cells that any number of holders share by key. A cell is there as long as
some holder is bound to its key. -/

namespace UsbxNxdk.SharedCells

/-- `backed` says that no cell outlives its last holder, and that no holder is
bound to nothing. -/
structure Store (Holder Key Cell : Type*) where
  bound : Holder → Option Key
  cells : Key → Option Cell
  backed : ∀ key, (cells key).isSome = true ↔ ∃ holder, bound holder = some key

variable {Holder Key Cell : Type*}

namespace Store

def empty : Store Holder Key Cell where
  bound _ := none
  cells _ := none
  backed key := by simp

def cellOf (store : Store Holder Key Cell) (holder : Holder) : Option Cell :=
  (store.bound holder).bind store.cells

theorem cellOf_bound (store : Store Holder Key Cell) {holder : Holder} {key : Key}
    (bound : store.bound holder = some key) : store.cellOf holder = store.cells key := by
  rw [cellOf, bound, Option.bind_some]

theorem cellOf_congr {first second : Store Holder Key Cell} {holder : Holder}
    (bound : first.bound holder = second.bound holder)
    (cells : ∀ key, second.bound holder = some key → first.cells key = second.cells key) :
    first.cellOf holder = second.cellOf holder := by
  rw [cellOf, cellOf, bound]
  cases found : second.bound holder with
  | none => rfl
  | some key => exact cells key found

variable (store : Store Holder Key Cell)

theorem cells_some {key : Key} {cell : Cell} (found : store.cells key = some cell) :
    ∃ holder, store.bound holder = some key ∧ store.cellOf holder = some cell := by
  have present : (store.cells key).isSome = true := by rw [found]; rfl
  rcases (store.backed key).mp present with ⟨holder, bound⟩
  exact ⟨holder, bound, (cellOf_bound store bound).trans found⟩

theorem cells_none {key : Key} (unbound : ∀ holder, store.bound holder ≠ some key) :
    store.cells key = none := by
  apply Option.not_isSome_iff_eq_none.mp
  intro present
  rcases (store.backed key).mp present with ⟨holder, bound⟩
  exact unbound holder bound

section Writing

variable [DecidableEq Key]

def write (store : Store Holder Key Cell) (holder : Holder) (cell : Cell) :
    Store Holder Key Cell where
  bound := store.bound
  cells key := if store.bound holder = some key then some cell else store.cells key
  backed key := by
    by_cases own : store.bound holder = some key
    · rw [if_pos own]
      exact iff_of_true rfl ⟨holder, own⟩
    · rw [if_neg own]
      exact store.backed key

@[simp] theorem write_bound (holder : Holder) (cell : Cell) :
    (store.write holder cell).bound = store.bound := rfl

theorem write_shared {holder other : Holder} {key : Key} (bound : store.bound holder = some key)
    (shares : store.bound other = some key) (cell : Cell) :
    (store.write holder cell).cellOf other = some cell := by
  rw [cellOf_bound (store.write holder cell) shares]
  exact if_pos bound

theorem write_apart {holder other : Holder} (apart : store.bound other ≠ store.bound holder)
    (cell : Cell) : (store.write holder cell).cellOf other = store.cellOf other := by
  apply cellOf_congr (congrFun (write_bound store holder cell) other)
  intro key bound
  exact if_neg fun own => apart (bound.trans own.symm)

end Writing

open Classical in
noncomputable def remaining (store : Store Holder Key Cell) (holder : Holder) (key : Key) :
    Option Cell :=
  if ∃ other, other ≠ holder ∧ store.bound other = some key then store.cells key else none

theorem remaining_held {store : Store Holder Key Cell} {holder other : Holder} {key : Key}
    (different : other ≠ holder) (bound : store.bound other = some key) :
    store.remaining holder key = store.cells key :=
  if_pos ⟨other, different, bound⟩

theorem remaining_isSome (store : Store Holder Key Cell) (holder : Holder) (key : Key) :
    (store.remaining holder key).isSome = true ↔
      ∃ other, other ≠ holder ∧ store.bound other = some key := by
  by_cases held : ∃ other, other ≠ holder ∧ store.bound other = some key
  · rcases held with ⟨other, different, bound⟩
    rw [remaining_held different bound, store.backed]
    exact ⟨fun _ => ⟨other, different, bound⟩, fun _ => ⟨other, bound⟩⟩
  · rw [remaining, if_neg held]
    exact iff_of_false Bool.false_ne_true held

section Binding

variable [DecidableEq Holder]

noncomputable def unbind (store : Store Holder Key Cell) (holder : Holder) :
    Store Holder Key Cell where
  bound := Function.update store.bound holder none
  cells := store.remaining holder
  backed key := by
    rw [remaining_isSome]
    apply exists_congr
    intro other
    by_cases same : other = holder
    · simp [same]
    · simp [same]

@[simp] theorem unbind_bound (store : Store Holder Key Cell) (holder : Holder) :
    (store.unbind holder).bound = Function.update store.bound holder none := rfl

theorem unbind_other {holder other : Holder} (different : other ≠ holder) :
    (store.unbind holder).cellOf other = store.cellOf other := by
  apply cellOf_congr (Function.update_of_ne different _ _)
  intro key bound
  exact remaining_held different bound

variable [DecidableEq Key]

noncomputable def bind (store : Store Holder Key Cell) (holder : Holder)
    (key : Key) (cell : Cell) : Store Holder Key Cell where
  bound := Function.update store.bound holder (some key)
  cells := Function.update (store.remaining holder) key (some cell)
  backed other := by
    by_cases own : other = key
    · subst own
      rw [Function.update_self]
      exact iff_of_true rfl ⟨holder, Function.update_self holder _ _⟩
    · rw [Function.update_of_ne own, remaining_isSome]
      apply exists_congr
      intro user
      by_cases same : user = holder
      · simp [same, Ne.symm own]
      · simp [same]

@[simp] theorem bind_bound (holder : Holder) (key : Key) (cell : Cell) :
    (store.bind holder key cell).bound = Function.update store.bound holder (some key) := rfl

theorem bind_own (holder : Holder) (key : Key) (cell : Cell) :
    (store.bind holder key cell).cellOf holder = some cell := by
  have bound : (store.bind holder key cell).bound holder = some key :=
    Function.update_self holder _ _
  rw [cellOf_bound _ bound]
  exact Function.update_self key _ _

theorem bind_apart {holder other : Holder} {key : Key} (different : other ≠ holder)
    (apart : store.bound other ≠ some key) (cell : Cell) :
    (store.bind holder key cell).cellOf other = store.cellOf other := by
  apply cellOf_congr (Function.update_of_ne different _ _)
  intro found bound
  have elsewhere : found ≠ key := by
    intro same
    exact apart (bound.trans (congrArg some same))
  calc
    (store.bind holder key cell).cells found = store.remaining holder found :=
      Function.update_of_ne elsewhere _ _
    _ = store.cells found := remaining_held different bound

theorem bind_shared {holder other : Holder} {key : Key} (different : other ≠ holder)
    (shares : store.bound other = some key) (cell : Cell) :
    (store.bind holder key cell).cellOf other = some cell := by
  have kept : (store.bind holder key cell).bound other = some key :=
    (Function.update_of_ne different _ _).trans shares
  rw [cellOf_bound _ kept]
  exact Function.update_self key _ _

end Binding

end Store

/-! ### Two stores alike on one side -/

/-- Holders keep to the keys of their own side, and on one side two stores have
the same cells. -/
structure Agree (mine : Holder → Bool) (own : Key → Bool) (first second : Store Holder Key Cell) :
    Prop where
  bound : ∀ holder, mine holder = true → first.bound holder = second.bound holder
  cells : ∀ key, own key = true → first.cells key = second.cells key
  firstKeeps : ∀ holder key, first.bound holder = some key → own key = mine holder
  secondKeeps : ∀ holder key, second.bound holder = some key → own key = mine holder

section Agreement

variable {mine : Holder → Bool} {own : Key → Bool} {first second : Store Holder Key Cell}

theorem agree_cellOf (agree : Agree mine own first second) {holder : Holder}
    (inside : mine holder = true) : first.cellOf holder = second.cellOf holder := by
  apply Store.cellOf_congr (agree.bound holder inside)
  intro key bound
  exact agree.cells key ((agree.secondKeeps holder key bound).trans inside)

section Writing

variable [DecidableEq Key]

theorem agree_write (agree : Agree mine own first second) {holder : Holder}
    (inside : mine holder = true) (cell : Cell) :
    Agree mine own (first.write holder cell) (second.write holder cell) where
  bound := agree.bound
  cells key kept := by
    simp only [Store.write, agree.bound holder inside, agree.cells key kept]
  firstKeeps := agree.firstKeeps
  secondKeeps := agree.secondKeeps

theorem agree_write_foreign (agree : Agree mine own first second) {holder : Holder}
    (outside : mine holder = false) (cell : Cell) :
    Agree mine own (first.write holder cell) second where
  bound := agree.bound
  cells key kept := by
    have apart : first.bound holder ≠ some key := by
      intro bound
      have side := agree.firstKeeps holder key bound
      rw [kept, outside] at side
      cases side
    rw [← agree.cells key kept]
    exact if_neg apart
  firstKeeps := agree.firstKeeps
  secondKeeps := agree.secondKeeps

end Writing

theorem remaining_agree (agree : Agree mine own first second) (holder : Holder) {key : Key}
    (kept : own key = true) : first.remaining holder key = second.remaining holder key := by
  have same : (∃ other, other ≠ holder ∧ first.bound other = some key) ↔
      ∃ other, other ≠ holder ∧ second.bound other = some key := by
    apply exists_congr
    intro other
    apply and_congr_right
    intro _
    constructor
    · intro bound
      have inside := (agree.firstKeeps other key bound).symm.trans kept
      exact (agree.bound other inside).symm.trans bound
    · intro bound
      have inside := (agree.secondKeeps other key bound).symm.trans kept
      exact (agree.bound other inside).trans bound
  rw [Store.remaining, Store.remaining, agree.cells key kept]
  by_cases held : ∃ other, other ≠ holder ∧ first.bound other = some key
  · rw [if_pos held, if_pos (same.mp held)]
  · rw [if_neg held, if_neg fun others => held (same.mpr others)]

theorem remaining_apart {store : Store Holder Key Cell} {holder : Holder} {key : Key}
    (apart : store.bound holder ≠ some key) : store.remaining holder key = store.cells key := by
  cases found : store.cells key with
  | some cell =>
      rcases Store.cells_some store found with ⟨other, bound, _⟩
      have different : other ≠ holder := by
        intro same
        rw [same] at bound
        exact apart bound
      rw [Store.remaining_held different bound, found]
  | none =>
      rw [Store.remaining, found]
      exact ite_self none

theorem remaining_foreign (agree : Agree mine own first second) {holder : Holder}
    (outside : mine holder = false) {key : Key} (kept : own key = true) :
    first.remaining holder key = second.cells key := by
  rw [← agree.cells key kept]
  apply remaining_apart
  intro bound
  have side := agree.firstKeeps holder key bound
  rw [kept, outside] at side
  cases side

section Binding

variable [DecidableEq Holder]

theorem update_keeps {bound : Holder → Option Key} {holder : Holder} {target : Option Key}
    (keeps : ∀ holder key, bound holder = some key → own key = mine holder)
    (sided : ∀ key, target = some key → own key = mine holder) (other : Holder) (key : Key)
    (found : Function.update bound holder target other = some key) : own key = mine other := by
  by_cases same : other = holder
  · rw [same, Function.update_self] at found
    rw [same]
    exact sided key found
  · rw [Function.update_of_ne same] at found
    exact keeps other key found

theorem update_agree {bound others : Holder → Option Key} (holder : Holder) (target : Option Key)
    (same : ∀ holder, mine holder = true → bound holder = others holder) (other : Holder)
    (inside : mine other = true) :
    Function.update bound holder target other = Function.update others holder target other := by
  by_cases own : other = holder
  · rw [own, Function.update_self, Function.update_self]
  · rw [Function.update_of_ne own, Function.update_of_ne own, same other inside]

theorem update_foreign {bound others : Holder → Option Key} {holder : Holder}
    (outside : mine holder = false) (target : Option Key)
    (same : ∀ holder, mine holder = true → bound holder = others holder) (other : Holder)
    (inside : mine other = true) : Function.update bound holder target other = others other := by
  have different : other ≠ holder := by
    intro equal
    rw [equal, outside] at inside
    cases inside
  rw [Function.update_of_ne different, same other inside]

theorem agree_unbind (agree : Agree mine own first second) (holder : Holder) :
    Agree mine own (first.unbind holder) (second.unbind holder) where
  bound := update_agree holder none agree.bound
  cells _ kept := remaining_agree agree holder kept
  firstKeeps := update_keeps agree.firstKeeps fun _ none => by cases none
  secondKeeps := update_keeps agree.secondKeeps fun _ none => by cases none

theorem agree_unbind_foreign (agree : Agree mine own first second) {holder : Holder}
    (outside : mine holder = false) : Agree mine own (first.unbind holder) second where
  bound := update_foreign outside none agree.bound
  cells _ kept := remaining_foreign agree outside kept
  firstKeeps := update_keeps agree.firstKeeps fun _ none => by cases none
  secondKeeps := agree.secondKeeps

variable [DecidableEq Key]

theorem agree_bind (agree : Agree mine own first second) {holder : Holder} {key : Key}
    (sided : own key = mine holder) (cell : Cell) :
    Agree mine own (first.bind holder key cell) (second.bind holder key cell) where
  bound := update_agree holder (some key) agree.bound
  cells other kept := by
    by_cases same : other = key
    · rw [same]
      simp only [Store.bind, Function.update_self]
    · simp only [Store.bind, Function.update_of_ne same]
      exact remaining_agree agree holder kept
  firstKeeps := update_keeps agree.firstKeeps fun _ same => Option.some.inj same ▸ sided
  secondKeeps := update_keeps agree.secondKeeps fun _ same => Option.some.inj same ▸ sided

theorem agree_bind_foreign (agree : Agree mine own first second) {holder : Holder} {key : Key}
    (outside : mine holder = false) (sided : own key = mine holder) (cell : Cell) :
    Agree mine own (first.bind holder key cell) second where
  bound := update_foreign outside (some key) agree.bound
  cells other kept := by
    have different : other ≠ key := by
      intro same
      rw [same, sided, outside] at kept
      cases kept
    simp only [Store.bind, Function.update_of_ne different]
    exact remaining_foreign agree outside kept
  firstKeeps := update_keeps agree.firstKeeps fun _ same => Option.some.inj same ▸ sided
  secondKeeps := agree.secondKeeps

end Binding

end Agreement

end UsbxNxdk.SharedCells
