import Mathlib.Data.Fintype.Card

/-! A bounded multiset, and its representation by a table with a fixed number of
places in which one value marks the places that are free. -/

namespace UsbxNxdk.BoundedMultiset

variable {Place Item : Type*} [DecidableEq Item]

def add (capacity : Nat) (item : Item) (held : Multiset Item) : Option (Multiset Item) :=
  if held.card < capacity then some (item ::ₘ held) else none

def remove (item : Item) (held : Multiset Item) : Option (Multiset Item) :=
  if item ∈ held then some (held.erase item) else none

variable [Fintype Place]

/-- The entries of a table that are not free, in no order. -/
def contents (free : Item) (table : Place → Item) : Multiset Item :=
  (Finset.univ.val.map table).filter fun item => item ≠ free

variable {free item : Item} {table : Place → Item} {place : Place}

theorem mem_contents :
    item ∈ contents free table ↔ item ≠ free ∧ ∃ place, table place = item := by
  simp only [contents, Multiset.mem_filter, Multiset.mem_map, Finset.mem_val, Finset.mem_univ,
    true_and]
  exact and_comm

theorem card_contents_lt :
    (contents free table).card < Fintype.card Place ↔ ∃ place, table place = free := by
  have entries : (Finset.univ.val.map table).card = Fintype.card Place := by
    rw [Multiset.card_map]
    rfl
  have within : contents free table ≤ Finset.univ.val.map table := Multiset.filter_le _ _
  rw [← entries]
  constructor
  · intro room
    by_contra occupied
    have whole : contents free table = Finset.univ.val.map table := by
      apply Multiset.filter_eq_self.mpr
      intro item member
      rcases Multiset.mem_map.mp member with ⟨place, _, rfl⟩
      exact fun vacant => occupied ⟨place, vacant⟩
    rw [whole] at room
    exact Nat.lt_irrefl _ room
  · intro vacant
    rcases vacant with ⟨place, vacant⟩
    apply Multiset.card_lt_card
    refine lt_of_le_of_ne within ?_
    intro whole
    have member : table place ∈ Finset.univ.val.map table :=
      Multiset.mem_map_of_mem table (Finset.mem_univ place)
    rw [← whole, mem_contents] at member
    exact member.1 vacant

theorem add_full (full : ∀ place, table place ≠ free) :
    add (Fintype.card Place) item (contents free table) = none := by
  apply if_neg
  intro room
  rcases card_contents_lt.mp room with ⟨place, vacant⟩
  exact full place vacant

theorem remove_absent (absent : ∀ place, table place ≠ item) :
    remove item (contents free table) = none := by
  apply if_neg
  intro member
  rcases (mem_contents.mp member).2 with ⟨place, found⟩
  exact absent place found

variable [DecidableEq Place]

def elsewhere (free : Item) (table : Place → Item) (place : Place) : Multiset Item :=
  ((Finset.univ.erase place).val.map table).filter fun item => item ≠ free

theorem contents_split (place : Place) :
    contents free table =
      if table place = free then elsewhere free table place
      else table place ::ₘ elsewhere free table place := by
  have places : (Finset.univ : Finset Place).val = place ::ₘ (Finset.univ.erase place).val := by
    rw [Finset.erase_val, Multiset.cons_erase (Finset.mem_univ place)]
  rw [contents, places, Multiset.map_cons]
  by_cases vacant : table place = free
  · rw [if_pos vacant, Multiset.filter_cons_of_neg (p := fun item => item ≠ free) _
      (not_not.mpr vacant)]
    rfl
  · rw [if_neg vacant, Multiset.filter_cons_of_pos (p := fun item => item ≠ free) _ vacant]
    rfl

theorem elsewhere_update (written : Item) :
    elsewhere free (Function.update table place written) place = elsewhere free table place := by
  rw [elsewhere, elsewhere]
  congr 1
  apply Multiset.map_congr rfl
  intro other member
  exact Function.update_of_ne (Finset.ne_of_mem_erase member) _ _

theorem contents_fill (vacant : table place = free) (occupied : item ≠ free) :
    contents free (Function.update table place item) = item ::ₘ contents free table := by
  rw [contents_split place, Function.update_self, if_neg occupied, elsewhere_update,
    contents_split place, if_pos vacant]

theorem contents_clear (occupied : table place ≠ free) :
    contents free (Function.update table place free) =
      (contents free table).erase (table place) := by
  rw [contents_split place, Function.update_self, if_pos rfl, elsewhere_update,
    contents_split place, if_neg occupied, Multiset.erase_cons_head]

/-! ### The operations on a table -/

theorem add_vacant (vacant : table place = free) (occupied : item ≠ free) :
    add (Fintype.card Place) item (contents free table) =
      some (contents free (Function.update table place item)) := by
  rw [add, if_pos (card_contents_lt.mpr ⟨place, vacant⟩), contents_fill vacant occupied]

theorem remove_found (found : table place = item) (occupied : item ≠ free) :
    remove item (contents free table) =
      some (contents free (Function.update table place free)) := by
  rw [remove, if_pos (mem_contents.mpr ⟨occupied, place, found⟩)]
  rw [contents_clear (found ▸ occupied), found]

end UsbxNxdk.BoundedMultiset
