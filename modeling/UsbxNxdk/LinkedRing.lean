import Mathlib.Data.List.Basic
import Mathlib.Data.List.Nodup
import Mathlib.Logic.Function.Basic

/-! Doubly linked circular lists through a head node, over any type of nodes. -/

namespace UsbxNxdk.LinkedRing

variable {Node : Type*}

structure Links (Node : Type*) where
  flink : Node → Node
  blink : Node → Node

/-- Following the links from a node passes the entries in order and then
arrives at `last`. -/
def Linked (follow : Node → Node) : Node → List Node → Node → Prop
  | first, [], last => follow first = last
  | first, entry :: rest, last => follow first = entry ∧ Linked follow entry rest last

/-- The links hold exactly these entries, in this order, around the head. -/
structure Ring (links : Links Node) (head : Node) (entries : List Node) : Prop where
  distinct : (head :: entries).Nodup
  forward : Linked links.flink head entries head
  backward : Linked links.blink head entries.reverse head

theorem linked_last {follow : Node → Node} {first last : Node} {entries : List Node}
    (linked : Linked follow first entries last) : follow (entries.getLastD first) = last := by
  induction entries generalizing first with
  | nil => exact linked
  | cons entry rest ih =>
      rw [List.getLastD_cons]
      exact ih linked.2

theorem linked_first {follow : Node → Node} {first last : Node} {entries : List Node}
    (linked : Linked follow first entries last) : follow first = entries.headD last := by
  cases entries with
  | nil => exact linked
  | cons entry rest => exact linked.1

theorem linked_next {follow : Node → Node} {first last node : Node} {entries : List Node}
    {place : Nat} (linked : Linked follow first entries last)
    (here : (first :: entries)[place]? = some node) :
    (entries ++ [last])[place]? = some (follow node) := by
  induction entries generalizing first place with
  | nil =>
      cases place with
      | zero =>
          cases here
          exact congrArg some linked.symm
      | succ place => simp at here
  | cons entry rest ih =>
      cases place with
      | zero =>
          cases here
          exact congrArg some linked.1.symm
      | succ place => exact ih linked.2 here

theorem last_place (first : Node) (entries : List Node) :
    (first :: entries)[entries.length]? = some (entries.getLastD first) := by
  induction entries generalizing first with
  | nil => rfl
  | cons entry rest ih =>
      rw [List.length_cons, List.getElem?_cons_succ, List.getLastD_cons]
      exact ih entry

theorem last_member (first : Node) (entries : List Node) :
    entries.getLastD first ∈ first :: entries := by
  rw [← List.getLast_eq_getLastD (List.cons_ne_nil first entries)]
  exact List.getLast_mem (List.cons_ne_nil first entries)

theorem ring_blink {links : Links Node} {head : Node} {entries : List Node}
    (ring : Ring links head entries) : links.blink head = entries.getLastD head := by
  calc
    links.blink head = entries.reverse.headD head := linked_first ring.backward
    _ = entries.getLastD head := by
      rw [List.getLastD_eq_getLast?, List.headD_eq_head?_getD, List.head?_reverse]

theorem linked_append (follow : Node → Node) (first node last : Node) (before after : List Node) :
    Linked follow first (before ++ node :: after) last ↔
      Linked follow first before node ∧ Linked follow node after last := by
  induction before generalizing first with
  | nil => exact Iff.rfl
  | cons entry rest ih =>
      calc
        Linked follow first ((entry :: rest) ++ node :: after) last ↔
            follow first = entry ∧ Linked follow entry (rest ++ node :: after) last := Iff.rfl
        _ ↔ follow first = entry ∧ Linked follow entry rest node ∧ Linked follow node after last :=
          and_congr_right fun _ => ih entry
        _ ↔ Linked follow first (entry :: rest) node ∧ Linked follow node after last :=
          and_assoc.symm

theorem linked_from {follow : Node → Node} {first other last : Node} {entries : List Node}
    (same : follow other = follow first) (linked : Linked follow first entries last) :
    Linked follow other entries last := by
  cases entries with
  | nil => exact same.trans linked
  | cons entry rest => exact ⟨same.trans linked.1, linked.2⟩

theorem ring_split {links : Links Node} {head entry : Node} {before after : List Node}
    (ring : Ring links head (before ++ entry :: after)) :
    (Linked links.flink head before entry ∧ Linked links.flink entry after head) ∧
      (Linked links.blink head after.reverse entry ∧
        Linked links.blink entry before.reverse head) := by
  have backward := ring.backward
  rw [List.reverse_append, List.reverse_cons, List.append_assoc, List.singleton_append] at backward
  constructor
  · exact (linked_append links.flink head entry head before after).mp ring.forward
  · exact (linked_append links.blink head entry head after.reverse before.reverse).mp backward

theorem ring_neighbours {links : Links Node} {head entry : Node} {before after : List Node}
    (ring : Ring links head (before ++ entry :: after)) :
    links.flink entry = after.headD head ∧ links.blink entry = before.getLastD head := by
  rcases ring_split ring with ⟨⟨_, onward⟩, _, back⟩
  constructor
  · exact linked_first onward
  · calc
      links.blink entry = before.reverse.headD head := linked_first back
      _ = before.getLastD head := by
        rw [List.getLastD_eq_getLast?, List.headD_eq_head?_getD, List.head?_reverse]

theorem ring_inverse {links : Links Node} {head node : Node} {entries : List Node}
    (ring : Ring links head entries) (member : node ∈ head :: entries) :
    links.blink (links.flink node) = node ∧ links.flink (links.blink node) = node := by
  rcases List.mem_cons.mp member with rfl | listed
  · constructor
    · cases entries with
      | nil =>
          have alone : links.flink node = node := ring.forward
          rw [alone]
          exact ring.backward
      | cons entry rest =>
          have split : Ring links node ([] ++ entry :: rest) := ring
          have first : links.flink node = entry := ring.forward.1
          rw [first]
          exact (ring_neighbours split).2
    · rw [ring_blink ring]
      exact linked_last ring.forward
  · rcases List.append_of_mem listed with ⟨before, after, rfl⟩
    rcases ring_neighbours ring with ⟨next, previous⟩
    rcases ring_split ring with ⟨⟨arrives, _⟩, returns, _⟩
    constructor
    · calc
        links.blink (links.flink node) = links.blink (after.reverse.getLastD head) := by
          rw [next, List.getLastD_eq_getLast?, List.headD_eq_head?_getD, List.getLast?_reverse]
        _ = node := linked_last returns
    · rw [previous]
      exact linked_last arrives

variable [DecidableEq Node]

def Links.setFlink (links : Links Node) (node target : Node) : Links Node :=
  { links with flink := Function.update links.flink node target }

def Links.setBlink (links : Links Node) (node target : Node) : Links Node :=
  { links with blink := Function.update links.blink node target }

theorem linked_outside {follow : Node → Node} {first last node target : Node}
    {entries : List Node} (outside : node ∉ first :: entries)
    (linked : Linked follow first entries last) :
    Linked (Function.update follow node target) first entries last := by
  induction entries generalizing first with
  | nil =>
      have different : first ≠ node := by
        intro same
        exact outside (by simp [same])
      rw [Linked, Function.update_of_ne different]
      exact linked
  | cons entry rest ih =>
      have different : first ≠ node := by
        intro same
        exact outside (by simp [same])
      constructor
      · rw [Function.update_of_ne different]
        exact linked.1
      · exact ih (fun member => outside (List.mem_cons_of_mem first member)) linked.2

theorem linked_retarget {follow : Node → Node} {first last target : Node} {entries : List Node}
    (distinct : (first :: entries).Nodup) (linked : Linked follow first entries last) :
    Linked (Function.update follow (entries.getLastD first) target) first entries target := by
  induction entries generalizing first with
  | nil => exact Function.update_self first target follow
  | cons entry rest ih =>
      rcases List.nodup_cons.mp distinct with ⟨outside, tailDistinct⟩
      have different : first ≠ rest.getLastD entry := by
        intro same
        apply outside
        rw [same]
        exact last_member entry rest
      rw [List.getLastD_cons]
      constructor
      · rw [Function.update_of_ne different]
        exact linked.1
      · exact ih tailDistinct linked.2

theorem linked_bypass {follow : Node → Node} {first node last : Node} {before after : List Node}
    (distinct : (first :: (before ++ node :: after)).Nodup)
    (linked : Linked follow first (before ++ node :: after) last) :
    Linked (Function.update follow (before.getLastD first) (follow node)) first (before ++ after)
      last := by
  rcases (linked_append follow first node last before after).mp linked with ⟨arrives, onward⟩
  have split := List.nodup_append.mp (List.cons_append ▸ distinct :
    ((first :: before) ++ node :: after).Nodup)
  have retargeted : Linked (Function.update follow (before.getLastD first) (follow node)) first
      before (follow node) := linked_retarget split.1 arrives
  cases after with
  | nil =>
      have target : follow node = last := onward
      rw [List.append_nil]
      rw [target] at retargeted ⊢
      exact retargeted
  | cons entry rest =>
      have target : follow node = entry := onward.1
      rw [target] at retargeted ⊢
      apply (linked_append _ first entry last before rest).mpr
      constructor
      · exact retargeted
      · apply linked_outside
        · intro member
          exact split.2.2 _ (last_member first before) _ (List.mem_cons_of_mem node member) rfl
        · exact onward.2

/-- The standard `InsertTailList`. -/
def Links.insertTail (links : Links Node) (head entry : Node) : Links Node :=
  let exBlink := links.blink head
  (((links.setFlink entry head).setBlink entry exBlink).setFlink exBlink entry).setBlink head entry

/-- The standard `RemoveEntryList`. -/
def Links.removeEntry (links : Links Node) (entry : Node) : Links Node :=
  let exFlink := links.flink entry
  let exBlink := links.blink entry
  (links.setFlink exBlink exFlink).setBlink exFlink exBlink

theorem ring_outside {links : Links Node} {head node target : Node} {entries : List Node}
    (outside : node ∉ head :: entries) (ring : Ring links head entries) :
    Ring (links.setFlink node target) head entries ∧
      Ring (links.setBlink node target) head entries := by
  have reversed : node ∉ head :: entries.reverse := by simpa using outside
  constructor
  · exact
      { distinct := ring.distinct
        forward := linked_outside outside ring.forward
        backward := ring.backward }
  · exact
      { distinct := ring.distinct
        forward := ring.forward
        backward := linked_outside reversed ring.backward }

theorem ring_insertTail {links : Links Node} {head entry : Node} {entries : List Node}
    (outside : entry ∉ head :: entries) (ring : Ring links head entries) :
    Ring (links.insertTail head entry) head (entries ++ [entry]) := by
  have notHead : entry ≠ head := fun same => outside (by simp [same])
  have notLast : entry ≠ entries.getLastD head := by
    intro same
    apply outside
    rw [same]
    exact last_member head entries
  have last := ring_blink ring
  constructor
  · rw [← List.cons_append]
    exact List.nodup_append.mpr ⟨ring.distinct, List.nodup_singleton entry, by
      intro node member other single same
      rw [List.mem_singleton.mp single] at same
      exact outside (same ▸ member)⟩
  · apply (linked_append _ head entry head entries []).mpr
    constructor
    · have kept : Linked (Function.update links.flink entry head) head entries head :=
        linked_outside outside ring.forward
      have retargeted : Linked (Function.update (Function.update links.flink entry head)
          (entries.getLastD head) entry) head entries entry := linked_retarget ring.distinct kept
      rw [← last] at retargeted
      exact retargeted
    · change Function.update (Function.update links.flink entry head) (links.blink head) entry
        entry = head
      rw [last, Function.update_of_ne notLast, Function.update_self]
  · rw [List.reverse_append, List.reverse_singleton, List.singleton_append]
    constructor
    · exact Function.update_self head entry (Function.update links.blink entry (links.blink head))
    · apply linked_outside
      · have headOutside := (List.nodup_cons.mp ring.distinct).1
        simpa [notHead.symm] using headOutside
      · have reversed : entry ∉ head :: entries.reverse := by simpa using outside
        have kept : Linked (Function.update links.blink entry (links.blink head)) head
            entries.reverse head := linked_outside reversed ring.backward
        apply linked_from _ kept
        change Function.update links.blink entry (links.blink head) entry =
          Function.update links.blink entry (links.blink head) head
        rw [Function.update_self, Function.update_of_ne notHead.symm]

theorem ring_removeEntry {links : Links Node} {head entry : Node} {before after : List Node}
    (ring : Ring links head (before ++ entry :: after)) :
    Ring (links.removeEntry entry) head (before ++ after) := by
  rcases ring_neighbours ring with ⟨next, previous⟩
  constructor
  · have shorter : (before ++ after).Sublist (before ++ entry :: after) :=
      List.Sublist.append_left (List.sublist_cons_self entry after) before
    exact List.Nodup.sublist (List.Sublist.cons_cons head shorter) ring.distinct
  · have bypassed := linked_bypass ring.distinct ring.forward
    rw [← previous] at bypassed
    exact bypassed
  · have reverse : (before ++ entry :: after).reverse =
        after.reverse ++ entry :: before.reverse := by
      simp
    have distinct := ((List.reverse_perm (before ++ entry :: after)).cons head).nodup_iff.mpr
      ring.distinct
    rw [reverse] at distinct
    have backward := ring.backward
    rw [reverse] at backward
    have bypassed := linked_bypass distinct backward
    have place : after.reverse.getLastD head = links.flink entry := by
      rw [next, List.getLastD_eq_getLast?, List.headD_eq_head?_getD, List.getLast?_reverse]
    rw [place] at bypassed
    rw [List.reverse_append]
    exact bypassed

end UsbxNxdk.LinkedRing
