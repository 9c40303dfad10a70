import Mathlib.Logic.Function.Iterate
import UsbxNxdk.LinkedRing

/-! A reader's way along the links of a list while a writer changes them, over
any type of nodes. -/

namespace UsbxNxdk.LinkedRoutes

open LinkedRing

variable {Node : Type*}

/-- Following the links from a node reaches the target in a number of steps at
most, and every node left on the way is clear. -/
inductive Reaches (follow : Node → Node) (clear : Node → Prop) (target : Node) :
    Nat → Node → Prop where
  | arrived (steps : Nat) : Reaches follow clear target steps target
  | onward {steps : Nat} {node : Node} (passes : clear node)
      (later : Reaches follow clear target steps (follow node)) :
      Reaches follow clear target (steps + 1) node

section Reading

variable {follow : Node → Node} {clear : Node → Prop} {target node : Node} {steps : Nat}

theorem reaches_passed (reaches : Reaches follow clear target steps node)
    (apart : node ≠ target) :
    ∃ fewer, steps = fewer + 1 ∧ clear node ∧
      Reaches follow clear target fewer (follow node) := by
  cases reaches with
  | arrived => exact absurd rfl apart
  | @onward fewer _ passes later => exact ⟨fewer, rfl, passes, later⟩

theorem reaches_more (reaches : Reaches follow clear target steps node) {more : Nat}
    (enough : steps ≤ more) : Reaches follow clear target more node := by
  induction reaches generalizing more with
  | arrived => exact .arrived more
  | @onward fewer node passes _ ih =>
      have shape : more = more - 1 + 1 := by omega
      rw [shape]
      exact .onward passes (ih (by omega))

theorem reaches_weaken {weaker : Node → Prop} (implies : ∀ node, clear node → weaker node)
    (reaches : Reaches follow clear target steps node) :
    Reaches follow weaker target steps node := by
  induction reaches with
  | arrived steps => exact .arrived steps
  | onward passes _ ih => exact .onward (implies _ passes) ih

theorem reaches_congr {other : Node → Node} (reaches : Reaches follow clear target steps node)
    (same : ∀ node steps, clear node → Reaches follow clear target steps (follow node) →
      other node = follow node) :
    Reaches other clear target steps node := by
  induction reaches with
  | arrived steps => exact .arrived steps
  | onward passes later ih =>
      refine .onward passes ?_
      rw [same _ _ passes later]
      exact ih

theorem reaches_within {inside : Node → Prop} (reaches : Reaches follow clear target steps node)
    (closed : ∀ node, inside node → clear node →
      inside (follow node) ∨ ∀ steps, ¬ Reaches follow clear target steps (follow node))
    (here : inside node) :
    Reaches follow (fun node => clear node ∧ inside node) target steps node := by
  induction reaches with
  | arrived steps => exact .arrived steps
  | @onward fewer node passes later ih =>
      rcases closed node here passes with stays | lost
      · exact .onward ⟨passes, here⟩ (ih stays)
      · exact absurd later (lost fewer)

theorem reaches_stuck (apart : node ≠ target) (unclear : ¬ clear node) (steps : Nat) :
    ¬ Reaches follow clear target steps node := by
  intro reaches
  rcases reaches_passed reaches apart with ⟨_, _, passes, _⟩
  exact unclear passes

theorem linked_member {first last : Node} {entries : List Node}
    (linked : Linked follow first entries last) (member : node ∈ first :: entries) :
    follow node ∈ entries ++ [last] := by
  rcases List.mem_iff_getElem?.mp member with ⟨place, here⟩
  exact List.mem_of_getElem? (linked_next linked here)

theorem linked_reaches {first last : Node} {before after : List Node}
    (linked : Linked follow first (before ++ target :: after) last)
    (clearBefore : ∀ node ∈ before, clear node) :
    Reaches follow clear target before.length (follow first) := by
  induction before generalizing first with
  | nil =>
      have arrives : follow first = target := linked.1
      rw [arrives]
      exact .arrived 0
  | cons entry rest ih =>
      have next : follow first = entry := linked.1
      rw [next]
      exact .onward (clearBefore entry List.mem_cons_self)
        (ih linked.2 fun node member => clearBefore node (List.mem_cons_of_mem entry member))

theorem linked_iterate {first last entry : Node} {entries : List Node}
    (linked : Linked follow first entries last) (member : entry ∈ entries) :
    ∃ steps, follow^[steps] first = entry := by
  induction entries generalizing first with
  | nil => cases member
  | cons next rest ih =>
      rcases List.mem_cons.mp member with rfl | later
      · exact ⟨1, linked.1⟩
      · rcases ih linked.2 later with ⟨steps, reached⟩
        refine ⟨steps + 1, ?_⟩
        rw [Function.iterate_succ_apply, linked.1, reached]

theorem linked_agree {other : Node → Node} {first last : Node} {entries : List Node}
    (same : ∀ node ∈ first :: entries, other node = follow node)
    (linked : Linked follow first entries last) : Linked other first entries last := by
  induction entries generalizing first with
  | nil => exact (same first List.mem_cons_self).trans linked
  | cons entry rest ih =>
      constructor
      · exact (same first List.mem_cons_self).trans linked.1
      · exact ih (fun node member => same node (List.mem_cons_of_mem first member)) linked.2

theorem ring_agree {links other : Links Node} {head : Node} {entries : List Node}
    (flink : ∀ node ∈ head :: entries, other.flink node = links.flink node)
    (blink : ∀ node ∈ head :: entries, other.blink node = links.blink node)
    (ring : Ring links head entries) : Ring other head entries where
  distinct := ring.distinct
  forward := linked_agree flink ring.forward
  backward := by
    apply linked_agree _ ring.backward
    intro node member
    exact blink node (by simpa using member)

theorem ring_apart {links : Links Node} {head entry : Node} {entries : List Node}
    (ring : Ring links head entries) (member : entry ∈ entries) : links.blink entry ≠ entry := by
  rcases List.append_of_mem member with ⟨before, after, rfl⟩
  have distinct := ring.distinct
  rw [← List.cons_append] at distinct
  rw [(ring_neighbours ring).2]
  exact (List.nodup_append.mp distinct).2.2 _ (last_member head before) _ List.mem_cons_self

end Reading

section Writing

variable [DecidableEq Node]
variable {follow : Node → Node} {clear : Node → Prop} {target node : Node} {steps : Nat}

theorem reaches_bypass (before : Node) (reaches : Reaches follow clear target steps node)
    (apart : follow before ≠ target) (distinct : follow before ≠ before) :
    Reaches (Function.update follow before (follow (follow before))) clear target steps node := by
  induction reaches with
  | arrived steps => exact .arrived steps
  | @onward fewer node passes later ih =>
      refine .onward passes ?_
      by_cases same : node = before
      · subst same
        rcases reaches_passed ih apart with ⟨fewer, rfl, _, onward⟩
        rw [Function.update_of_ne distinct] at onward
        rw [Function.update_self]
        exact reaches_more onward (Nat.le_succ fewer)
      · rw [Function.update_of_ne same]
        exact ih

theorem insertTail_prepared {links : Links Node} {head entry : Node}
    (forward : links.flink entry = head) (backward : links.blink entry = links.blink head) :
    links.insertTail head entry =
      (links.setFlink (links.blink head) entry).setBlink head entry := by
  have linked : (links.setFlink entry head).setBlink entry (links.blink head) = links := by
    have kept : links.setFlink entry head = links := by
      rw [← forward, Links.setFlink, Function.update_eq_self]
    rw [kept, ← backward, Links.setBlink, Function.update_eq_self]
  rw [Links.insertTail, linked]

end Writing

end UsbxNxdk.LinkedRoutes
