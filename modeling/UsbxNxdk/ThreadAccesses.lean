import UsbxNxdk.LinkedRoutes
import UsbxNxdk.Thread

/-! The accesses that `_tx_thread_create` makes to shared memory: its writes to
the block, then `InsertTailList`. -/

namespace UsbxNxdk.ThreadTable

open LinkedRing LinkedRoutes Thread

/-- The list entries: `thread_list_head`, and the `entry` field of each block. -/
inductive Node where
  | null
  | head
  | block (address : Nat)
  deriving DecidableEq, Repr

inductive CreateStep where
  | write (write : BlockWrite)
  | readTail
  | entryFlink
  | entryBlink
  | tailFlink
  | headBlink
  deriving DecidableEq, Repr

def insertTailList : List CreateStep :=
  [.readTail, .entryFlink, .entryBlink, .tailFlink, .headBlink]

def createSteps : List CreateStep := blockWrites.map .write ++ insertTailList

structure Table where
  links : Links Node
  blocks : Nat → TxThread

def clearEntry (thread : Nat) (links : Links Node) : Links Node :=
  (links.setFlink (.block thread) .null).setBlink (.block thread) .null

namespace Table

def write (thread : Nat) (arguments : CreateArguments) (answers : CreateAnswers) (table : Table)
    (write : BlockWrite) : Table where
  links := if write = .clear then clearEntry thread table.links else table.links
  blocks := Function.update table.blocks thread
    (write.run arguments answers (table.blocks thread))

/-- `exBlink` is the local variable of `InsertTailList`. -/
def access (thread : Nat) (arguments : CreateArguments) (answers : CreateAnswers)
    (exBlink : Node) (table : Table) : CreateStep → Table
  | .write write => table.write thread arguments answers write
  | .readTail => table
  | .entryFlink => { table with links := table.links.setFlink (.block thread) .head }
  | .entryBlink => { table with links := table.links.setBlink (.block thread) exBlink }
  | .tailFlink => { table with links := table.links.setFlink exBlink (.block thread) }
  | .headBlink => { table with links := table.links.setBlink .head (.block thread) }

/-- The local variable after an access. -/
def tailRead (exBlink : Node) (table : Table) : CreateStep → Node
  | .readTail => table.links.blink .head
  | _ => exBlink

end Table

theorem tailRead_kept {current : CreateStep} (exBlink : Node) (table : Table)
    (other : current ≠ .readTail) : table.tailRead exBlink current = exBlink := by
  cases current with
  | readTail => exact absurd rfl other
  | _ => rfl

/-! ### The links after an access -/

theorem block_outside {threads : List Nat} {thread : Nat} (unlisted : thread ∉ threads) :
    .block thread ∉ Node.head :: threads.map .block := by
  simpa using unlisted

section Links

variable {thread : Nat} {arguments : CreateArguments} {answers : CreateAnswers} {table : Table}
  {exBlink node : Node}

theorem write_links (arguments : CreateArguments) (answers : CreateAnswers) (table : Table)
    (write : BlockWrite) (apart : node ≠ .block thread) :
    (table.write thread arguments answers write).links.flink node = table.links.flink node ∧
      (table.write thread arguments answers write).links.blink node = table.links.blink node := by
  by_cases clears : write = .clear
  · rw [Table.write, if_pos clears]
    exact ⟨Function.update_of_ne apart _ _, Function.update_of_ne apart _ _⟩
  · rw [Table.write, if_neg clears]
    exact ⟨rfl, rfl⟩

theorem clearEntry_ring {links : Links Node} {entries : List Node}
    (outside : .block thread ∉ Node.head :: entries) (ring : Ring links .head entries) :
    Ring (clearEntry thread links) .head entries :=
  (ring_outside outside (ring_outside outside ring).1).2

theorem write_ring {entries : List Node} (arguments : CreateArguments) (answers : CreateAnswers)
    (table : Table) (write : BlockWrite) (outside : .block thread ∉ Node.head :: entries)
    (ring : Ring table.links .head entries) :
    Ring (table.write thread arguments answers write).links .head entries := by
  by_cases clears : write = .clear
  · rw [Table.write, if_pos clears]
    exact clearEntry_ring outside ring
  · rw [Table.write, if_neg clears]
    exact ring

theorem access_headBlink (current : CreateStep) :
    (table.access thread arguments answers exBlink current).links.blink .head =
      if current = .headBlink then .block thread else table.links.blink .head := by
  have apart : Node.head ≠ .block thread := by simp
  cases current with
  | write write => exact (write_links arguments answers table write apart).2
  | entryBlink => exact Function.update_of_ne apart exBlink table.links.blink
  | headBlink => exact Function.update_self Node.head _ table.links.blink
  | _ => rfl

theorem access_flink (thread : Nat) (arguments : CreateArguments) (answers : CreateAnswers)
    (exBlink : Node) (table : Table) (current : CreateStep) (node : Node) :
    (table.access thread arguments answers exBlink current).links.flink node =
        table.links.flink node ∨
      (node = .block thread ∧ ((∃ write, current = .write write) ∨ current = .entryFlink)) ∨
      (node = exBlink ∧ current = .tailFlink) := by
  cases current with
  | write write =>
      by_cases own : node = .block thread
      · exact Or.inr (Or.inl ⟨own, Or.inl ⟨write, rfl⟩⟩)
      · exact Or.inl (write_links arguments answers table write own).1
  | entryFlink =>
      by_cases own : node = .block thread
      · exact Or.inr (Or.inl ⟨own, Or.inr rfl⟩)
      · exact Or.inl (Function.update_of_ne own _ _)
  | tailFlink =>
      by_cases tail : node = exBlink
      · exact Or.inr (Or.inr ⟨tail, rfl⟩)
      · exact Or.inl (Function.update_of_ne tail _ _)
  | _ => exact Or.inl rfl

end Links

/-! ### The order of the accesses -/

def CreateOrder : List CreateStep → Prop
  | [] => True
  | .write write :: rest =>
      rest ∈ createSteps.tails ∧
        (∀ later ∈ [CreateStep.readTail, .entryFlink, .entryBlink, .tailFlink], later ∈ rest) ∧
        (write = .clear → .write .createThread ∈ rest) ∧
        (write = .createThread → .write .createThread ∉ rest)
  | .readTail :: rest => rest = [.entryFlink, .entryBlink, .tailFlink, .headBlink]
  | .entryFlink :: rest => rest = [.entryBlink, .tailFlink, .headBlink]
  | .entryBlink :: rest => rest = [.tailFlink, .headBlink]
  | .tailFlink :: rest => rest = [.headBlink]
  | .headBlink :: rest => rest = []

instance : DecidablePred CreateOrder
  | [] => inferInstanceAs (Decidable True)
  | .write _ :: _ => inferInstanceAs (Decidable (_ ∧ _))
  | .readTail :: _ => inferInstanceAs (Decidable (_ = _))
  | .entryFlink :: _ => inferInstanceAs (Decidable (_ = _))
  | .entryBlink :: _ => inferInstanceAs (Decidable (_ = _))
  | .tailFlink :: _ => inferInstanceAs (Decidable (_ = _))
  | .headBlink :: _ => inferInstanceAs (Decidable (_ = _))

theorem create_order : ∀ remaining ∈ createSteps.tails, CreateOrder remaining := by
  decide

theorem tails_rest {current : CreateStep} {rest : List CreateStep}
    (position : current :: rest ∈ createSteps.tails) : rest ∈ createSteps.tails := by
  rw [List.mem_tails] at position ⊢
  exact (List.suffix_cons current rest).trans position

end UsbxNxdk.ThreadTable
