import Mathlib.Data.BitVec

/-! Memory addressed by bytes, and 32-bit words stored in it with the lowest
byte first. -/

namespace UsbxNxdk.ByteMemory

abbrev Byte := BitVec 8
abbrev Word := BitVec 32
abbrev Memory := Int → Byte

/-- One byte of a word; number 0 is the lowest. -/
def byteOf (word : Word) (number : Nat) : Byte := word.extractLsb' (8 * number) 8

def storeWord (memory : Memory) (address : Int) (word : Word) : Memory := fun place =>
  if address ≤ place ∧ place < address + 4 then byteOf word (place - address).toNat
  else memory place

def loadWord (memory : Memory) (address : Int) : Word :=
  memory (address + 3) ++ memory (address + 2) ++ memory (address + 1) ++ memory address

def swapBytes (word : Word) : Word :=
  byteOf word 0 ++ byteOf word 1 ++ byteOf word 2 ++ byteOf word 3

/-- The bytes of a stored word, turned round in place. -/
def changeEndian (memory : Memory) (address : Int) : Memory :=
  storeWord memory address (swapBytes (loadWord memory address))

theorem byteOf_append (highest high low lowest : Byte) :
    byteOf (highest ++ high ++ low ++ lowest) 0 = lowest ∧
      byteOf (highest ++ high ++ low ++ lowest) 1 = low ∧
      byteOf (highest ++ high ++ low ++ lowest) 2 = high ∧
      byteOf (highest ++ high ++ low ++ lowest) 3 = highest := by
  refine ⟨?_, ?_, ?_, ?_⟩
  all_goals
    ext index bound
    simp only [byteOf, BitVec.getElem_extractLsb', BitVec.getLsbD_append]
    grind

theorem append_byteOf (word : Word) :
    byteOf word 3 ++ byteOf word 2 ++ byteOf word 1 ++ byteOf word 0 = word := by
  ext index bound
  simp only [byteOf, BitVec.getElem_append, BitVec.getElem_extractLsb']
  grind

theorem shifted_bytes (highest high low lowest : Byte) :
    ((highest.setWidth 32 <<< 8 ||| high.setWidth 32) <<< 8 ||| low.setWidth 32) <<< 8 |||
        lowest.setWidth 32 =
      highest ++ high ++ low ++ lowest := by
  ext index bound
  simp only [BitVec.getElem_or, BitVec.getElem_shiftLeft, BitVec.getElem_setWidth]
  grind

theorem shifted_half (word : Word) :
    (byteOf word 1).setWidth 32 <<< 8 ||| (byteOf word 0).setWidth 32 =
      (word.setWidth 16).setWidth 32 := by
  ext index bound
  simp only [byteOf, BitVec.getElem_or, BitVec.getElem_shiftLeft, BitVec.getElem_setWidth,
    BitVec.getLsbD_extractLsb', BitVec.getLsbD_setWidth]
  grind

theorem byteOf_joined (high low : Word) :
    byteOf (high <<< 16 ||| low >>> 16) 0 = byteOf low 2 ∧
      byteOf (high <<< 16 ||| low >>> 16) 1 = byteOf low 3 ∧
      byteOf (high <<< 16 ||| low >>> 16) 2 = byteOf high 0 ∧
      byteOf (high <<< 16 ||| low >>> 16) 3 = byteOf high 1 := by
  refine ⟨?_, ?_, ?_, ?_⟩
  all_goals
    ext index bound
    simp only [byteOf, BitVec.getElem_extractLsb', BitVec.getLsbD_or, BitVec.getLsbD_shiftLeft,
      BitVec.getLsbD_ushiftRight]
    grind

theorem byteOf_ended (high : Word) (low : BitVec 16) :
    byteOf (high <<< 16 ||| low.setWidth 32) 0 = low.extractLsb' 0 8 ∧
      byteOf (high <<< 16 ||| low.setWidth 32) 1 = low.extractLsb' 8 8 ∧
      byteOf (high <<< 16 ||| low.setWidth 32) 2 = byteOf high 0 ∧
      byteOf (high <<< 16 ||| low.setWidth 32) 3 = byteOf high 1 := by
  refine ⟨?_, ?_, ?_, ?_⟩
  all_goals
    ext index bound
    simp only [byteOf, BitVec.getElem_extractLsb', BitVec.getLsbD_or, BitVec.getLsbD_shiftLeft,
      BitVec.getLsbD_setWidth]
    grind

theorem shifted_bytes_half (half : BitVec 16) :
    (half.extractLsb' 8 8).setWidth 32 <<< 8 ||| (half.extractLsb' 0 8).setWidth 32 =
      half.setWidth 32 := by
  ext index bound
  simp only [BitVec.getElem_or, BitVec.getElem_shiftLeft, BitVec.getElem_setWidth,
    BitVec.getLsbD_extractLsb']
  grind

theorem storeWord_inside (memory : Memory) {address place : Int} (word : Word)
    (inside : address ≤ place ∧ place < address + 4) :
    storeWord memory address word place = byteOf word (place - address).toNat :=
  if_pos inside

theorem storeWord_at (memory : Memory) (address : Int) (word : Word) {number : Nat}
    (inside : number < 4) :
    storeWord memory address word (address + number) = byteOf word number := by
  have lower : address ≤ address + number := by omega
  have upper : address + number < address + 4 := by omega
  have offset : (address + number - address).toNat = number := by omega
  rw [storeWord_inside memory word ⟨lower, upper⟩, offset]

theorem storeWord_outside (memory : Memory) {address place : Int} (word : Word)
    (outside : place < address ∨ address + 4 ≤ place) :
    storeWord memory address word place = memory place := by
  have missed : ¬ (address ≤ place ∧ place < address + 4) := by omega
  rw [storeWord, if_neg missed]

theorem loadWord_storeWord (memory : Memory) (address : Int) (word : Word) :
    loadWord (storeWord memory address word) address = word := by
  have lowest : storeWord memory address word address = byteOf word 0 := by
    simpa using storeWord_at memory address word (Nat.zero_lt_succ 3)
  have low : storeWord memory address word (address + 1) = byteOf word 1 :=
    @storeWord_at memory address word 1 (by omega)
  have high : storeWord memory address word (address + 2) = byteOf word 2 :=
    @storeWord_at memory address word 2 (by omega)
  have highest : storeWord memory address word (address + 3) = byteOf word 3 :=
    @storeWord_at memory address word 3 (by omega)
  rw [loadWord, lowest, low, high, highest]
  exact append_byteOf word

theorem storeWord_twice (memory : Memory) (address : Int) (first second : Word) :
    storeWord (storeWord memory address first) address second =
      storeWord memory address second := by
  funext place
  by_cases inside : address ≤ place ∧ place < address + 4
  · rw [storeWord_inside _ second inside, storeWord_inside _ second inside]
  · have outside : place < address ∨ address + 4 ≤ place := by omega
    rw [storeWord_outside _ second outside, storeWord_outside _ first outside,
      storeWord_outside _ second outside]

theorem storeWord_comm (memory : Memory) {address other : Int} (first second : Word)
    (apart : other + 4 ≤ address ∨ address + 4 ≤ other) :
    storeWord (storeWord memory address first) other second =
      storeWord (storeWord memory other second) address first := by
  funext place
  by_cases inside : address ≤ place ∧ place < address + 4
  · have outside : place < other ∨ other + 4 ≤ place := by omega
    rw [storeWord_outside _ second outside, storeWord_inside _ first inside,
      storeWord_inside _ first inside]
  · have outside : place < address ∨ address + 4 ≤ place := by omega
    rw [storeWord_outside _ first outside]
    by_cases within : other ≤ place ∧ place < other + 4
    · rw [storeWord_inside _ second within, storeWord_inside _ second within]
    · have beyond : place < other ∨ other + 4 ≤ place := by omega
      rw [storeWord_outside _ second beyond, storeWord_outside _ first outside,
        storeWord_outside _ second beyond]

theorem changeEndian_storeWord (memory : Memory) (address : Int) (word : Word) :
    changeEndian (storeWord memory address word) address =
      storeWord memory address (swapBytes word) := by
  rw [changeEndian, loadWord_storeWord, storeWord_twice]

theorem byteOf_swapBytes (word : Word) {number : Nat} (inside : number < 4) :
    byteOf (swapBytes word) number = byteOf word (3 - number) := by
  rcases byteOf_append (byteOf word 0) (byteOf word 1) (byteOf word 2) (byteOf word 3) with
    ⟨first, second, third, fourth⟩
  have cases : number = 0 ∨ number = 1 ∨ number = 2 ∨ number = 3 := by omega
  rcases cases with rfl | rfl | rfl | rfl
  · exact first
  · exact second
  · exact third
  · exact fourth

/-! ### Words in a row -/

def storeWords (memory : Memory) (address : Int) : List Word → Memory
  | [] => memory
  | word :: rest => storeWords (storeWord memory address word) (address + 4) rest

def changeEndians (memory : Memory) (address : Int) : Nat → Memory
  | 0 => memory
  | count + 1 => changeEndians (changeEndian memory address) (address + 4) count

theorem storeWords_outside (memory : Memory) {address place : Int} (words : List Word)
    (outside : place < address ∨ address + 4 * words.length ≤ place) :
    storeWords memory address words place = memory place := by
  induction words generalizing memory address with
  | nil => rfl
  | cons word rest ih =>
      rw [List.length_cons] at outside
      rw [storeWords, ih _ (by omega)]
      exact storeWord_outside memory word (by omega)

theorem storeWords_at (memory : Memory) (address : Int) {words : List Word} {index number : Nat}
    {word : Word} (here : words[index]? = some word) (inside : number < 4) :
    storeWords memory address words (address + (4 * index + number : Nat)) =
      byteOf word number := by
  induction words generalizing memory address index with
  | nil => cases here
  | cons first rest ih =>
      cases index with
      | zero =>
          cases here
          rw [storeWords, storeWords_outside _ _ (by omega), Nat.mul_zero, Nat.zero_add]
          exact storeWord_at memory address word inside
      | succ index =>
          have place : address + (4 * (index + 1) + number : Nat) =
              address + 4 + (4 * index + number : Nat) := by omega
          rw [storeWords, place]
          exact ih _ _ here

theorem storeWords_store (memory : Memory) {address place : Int} (word : Word)
    (words : List Word) (before : place + 4 ≤ address) :
    storeWords (storeWord memory place word) address words =
      storeWord (storeWords memory address words) place word := by
  induction words generalizing memory address with
  | nil => rfl
  | cons first rest ih =>
      rw [storeWords, storeWords, storeWord_comm memory word first (Or.inr before)]
      exact ih _ (by omega)

theorem changeEndians_storeWords (memory : Memory) (address : Int) (words : List Word) :
    changeEndians (storeWords memory address words) address words.length =
      storeWords memory address (words.map swapBytes) := by
  induction words generalizing memory address with
  | nil => rfl
  | cons word rest ih =>
      rw [List.length_cons, List.map_cons, storeWords, storeWords, changeEndians,
        storeWords_store _ _ _ (Int.le_refl _), changeEndian_storeWord,
        ← storeWords_store _ _ _ (Int.le_refl _)]
      exact ih _ _

end UsbxNxdk.ByteMemory
