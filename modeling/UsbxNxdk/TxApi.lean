import Mathlib.Data.BitVec

/-! The words, handles and constants of the ThreadX interface that the glue
replaces. -/

namespace UsbxNxdk

abbrev ULONG := BitVec 32
abbrev UINT := BitVec 32
abbrev HANDLE := Nat

def txTrue : UINT := 1
def txFalse : UINT := 0
def txNoInherit : UINT := 0

def txWaitForever : ULONG := 0xFFFFFFFF
def txNoWait : ULONG := 0
def txClearId : ULONG := 0

def txAnd : UINT := 2
def txOr : UINT := 0
def txOrClear : UINT := 1

def txSuccess : UINT := 0x00
def txNoEvents : UINT := 0x07
def txSemaphoreError : UINT := 0x0C
def txNoInstance : UINT := 0x0D
def txDeleteError : UINT := 0x11
def txResumeError : UINT := 0x12
def txMutexError : UINT := 0x1C

def txReady : UINT := 0
def txSuspended : UINT := 3

/-- The Win32 duration that never elapses. -/
def infinite : ULONG := 0xFFFFFFFF

theorem infinite_le_iff (word : ULONG) : infinite ≤ word ↔ word = infinite := by
  have largest : infinite.toNat = 4294967295 := rfl
  constructor
  · intro late
    apply BitVec.eq_of_toNat_eq
    have bound := word.isLt
    have above := BitVec.le_def.mp late
    omega
  · rintro rfl
    exact BitVec.le_refl _

end UsbxNxdk
