import UsbxNxdk.ControlBlocks

/-! What a number of ticks means in milliseconds, for the calls that wait and
for the tick count. -/

namespace UsbxNxdk.TickDurations

open Win32 ControlBlocks

section Calls

variable {Kernel : Type}

def uxPeriodicRate : ULONG := 1000

/-- The product is one of 32-bit words, taken before the division. -/
def txThreadSleep (sleep : ULONG → Kernel → Kernel) (timerTicks : ULONG) (kernel : Kernel) :
    UINT × Kernel :=
  (txSuccess, sleep (timerTicks * 1000 / uxPeriodicRate) kernel)

def txTimeGet (getTickCount : Kernel → ULONG × Kernel) (kernel : Kernel) : ULONG × Kernel :=
  getTickCount kernel

end Calls

/-! ### A kernel that records the milliseconds it is asked to wait -/

abbrev Asked := List ULONG

def recordSleep (duration : ULONG) (asked : Asked) : Asked := asked ++ [duration]

def recordWait (result : WaitResult) (_ : HANDLE) (duration : ULONG) (asked : Asked) :
    Option (WaitResult × Asked) :=
  some (result, asked ++ [duration])

def sleepAsks (count : ULONG) : Asked := (txThreadSleep recordSleep count []).2

def mutexGetAsks (result : WaitResult) (block : TxMutex) (count : ULONG) : Option Asked :=
  (txMutexGet (recordWait result) block count []).map fun called => called.2

def semaphoreGetAsks (result : WaitResult) (block : TxSemaphore) (count : ULONG) :
    Option Asked :=
  (txSemaphoreGet (recordWait result) block count []).map fun called => called.2.2

/-! ### A kernel that keeps the time -/

/-- The state of this kernel is the number of milliseconds since its start.
`Sleep` takes as many as it is asked for, and some more. -/
def sleepLate (late : Nat) (duration : ULONG) (now : Nat) : Nat :=
  now + duration.toNat + late

/-- The counter wraps after 2^32 milliseconds. -/
def getTickCount (now : Nat) : ULONG × Nat := (BitVec.ofNat 32 now, now)

def ticksBetween (start finish : Nat) : ULONG :=
  (txTimeGet getTickCount finish).1 - (txTimeGet getTickCount start).1

/-- The three calls ask for the exact duration of the ticks, a sleep takes at
least these ticks, and no shorter sleep asks for more. The counter shows the
ticks of a sleep that is over before it has turned once. -/
structure TickAgreed (count : ULONG) : Prop where
  exactly : ∃ duration : ULONG,
    duration.toNat = count.toNat * 1000 / uxPeriodicRate.toNat ∧
    sleepAsks count = [duration] ∧
    (∀ result block, mutexGetAsks result block count = some [duration]) ∧
    ∀ result block, semaphoreGetAsks result block count = some [duration]
  lasts : ∀ late start finish, (txThreadSleep (sleepLate late) count start).2 = finish →
    start + count.toNat ≤ finish ∧ (finish < start + 2 ^ 32 → count ≤ ticksBetween start finish)
  monotone : ∀ shorter ≤ count, ∀ asked ∈ sleepAsks shorter, ∀ longer ∈ sleepAsks count,
    asked ≤ longer

theorem sleepAsks_eq (count : ULONG) : sleepAsks count = [count * 1000 / uxPeriodicRate] := rfl

theorem mutexGetAsks_eq (result : WaitResult) (block : TxMutex) (count : ULONG) :
    mutexGetAsks result block count = some [count] := by
  simp [mutexGetAsks, txMutexGet, recordWait, waitDuration_eq]

theorem semaphoreGetAsks_eq (result : WaitResult) (block : TxSemaphore) (count : ULONG) :
    semaphoreGetAsks result block count = some [count] := by
  simp [semaphoreGetAsks, txSemaphoreGet, recordWait, waitDuration_eq]

theorem sleep_duration (count : ULONG) :
    (count * 1000 / uxPeriodicRate).toNat = count.toNat * 1000 % 2 ^ 32 / 1000 := by
  rw [BitVec.toNat_udiv, BitVec.toNat_mul]
  rfl

theorem sleep_duration_fits {count : ULONG} (fits : count.toNat * 1000 < 2 ^ 32) :
    count * 1000 / uxPeriodicRate = count := by
  apply BitVec.eq_of_toNat_eq
  rw [sleep_duration, Nat.mod_eq_of_lt fits, Nat.mul_div_cancel _ (by decide)]

theorem ticksBetween_toNat (start elapsed : Nat) (once : elapsed < 2 ^ 32) :
    (ticksBetween start (start + elapsed)).toNat = elapsed := by
  simp only [ticksBetween, txTimeGet, getTickCount, BitVec.toNat_sub, BitVec.toNat_ofNat]
  omega

theorem fits_agreed {count : ULONG} (fits : count.toNat * 1000 < 2 ^ 32) : TickAgreed count := by
  have own := sleep_duration_fits fits
  constructor
  · refine ⟨count, ?_, ?_, ?_, ?_⟩
    · exact (Nat.mul_div_cancel _ (by decide)).symm
    · rw [sleepAsks_eq, own]
    · exact fun result block => mutexGetAsks_eq result block count
    · exact fun result block => semaphoreGetAsks_eq result block count
  · intro late start finish slept
    have ended : finish = start + (count.toNat + late) := by
      rw [← slept, txThreadSleep, own, sleepLate, Nat.add_assoc]
    refine ⟨by omega, ?_⟩
    intro once
    rw [BitVec.le_def, ended, ticksBetween_toNat start (count.toNat + late) (by omega)]
    exact Nat.le_add_right _ _
  · intro shorter below asked short longer long
    have bound := BitVec.le_def.mp below
    have within : shorter.toNat * 1000 < 2 ^ 32 :=
      Nat.lt_of_le_of_lt (Nat.mul_le_mul_right 1000 bound) fits
    rw [sleepAsks_eq, sleep_duration_fits within, List.mem_singleton] at short
    rw [sleepAsks_eq, own, List.mem_singleton] at long
    rw [short, long]
    exact below

theorem exact_fits {count : ULONG} (agreed : TickAgreed count) :
    count.toNat * 1000 < 2 ^ 32 := by
  rcases agreed.exactly with ⟨duration, value, sleeps, _⟩
  have same : count * 1000 / uxPeriodicRate = duration := by
    rw [sleepAsks_eq] at sleeps
    exact List.head_eq_of_cons_eq sleeps
  have rate : uxPeriodicRate.toNat = 1000 := rfl
  have remainder := Nat.mod_lt (count.toNat * 1000) (Nat.two_pow_pos 32)
  rw [← same, sleep_duration, rate, Nat.mul_div_cancel _ (by decide)] at value
  omega

/-- One tick means the same duration everywhere exactly for the counts whose
thousandfold fits into 32 bits. -/
theorem tick_agreed_iff (count : ULONG) :
    TickAgreed count ↔ count.toNat * 1000 < 2 ^ 32 :=
  ⟨exact_fits, fits_agreed⟩

/-- A sleep of 4294968 ticks, over 71 minutes, does not wait at all. -/
theorem long_sleep_returns_at_once :
    sleepAsks 4294968 = [0] ∧ ticksBetween 0 (txThreadSleep (sleepLate 0) 4294968 0).2 = 0 ∧
      ¬ TickAgreed 4294968 := by
  refine ⟨by decide, by decide, ?_⟩
  intro agreed
  exact absurd (exact_fits agreed) (by decide)

end UsbxNxdk.TickDurations
