import Solana.Lib.Long

/-!
# The deadlines of OSAL waits

`TIMM_OSAL_EventRetrieve` and `TIMM_OSAL_SemaphoreObtain` take a timeout in milliseconds and pass
the system an absolute time.  The event adds the timeout in microseconds, in 32 bits, and normalises
the sum; the semaphore adds seconds and milliseconds apart and does not.  `deadlines_exact_iff` says
for which times and timeouts the two deadlines are right.
-/

namespace Solana.Osal

/-- A value as a `TIMM_OSAL_U32`. -/
def u32 (n : Int) : Int := n % 2 ^ 32

/-! ## The waits -/

/-- `struct timeval`. -/
structure Timeval where
  tvSec : Int
  tvUsec : Int

/-- How a function waits: not at all, without a limit, or up to a time. -/
inductive Wait
  | poll
  | forever
  | until (deadline : Timespec)
  deriving DecidableEq

/-- `TIMM_OSAL_NO_SUSPEND`. -/
def noSuspend : Nat := 0

/-- `TIMM_OSAL_SUSPEND`. -/
def suspend : Nat := 0xFFFFFFFF

/-- How `TIMM_OSAL_EventRetrieve` waits if the flags do not match. -/
def eventRetrieveWait (now : Timeval) (uTimeOutMsec : Nat) : Wait :=
  if uTimeOutMsec = noSuspend then .poll
  else if uTimeOutMsec = suspend then .forever
  else
    let timeoutUs := u32 (now.tvUsec + u32 (1000 * uTimeOutMsec))
    .until ⟨long (now.tvSec + timeoutUs / 1000000), long (timeoutUs % 1000000 * 1000)⟩

/-- How `TIMM_OSAL_SemaphoreObtain` waits. -/
def semaphoreObtainWait (now : Timeval) (uTimeOut : Nat) : Wait :=
  if uTimeOut = suspend then .forever
  else if uTimeOut = noSuspend then .poll
  else
    .until ⟨long (now.tvSec + (uTimeOut / 1000 : Nat)),
      long (1000 * (now.tvUsec + (uTimeOut % 1000 * 1000 : Nat)))⟩

/-! ## Right deadlines -/

/-- A reading of `gettimeofday`. -/
structure Timeval.Reading (now : Timeval) : Prop where
  sec : -2 ^ 31 ≤ now.tvSec ∧ now.tvSec < 2 ^ 31
  usec : 0 ≤ now.tvUsec ∧ now.tvUsec < 1000000

/-- A valid time, some milliseconds after another one. -/
def Timeval.Then (now : Timeval) (ms : Nat) (d : Timespec) : Prop :=
  d.Valid ∧ d.nanoseconds = now.tvSec * 1000000000 + now.tvUsec * 1000 + ms * 1000000

/-- The function waits up to the time that it was asked for. -/
def Wait.Exact (w : Wait) (now : Timeval) (ms : Nat) : Prop :=
  ∃ d, w = .until d ∧ now.Then ms d

lemma Wait.exact_until {d : Timespec} {now : Timeval} {ms : Nat} :
    (Wait.until d).Exact now ms ↔ now.Then ms d := by
  constructor
  · rintro ⟨d', hd, hafter⟩
    obtain rfl := Wait.until.inj hd
    exact hafter
  · exact fun h => ⟨d, rfl, h⟩

section

variable {now : Timeval} {ms : Nat}

section

variable (hnow : now.Reading) (hms : ms < 2 ^ 32) (h0 : ms ≠ noSuspend) (h1 : ms ≠ suspend)
include hnow hms h0 h1

/-- A sum that leaves the 32 bits of the microseconds is too short by more than 71 minutes. -/
lemma eventRetrieveWait_exact_iff : (eventRetrieveWait now ms).Exact now ms ↔
      now.tvUsec + 1000 * ms < 2 ^ 32 ∧
        now.tvSec + (now.tvUsec + 1000 * ms) / 1000000 < 2 ^ 31 := by
  obtain ⟨hsec, husec⟩ := hnow
  rw [eventRetrieveWait, if_neg h0, if_neg h1, Wait.exact_until]
  have hus : u32 (now.tvUsec + u32 (1000 * ms)) = (now.tvUsec + 1000 * ms) % 2 ^ 32 := by
    unfold u32
    omega
  simp only [hus, Timeval.Then, Timespec.Valid, Timespec.nanoseconds]
  generalize hsum : now.tvUsec + 1000 * (ms : Int) = us
  rw [long_of_lt (n := us % 2 ^ 32 % 1000000 * 1000) (by omega), long]
  by_cases hfits : us < 2 ^ 32
  · rw [Int.emod_eq_of_lt (by omega) hfits]
    omega
  · omega

/-- The semaphore's nanoseconds are those of the current time and of the milliseconds together. -/
lemma semaphoreObtainWait_exact_iff : (semaphoreObtainWait now ms).Exact now ms ↔
      now.tvUsec + (ms % 1000 * 1000 : Nat) < 1000000 ∧ now.tvSec + (ms / 1000 : Nat) < 2 ^ 31 := by
  obtain ⟨hsec, husec⟩ := hnow
  rw [semaphoreObtainWait, if_neg h1, if_neg h0, Wait.exact_until]
  simp only [Timeval.Then, Timespec.Valid, Timespec.nanoseconds]
  rw [long_of_lt (n := 1000 * (now.tvUsec + (ms % 1000 * 1000 : Nat))) (by omega), long]
  omega

end

/-- **When the deadlines are right.**  For every time and every timeout that is not reserved, the
deadline is a valid time and the current time plus the timeout: for an event, if the microseconds
with the timeout stay below 2³², and for a semaphore, if the microseconds with the milliseconds of
the timeout stay below a second, and for both if the seconds stay in a `time_t`. -/
theorem deadlines_exact_iff (hnow : now.Reading) (hms : ms < 2 ^ 32) (h0 : ms ≠ noSuspend)
    (h1 : ms ≠ suspend) : ((eventRetrieveWait now ms).Exact now ms ↔
      now.tvUsec + 1000 * ms < 2 ^ 32 ∧ now.tvSec + (now.tvUsec + 1000 * ms) / 1000000 < 2 ^ 31) ∧
    ((semaphoreObtainWait now ms).Exact now ms ↔ now.tvUsec + (ms % 1000 * 1000 : Nat) < 1000000 ∧
        now.tvSec + (ms / 1000 : Nat) < 2 ^ 31) :=
  ⟨eventRetrieveWait_exact_iff hnow hms h0 h1, semaphoreObtainWait_exact_iff hnow hms h0 h1⟩

end

/-- One second and a half after a time at which both are right. -/
theorem deadlines_exact_sample : (eventRetrieveWait ⟨100, 400000⟩ 1500).Exact ⟨100, 400000⟩ 1500 ∧
      (semaphoreObtainWait ⟨100, 400000⟩ 1500).Exact ⟨100, 400000⟩ 1500 := by
  obtain ⟨hevent, hsem⟩ := @deadlines_exact_iff ⟨100, 400000⟩ 1500 ⟨by decide, by decide⟩
    (by decide) (by decide) (by decide)
  exact ⟨hevent.mpr (by decide), hsem.mpr (by decide)⟩

/-- An event that is waited for 4294968 milliseconds has its deadline in the next millisecond, and a
semaphore that is waited for one millisecond at the end of a second has 1000999000 nanoseconds. -/
theorem deadlines_wrong : ¬(eventRetrieveWait ⟨0, 0⟩ 4294968).Exact ⟨0, 0⟩ 4294968 ∧
      ¬(semaphoreObtainWait ⟨0, 999999⟩ 1).Exact ⟨0, 999999⟩ 1 := by
  constructor
  · rw [eventRetrieveWait_exact_iff ⟨by decide, by decide⟩ (by decide) (by decide) (by decide)]
    decide
  · rw [semaphoreObtainWait_exact_iff ⟨by decide, by decide⟩ (by decide) (by decide) (by decide)]
    decide

end Solana.Osal
