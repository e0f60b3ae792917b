import Solana.Hwc.SwVsync
import Solana.Lib.Long

/-!
# The times of the software vsync

The loop of the software vsync multiplies the seconds of the clock by a thousand million.  Where
`time_t` has 32 bits, the product and so the loop's own time wrap around about every four seconds
(`loopNow`).  That time decides whether the expected vsync was missed, and if it was, which one is
next; the sleep is computed from the clock itself.

`vsync_right_iff`: as long as the loop has been right, it is right again exactly if the clock is
still below 2³¹ nanoseconds or the expected vsync is not missed.
-/

namespace Solana.SwVsync

open Runs Option

/-! ## An iteration -/

/-- The time as the loop computes it. -/
def loopNow (tp : Timespec) : Int := long (long (tp.tvSec * 1000000000) + tp.tvNsec)

/-- `diff`. -/
def diff (start stop : Timespec) : Timespec :=
  if long (stop.tvNsec - start.tvNsec) < 0 then
    ⟨long (long (stop.tvSec - start.tvSec) - 1), long (1000000000 + stop.tvNsec - start.tvNsec)⟩
  else ⟨long (stop.tvSec - start.tvSec), long (stop.tvNsec - start.tvNsec)⟩

/-- The sleep that is requested, and the time that is reported after it. -/
structure Report where
  sleep : Timespec
  vsync : Int
  deriving DecidableEq

/-- An iteration of `vsync_loop`, with the reading of the clock and `next_fake_vsync`, unless there
is a division by zero. -/
def iteration (period expected : Int) (tp : Timespec) : Option Report :=
  (nextVsync period expected (loopNow tp)).map fun next =>
    ⟨diff tp ⟨long (next.tdiv 1000000000), long (next.tmod 1000000000)⟩, next⟩

/-! ## Runs -/

/-- The loop between two iterations. -/
structure Loop where
  /-- `next_fake_vsync` -/
  expected : Int
  /-- The time that was reported last. -/
  reported : Option Int
  /-- The time at which the last sleep was over. -/
  ready : Int
  deriving DecidableEq

/-- The loop after an iteration. -/
def Loop.next (period : Int) (s : Loop) (tp : Timespec) : Option Loop :=
  (iteration period s.expected tp).map fun r =>
    ⟨r.vsync + period, some r.vsync, tp.nanoseconds + max 0 r.sleep.nanoseconds⟩

/-- A reading of the clock when the last sleep was over. -/
structure Loop.Reads (s : Loop) (tp : Timespec) : Prop where
  sec : 0 ≤ tp.tvSec ∧ tp.tvSec < 2 ^ 31
  valid : tp.Valid
  ready : s.ready ≤ tp.nanoseconds

/-- The clock is below 2³¹ nanoseconds, or the expected vsync is not missed. -/
def Loop.InTime (s : Loop) (tp : Timespec) : Prop :=
  tp.nanoseconds < 2 ^ 31 ∨ tp.nanoseconds ≤ s.expected

/-- The states in runs whose readings are in time. -/
def Loop.Reachable (period : Int) : Loop → Prop :=
  Runs.Reachable (· = ⟨0, none, 0⟩) fun s tp s' =>
    (s.Reads tp ∧ s.InTime tp) ∧ s.next period tp = some s'

/-- The time that is reported is at most a period after the reading, the sleep is what is missing,
and the times are whole periods apart. -/
structure Report.Right (r : Report) (period : Int) (s : Loop) (tp : Timespec) : Prop where
  notBefore : tp.nanoseconds ≤ r.vsync
  withinPeriod : r.vsync ≤ tp.nanoseconds + period
  sleep : r.sleep.Valid ∧ r.sleep.nanoseconds = r.vsync - tp.nanoseconds
  periods : ∀ last, s.reported = some last → ∃ k : Nat, 0 < k ∧ r.vsync - last = k * period

/-- What holds as long as the loop is right. -/
structure Loop.Steady (period : Int) (s : Loop) : Prop where
  expected : ∀ last, s.reported = some last → s.expected = last + period ∧ last ≤ s.ready
  start : s.reported = none → s.expected = 0
  ready : 0 ≤ s.ready

/-! ## The wrapped time -/

variable {period : Int} {s s' : Loop} {tp : Timespec}

open Loop.Steady

lemma loopNow_eq (tp : Timespec) : loopNow tp = long tp.nanoseconds := by
  unfold loopNow long Timespec.nanoseconds
  omega

/-- The difference of two times that are at most a second apart. -/
lemma diff_right (hs : s.Reads tp) {next : Int} (hle : tp.nanoseconds ≤ next)
    (hsecond : next ≤ tp.nanoseconds + 1000000000) :
    (diff tp ⟨long (next.tdiv 1000000000), long (next.tmod 1000000000)⟩).Valid ∧
      (diff tp ⟨long (next.tdiv 1000000000), long (next.tmod 1000000000)⟩).nanoseconds =
        next - tp.nanoseconds := by
  obtain ⟨⟨h0, h1⟩, ⟨h2, h3⟩, -⟩ := hs
  unfold Timespec.nanoseconds at hle hsecond
  have hnext : 0 ≤ next := by omega
  rw [Int.tdiv_eq_ediv_of_nonneg hnext, Int.tmod_eq_emod_of_nonneg hnext,
    long_of_lt (n := next % 1000000000) (by omega)]
  have hsec : long (long (next / 1000000000) - tp.tvSec) = next / 1000000000 - tp.tvSec := by
    unfold long
    omega
  unfold diff Timespec.Valid Timespec.nanoseconds
  simp only [hsec]
  rw [long_of_lt (n := next % 1000000000 - tp.tvNsec) (by omega)]
  split_ifs
  · rw [long_of_lt (n := 1000000000 + next % 1000000000 - tp.tvNsec) (by omega),
      long_of_lt (n := next / 1000000000 - tp.tvSec - 1) (by omega)]
    simp only
    omega
  · simp only
    omega

/-! ## The next vsync -/

section

variable (hperiod : 1 ≤ period ∧ period ≤ 1000000000) (h : s.Steady period) (hs : s.Reads tp)
include hperiod h hs

lemma right_of_expected (hle : tp.nanoseconds ≤ s.expected) :
    Report.Right ⟨diff tp ⟨long (s.expected.tdiv 1000000000), long (s.expected.tmod 1000000000)⟩,
      s.expected⟩ period s tp := by
  have hready := h.ready
  have hread := hs.ready
  have hwithin : s.expected ≤ tp.nanoseconds + period := by
    cases hlast : s.reported with
    | none => have := h.start hlast; omega
    | some last => have := h.expected last hlast; omega
  refine ⟨hle, hwithin, diff_right hs hle (by omega), fun last hlast => ⟨1, by decide, ?_⟩⟩
  have := (h.expected last hlast).1
  simp only
  omega

/-- After a miss that the loop notices in time, the next vsync is whole periods later. -/
lemma right_of_missed (hlt : s.expected < tp.nanoseconds) {next : Int}
    (hnext : next = tp.nanoseconds + (period - (tp.nanoseconds - s.expected).tmod period)) :
    Report.Right ⟨diff tp ⟨long (next.tdiv 1000000000), long (next.tmod 1000000000)⟩, next⟩
      period s tp := by
  rw [Int.tmod_eq_emod_of_nonneg (by omega)] at hnext
  have hmod := Int.emod_nonneg (tp.nanoseconds - s.expected) (by omega : period ≠ 0)
  have hmod' := Int.emod_lt_of_pos (tp.nanoseconds - s.expected) (by omega : 0 < period)
  have hdiv := Int.emod_add_mul_ediv (tp.nanoseconds - s.expected) period
  have hquot := Int.ediv_nonneg (by omega : 0 ≤ tp.nanoseconds - s.expected)
    (by omega : 0 ≤ period)
  refine ⟨by simp only; omega, by simp only; omega,
    diff_right hs (by omega) (by omega), fun last hlast => ?_⟩
  have hexp := (h.expected last hlast).1
  obtain ⟨q, hq⟩ := Int.eq_ofNat_of_zero_le hquot
  rw [hq] at hdiv
  refine ⟨q + 2, by omega, ?_⟩
  rw [Int.natCast_add, Int.add_mul, Int.mul_comm]
  simp only
  omega

/-- **The next iteration** is right exactly if it is in time. -/
lemma Loop.Steady.right_iff :
    (∃ r, iteration period s.expected tp = some r ∧ r.Right period s tp) ↔ s.InTime tp := by
  have hready := h.ready
  have hread := hs.ready
  have hlong : tp.nanoseconds < 2 ^ 31 ∧ long tp.nanoseconds = tp.nanoseconds ∨
      2 ^ 31 ≤ tp.nanoseconds ∧ long tp.nanoseconds + 2 ^ 32 ≤ tp.nanoseconds := by
    unfold long
    omega
  unfold iteration nextVsync Loop.InTime
  rw [loopNow_eq]
  by_cases hle : tp.nanoseconds ≤ s.expected
  · rw [if_neg (by omega)]
    exact iff_of_true ⟨_, rfl, right_of_expected hperiod h hs hle⟩ (.inr hle)
  rcases hlong with ⟨hlt, heq⟩ | ⟨hge, hwrap⟩
  · rw [heq, if_pos (by omega), if_neg (by omega)]
    exact iff_of_true ⟨_, rfl, right_of_missed hperiod h hs (by omega) rfl⟩ (.inl hlt)
  · -- the loop takes the time for an earlier one, and so the vsync it reports is in the past
    refine iff_of_false ?_ (by omega)
    rintro ⟨r, hr, hright⟩
    have hbefore := hright.notBefore
    split_ifs at hr with hmissed hzero
    · omega
    · obtain rfl := some.inj hr
      have hmod := Int.emod_nonneg (long tp.nanoseconds - s.expected) (by omega : period ≠ 0)
      rw [Int.tmod_eq_emod_of_nonneg (by omega)] at hbefore
      simp only at hbefore
      omega
    · obtain rfl := some.inj hr
      exact hle hbefore

lemma Loop.Steady.next (htime : s.InTime tp) (hnext : s.next period tp = some s') :
    s'.Steady period := by
  obtain ⟨r, hr, hright⟩ := (right_iff hperiod h hs).mpr htime
  obtain ⟨r', hr', rfl⟩ := map_eq_some_iff.mp hnext
  obtain rfl := some.inj (hr.symm.trans hr')
  have hready := h.ready
  have hread := hs.ready
  have hsleep := hright.sleep.2
  have hbefore := hright.notBefore
  refine ⟨fun last hlast => ?_, nofun, ?_⟩
  · obtain rfl := some.inj hlast
    exact ⟨rfl, by simp only; omega⟩
  · simp only
    omega

end

/-- **When the times are right.**  For every period from 1 to 10⁹ nanoseconds and every state that
readings in time have led to, the next iteration is right, that is, its time is at most a period
after the reading, its sleep is the difference and its time a positive number of periods after the
last one, exactly if it is in time. -/
theorem vsync_right_iff (hperiod : 1 ≤ period ∧ period ≤ 1000000000) (hr : s.Reachable period)
    (hs : s.Reads tp) :
    (∃ r, iteration period s.expected tp = some r ∧ r.Right period s tp) ↔ s.InTime tp := by
  have h : s.Steady period := by
    refine Runs.Reachable.invariant (Loop.Steady period) ?_ ?_ hr
    · rintro s rfl
      exact ⟨nofun, fun _ => rfl, Int.le_refl _⟩
    · rintro s tp s' h ⟨⟨hs, htime⟩, hnext⟩
      exact next hperiod h hs htime hnext
  exact right_iff hperiod h hs

/-- The first vsync of 60 in a second, two seconds after the clock was started. -/
theorem vsync_right_sample :
    ∃ r, iteration 16666666 0 ⟨2, 0⟩ = some r ∧ r.Right 16666666 ⟨0, none, 0⟩ ⟨2, 0⟩ :=
  (vsync_right_iff (s := ⟨0, none, 0⟩) (by decide) (.start rfl)
    ⟨by decide, ⟨by decide, by decide⟩, by decide⟩).mpr (.inl (by decide))

/-- Three seconds after the clock was started, the first vsync is reported for the time 0, and the
sleep is negative. -/
theorem vsync_in_past : iteration 16666666 0 ⟨3, 0⟩ = some ⟨⟨-3, 0⟩, 0⟩ ∧
      ¬∃ r, iteration 16666666 0 ⟨3, 0⟩ = some r ∧ r.Right 16666666 ⟨0, none, 0⟩ ⟨3, 0⟩ := by
  have heq : iteration 16666666 0 ⟨3, 0⟩ = some ⟨⟨-3, 0⟩, 0⟩ := by decide
  refine ⟨heq, ?_⟩
  rintro ⟨r, hr, hright⟩
  obtain rfl := some.inj (heq.symm.trans hr)
  exact absurd hright.notBefore (by decide)

end Solana.SwVsync
