import Solana.Lib.Runs
import Mathlib.Tactic.SplitIfs

/-!
# The software vsync

Where the display reports no vsync, `vsync_loop` is a thread that computes the times of one.
`start_sw_vsync` sets the period and makes the loop active, `stop_sw_vsync` makes it wait.

The thread reads the period when it takes the lock, before it waits for the loop to become active: a
start that ends the wait sets a period that the thread does not use for its next time.  When the
thread comes to wait before the first start, that period is zero.

`vsync_period_current`: the period is the one of the last start, if a start that finds the thread
waiting does not change it.
-/

namespace Solana.SwVsync

open Runs Option

/-! ## The loop -/

/-- The period for a refresh rate, as the property `persist.hwc.sw_vsync_rate` gives it. -/
def periodOf (rate : Int) : Int := 1000000000 / (if rate ≤ 0 then 60 else rate)

/-- The next vsync at the time `now`, from the one that was expected, unless there is a division by
zero. -/
def nextVsync (period expected now : Int) : Option Int :=
  if expected - now < 0 then
    -- missed, so find where the next one should be
    if period = 0 then none else some (now + (period - (now - expected).tmod period))
  else some expected

/-- Where the thread is. -/
inductive Thread
  /-- Before the lock at the beginning of the loop. -/
  | top
  /-- In `pthread_cond_wait`, with the period that it has read. -/
  | waiting (period : Int)
  /-- It has found the loop active, with the period that it has read and the one that the last start
  had set by then. -/
  | active (period : Int) (started : Option Int)
  /-- Ended by a division by zero. -/
  | faulted
  deriving DecidableEq

/-- A vsync time is computed: the period, and the one that the last start had set when the thread
found the loop active. -/
structure Computed where
  period : Int
  started : Option Int
  deriving DecidableEq

/-- The variables of the loop, and what an observer knows. -/
structure State where
  /-- `vsync_rate` -/
  rate : Int
  /-- `vsync_loop_active` -/
  loopActive : Bool
  thread : Thread
  /-- `next_fake_vsync` -/
  nextFake : Int
  /-- The period that the last start has set. -/
  started : Option Int
  computed : List Computed

/-- The state after `init_sw_vsync`. -/
def State.start : State := ⟨0, false, .top, 0, none, []⟩

/-- The calls, and the steps of the thread. -/
inductive Event
  /-- `start_sw_vsync`, with the rate in the property -/
  | start (rate : Int)
  /-- `stop_sw_vsync` -/
  | stop
  /-- The thread takes the lock at the beginning of the loop. -/
  | lock
  /-- The thread is woken, by a signal or without one. -/
  | wake
  /-- The thread computes a time, waits for it and reports it. -/
  | compute (now : Int)

/-- The thread tests whether the loop is active. -/
def State.test (s : State) (period : Int) : State :=
  { s with thread := if s.loopActive then .active period s.started else .waiting period }

/-- One step. -/
def State.next (s : State) : Event → Option State
  | .start rate => some { s with
      rate := periodOf rate
      loopActive := true
      started := some (periodOf rate) }
  | .stop => some { s with loopActive := false }
  | .lock => if s.thread = .top then some (s.test s.rate) else none
  | .wake =>
    match s.thread with
    | .waiting period => some (s.test period)
    | _ => none
  | .compute now =>
    match s.thread with
    | .active period started =>
      let s := { s with computed := ⟨period, started⟩ :: s.computed }
      match nextVsync period s.nextFake now with
      | none => some { s with thread := .faulted }
      | some next => some { s with thread := .top, nextFake := next + period }
    | _ => none

/-- The states in runs whose steps meet a condition. -/
def ReachableWith (Cond : State → Event → Prop) : State → Prop :=
  Reachable (· = State.start) fun s e s' => Cond s e ∧ s.next e = some s'

/-! ## The period -/

/-- A time is computed with the period of the last start, which is not zero. -/
def Computed.Ok (c : Computed) : Prop := c.period ≠ 0 ∧ c.started = some c.period

/-- A start asks for at most one vsync in a nanosecond, and sets the period that the thread has read
if it finds the thread waiting. -/
def Event.Steady (s : State) : Event → Prop
  | .start rate => rate ≤ 1000000000 ∧ ∀ period, s.thread = .waiting period → period = periodOf rate
  | _ => True

lemma periodOf_pos {rate : Int} (h : rate ≤ 1000000000) : 0 < periodOf rate := by
  unfold periodOf
  split_ifs with hrate
  · decide
  · exact Int.le_ediv_of_mul_le (by omega) (by omega)

/-- What the thread knows of the period. -/
structure State.Current (s : State) : Prop where
  /-- The rate is that of the last start. -/
  started : ∀ period, s.started = some period → s.rate = period ∧ period ≠ 0
  loopActive : s.loopActive = true → s.started ≠ none
  waiting : ∀ period, s.thread = .waiting period → period = s.rate
  active : ∀ period started, s.thread = .active period started → Computed.Ok ⟨period, started⟩
  computed : ∀ c ∈ s.computed, c.Ok

variable {s s' : State}

/-- The thread finds the loop active with the period of the last start. -/
lemma State.Current.test (h : s.Current) : (s.test s.rate).Current := by
  refine ⟨h.started, h.loopActive, fun period hp => ?_, fun period started hp => ?_, h.computed⟩
  · unfold State.test at hp
    split_ifs at hp
    exact (Thread.waiting.inj hp).symm
  · unfold State.test at hp
    split_ifs at hp with hactive
    obtain ⟨rfl, rfl⟩ := Thread.active.inj hp
    obtain ⟨period, hstarted⟩ := ne_none_iff_exists'.mp (h.loopActive hactive)
    obtain ⟨hrate, hne⟩ := h.started period hstarted
    exact ⟨hrate ▸ hne, hrate ▸ hstarted⟩

lemma State.Current.next (h : s.Current) {e : Event} (he : e.Steady s)
    (hs : s.next e = some s') : s'.Current := by
  cases e with
  | start rate =>
    obtain rfl := some.inj hs
    obtain ⟨hle, hsame⟩ := he
    refine ⟨fun period hp => ?_, fun _ => nofun, hsame, h.active, h.computed⟩
    obtain rfl := some.inj hp
    exact ⟨rfl, Int.ne_of_gt (periodOf_pos hle)⟩
  | stop =>
    obtain rfl := some.inj hs
    exact ⟨h.started, nofun, h.waiting, h.active, h.computed⟩
  | lock =>
    obtain ⟨-, hs⟩ := ite_none_right_eq_some.mp hs
    obtain rfl := some.inj hs
    exact h.test
  | wake =>
    simp only [State.next] at hs
    split at hs
    · rename_i period hthread
      obtain rfl := some.inj hs
      rw [h.waiting period hthread]
      exact h.test
    · cases hs
  | compute now =>
    simp only [State.next] at hs
    split at hs
    · rename_i period started hthread
      have hcomputed : ∀ c ∈ (⟨period, started⟩ : Computed) :: s.computed, c.Ok :=
        List.forall_mem_cons.mpr ⟨h.active period started hthread, h.computed⟩
      split at hs
      all_goals
        obtain rfl := some.inj hs
        exact ⟨h.started, h.loopActive, nofun, nofun, hcomputed⟩
    · cases hs

/-- **The period is that of the last start.**  In every run in which a start asks for a rate of at
most 10⁹, and does not change the period if it finds the thread waiting, each vsync time is computed
with a period that is not zero, and that the last start had set when the thread found the loop
active. -/
theorem vsync_period_current (hr : ReachableWith (fun s e => e.Steady s) s) :
    ∀ c ∈ s.computed, c.period ≠ 0 ∧ c.started = some c.period := by
  have h : s.Current := by
    refine hr.invariant State.Current ?_ (fun s e s' hs hstep => hs.next hstep.1 hstep.2)
    rintro s rfl
    exact ⟨nofun, nofun, nofun, nofun, nofun⟩
  exact h.computed

/-- The thread starts after the first call. -/
theorem vsync_after_start : ∃ s : State, s.computed = [⟨16666666, some 16666666⟩] ∧
      ∀ c ∈ s.computed, c.period ≠ 0 ∧ c.started = some c.period := by
  have hstart : (Event.start 60).Steady State.start := ⟨by decide, nofun⟩
  have hr : ReachableWith (fun s e => e.Steady s) _ :=
    .next (.next (.next (.start rfl) ⟨hstart, rfl⟩) (i := .lock) ⟨trivial, rfl⟩)
      (i := .compute 5) ⟨trivial, rfl⟩
  exact ⟨_, by decide +kernel, vsync_period_current hr⟩

/-- The thread waits before the first call, and computes with the period zero.  Later it waits with
the period for 60 Hz and computes with it after a start for 30 Hz. -/
theorem vsync_period_stale :
    (¬∀ s : State, ReachableWith (fun _ _ => True) s → ∀ c ∈ s.computed, c.period ≠ 0) ∧
    ¬∀ s : State, ReachableWith (fun _ _ => True) s →
      ∀ c ∈ s.computed, c.period ≠ 0 → c.started = some c.period := by
  constructor
  · intro h
    obtain ⟨s, hr, hbad⟩ : ∃ s : State, ReachableWith (fun _ _ => True) s ∧
        ∃ c ∈ s.computed, c.period = 0 :=
      exists_of_run rfl [.lock, .start 60, .wake, .compute 5] (by decide +kernel)
    obtain ⟨c, hc, hzero⟩ := hbad
    exact h s hr c hc hzero
  · intro h
    obtain ⟨s, hr, c, hc, hne, hbad⟩ : ∃ s : State, ReachableWith (fun _ _ => True) s ∧
        ∃ c ∈ s.computed, c.period ≠ 0 ∧ c.started ≠ some c.period :=
      exists_of_run rfl [.start 60, .stop, .lock, .start 30, .wake, .compute 5] (by decide +kernel)
    exact hbad (h s hr c hc hne)

end Solana.SwVsync
