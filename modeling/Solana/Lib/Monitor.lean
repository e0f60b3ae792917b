import Mathlib.Logic.Function.Basic
import Mathlib.Tactic.SplitIfs

/-!
# Monitors with a condition variable

Threads share data under a mutex.  A thread that calls with a request returns when the data are
ready for it, and waits on the condition variable until then; a thread that updates the data
signals one waiting thread, which the caller cannot choose.  A thread may also be woken without a
signal.

Signalling one thread is enough if the others have nothing to wait for any more when that thread has
run.  `State.Covered` is the invariant behind this: for each thread that waits although the data are
ready for its request, a thread is woken that the data are ready for as well and whose return makes
them ready for no request.  `State.Covered.next` is the rule for a step, and
`State.Covered.not_ready` the conclusion: when every woken thread has run, the data are ready for no
waiting thread.
-/

namespace Solana.Monitors

open Function

variable {ι σ ρ τ : Type*}

/-- When the data are ready for a request, and what a thread does to them and returns then. -/
structure Monitor (σ ρ τ : Type*) where
  Ready : ρ → σ → Prop
  leave : ρ → σ → σ × τ

/-- A thread: outside, with what its last call returned, or in a call. -/
inductive Thread (ρ τ : Type*)
  | running (result : Option τ)
  | blocked (request : ρ)
  | woken (request : ρ)

/-- The data and the threads. -/
structure State (ι σ ρ τ : Type*) where
  data : σ
  threads : ι → Thread ρ τ

/-- The steps. -/
inductive Event (ι σ ρ : Type*)
  /-- A thread calls with a request. -/
  | call (i : ι) (request : ρ)
  /-- A woken thread has got the mutex. -/
  | run (i : ι)
  /-- A thread is woken without a signal. -/
  | wake (i : ι)
  /-- The data are updated, and a thread is signalled, if one waits. -/
  | update (data : σ) (signal : Option ι)

/-- Which steps are possible. -/
def Event.Valid (s : State ι σ ρ τ) : Event ι σ ρ → Prop
  | .call i _ => ∃ result, s.threads i = .running result
  | .run i => ∃ request, s.threads i = .woken request
  | .wake i => ∃ request, s.threads i = .blocked request
  | .update _ (some i) => ∃ request, s.threads i = .blocked request
  | .update _ none => ∀ i request, s.threads i ≠ .blocked request

variable [DecidableEq ι] (M : Monitor σ ρ τ) [∀ r d, Decidable (M.Ready r d)]

/-- A thread that has the mutex returns, or waits. -/
def State.attempt (s : State ι σ ρ τ) (i : ι) (request : ρ) : State ι σ ρ τ :=
  if M.Ready request s.data then
    ⟨(M.leave request s.data).1,
      Function.update s.threads i (.running (some (M.leave request s.data).2))⟩
  else { s with threads := Function.update s.threads i (.blocked request) }

/-- A waiting thread is woken. -/
def State.wake (s : State ι σ ρ τ) (i : ι) : State ι σ ρ τ :=
  match s.threads i with
  | .blocked request => { s with threads := Function.update s.threads i (.woken request) }
  | _ => s

/-- One step. -/
def State.next (s : State ι σ ρ τ) : Event ι σ ρ → State ι σ ρ τ
  | .call i request => s.attempt M i request
  | .run i =>
    match s.threads i with
    | .woken request => s.attempt M i request
    | _ => s
  | .wake i => s.wake i
  | .update data none => { s with data := data }
  | .update data (some i) => ({ s with data := data } : State ι σ ρ τ).wake i

/-! ## Threads that wait for nothing -/

/-- After the return of such a thread the data are ready for no request, but for those that they are
always ready for. -/
def Monitor.Clears (r : ρ) : Prop :=
  ∀ d r', M.Ready r' (M.leave r d).1 → ∀ d', M.Ready r' d'

/-- No waiting thread's request is one that the data are always ready for; and if the data are ready
for a waiting thread, a thread is woken that will clear them. -/
structure State.Covered (s : State ι σ ρ τ) : Prop where
  blocked : ∀ i r, s.threads i = .blocked r → ∃ d, ¬M.Ready r d
  covered : ∀ i r, s.threads i = .blocked r → M.Ready r s.data →
    ∃ j r', s.threads j = .woken r' ∧ M.Ready r' s.data ∧ M.Clears r'

/-- An update wakes a thread that will clear the data, or has been preceded by such a wake-up, if it
makes them ready for a thread that it leaves waiting. -/
def Event.Covers (s : State ι σ ρ τ) : Event ι σ ρ → Prop
  | .update data signal => ∀ i r, s.threads i = .blocked r → signal ≠ some i → M.Ready r data →
      ∃ j r', (s.threads j = .woken r' ∨ (s.threads j = .blocked r' ∧ signal = some j)) ∧
        M.Ready r' data ∧ M.Clears r'
  | _ => True

variable {M} {s s' : State ι σ ρ τ}

/-- What a thread that has the mutex does keeps the invariant. -/
lemma State.Covered.attempt (h : s.Covered M) {i : ι} {r : ρ}
    (hr : M.Clears r ∨ ∀ d, (M.leave r d).1 = d)
    (hi : ∀ r', s.threads i = .woken r' → r' = r) : (s.attempt M i r).Covered M := by
  unfold State.attempt
  split_ifs with hready
  · -- the thread returns
    have hblocked : ∀ {j r'}, update s.threads i
        (.running (some (M.leave r s.data).2)) j = .blocked r' →
        j ≠ i ∧ s.threads j = .blocked r' := by
      intro j r' hj
      by_cases hji : j = i
      · rw [hji, update_self] at hj
        cases hj
      · exact ⟨hji, by rwa [update_of_ne hji] at hj⟩
    refine ⟨fun j r' hj => h.blocked j r' (hblocked hj).2, fun j r' hj hready' => ?_⟩
    by_cases hclears : M.Clears r
    · obtain ⟨d, hd⟩ := h.blocked j r' (hblocked hj).2
      exact absurd (hclears s.data r' hready' d) hd
    · have hsame := hr.resolve_left hclears s.data
      simp only [hsame] at hready' ⊢
      obtain ⟨k, r'', hk, hk', hck⟩ := h.covered j r' (hblocked hj).2 hready'
      have hki : k ≠ i := by
        rintro rfl
        exact hclears (hi r'' hk ▸ hck)
      exact ⟨k, r'', (update_of_ne hki ..).trans hk, hk', hck⟩
  · -- the thread waits
    have hblocked : ∀ {j r'}, update s.threads i (.blocked r) j = .blocked r' →
        (j = i ∧ r' = r) ∨ s.threads j = .blocked r' := by
      intro j r' hj
      by_cases hji : j = i
      · rw [hji, update_self] at hj
        exact .inl ⟨hji, (Thread.blocked.inj hj).symm⟩
      · exact .inr (by rwa [update_of_ne hji] at hj)
    refine ⟨fun j r' hj => ?_, fun j r' hj hready' => ?_⟩
    · rcases hblocked hj with ⟨-, rfl⟩ | hj
      · exact ⟨s.data, hready⟩
      · exact h.blocked j r' hj
    · rcases hblocked hj with ⟨-, rfl⟩ | hj
      · exact absurd hready' hready
      · obtain ⟨k, r'', hk, hk', hck⟩ := h.covered j r' hj hready'
        have hki : k ≠ i := by
          rintro rfl
          exact hready (hi r'' hk ▸ hk')
        exact ⟨k, r'', (update_of_ne hki ..).trans hk, hk', hck⟩

lemma State.wake_of_blocked {i : ι} {r : ρ} (hi : s.threads i = .blocked r) :
    s.wake i = { s with threads := update s.threads i (.woken r) } := by
  simp only [State.wake, hi]

lemma blocked_of_update_woken {threads : ι → Thread ρ τ} {i j : ι} {r r' : ρ}
    (h : update threads i (.woken r) j = .blocked r') : j ≠ i ∧ threads j = .blocked r' := by
  by_cases hji : j = i
  · rw [hji, update_self] at h
    cases h
  · exact ⟨hji, by rwa [update_of_ne hji] at h⟩

omit [∀ r d, Decidable (M.Ready r d)] in
lemma State.Covered.wake (h : s.Covered M) {i : ι} {r : ρ} (hi : s.threads i = .blocked r) :
    (s.wake i).Covered M := by
  rw [State.wake_of_blocked hi]
  refine ⟨fun j r' hj => h.blocked j r' (blocked_of_update_woken hj).2, fun j r' hj hready => ?_⟩
  obtain ⟨k, r'', hk, hk', hck⟩ := h.covered j r' (blocked_of_update_woken hj).2 hready
  have hki : k ≠ i := by
    rintro rfl
    rw [hi] at hk
    cases hk
  exact ⟨k, r'', (update_of_ne hki ..).trans hk, hk', hck⟩

/-- An update that covers the threads it leaves waiting keeps the invariant. -/
lemma State.Covered.update (h : s.Covered M) {d : σ} {signal : Option ι}
    (hvalid : (Event.update d signal : Event ι σ ρ).Valid s)
    (hcovers : (Event.update d signal : Event ι σ ρ).Covers M s) :
    (s.next M (.update d signal)).Covered M := by
  match signal with
  | none => exact ⟨fun i r hi => absurd hi (hvalid i r), fun i r hi => absurd hi (hvalid i r)⟩
  | some i =>
    obtain ⟨r, hi⟩ := hvalid
    simp only [State.next]
    rw [State.wake_of_blocked (s := { s with data := d }) hi]
    refine ⟨fun j r' hj => h.blocked j r' (blocked_of_update_woken hj).2, fun j r' hj hready => ?_⟩
    obtain ⟨hji, hj⟩ := blocked_of_update_woken hj
    obtain ⟨k, r'', hk, hk', hck⟩ := hcovers j r' hj (by simpa using Ne.symm hji) hready
    by_cases hki : k = i
    · subst hki
      obtain rfl : r'' = r := by
        rcases hk with hk | ⟨hk, -⟩
        · rw [hi] at hk
          cases hk
        · exact Thread.blocked.inj (hk.symm.trans hi)
      exact ⟨k, r'', update_self .., hk', hck⟩
    · have hk := hk.resolve_right fun ⟨_, hsignal⟩ => hki (Option.some.inj hsignal).symm
      exact ⟨k, r'', (update_of_ne hki ..).trans hk, hk', hck⟩

/-- **The invariant is kept.** -/
lemma State.Covered.next (hleave : ∀ r, M.Clears r ∨ ∀ d, (M.leave r d).1 = d) (h : s.Covered M)
    {e : Event ι σ ρ} (hvalid : e.Valid s) (hcovers : e.Covers M s) : (s.next M e).Covered M := by
  cases e with
  | call i r =>
    obtain ⟨result, hi⟩ := hvalid
    exact h.attempt (hleave r) fun r' hr' => by rw [hi] at hr'; cases hr'
  | run i =>
    obtain ⟨r, hi⟩ := hvalid
    simp only [State.next, hi]
    exact h.attempt (hleave r) fun r' hr' => Thread.woken.inj (hr'.symm.trans hi)
  | wake i =>
    obtain ⟨r, hi⟩ := hvalid
    exact h.wake hi
  | update d signal => exact h.update hvalid hcovers

omit [DecidableEq ι] [∀ r d, Decidable (M.Ready r d)] in
/-- When every woken thread has run, the data are ready for no waiting thread. -/
lemma State.Covered.not_ready (h : s.Covered M) (hquiet : ∀ i r, s.threads i ≠ .woken r) {i : ι}
    {r : ρ} (hi : s.threads i = .blocked r) : ¬M.Ready r s.data := by
  intro hready
  obtain ⟨k, r', hk, -⟩ := h.covered i r hi hready
  exact hquiet k r' hk

end Solana.Monitors
