import Solana.Lib.Monitor
import Solana.Lib.Runs

/-!
# OSAL events

An OSAL event is a word of flags under a mutex, with a condition variable.  `TIMM_OSAL_EventSet`
changes flags and signals one of the threads that wait; `TIMM_OSAL_EventRetrieve` returns the flags
when they match a request, takes them all away if the request consumes them, and else waits.

Any number of threads wait here without a timeout.  The system may signal a thread whose request
the flags do not match: that thread waits again, and one that could go on is not woken.
`no_lost_wakeup` says which sets are safe.
-/

namespace Solana.Osal

open Runs Monitors

/-! ## Setting and retrieving -/

/-- `TIMM_OSAL_EVENT_OPERATION`. -/
inductive Operation
  | and
  | andConsume
  | or
  | orConsume
  deriving DecidableEq

/-- `TIMM_OSAL_THREAD_EVENT`, without the mutex and the condition variable. -/
structure ThreadEvent where
  signaled : Bool
  flags : BitVec 32
  deriving DecidableEq

/-- The event that `TIMM_OSAL_EventCreate` makes. -/
def ThreadEvent.create : ThreadEvent := ⟨false, 0⟩

/-- `TIMM_OSAL_EventSet` up to the signal, if the operation is valid. -/
def ThreadEvent.set (e : ThreadEvent) (flags : BitVec 32) : Operation → Option ThreadEvent
  | .and => some ⟨true, e.flags &&& flags⟩
  | .or => some ⟨true, e.flags ||| flags⟩
  | .andConsume | .orConsume => none

/-- The arguments of `TIMM_OSAL_EventRetrieve`. -/
structure Request where
  requested : BitVec 32
  operation : Operation
  deriving DecidableEq

/-- The operation is one of those for which all flags must match. -/
def Request.isAnd (r : Request) : Bool := r.operation = .and ∨ r.operation = .andConsume

/-- The flags are taken away. -/
def Request.consumes (r : Request) : Bool := r.operation = .andConsume ∨ r.operation = .orConsume

/-- The test of the isolated flags. -/
def Request.matches (r : Request) (e : ThreadEvent) : Bool :=
  if r.isAnd then e.flags &&& r.requested = r.requested else e.flags &&& r.requested ≠ 0

/-- The end of `TIMM_OSAL_EventRetrieve` after a match, with the retrieved flags. -/
def Request.retrieve (r : Request) (e : ThreadEvent) : ThreadEvent × BitVec 32 :=
  (if r.consumes then { e with flags := 0 } else e, e.flags)

/-- An event as a monitor. -/
def monitor : Monitor ThreadEvent Request (BitVec 32) where
  Ready r e := r.matches e = true
  leave r e := r.retrieve e

instance (r : Request) (e : ThreadEvent) : Decidable (monitor.Ready r e) :=
  inferInstanceAs (Decidable (r.matches e = true))

/-! ## Runs -/

variable {ι : Type*}

/-- An event and the threads that use it. -/
abbrev System (ι : Type*) := State ι ThreadEvent Request (BitVec 32)

/-- The event is new and no thread is in a call. -/
def System.start : System ι := ⟨.create, fun _ => .running none⟩

/-- The steps. -/
inductive Event (ι : Type*)
  /-- A thread calls `TIMM_OSAL_EventRetrieve` with `TIMM_OSAL_SUSPEND`. -/
  | retrieve (i : ι) (request : Request)
  /-- A thread that was woken has got the mutex. -/
  | run (i : ι)
  /-- A thread is woken without a signal. -/
  | wake (i : ι)
  /-- `TIMM_OSAL_EventSet`, and the thread that is signalled. -/
  | set (flags : BitVec 32) (operation : Operation) (signal : Option ι)

/-- The step as one of the monitor; an invalid operation does nothing. -/
def Event.toMonitor (s : System ι) : Event ι → Option (Monitors.Event ι ThreadEvent Request)
  | .retrieve i request => some (.call i request)
  | .run i => some (.run i)
  | .wake i => some (.wake i)
  | .set flags operation signal => (s.data.set flags operation).map fun e => .update e signal

/-- A step is possible. -/
def Event.Valid (s : System ι) (e : Event ι) : Prop := ∀ e' ∈ e.toMonitor s, e'.Valid s

variable [DecidableEq ι]

/-- One step. -/
def System.next (s : System ι) (e : Event ι) : System ι :=
  (e.toMonitor s).elim s (State.next monitor s)

/-- The states in runs whose steps meet a condition. -/
def ReachableWith (Cond : System ι → Event ι → Prop) : System ι → Prop :=
  Reachable (· = System.start) fun s e s' => e.Valid s ∧ Cond s e ∧ s' = System.next s e

/-! ## Wake-ups -/

/-- Every thread that was woken has returned or waits again. -/
def Quiet (s : System ι) : Prop := ∀ i request, s.threads i ≠ .woken request

/-- If the new flags match the request of a thread that waits and is not signalled, they match the
consuming request of a thread that is signalled or was woken before. -/
def Event.Covers (s : System ι) : Event ι → Prop
  | .set flags operation signal => ∀ e ∈ s.data.set flags operation, ∀ i r,
      s.threads i = .blocked r → signal ≠ some i → r.matches e = true →
      ∃ j r', (s.threads j = .woken r' ∨ (s.threads j = .blocked r' ∧ signal = some j)) ∧
        r'.matches e = true ∧ r'.consumes = true
  | _ => True

lemma matches_of_matches_zero {r : Request} {e : ThreadEvent} (he : e.flags = 0)
    (h : r.matches e = true) (e' : ThreadEvent) : r.matches e' = true := by
  unfold Request.matches at *
  split_ifs at h ⊢
  · simp only [he, decide_eq_true_eq] at h ⊢
    have hzero : r.requested = 0 := by simpa using h.symm
    simp [hzero]
  · simp [he] at h

lemma clears_of_consumes {r : Request} (h : r.consumes = true) : monitor.Clears r := by
  intro e r' hmatch e'
  refine matches_of_matches_zero ?_ hmatch e'
  simp [monitor, Request.retrieve, h]

lemma clears_or_keeps (r : Request) : monitor.Clears r ∨ ∀ e, (monitor.leave r e).1 = e := by
  cases h : r.consumes with
  | true => exact .inl (clears_of_consumes h)
  | false => exact .inr fun e => by simp [monitor, Request.retrieve, h]

lemma covered_next {s : System ι} (h : s.Covered monitor) {e : Event ι} (hvalid : e.Valid s)
    (hcovers : e.Covers s) : (System.next s e).Covered monitor := by
  have hstep : ∀ e', e.toMonitor s = some e' → e'.Covers monitor s →
      (System.next s e).Covered monitor := by
    intro e' he' hc
    simp only [System.next, he', Option.elim_some]
    exact h.next clears_or_keeps (hvalid e' he') hc
  cases e with
  | retrieve i request => exact hstep _ rfl trivial
  | run i => exact hstep _ rfl trivial
  | wake i => exact hstep _ rfl trivial
  | set flags operation signal =>
    cases hset : s.data.set flags operation with
    | none =>
      simpa only [System.next, Event.toMonitor, hset, Option.map_none, Option.elim_none] using h
    | some data =>
      refine hstep (.update data signal) (by simp [Event.toMonitor, hset]) ?_
      intro i r hi hsignal hmatch
      obtain ⟨j, r', hj, hmatch', hconsumes⟩ := hcovers data hset i r hi hsignal hmatch
      exact ⟨j, r', hj, hmatch', clears_of_consumes hconsumes⟩

/-- **No wake-up is lost.**  In every run in which each set that leaves a thread waiting although
the new flags match its request finds a thread, signalled or woken before, whose consuming request
they match too: when every woken thread has run, the flags match the request of no waiting
thread. -/
theorem no_lost_wakeup {s : System ι} (hr : ReachableWith (fun s e => e.Covers s) s)
    (hquiet : Quiet s) (i : ι) (request : Request) (hi : s.threads i = .blocked request) :
    request.matches s.data = false := by
  have h : s.Covered monitor := by
    refine hr.invariant (fun s => s.Covered monitor) ?_ ?_
    · rintro s rfl
      exact ⟨fun _ _ h => (nomatch h), fun _ _ h => (nomatch h)⟩
    · rintro s e s' hs ⟨hvalid, hcovers, rfl⟩
      exact covered_next hs hvalid hcovers
  simpa [monitor] using h.not_ready hquiet hi

/-! ## Runs of one and of two threads -/

section

variable {Cond : System ι → Event ι → Prop} {s : System ι} {i : ι} {r : Request}

lemma ReachableWith.retrieve (hr : ReachableWith Cond s) (hi : s.threads i = .running none)
    (hc : Cond s (.retrieve i r)) : ReachableWith Cond (System.next s (.retrieve i r)) := by
  refine .next hr ⟨?_, hc, rfl⟩
  rintro _ ⟨⟩
  exact ⟨none, hi⟩

lemma ReachableWith.set (hr : ReachableWith Cond s) (hi : s.threads i = .blocked r)
    {flags : BitVec 32} {operation : Operation} (hc : Cond s (.set flags operation (some i))) :
    ReachableWith Cond (System.next s (.set flags operation (some i))) := by
  refine .next hr ⟨fun e he => ?_, hc, rfl⟩
  obtain ⟨data, -, rfl⟩ := Option.map_eq_some_iff.mp he
  exact ⟨r, hi⟩

lemma ReachableWith.run (hr : ReachableWith Cond s) (hi : s.threads i = .woken r)
    (hc : Cond s (.run i)) : ReachableWith Cond (System.next s (.run i)) := by
  refine .next hr ⟨?_, hc, rfl⟩
  rintro _ ⟨⟩
  exact ⟨r, hi⟩

end

/-- A thread waits for the flag 1, and for the flag 2 when there is a second one. -/
def sampleRequest (i : Bool) : Request := ⟨if i then 2 else 1, .or⟩

/-- One thread waits, or both. -/
def sampleWaiting (both : Bool) : System Bool :=
  let s := System.next System.start (.retrieve false (sampleRequest false))
  if both then System.next s (.retrieve true (sampleRequest true)) else s

lemma reachable_sampleWaiting (both : Bool) {Cond : System Bool → Event Bool → Prop}
    (hcond : ∀ s i r, Cond s (.retrieve i r)) : ReachableWith Cond (sampleWaiting both) := by
  have hone : ReachableWith Cond (sampleWaiting false) :=
    ReachableWith.retrieve (i := false) (r := sampleRequest false) (.start rfl) rfl (hcond _ _ _)
  cases both with
  | false => exact hone
  | true => exact hone.retrieve (i := true) (r := sampleRequest true) rfl (hcond _ _ _)

/-- A flag is set, a thread is signalled, and it runs. -/
def sampleSet (both : Bool) (flags : BitVec 32) (i : Bool) : System Bool :=
  System.next (System.next (sampleWaiting both) (.set flags .or (some i))) (.run i)

/-- One thread waits for the flag 1 and is woken when the flag 2 is set. -/
theorem one_thread_waits_on : ∃ s : System Bool, s.threads false = .blocked ⟨1, .or⟩ ∧
    s.data.flags = 2 ∧ Request.matches ⟨1, .or⟩ s.data = false := by
  have hset : ReachableWith (fun s e => e.Covers s)
      (System.next (sampleWaiting false) (.set 2 .or (some false))) := by
    refine (reachable_sampleWaiting false fun _ _ _ => trivial).set (r := ⟨1, .or⟩) rfl ?_
    intro e _ i r hi hsignal
    cases i with
    | false => exact absurd rfl hsignal
    | true => cases hi
  have hr : ReachableWith (fun s e => e.Covers s) (sampleSet false 2 false) :=
    hset.run (r := ⟨1, .or⟩) rfl trivial
  have hquiet : Quiet (sampleSet false 2 false) := by
    intro i request
    cases i <;> nofun
  exact ⟨sampleSet false 2 false, rfl, rfl, no_lost_wakeup hr hquiet false ⟨1, .or⟩ rfl⟩

/-- Two threads wait for one flag each, the flag of the first is set, and the second is
signalled. -/
theorem wrong_thread_signalled : ¬∀ s : System Bool, ReachableWith (fun _ _ => True) s → Quiet s →
      ∀ i request, s.threads i = .blocked request → request.matches s.data = false := by
  intro h
  have hset : ReachableWith (fun _ _ => True)
      (System.next (sampleWaiting true) (.set 1 .or (some true))) :=
    (reachable_sampleWaiting true fun _ _ _ => trivial).set (r := ⟨2, .or⟩) rfl trivial
  have hr : ReachableWith (fun _ _ => True) (sampleSet true 1 true) :=
    hset.run (r := ⟨2, .or⟩) rfl trivial
  have hquiet : Quiet (sampleSet true 1 true) := by
    intro i request
    cases i <;> nofun
  exact absurd (h _ hr hquiet false ⟨1, .or⟩ rfl) (by decide)

end Solana.Osal
