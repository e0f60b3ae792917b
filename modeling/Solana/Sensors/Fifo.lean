import Solana.Lib.Lockstep
import Solana.Sensors.Reader

/-!
# The circular reader is a queue

The callers of `InputEventCircularReader` fill it, look at the next event, and go on to the event
after it when there was one.  `circularReader_fifo`: under this protocol the reader answers as a
queue of at most the capacity, a fill does not write where an unread event is, and every access is
inside the buffer, which has twice the capacity.

The positions of the unread events are those from `mCurr` on around the first half of the buffer
(`Ring.unread`).  A `read` may write as many events as it is asked for, whatever it returns, so all
of them count as written (`Ring.fillWrites`).
-/

namespace Solana.Sensors

open Lockstep Sensors.Ring List

variable {α : Type*} {n : Nat}

/-! ## Calls -/

/-- The constructor of `InputEventCircularReader`; `cells` is what the buffer holds. -/
def Ring.start (n : Nat) (cells : Nat → α) : Ring α := ⟨cells, 0, 0, n⟩

/-- The calls of the reader, with what `read` returns to a `fill`. -/
inductive ReaderCall (α : Type*)
  | fill (result : ReadResult α)
  | readEvent
  | next

/-- What the calls return. -/
inductive ReaderAnswer (α : Type*)
  | filled (ret : Int)
  | event (event : Option α)
  | moved

/-- The reader and its caller: whether the last `readEvent` returned an event that the caller has
not gone past. -/
structure Reading (σ : Type*) where
  reader : σ
  ready : Bool

/-- A call of the reader. -/
def Ring.call (n : Nat) (s : Reading (Ring α)) :
    ReaderCall α → Reading (Ring α) × ReaderAnswer α
  | .fill result =>
    let (r, ret) := s.reader.fill n result
    (⟨r, s.ready⟩, .filled ret)
  | .readEvent => (⟨s.reader, (s.reader.readEvent n).isSome⟩, .event (s.reader.readEvent n))
  | .next => (⟨s.reader.next n, false⟩, .moved)

/-- A call of a queue with a capacity. -/
def queueCall (n : Nat) (s : Reading (List α)) : ReaderCall α → Reading (List α) × ReaderAnswer α
  | .fill result =>
    let (q, ret) := fillQueue n s.reader result
    (⟨q, s.ready⟩, .filled ret)
  | .readEvent => (⟨s.reader, s.reader.head?.isSome⟩, .event s.reader.head?)
  | .next => (⟨s.reader.tail, false⟩, .moved)

/-- The protocol: `next` follows a `readEvent` that returned an event. -/
def ReaderCall.InOrder {σ : Type*} (s : Reading σ) : ReaderCall α → Prop
  | .fill _ => True
  | .readEvent => True
  | .next => s.ready = true

/-! ## Positions -/

/-- The positions of the unread events, the oldest one first. -/
def Ring.unread (n : Nat) (r : Ring α) : List Nat :=
  (List.range (n - r.freeSpace)).map fun k => wrap n (r.curr + k)

/-- The number of events that a `fill` copies to the front. -/
def Ring.copied (n : Nat) (r : Ring α) : ReadResult α → Nat
  | .events evs => r.head + (evs.take r.freeSpace).length - n
  | _ => 0

/-- Where a `fill` writes: what `read` is asked for, and the events that are copied. -/
def Ring.fillWrites (n : Nat) (r : Ring α) (result : ReadResult α) : List Nat :=
  if r.freeSpace = 0 then []
  else List.range' r.head r.freeSpace ++ List.range (r.copied n result)

/-- Where a call writes. -/
def Ring.writes (n : Nat) (r : Ring α) : ReaderCall α → List Nat
  | .fill result => r.fillWrites n result
  | .readEvent => []
  | .next => []

/-- Where a call reads, or has its caller read. -/
def Ring.reads (n : Nat) (r : Ring α) : ReaderCall α → List Nat
  | .fill result => if r.freeSpace = 0 then [] else List.range' n (r.copied n result)
  | .readEvent => [r.curr]
  | .next => []

variable {r : Ring α} {q : List α}

lemma Ring.holds_start (hn : 0 < n) (cells : Nat → α) : (start n cells).Holds n [] :=
  ⟨by simp [start], hn, Nat.zero_le _, .inl rfl, fun k x hk => by simp at hk⟩

lemma Ring.Holds.length_le (h : r.Holds n q) : q.length ≤ n := by
  have := h.space
  omega

lemma Ring.Holds.mem_unread (h : r.Holds n q) {i : Nat} (hi : i ∈ r.unread n) :
    ∃ k < q.length, i = wrap n (r.curr + k) := by
  have hspace := h.space
  obtain ⟨k, hk, rfl⟩ := mem_map.mp hi
  exact ⟨k, by have := mem_range.mp hk; omega, rfl⟩

lemma Ring.Holds.map_unread (h : r.Holds n q) : (r.unread n).map r.cells = q := by
  have hspace := h.space
  have hlen : n - r.freeSpace = q.length := by omega
  refine ext_getElem? fun k => ?_
  simp only [unread, hlen, map_map, getElem?_map]
  rcases Nat.lt_or_ge k q.length with hk | hk
  · rw [getElem?_range hk, getElem?_eq_getElem hk]
    have hcell := h.cells k q[k] (getElem?_eq_getElem hk)
    simp only [Option.map_some, Function.comp_apply, hcell]
  · rw [getElem?_eq_none (by simpa using hk), getElem?_eq_none hk]
    rfl

lemma Ring.copied_le (r : Ring α) (result : ReadResult α) :
    r.copied n result ≤ r.head + r.freeSpace - n := by
  cases result with
  | failed errno => exact Nat.zero_le _
  | part => exact Nat.zero_le _
  | events evs =>
    have := length_take_le r.freeSpace evs
    simp only [copied]
    omega

/-- What a `fill` writes is in the buffer, and is no unread event. -/
lemma Ring.Holds.fillWrites (h : r.Holds n q) {result : ReadResult α} {i : Nat}
    (hi : i ∈ r.fillWrites n result) : i < 2 * n ∧ i ∉ r.unread n := by
  obtain ⟨hspace, hcurr, hhead, hpos, -⟩ := id h
  have hcopied := r.copied_le (n := n) result
  unfold Ring.fillWrites at hi
  by_cases hfree : r.freeSpace = 0
  · simp [hfree] at hi
  rw [if_neg hfree] at hi
  have hi' : (r.head ≤ i ∧ i < r.head + r.freeSpace) ∨ i + n < r.head + r.freeSpace := by
    rcases mem_append.mp hi with hi | hi
    · exact .inl (mem_range'_1.mp hi)
    · have := mem_range.mp hi
      exact .inr (by omega)
  refine ⟨by omega, fun hu => ?_⟩
  obtain ⟨k, hk, rfl⟩ := h.mem_unread hu
  unfold wrap at hi'
  split_ifs at hi' <;> omega

lemma Ring.Holds.reads_lt (h : r.Holds n q) (call : ReaderCall α) {i : Nat}
    (hi : i ∈ r.reads n call) : i < 2 * n := by
  obtain ⟨hspace, hcurr, hhead, -, -⟩ := h
  cases call with
  | fill result =>
    have hcopied := r.copied_le (n := n) result
    simp only [reads] at hi
    split_ifs at hi
    · simp at hi
    · have := mem_range'_1.mp hi
      omega
  | readEvent =>
    obtain rfl := mem_singleton.mp hi
    omega
  | next => simp [reads] at hi

/-! ## The simulation -/

/-- The reader holds the queue, and the event that the caller has seen is there. -/
structure Ring.Follows (n : Nat) (s : Reading (Ring α)) (t : Reading (List α)) : Prop where
  holds : s.reader.Holds n t.reader
  ready : s.ready = t.ready
  seen : t.ready = true → t.reader ≠ []

lemma fillQueue_ne_nil {result : ReadResult α} (h : q ≠ []) : (fillQueue n q result).1 ≠ [] := by
  unfold fillQueue
  split_ifs
  · exact h
  · cases result with
    | failed errno => exact h
    | part => exact h
    | events evs => exact append_ne_nil_of_left_ne_nil h _

lemma Ring.follows_simulates :
    Simulates (@Ring.call α n) (queueCall n) ReaderCall.InOrder (Ring.Follows n) := by
  rintro s t call ⟨holds, ready, seen⟩ hok
  cases call with
  | fill result =>
    obtain ⟨hnext, hret⟩ := holds.fill result
    refine ⟨?_, hnext, ready, fun h => fillQueue_ne_nil (seen h)⟩
    simp only [call, queueCall, hret]
  | readEvent =>
    have hread := holds.readEvent
    refine ⟨?_, holds, ?_, fun h => ?_⟩
    · simp only [call, queueCall, hread]
    · simp only [call, queueCall, hread]
    · exact isSome_head?.mp h
  | next =>
    obtain ⟨x, q, hq⟩ := exists_cons_of_ne_nil (seen (ready ▸ hok))
    refine ⟨rfl, ?_, rfl, fun h => by simp [queueCall] at h⟩
    simp only [call, queueCall, hq, tail_cons]
    exact (hq ▸ holds).next

/-- **The circular reader is a queue.**  For every capacity and every sequence of calls in which
`next` follows a `readEvent` that returned an event, the calls return what those of a queue return
(a `fill` takes what there is room for, `readEvent` shows the oldest event, `next` drops it).  After
each of them the unread events are the queue, which has at most the capacity, and no call can write
where an unread event is or access anything outside the buffer. -/
theorem circularReader_fifo (hn : 0 < n) (cells : Nat → α) (calls : List (ReaderCall α))
    (hcalls : Allowed (Ring.call n) ReaderCall.InOrder ⟨.start n cells, false⟩ calls) :
    answers (Ring.call n) ⟨.start n cells, false⟩ calls = answers (queueCall n) ⟨[], false⟩ calls ∧
      let r := (after (Ring.call n) ⟨.start n cells, false⟩ calls).reader
      let q := (after (queueCall n) ⟨[], false⟩ calls).reader
      (r.unread n).map r.cells = q ∧ q.length ≤ n ∧
        ∀ call : ReaderCall α,
          (∀ i ∈ r.writes n call, i < 2 * n ∧ i ∉ r.unread n) ∧
            ∀ i ∈ r.reads n call, i < 2 * n := by
  have hstart : Ring.Follows n (⟨.start n cells, false⟩ : Reading (Ring α)) ⟨[], false⟩ :=
    ⟨holds_start hn cells, rfl, fun h => by simp at h⟩
  obtain ⟨hanswers, hafter⟩ := follows_simulates.run calls hstart hcalls
  refine ⟨hanswers, hafter.holds.map_unread, hafter.holds.length_le, fun call => ⟨?_, ?_⟩⟩
  · intro i hi
    cases call with
    | fill result => exact hafter.holds.fillWrites hi
    | readEvent => simp [writes] at hi
    | next => simp [writes] at hi
  · exact fun i hi => hafter.holds.reads_lt call hi

/-- A reader for two events is filled, moved on and filled again, so that the second `read` runs
over the middle of the buffer. -/
def overTheMiddle : List (ReaderCall Nat) :=
  [.fill (.events [1]), .readEvent, .next, .fill (.events [2, 3]), .readEvent, .next, .readEvent]

/-- What is read over the middle comes out in order. -/
theorem circularReader_over_middle :
    (after (Ring.call 2) ⟨.start 2 fun _ => 0, false⟩ overTheMiddle).reader.cells 0 = 3 ∧
      answers (Ring.call 2) ⟨.start 2 fun _ => 0, false⟩ overTheMiddle =
        answers (queueCall 2) ⟨[], false⟩ overTheMiddle := by
  refine ⟨by decide, (circularReader_fifo (by decide) _ _ ?_).1⟩
  exact ⟨trivial, trivial, rfl, trivial, trivial, rfl, trivial, trivial⟩

end Solana.Sensors
