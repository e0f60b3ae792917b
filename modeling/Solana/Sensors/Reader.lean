import Mathlib.Tactic.SplitIfs

/-!
# The reader of input events

`InputEventCircularReader` keeps the events that were read from an input device and not yet
processed.  Its buffer has twice the capacity: a `read` may run over the middle, and what is there
is then copied to the front.  `Ring` is the reader with its pointers, as positions in the buffer.

A driver sees no more of it than a queue: `Ring.Holds` relates the two, and `fill`, `readEvent` and
`next` keep the relation (`Holds.fill`, `Holds.readEvent`, `Holds.next`).  The drivers are therefore
modelled with the queue.
-/

namespace Solana.Sensors

open List

variable {α : Type*} {n : Nat}

/-! ## Reading -/

/-- The value of `errno` after a call that failed. -/
structure Errno where
  code : Nat
  pos : 0 < code

/-- `EINVAL`. -/
def Errno.einval : Errno := ⟨22, by decide⟩

/-- What a function returns for an error. -/
def Errno.ret (e : Errno) : Int := -e.code

lemma Errno.ret_neg (e : Errno) : e.ret < 0 := by
  have := e.pos
  unfold Errno.ret
  omega

/-- What `read` returns for an input device. -/
inductive ReadResult (α : Type*)
  | failed (errno : Errno)
  /-- The number of bytes is not that of whole events. -/
  | part
  | events (evs : List α)

/-! ## The circular reader -/

/-- The variables of the reader. -/
structure Ring (α : Type*) where
  /-- The events from `mBuffer` on. -/
  cells : Nat → α
  head : Nat
  curr : Nat
  freeSpace : Nat

/-- Where the reader has an event that is so many cells after the start of the buffer. -/
def wrap (n i : Nat) : Nat := if i < n then i else i - n

/-- Write events from a position on. -/
def writeFrom (cells : Nat → α) (i : Nat) (evs : List α) (j : Nat) : α :=
  if i ≤ j then evs.getD (j - i) (cells j) else cells j

/-- `InputEventCircularReader::fill`, for a capacity. -/
def Ring.fill (n : Nat) (r : Ring α) (result : ReadResult α) : Ring α × Int :=
  if r.freeSpace = 0 then (r, 0)
  else
    match result with
    | .failed errno => (r, errno.ret)
    | .part => (r, Errno.einval.ret)
    | .events evs =>
      -- `read` returns no more than it is asked for
      let evs := evs.take r.freeSpace
      let cells := writeFrom r.cells r.head evs
      let head := r.head + evs.length
      let freeSpace := r.freeSpace - evs.length
      if n < head then
        (⟨fun i => if i < head - n then cells (n + i) else cells i, head - n, r.curr, freeSpace⟩,
          evs.length)
      else (⟨cells, head, r.curr, freeSpace⟩, evs.length)

/-- `InputEventCircularReader::readEvent`: the next event, if there is one. -/
def Ring.readEvent (n : Nat) (r : Ring α) : Option α :=
  if n - r.freeSpace ≠ 0 then some (r.cells r.curr) else none

/-- `InputEventCircularReader::next`. -/
def Ring.next (n : Nat) (r : Ring α) : Ring α :=
  { r with
    curr := if n ≤ r.curr + 1 then 0 else r.curr + 1
    freeSpace := r.freeSpace + 1 }

/-! ## The queue -/

/-- `fill`, for the queue of the unread events. -/
def fillQueue (n : Nat) (q : List α) (result : ReadResult α) : List α × Int :=
  if n - q.length = 0 then (q, 0)
  else
    match result with
    | .failed errno => (q, errno.ret)
    | .part => (q, Errno.einval.ret)
    | .events evs => (q ++ evs.take (n - q.length), (evs.take (n - q.length)).length)

/-- The reader holds a queue of unread events. -/
structure Ring.Holds (n : Nat) (r : Ring α) (q : List α) : Prop where
  space : r.freeSpace + q.length = n
  curr_lt : r.curr < n
  head_le : r.head ≤ n
  /-- The positions are those of one circle, but `mHead` is left at the end of it. -/
  head : r.head = r.curr + q.length ∨ r.head + n = r.curr + q.length ∨
    r.head = r.curr + q.length + n
  cells : ∀ k x, q[k]? = some x → r.cells (wrap n (r.curr + k)) = x

lemma writeFrom_of_lt {cells : Nat → α} {i j : Nat} (evs : List α) (h : j < i) :
    writeFrom cells i evs j = cells j := if_neg (by omega)

lemma writeFrom_of_le {cells : Nat → α} {i j : Nat} {evs : List α} (h : i + evs.length ≤ j) :
    writeFrom cells i evs j = cells j := by
  unfold writeFrom
  rw [if_pos (by omega), getD_eq_getElem?_getD, List.getElem?_eq_none (by omega)]
  rfl

lemma writeFrom_of_getElem? (cells : Nat → α) (i : Nat) {k : Nat} {evs : List α} {x : α}
    (h : evs[k]? = some x) : writeFrom cells i evs (i + k) = x := by
  unfold writeFrom
  rw [if_pos (by omega), Nat.add_sub_cancel_left, getD_eq_getElem?_getD, h]
  rfl

variable {r : Ring α} {q : List α}

/-- The events that are read do not reach the unread ones. -/
lemma Ring.Holds.append (h : r.Holds n q) {evs : List α} (hlen : evs.length ≤ r.freeSpace) :
    (Ring.mk (if n < r.head + evs.length then fun i =>
          if i < r.head + evs.length - n then writeFrom r.cells r.head evs (n + i)
          else writeFrom r.cells r.head evs i
        else writeFrom r.cells r.head evs)
      (if n < r.head + evs.length then r.head + evs.length - n else r.head + evs.length) r.curr
      (r.freeSpace - evs.length)).Holds n (q ++ evs) := by
  obtain ⟨hspace, hcurr, hhead, hpos, hcells⟩ := h
  refine ⟨?_, hcurr, ?_, ?_, fun k x hk => ?_⟩
  · simp only [length_append]
    omega
  · dsimp only
    split_ifs <;> omega
  · simp only [length_append]
    split_ifs <;> omega
  · rcases Nat.lt_or_ge k q.length with hkq | hkq
    · -- an event that was there before
      rw [List.getElem?_append_left hkq] at hk
      have hold := hcells k x hk
      rw [← hold]
      have hsame : writeFrom r.cells r.head evs (wrap n (r.curr + k)) =
          r.cells (wrap n (r.curr + k)) := by
        unfold wrap
        split_ifs with hw
        · rcases hpos with hpos | hpos | hpos
          · exact writeFrom_of_lt evs (by omega)
          · exact writeFrom_of_le (by omega)
          · omega
        · exact writeFrom_of_lt evs (by omega)
      by_cases hover : n < r.head + evs.length
      · have hge : ¬wrap n (r.curr + k) < r.head + evs.length - n := by
          unfold wrap
          split_ifs <;> omega
        simp only [if_pos hover, if_neg hge]
        exact hsame
      · simp only [if_neg hover]
        exact hsame
    · -- an event that was read
      rw [List.getElem?_append_right hkq] at hk
      have hnew := writeFrom_of_getElem? r.cells r.head hk
      have hkm : k - q.length < evs.length := (List.getElem?_eq_some_iff.mp hk).1
      rw [← hnew]
      by_cases hover : n < r.head + evs.length
      · simp only [if_pos hover]
        by_cases hlow : wrap n (r.curr + k) < r.head + evs.length - n
        · rw [if_pos hlow]
          congr 1
          unfold wrap at *
          split_ifs at * <;> omega
        · rw [if_neg hlow]
          congr 1
          unfold wrap at *
          split_ifs at * <;> omega
      · simp only [if_neg hover]
        congr 1
        unfold wrap
        split_ifs <;> omega

lemma Ring.Holds.fill (h : r.Holds n q) (result : ReadResult α) :
    (r.fill n result).1.Holds n (fillQueue n q result).1 ∧
      (r.fill n result).2 = (fillQueue n q result).2 := by
  have hfree : n - q.length = r.freeSpace := by
    have := h.space
    omega
  unfold Ring.fill fillQueue
  rw [hfree]
  by_cases hz : r.freeSpace = 0
  · simp only [if_pos hz]
    exact ⟨h, trivial⟩
  · simp only [if_neg hz]
    cases result with
    | failed errno => exact ⟨h, rfl⟩
    | part => exact ⟨h, rfl⟩
    | events evs =>
      have happ := h.append (length_take_le r.freeSpace evs)
      by_cases hover : n < r.head + (evs.take r.freeSpace).length
      · simp only [if_pos hover] at happ ⊢
        exact ⟨happ, trivial⟩
      · simp only [if_neg hover] at happ ⊢
        exact ⟨happ, trivial⟩

lemma Ring.Holds.readEvent (h : r.Holds n q) : r.readEvent n = q.head? := by
  have hspace := h.space
  unfold Ring.readEvent
  cases q with
  | nil =>
    rw [if_neg (by simp at hspace; omega)]
    rfl
  | cons x q =>
    have hx := h.cells 0 x rfl
    simp only [wrap, Nat.add_zero, if_pos h.curr_lt] at hx
    rw [if_pos (by simp at hspace; omega), hx]
    rfl

lemma Ring.Holds.next {x : α} (h : r.Holds n (x :: q)) : (r.next n).Holds n q := by
  obtain ⟨hspace, hcurr, hhead, hpos, hcells⟩ := h
  simp only [length_cons] at hspace hpos
  refine ⟨?_, ?_, hhead, ?_, fun k y hk => ?_⟩
  · simp only [Ring.next]
    omega
  · simp only [Ring.next]
    split_ifs <;> omega
  · simp only [Ring.next]
    split_ifs <;> omega
  · have hy := hcells (k + 1) y (by simpa using hk)
    have hkq : k < q.length := (List.getElem?_eq_some_iff.mp hk).1
    rw [← hy]
    simp only [Ring.next, wrap]
    congr 1
    split_ifs <;> omega

end Solana.Sensors
