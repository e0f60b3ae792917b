import Solana.Lib.Fallible

/-!
# Arrays of a declared size

An array of `n` cells, of which a program uses the first ones and keeps count itself.  Reading
or writing a cell outside the array is an error.  `Holds` says that the used cells are a given
list, whatever the others contain; its rules turn a function on such an array into the function
on lists it computes, as long as every index it uses is below the length of the list or, for a
cell that is added, below the size of the array.
-/

namespace Solana.Sized

open Fallible

/-- An access outside the declared size. -/
structure Overrun where
  index : Nat
  size : Nat
  deriving DecidableEq, Repr

variable {α β : Type} {n : Nat}

/-- `a[i]`. -/
def load (a : Vector α n) (i : Nat) : Except Overrun α :=
  if h : i < n then .ok a[i] else .error ⟨i, n⟩

/-- `a[i] = v`. -/
def store (a : Vector α n) (i : Nat) (v : α) : Except Overrun (Vector α n) :=
  if h : i < n then .ok (a.set i v) else .error ⟨i, n⟩

/-- The first cells of the array hold the list. -/
def Holds (a : Vector α n) (l : List α) : Prop := l <+: a.toList

variable {a : Vector α n} {i : Nat}

lemma load_eq_ok (h : i < n) : load a i = .ok a[i] := dif_pos h

lemma store_eq_ok (h : i < n) (v : α) : store a i v = .ok (a.set i v) :=
  dif_pos h

lemma Holds.nil (a : Vector α n) : Holds a [] := List.nil_prefix

variable {l : List α}

section

variable (h : Holds a l)
include h

lemma Holds.length_le : l.length ≤ n := by
  simpa using List.IsPrefix.length_le h

lemma Holds.take (k : Nat) : Holds a (l.take k) :=
  (List.take_prefix k l).trans h

lemma Holds.load (hi : i < l.length) : load a i = .ok l[i] := by
  have hn : i < n := Nat.lt_of_lt_of_le hi h.length_le
  rw [load_eq_ok hn]
  have hget := List.IsPrefix.getElem h hi
  rw [hget, Vector.getElem_toList]

lemma Holds.store (hi : i < l.length) (v : α) :
    ∃ a', store a i v = .ok a' ∧ Holds a' (l.set i v) := by
  have hn : i < n := Nat.lt_of_lt_of_le hi h.length_le
  refine ⟨a.set i v, store_eq_ok hn v, ?_⟩
  obtain ⟨t, ht⟩ := h
  refine ⟨t, ?_⟩
  rw [Vector.toList_set, ← ht, List.set_append_left _ _ hi]

lemma Holds.push (hlt : l.length < n) (v : α) :
    ∃ a', Sized.store a l.length v = .ok a' ∧ Holds a' (l ++ [v]) := by
  refine ⟨a.set l.length v, store_eq_ok hlt v, ?_⟩
  obtain ⟨t, ht⟩ := h
  obtain _ | ⟨x, t⟩ := t
  · have hlen := congrArg List.length ht
    simp at hlen
    omega
  · refine ⟨t, ?_⟩
    rw [Vector.toList_set, ← ht, List.set_append_right _ _ (Nat.le_refl _)]
    simp

/-! ## Loops -/

lemma Holds.foldlM_range (f : β → α → Except Overrun β) (b : β) :
    (List.range l.length).foldlM (fun b k => do let x ← Sized.load a k; f b x) b =
      l.foldlM f b := by
  -- by induction on the number of cells visited
  suffices hk : ∀ k ≤ l.length, (List.range k).foldlM (fun b k => do
      let x ← Sized.load a k
      f b x) b = (l.take k).foldlM f b by
    simpa using hk l.length (Nat.le_refl _)
  intro k
  induction k with
  | zero => intro _; rfl
  | succ k ih =>
    intro hk
    have hlt : k < l.length := hk
    rw [List.range_succ, List.foldlM_append, ih (by omega), List.take_succ_eq_append_getElem hlt,
      List.foldlM_append]
    simp only [List.foldlM_cons, List.foldlM_nil, h.load hlt, ok_bind]

end

end Solana.Sized
