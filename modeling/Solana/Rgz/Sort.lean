import Mathlib.Data.Int.ConditionallyCompleteOrder
import Mathlib.Data.List.Sort
import Mathlib.Tactic.Linarith

/-!
# `rgz_bsort` and `rgz_bunique`

The regionizer turns the edges of its rectangles into cut points by two in-place passes over
an integer array (`hwc/rgz_2d.c`): an exchange sort and a pass that squeezes out repeated
values.  Both are embedded as they run on the array, with `List.getD` / `List.set` for
`a[i]` and `a[i] = v`.

`rgz_bsort` is called a bubble sort in the source, but its inner loop compares `a[i]` with
each `a[j]`, `j < i`: it inserts `a[i]` into the already sorted prefix by a chain of
exchanges.  That is the invariant `BsortInv` carries through the inner loop.  `rgz_bunique`
keeps the array sorted at every step, and the strictly increasing part grows by one cell
per iteration (`BuniqueInv`).

The two specifications meet in `cutPoints`: the array prefix both callers go on to use is
strictly increasing and holds exactly the values that were put in.
-/

namespace Solana

open List

/-! ## Reading an array -/

/-- `a[i]`. -/
def arr (a : List Int) (i : Nat) : Int := a.getD i 0

variable {a : List Int}

lemma arr_set {i : Nat} (hi : i < a.length) (v : Int) (k : Nat) :
    arr (a.set i v) k = if k = i then v else arr a k := by
  unfold arr
  rw [getD_eq_getElem?_getD, getD_eq_getElem?_getD, getElem?_set]
  by_cases hk : k = i
  · subst hk
    simp [hi]
  · rw [if_neg (Ne.symm hk), if_neg hk]

lemma arr_eq_getElem {i : Nat} (hi : i < a.length) : arr a i = a[i] := by
  simp [arr, getD_eq_getElem?_getD, hi]

lemma mem_iff_exists_arr {v : Int} : v ∈ a ↔ ∃ k < a.length, arr a k = v := by
  rw [mem_iff_getElem]
  constructor
  · rintro ⟨k, hk, hv⟩
    exact ⟨k, hk, by rw [arr_eq_getElem hk, hv]⟩
  · rintro ⟨k, hk, hv⟩
    exact ⟨k, hk, by rw [← arr_eq_getElem hk, hv]⟩

/-! ## The exchange sort -/

/-- The body of the inner loop: exchange `a[i]` and `a[j]` if `a[i] < a[j]`. -/
def bsortExchange (a : List Int) (i j : Nat) : List Int :=
  if arr a i < arr a j then (a.set i (arr a j)).set j (arr a i) else a

/-- The inner loop, `for (j = 0; j < i; j++)`. -/
def bsortInner (a : List Int) (i : Nat) : List Int :=
  (List.range i).foldl (fun a j => bsortExchange a i j) a

/-- Simple bubble sort on an array, ascending order. -/
def rgzBsort (a : List Int) (len : Nat) : List Int :=
  (List.range len).foldl bsortInner a

lemma bsortExchange_perm {i j : Nat} (hi : i < a.length) (hj : j < a.length) :
    (bsortExchange a i j).Perm a := by
  unfold bsortExchange
  split
  · rw [arr_eq_getElem hi, arr_eq_getElem hj]
    exact set_set_perm hi hj
  · exact List.Perm.refl a

lemma arr_bsortExchange {i j : Nat} (hi : i < a.length) (hj : j < a.length) (hij : j ≠ i)
    (k : Nat) : arr (bsortExchange a i j) k =
      if k = i then max (arr a i) (arr a j)
      else if k = j then min (arr a i) (arr a j) else arr a k := by
  unfold bsortExchange
  by_cases hlt : arr a i < arr a j
  · rw [if_pos hlt, arr_set (by simpa using hj), arr_set hi]
    by_cases hki : k = i
    · subst hki
      rw [if_neg (Ne.symm hij), if_pos rfl, if_pos rfl, max_eq_right hlt.le]
    · rw [if_neg hki, if_neg hki, min_eq_left hlt.le]
  · rw [if_neg hlt]
    by_cases hki : k = i
    · subst hki
      rw [if_pos rfl, max_eq_left (not_lt.mp hlt)]
    · rw [if_neg hki]
      by_cases hkj : k = j
      · subst hkj
        rw [if_pos rfl, min_eq_right (not_lt.mp hlt)]
      · rw [if_neg hkj]

/-- The state of the inner loop on entry to iteration `j`: the two parts `[0, j)` and
`[j, i)` of the prefix are sorted, and everything in the first part is below everything in
the second and below `a[i]`. -/
structure BsortInv (a : List Int) (i j : Nat) : Prop where
  sorted : ∀ k l, k ≤ l → l < i → arr a k ≤ arr a l
  below : ∀ k, k < j → arr a k ≤ arr a i

lemma BsortInv.step {i j : Nat} (h : BsortInv a i j) (hi : i < a.length) (hj : j < i) :
    BsortInv (bsortExchange a i j) i (j + 1) := by
  have hjl : j < a.length := by omega
  have hval := arr_bsortExchange hi hjl (by omega)
  have hmin : min (arr a i) (arr a j) ≤ arr a j := min_le_right _ _
  have hmax : arr a j ≤ max (arr a i) (arr a j) := le_max_right _ _
  have hmm : min (arr a i) (arr a j) ≤ max (arr a i) (arr a j) :=
    (min_le_left _ _).trans (le_max_left _ _)
  constructor
  · intro k l hkl hl
    rw [hval k, hval l, if_neg (by omega : ¬ k = i), if_neg (by omega : ¬ l = i)]
    by_cases hk : k = j
    · subst hk
      rw [if_pos rfl]
      by_cases hl' : l = k
      · rw [if_pos hl']
      · rw [if_neg hl']
        exact hmin.trans (h.sorted k l hkl hl)
    · rw [if_neg hk]
      by_cases hl' : l = j
      · subst hl'
        rw [if_pos rfl]
        exact le_min (h.below k (by omega)) (h.sorted k l hkl hl)
      · rw [if_neg hl']
        exact h.sorted k l hkl hl
  · intro k hk
    rw [hval k, hval i, if_pos rfl, if_neg (by omega : ¬ k = i)]
    by_cases hkj : k = j
    · rw [if_pos hkj]
      exact hmm
    · rw [if_neg hkj]
      exact (h.sorted k j (by omega) hj).trans hmax

/-- The inner loop run up to `j`, in one statement. -/
lemma bsortInner_spec {i : Nat} (hi : i < a.length)
    (hsorted : ∀ k l, k ≤ l → l < i → arr a k ≤ arr a l) (j : Nat) (hj : j ≤ i) :
    ((range j).foldl (fun a j => bsortExchange a i j) a).Perm a ∧
      BsortInv ((range j).foldl (fun a j => bsortExchange a i j) a) i j := by
  induction j with
  | zero => exact ⟨List.Perm.refl a, hsorted, by omega⟩
  | succ j ih =>
    obtain ⟨hperm, hinv⟩ := ih (by omega)
    rw [range_succ, foldl_append, foldl_cons, foldl_nil]
    have hlen := hperm.length_eq
    exact ⟨(bsortExchange_perm (by omega) (by omega)).trans hperm,
      hinv.step (by omega) (by omega)⟩

/-- After iteration `i` of the outer loop the prefix `[0, i]` is sorted. -/
lemma rgzBsort_upto (a : List Int) (i : Nat) (hi : i ≤ a.length) : (rgzBsort a i).Perm a ∧
      ∀ k l, k ≤ l → l < i → arr (rgzBsort a i) k ≤ arr (rgzBsort a i) l := by
  induction i with
  | zero => exact ⟨List.Perm.refl a, by omega⟩
  | succ i ih =>
    obtain ⟨hperm, hsorted⟩ := ih (by omega)
    have hlen := hperm.length_eq
    have hstep : rgzBsort a (i + 1) = bsortInner (rgzBsort a i) i := by
      simp only [rgzBsort, range_succ, foldl_append, foldl_cons, foldl_nil]
    obtain ⟨hperm', hinv⟩ := bsortInner_spec (by omega) hsorted i le_rfl
    rw [hstep]
    refine ⟨hperm'.trans hperm, fun k l hkl hl => ?_⟩
    rcases Nat.lt_or_ge l i with hli | hli
    · exact hinv.sorted k l hkl hli
    · obtain rfl : l = i := by omega
      rcases Nat.lt_or_ge k l with hk | hk
      · exact hinv.below k hk
      · obtain rfl : k = l := by omega
        exact le_rfl

lemma rgzBsort_perm (a : List Int) : (rgzBsort a a.length).Perm a :=
  (rgzBsort_upto a a.length le_rfl).1

lemma rgzBsort_sorted (a : List Int) {k l : Nat} (hkl : k ≤ l) (hl : l < a.length) :
    arr (rgzBsort a a.length) k ≤ arr (rgzBsort a a.length) l :=
  (rgzBsort_upto a a.length le_rfl).2 k l hkl hl

/-! ## Squeezing out repeated values -/

/-- `while (base + skip < len && a[base] == a[base + skip]) skip++`. -/
def buniqueSkip (a : List Int) (base len : Nat) : Nat → Nat → Nat
  | 0, skip => skip
  | fuel + 1, skip =>
    if base + skip < len ∧ arr a base = arr a (base + skip) then
      buniqueSkip a base len fuel (skip + 1)
    else skip

/-- `for (i = 0; i < skip - 1; i++) a[base + 1 + i] = a[base + skip]`. -/
def buniqueShift (a : List Int) (base skip : Nat) : List Int :=
  (List.range (skip - 1)).foldl (fun a i => a.set (base + 1 + i) (arr a (base + skip))) a

/-- The outer loop; `base` grows by one every time round, so `len` rounds are enough. -/
def buniqueLoop (len : Nat) : Nat → List Int → Nat → Nat → List Int × Nat
  | 0, a, _, unique => (a, unique)
  | fuel + 1, a, base, unique =>
    if base + 1 < len then
      if arr a base = arr a (base + 1) then
        let skip := buniqueSkip a base len len 1
        if base + skip = len then (a, unique)
        else buniqueLoop len fuel (buniqueShift a base skip) (base + 1) (unique + 1)
      else buniqueLoop len fuel a (base + 1) (unique + 1)
    else (a, unique)

/-- Leave only unique numbers in a sorted array; the second component is the new length. -/
def rgzBunique (a : List Int) (len : Nat) : List Int × Nat :=
  buniqueLoop len len a 0 1

/-- What the inner `while` finds: the first cell after a run of equal values. -/
lemma buniqueSkip_spec (a : List Int) (base len : Nat) :
    ∀ (fuel skip : Nat), len ≤ base + skip + fuel → base + skip ≤ len →
      (∀ k, k < skip → arr a (base + k) = arr a base) →
      let s := buniqueSkip a base len fuel skip
      skip ≤ s ∧ base + s ≤ len ∧ (∀ k, k < s → arr a (base + k) = arr a base) ∧
        (base + s < len → arr a base ≠ arr a (base + s))
  | 0, skip, hfuel, hle, hrun => by
    simp only [buniqueSkip]
    exact ⟨le_rfl, hle, hrun, by omega⟩
  | fuel + 1, skip, hfuel, hle, hrun => by
    simp only [buniqueSkip]
    split_ifs with h
    · have hrun' : ∀ k, k < skip + 1 → arr a (base + k) = arr a base := by
        intro k hk
        rcases Nat.lt_or_ge k skip with hk' | hk'
        · exact hrun k hk'
        · obtain rfl : k = skip := by omega
          exact h.2.symm
      have ih := buniqueSkip_spec a base len fuel (skip + 1) (by omega) (by omega) hrun'
      exact ⟨by omega, ih.2.1, ih.2.2.1, ih.2.2.2⟩
    · exact ⟨le_rfl, hle, hrun, fun hlt heq => h ⟨hlt, heq⟩⟩

variable {base skip : Nat}

section

variable (hlt : base + skip < a.length)
include hlt

lemma buniqueShift_below (n : Nat) (hn : n ≤ skip - 1) :
    let a' := (range n).foldl (fun a i => a.set (base + 1 + i) (arr a (base + skip))) a
    a'.length = a.length ∧
      ∀ k, arr a' k = if base < k ∧ k < base + 1 + n then arr a (base + skip) else arr a k := by
  induction n with
  | zero =>
    refine ⟨rfl, fun k => ?_⟩
    rw [if_neg (by omega)]
    rfl
  | succ n ih =>
    obtain ⟨hlen, hval⟩ := ih (by omega)
    simp only [range_succ, foldl_append, foldl_cons, foldl_nil]
    refine ⟨by rw [length_set]; exact hlen, fun k => ?_⟩
    rw [arr_set (by rw [hlen]; omega), hval, hval]
    -- the cell read, `base + skip`, is never one of those written so far
    rw [if_neg (by omega : ¬(base < base + skip ∧ base + skip < base + 1 + n))]
    by_cases hk : k = base + 1 + n
    · rw [if_pos hk, if_pos (by omega)]
    · rw [if_neg hk]
      by_cases hk' : base < k ∧ k < base + 1 + n
      · rw [if_pos hk', if_pos (by omega)]
      · rw [if_neg hk', if_neg (by omega)]

lemma length_buniqueShift : (buniqueShift a base skip).length = a.length :=
  (buniqueShift_below hlt (skip - 1) le_rfl).1

lemma arr_buniqueShift (k : Nat) : arr (buniqueShift a base skip) k =
      if base < k ∧ k < base + skip then arr a (base + skip) else arr a k := by
  have h := (buniqueShift_below hlt (skip - 1) le_rfl).2 k
  rw [buniqueShift, h]
  congr 1
  apply propext
  omega

end

/-- The outer loop's state against the array it started from. -/
structure BuniqueInv (a₀ a : List Int) (base : Nat) : Prop where
  length : a.length = a₀.length
  base_lt : base < a.length
  sorted : ∀ k l, k ≤ l → l < a.length → arr a k ≤ arr a l
  strict : ∀ k, k < base → arr a k < arr a (k + 1)
  values : ∀ v, v ∈ a ↔ v ∈ a₀

lemma BuniqueInv.shift {a₀ a : List Int} (h : BuniqueInv a₀ a base) (hskip : 1 ≤ skip)
    (hlt : base + skip < a.length) (hrun : ∀ k, k < skip → arr a (base + k) = arr a base)
    (hne : arr a base ≠ arr a (base + skip)) :
    BuniqueInv a₀ (buniqueShift a base skip) (base + 1) := by
  have hval := arr_buniqueShift hlt
  have hlen := length_buniqueShift hlt
  have hgt : arr a base < arr a (base + skip) :=
    lt_of_le_of_ne (h.sorted _ _ (by omega) hlt) hne
  have hrun' : ∀ k, base ≤ k → k < base + skip → arr a k = arr a base := by
    intro k hk hk'
    have := hrun (k - base) (by omega)
    rwa [show base + (k - base) = k by omega] at this
  refine ⟨hlen.trans h.length, by omega, ?_, ?_, ?_⟩
  · intro k l hkl hl
    rw [hlen] at hl
    rw [hval, hval]
    split_ifs with hk hl' hl'
    · exact le_rfl
    · exact h.sorted _ _ (by omega) hl
    · rcases Nat.lt_or_ge base k with hbk | hbk
      · exact h.sorted _ _ (by omega) hlt
      · exact (h.sorted _ _ hbk (by omega)).trans hgt.le
    · exact h.sorted _ _ hkl hl
  · intro k hk
    rw [hval, hval, if_neg (by omega)]
    rcases Nat.lt_or_ge k base with hkb | hkb
    · rw [if_neg (by omega)]
      exact h.strict k hkb
    · obtain rfl : k = base := by omega
      split_ifs with hs
      · exact hgt
      · obtain rfl : skip = 1 := by omega
        exact hgt
  · intro v
    rw [← h.values v, mem_iff_exists_arr, mem_iff_exists_arr, hlen]
    constructor
    · rintro ⟨k, hk, rfl⟩
      rw [hval]
      split_ifs with hk'
      · exact ⟨base + skip, hlt, rfl⟩
      · exact ⟨k, hk, rfl⟩
    · rintro ⟨k, hk, rfl⟩
      by_cases hk' : base < k ∧ k < base + skip
      · refine ⟨base, by omega, ?_⟩
        rw [hval, if_neg (by omega), hrun' k (by omega) hk'.2]
      · exact ⟨k, hk, by rw [hval, if_neg hk']⟩

/-- The result a run of the outer loop leaves: a strictly increasing prefix with the values
of the whole array. -/
structure BuniqueResult (a₀ : List Int) (r : List Int × Nat) : Prop where
  pos : 1 ≤ r.2
  le : r.2 ≤ r.1.length
  length : r.1.length = a₀.length
  strict : ∀ k, k + 1 < r.2 → arr r.1 k < arr r.1 (k + 1)
  values : ∀ v, (∃ k < r.2, arr r.1 k = v) ↔ v ∈ a₀

lemma BuniqueInv.result {a₀ a : List Int} {base : Nat} (h : BuniqueInv a₀ a base)
    (hrest : ∀ k, base ≤ k → k < a.length → arr a k = arr a base) :
    BuniqueResult a₀ (a, base + 1) := by
  refine ⟨by simp, h.base_lt, h.length, fun k hk => h.strict k (by simpa using hk), ?_⟩
  intro v
  rw [← h.values v, mem_iff_exists_arr]
  constructor
  · rintro ⟨k, hk, rfl⟩
    have := h.base_lt
    exact ⟨k, by simp only at hk; omega, rfl⟩
  · rintro ⟨k, hk, rfl⟩
    rcases Nat.lt_or_ge k base with hkb | hkb
    · exact ⟨k, by simp only; omega, rfl⟩
    · exact ⟨base, by simp, (hrest k hkb hk).symm⟩

lemma buniqueLoop_spec (a₀ : List Int) :
    ∀ (fuel : Nat) (a : List Int) (base : Nat), BuniqueInv a₀ a base → a.length ≤ base + fuel →
      BuniqueResult a₀ (buniqueLoop a₀.length fuel a base (base + 1))
  | 0, a, base, h, hfuel => by
    have := h.base_lt
    omega
  | fuel + 1, a, base, h, hfuel => by
    have hlen := h.length
    have hb := h.base_lt
    rw [buniqueLoop]
    split_ifs with hmore heq
    · obtain ⟨hs1, hsle, hrun, hne⟩ := buniqueSkip_spec a base a₀.length a₀.length 1
        (by omega) (by omega) (by
          intro k hk
          obtain rfl : k = 0 := by omega
          rfl)
      simp only
      split_ifs with hend
      · apply h.result
        intro k hk hk'
        have := hrun (k - base) (by omega)
        rwa [show base + (k - base) = k by omega] at this
      · have hlt : base + buniqueSkip a base a₀.length a₀.length 1 < a.length := by omega
        have hinv := h.shift hs1 hlt hrun (hne (by omega))
        exact buniqueLoop_spec a₀ fuel _ (base + 1) hinv (by rw [length_buniqueShift hlt]; omega)
    · refine buniqueLoop_spec a₀ fuel a (base + 1) ?_ (by omega)
      refine ⟨hlen, by omega, h.sorted, fun k hk => ?_, h.values⟩
      rcases Nat.lt_or_ge k base with hkb | hkb
      · exact h.strict k hkb
      · obtain rfl : k = base := by omega
        exact lt_of_le_of_ne (h.sorted _ _ (by omega) (by omega)) heq
    · apply h.result
      intro k hk hk'
      obtain rfl : k = base := by omega
      rfl

/-! ## The cut points -/

/-- The prefix of the array that `rgz_bsort` followed by `rgz_bunique` leaves in use. -/
def cutPoints (a : List Int) : List Int :=
  let s := rgzBsort a a.length
  let u := rgzBunique s a.length
  u.1.take u.2

lemma rgzBunique_bsort_result (ha : a ≠ []) :
    BuniqueResult (rgzBsort a a.length) (rgzBunique (rgzBsort a a.length) a.length) := by
  have hlen : (rgzBsort a a.length).length = a.length := (rgzBsort_perm a).length_eq
  have hpos : 0 < a.length := length_pos_of_ne_nil ha
  have hinv : BuniqueInv (rgzBsort a a.length) (rgzBsort a a.length) 0 :=
    ⟨rfl, by omega, fun k l hkl hl => rgzBsort_sorted a hkl (by omega), by omega,
      fun v => Iff.rfl⟩
  have h := buniqueLoop_spec (rgzBsort a a.length) a.length _ 0 hinv (by omega)
  rw [hlen] at h
  exact h

lemma mem_cutPoints (ha : a ≠ []) {v : Int} : v ∈ cutPoints a ↔ v ∈ a := by
  have h := rgzBunique_bsort_result ha
  have hle := h.le
  rw [← (rgzBsort_perm a).mem_iff, ← h.values v, cutPoints, mem_iff_exists_arr]
  simp only [length_take, Nat.min_eq_left hle]
  constructor
  · rintro ⟨k, hk, rfl⟩
    exact ⟨k, hk, by simp [arr, getD_eq_getElem?_getD, hk]⟩
  · rintro ⟨k, hk, rfl⟩
    exact ⟨k, hk, by simp [arr, getD_eq_getElem?_getD, hk]⟩

lemma length_cutPoints (ha : a ≠ []) :
    (cutPoints a).length = (rgzBunique (rgzBsort a a.length) a.length).2 := by
  have hle := (rgzBunique_bsort_result ha).le
  simp only [cutPoints, length_take, Nat.min_eq_left hle]

lemma cutPoints_strict (ha : a ≠ []) : (cutPoints a).SortedLT := by
  have h := rgzBunique_bsort_result ha
  have hlen := length_cutPoints ha
  rw [sortedLT_iff_isChain, isChain_iff_getElem]
  intro k hk
  have hk' : k + 1 < (rgzBunique (rgzBsort a a.length) a.length).2 := by omega
  have hle := h.le
  have hstrict := h.strict k hk'
  rw [arr_eq_getElem (by omega), arr_eq_getElem (by omega)] at hstrict
  simpa [cutPoints] using hstrict

/-- **Sorting and removing the repetitions** of a non-empty array leaves its values at the front,
each once and in ascending order. -/
theorem bsort_bunique_ascending (h : 1 ≤ a.length) :
    ∃ u n, rgzBunique (rgzBsort a a.length) a.length = (u, n) ∧ n ≤ a.length ∧
      (u.take n).SortedLT ∧ ∀ v, v ∈ u.take n ↔ v ∈ a := by
  have ha : a ≠ [] := ne_nil_of_length_pos h
  have hres := rgzBunique_bsort_result ha
  have hlen := hres.length.trans (rgzBsort_perm a).length_eq
  exact ⟨_, _, rfl, hres.le.trans hlen.le, cutPoints_strict ha, fun v => mem_cutPoints ha⟩

theorem bsort_bunique_sample : ∃ u n, rgzBunique (rgzBsort [4, 0, 4, 2, 0] 5) 5 = (u, n) ∧ n ≤ 5 ∧
      (u.take n).SortedLT ∧ ∀ v, v ∈ u.take n ↔ v ∈ [4, 0, 4, 2, 0] :=
  bsort_bunique_ascending (by decide)

example : cutPoints [4, 0, 4, 2, 0] = [0, 2, 4] := by decide

end Solana
