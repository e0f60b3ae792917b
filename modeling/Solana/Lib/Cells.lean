import Mathlib.Data.List.Sort

/-!
# Cells between consecutive cut points

A strictly increasing list of cut points divides a linear order into half-open cells.
`cells` lists them in order.  The three facts a sweep over sorted cuts rests on are proved
here over an arbitrary linear order: a point between two cuts lies in some cell
(`exists_cell`), in only one (`cell_index_unique`), and no cut lies strictly inside a cell
(`cut_not_inside`).
-/

namespace Solana.Cells

open List

variable {α : Type*}

/-- The pairs of consecutive entries of a list of cuts. -/
def cells : List α → List (α × α)
  | [] => []
  | [_] => []
  | a :: b :: l => (a, b) :: cells (b :: l)

@[simp] lemma cells_nil : cells ([] : List α) = [] := rfl

@[simp] lemma cells_singleton (a : α) : cells [a] = [] := rfl

@[simp] lemma cells_cons_cons (a b : α) (l : List α) :
    cells (a :: b :: l) = (a, b) :: cells (b :: l) := rfl

lemma length_cells : ∀ l : List α, (cells l).length = l.length - 1
  | [] => rfl
  | [_] => rfl
  | a :: b :: l => by simp [length_cells (b :: l)]

variable [LinearOrder α]

lemma le_of_mem_cells : ∀ {l : List α} {c : α × α}, l.SortedLT → c ∈ cells l →
    ∀ v ∈ l.head?, v ≤ c.1
  | [], _, _, hc => by simp at hc
  | [_], _, _, hc => by simp at hc
  | a :: b :: l, c, hl, hc => by
    intro v hv
    obtain rfl : a = v := by simpa using hv
    rw [sortedLT_iff_pairwise, pairwise_cons] at hl
    rcases mem_cons.mp hc with rfl | hc'
    · exact le_rfl
    · have hab : a < b := hl.1 b (by simp)
      exact hab.le.trans (le_of_mem_cells (sortedLT_iff_pairwise.mpr hl.2) hc' b (by simp))

lemma cell_lt : ∀ {l : List α} {c : α × α}, l.SortedLT → c ∈ cells l → c.1 < c.2
  | [], _, _, hc => by simp at hc
  | [_], _, _, hc => by simp at hc
  | a :: b :: l, c, hl, hc => by
    rw [sortedLT_iff_pairwise, pairwise_cons] at hl
    rcases mem_cons.mp hc with rfl | hc'
    · exact hl.1 b (by simp)
    · exact cell_lt (sortedLT_iff_pairwise.mpr hl.2) hc'

lemma exists_cell : ∀ {l : List α} {a b x : α}, a ∈ l → b ∈ l → a ≤ x → x < b →
    l.SortedLT → ∃ c ∈ cells l, c.1 ≤ x ∧ x < c.2
  | [], _, _, _, ha, _, _, _, _ => by simp at ha
  | [u], a, b, x, ha, hb, hax, hxb, _ => by
    obtain rfl : a = u := by simpa using ha
    obtain rfl : b = a := by simpa using hb
    exact absurd (hax.trans_lt hxb) (lt_irrefl _)
  | u :: v :: l, a, b, x, ha, hb, hax, hxb, hl => by
    rw [sortedLT_iff_pairwise, pairwise_cons] at hl
    have hu : u ≤ x := by
      rcases mem_cons.mp ha with rfl | ha'
      · exact hax
      · exact (hl.1 a ha').le.trans hax
    by_cases hxv : x < v
    · exact ⟨(u, v), by simp, hu, hxv⟩
    · have hb' : b ∈ v :: l := by
        rcases mem_cons.mp hb with rfl | hb'
        · exact absurd (hu.trans_lt hxb) (lt_irrefl _)
        · exact hb'
      obtain ⟨c, hc, hcx⟩ := exists_cell (mem_cons_self ..) hb' (not_lt.mp hxv) hxb
        (sortedLT_iff_pairwise.mpr hl.2)
      exact ⟨c, by simp [hc], hcx⟩

lemma cut_not_inside : ∀ {l : List α} {c : α × α} {v : α}, l.SortedLT → c ∈ cells l →
    v ∈ l → v ≤ c.1 ∨ c.2 ≤ v
  | [], _, _, _, hc, _ => by simp at hc
  | [_], _, _, _, hc, _ => by simp at hc
  | a :: b :: l, c, v, hl, hc, hv => by
    rw [sortedLT_iff_pairwise, pairwise_cons] at hl
    have htail := sortedLT_iff_pairwise.mpr hl.2
    rcases mem_cons.mp hc with rfl | hc'
    · rcases mem_cons.mp hv with rfl | hv'
      · exact .inl le_rfl
      · rcases mem_cons.mp hv' with rfl | hv''
        · exact .inr le_rfl
        · exact .inr ((pairwise_cons.mp hl.2).1 v hv'').le
    · rcases mem_cons.mp hv with rfl | hv'
      · exact .inl ((hl.1 b (by simp)).le.trans (le_of_mem_cells htail hc' b (by simp)))
      · exact cut_not_inside htail hc' hv'

/-- Distinct cells are disjoint: a point determines the index of its cell. -/
lemma cell_index_unique : ∀ {l : List α} {x : α} {i j : ℕ} {c d : α × α}, l.SortedLT →
    (cells l)[i]? = some c → (cells l)[j]? = some d → c.1 ≤ x → x < c.2 → d.1 ≤ x → x < d.2 → i = j
  | [], _, _, _, _, _, _, hc, _, _, _, _, _ => by simp at hc
  | [_], _, _, _, _, _, _, hc, _, _, _, _, _ => by simp at hc
  | a :: b :: l, x, i, j, c, d, hl, hc, hd, hc1, hc2, hd1, hd2 => by
    rw [sortedLT_iff_pairwise, pairwise_cons] at hl
    have htail := sortedLT_iff_pairwise.mpr hl.2
    -- a point in the first cell is below `b`, a point in a later one is not
    have hlater : ∀ e ∈ cells (b :: l), e.1 ≤ x → b ≤ x := fun e he hex =>
      (le_of_mem_cells htail he b (by simp)).trans hex
    cases i with
    | zero =>
      obtain rfl : (a, b) = c := by simpa using hc
      cases j with
      | zero => rfl
      | succ j =>
        have hmem : d ∈ cells (b :: l) := mem_of_getElem? (by simpa using hd)
        exact absurd hc2 (not_lt.mpr (hlater d hmem hd1))
    | succ i =>
      have hmem : c ∈ cells (b :: l) := mem_of_getElem? (by simpa using hc)
      cases j with
      | zero =>
        obtain rfl : (a, b) = d := by simpa using hd
        exact absurd hd2 (not_lt.mpr (hlater c hmem hc1))
      | succ j =>
        have hij : i = j := cell_index_unique (l := b :: l) htail (by simpa using hc)
          (by simpa using hd) hc1 hc2 hd1 hd2
        rw [hij]

omit [LinearOrder α] in
lemma mem_of_mem_cells : ∀ {l : List α} {c : α × α}, c ∈ cells l → c.1 ∈ l ∧ c.2 ∈ l
  | [], _, hc => by simp at hc
  | [_], _, hc => by simp at hc
  | a :: b :: l, c, hc => by
    rcases mem_cons.mp hc with rfl | hc
    · simp
    · obtain ⟨h1, h2⟩ := mem_of_mem_cells hc
      exact ⟨mem_cons_of_mem _ h1, mem_cons_of_mem _ h2⟩

/-- A cell around a point between two cuts stays between them. -/
lemma cell_within {l : List α} {c : α × α} {lo hi x : α} (hl : l.SortedLT) (hc : c ∈ cells l)
    (hlo : lo ∈ l) (hhi : hi ∈ l) (hx : lo ≤ x ∧ x < hi) (hcx : c.1 ≤ x ∧ x < c.2) :
    lo ≤ c.1 ∧ c.2 ≤ hi := by
  refine ⟨?_, ?_⟩
  · refine (cut_not_inside hl hc hlo).resolve_right fun h => ?_
    exact absurd (hcx.2.trans_le h) (not_lt.mpr hx.1)
  · refine (cut_not_inside hl hc hhi).resolve_left fun h => ?_
    exact absurd (h.trans hcx.1) (not_le.mpr hx.2)

/-- An interval whose ends are cuts meets a cell only if it contains all of it. -/
lemma meets_cell_iff {l : List α} {c : α × α} {lo hi a b x : α} (hl : l.SortedLT)
    (hc : c ∈ cells l) (hlo : lo ∈ l) (hhi : hi ∈ l) (ha : max lo a ∈ l) (hb : min b hi ∈ l)
    (hx : lo ≤ x ∧ x < hi) (hcx : c.1 ≤ x ∧ x < c.2) : (a < c.2 ∧ c.1 < b) ↔ (a ≤ x ∧ x < b) := by
  obtain ⟨hc1, hc2⟩ := cell_within hl hc hlo hhi hx hcx
  constructor
  · rintro ⟨hac, hcb⟩
    constructor
    · rcases cut_not_inside hl hc ha with h | h
      · exact ((le_max_right lo a).trans h).trans hcx.1
      · exact absurd (max_lt (hc1.trans_lt (cell_lt hl hc)) hac) (not_lt.mpr h)
    · rcases cut_not_inside hl hc hb with h | h
      · exact absurd (lt_min hcb ((cell_lt hl hc).trans_le hc2)) (not_lt.mpr h)
      · exact hcx.2.trans_le (h.trans (min_le_left b hi))
  · rintro ⟨hax, hxb⟩
    exact ⟨hax.trans_lt hcx.2, hcx.1.trans_lt hxb⟩

end Solana.Cells
