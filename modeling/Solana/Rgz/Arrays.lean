import Solana.Lib.Sized
import Solana.Rgz.Settling

/-!
# The arrays of the regionizer

The functions that cut a frame into regions, on the arrays they run on: the layers of a frame and
of a band (`RGZ_MAXLAYERS`), the cut points of a direction (`RGZ_SUBREGIONMAX`) and the entries
of a band (one by the other).  An index outside the declared size is an `Overrun`.  The two
arrays of cut points are on the stack and hold anything at first.

For a list that `rgz_in_hwccheck` accepts none of these functions overruns an array, and what
they leave in them is what the functions on lists compute (`rgzInHwc_refines`).  That
`rgz_in_hwc` also succeeds is not so: eleven candidates are accepted, but with the background
and the damaged area they have twenty-six ends, and the arrays of cut points take twenty-five.
-/

namespace Solana.Arrays

open Sized Fallible Cells

/-! ## Sorting -/

variable {l : List Int} {i : Nat}

section Sorting
variable {n : Nat}

@[inherit_doc Solana.bsortExchange]
def bsortExchange (a : Vector Int n) (i j : Nat) : Except Overrun (Vector Int n) := do
  let ai ← load a i
  let aj ← load a j
  if ai < aj then
    let a ← store a i aj
    store a j ai
  else return a

/-- `rgz_bsort`. -/
def rgzBsort (a : Vector Int n) (len : Nat) : Except Overrun (Vector Int n) :=
  (List.range len).foldlM (fun a i => (List.range i).foldlM (fun a j => bsortExchange a i j) a) a

@[inherit_doc Solana.buniqueSkip]
def buniqueSkip (a : Vector Int n) (base len : Nat) : Nat → Nat → Except Overrun Nat
  | 0, skip => .ok skip
  | fuel + 1, skip =>
    if base + skip < len then do
      let x ← load a base
      let y ← load a (base + skip)
      if x = y then buniqueSkip a base len fuel (skip + 1) else return skip
    else .ok skip

@[inherit_doc Solana.buniqueShift]
def buniqueShift (a : Vector Int n) (base skip : Nat) : Except Overrun (Vector Int n) :=
  (List.range (skip - 1)).foldlM (fun a i => do
    let v ← load a (base + skip)
    store a (base + 1 + i) v) a

@[inherit_doc Solana.buniqueLoop]
def buniqueLoop (len : Nat) :
    Nat → Vector Int n → Nat → Nat → Except Overrun (Vector Int n × Nat)
  | 0, a, _, unique => .ok (a, unique)
  | fuel + 1, a, base, unique =>
    if base + 1 < len then do
      let x ← load a base
      let y ← load a (base + 1)
      if x = y then
        let skip ← buniqueSkip a base len len 1
        if base + skip = len then return (a, unique)
        else
          let a ← buniqueShift a base skip
          buniqueLoop len fuel a (base + 1) (unique + 1)
      else buniqueLoop len fuel a (base + 1) (unique + 1)
    else .ok (a, unique)

/-- `rgz_bunique`. -/
def rgzBunique (a : Vector Int n) (len : Nat) : Except Overrun (Vector Int n × Nat) :=
  buniqueLoop len len a 0 1

/-- The array holds a list of this length. -/
def HoldsLength (len : Nat) (a : Vector Int n) (l : List Int) : Prop := Holds a l ∧ l.length = len

variable {a : Vector Int n} {len : Nat}

lemma HoldsLength.load (h : HoldsLength len a l) (hi : i < len) : load a i = .ok (arr l i) := by
  have hl : i < l.length := h.2 ▸ hi
  rw [h.1.load hl, arr_eq_getElem hl]

lemma HoldsLength.store (h : HoldsLength len a l) (hi : i < len) (v : Int) :
    ∃ a', store a i v = .ok a' ∧ HoldsLength len a' (l.set i v) := by
  obtain ⟨a', ha', hh⟩ := h.1.store (h.2 ▸ hi) v
  exact ⟨a', ha', hh, by rw [List.length_set, h.2]⟩

lemma bsortExchange_follows (h : HoldsLength len a l) {i j : Nat} (hi : i < len) (hj : j < len) :
    ∃ a', bsortExchange a i j = .ok a' ∧ HoldsLength len a' (Solana.bsortExchange l i j) := by
  unfold bsortExchange Solana.bsortExchange
  rw [h.load hi, h.load hj]
  simp only [ok_bind]
  split_ifs
  · obtain ⟨a₁, ha₁, h₁⟩ := h.store hi (arr l j)
    obtain ⟨a₂, ha₂, h₂⟩ := h₁.store hj (arr l i)
    exact ⟨a₂, by rw [ha₁, ok_bind, ha₂], h₂⟩
  · exact ⟨a, rfl, h⟩

lemma rgzBsort_follows (h : HoldsLength len a l) :
    ∃ a', rgzBsort a len = .ok a' ∧ HoldsLength len a' (Solana.rgzBsort l len) := by
  refine foldlM_follows (R := HoldsLength len) (fun i hi a l h => ?_) h
  refine foldlM_follows (R := HoldsLength len) (fun j hj a l h => ?_) h
  rw [List.mem_range] at hi hj
  exact bsortExchange_follows h hi (hj.trans hi)

lemma buniqueSkip_follows (h : HoldsLength len a l) {base : Nat} (hbase : base < len) :
    ∀ fuel skip : Nat,
    buniqueSkip a base len fuel skip = .ok (Solana.buniqueSkip l base len fuel skip)
  | 0, _ => rfl
  | fuel + 1, skip => by
    rw [buniqueSkip, Solana.buniqueSkip]
    by_cases hlt : base + skip < len
    · rw [if_pos hlt, h.load hbase, h.load hlt]
      simp only [ok_bind, hlt, true_and]
      split_ifs
      · exact buniqueSkip_follows h hbase fuel (skip + 1)
      · rfl
    · rw [if_neg hlt, if_neg fun hc => hlt hc.1]

lemma buniqueShift_follows (h : HoldsLength len a l) {base skip : Nat} (hlt : base + skip < len) :
    ∃ a', buniqueShift a base skip = .ok a' ∧
      HoldsLength len a' (Solana.buniqueShift l base skip) := by
  refine foldlM_follows (R := HoldsLength len) (fun i hi a l h => ?_) h
  rw [List.mem_range] at hi
  obtain ⟨a', ha', h'⟩ := h.store (i := base + 1 + i) (by omega) (arr l (base + skip))
  exact ⟨a', by rw [h.load hlt, ok_bind, ha'], h'⟩

lemma buniqueLoop_follows : ∀ (fuel : Nat) {a : Vector Int n} {l : List Int}
    (base unique : Nat), HoldsLength len a l → ∃ a', buniqueLoop len fuel a base unique =
        .ok (a', (Solana.buniqueLoop len fuel l base unique).2) ∧
      HoldsLength len a' (Solana.buniqueLoop len fuel l base unique).1
  | 0, a, l, _, _, h => ⟨a, rfl, h⟩
  | fuel + 1, a, l, base, unique, h => by
    rw [buniqueLoop, Solana.buniqueLoop]
    by_cases hmore : base + 1 < len
    · have hbase : base < len := by omega
      rw [if_pos hmore, if_pos hmore, h.load hbase, h.load hmore]
      simp only [ok_bind]
      by_cases heq : arr l base = arr l (base + 1)
      · rw [if_pos heq, if_pos heq, buniqueSkip_follows h hbase]
        simp only [ok_bind]
        have hskip := buniqueSkip_spec l base len len 1 (by omega) (by omega) (by
          intro k hk
          obtain rfl : k = 0 := by omega
          rfl)
        split_ifs with hend
        · exact ⟨a, rfl, h⟩
        · have hlt : base + Solana.buniqueSkip l base len len 1 < len := by omega
          obtain ⟨a₁, ha₁, h₁⟩ := buniqueShift_follows h hlt
          rw [ha₁, ok_bind]
          exact buniqueLoop_follows fuel (base + 1) (unique + 1) h₁
      · rw [if_neg heq, if_neg heq]
        exact buniqueLoop_follows fuel (base + 1) (unique + 1) h
    · rw [if_neg hmore, if_neg hmore]
      exact ⟨a, rfl, h⟩

end Sorting

/-! ## Cut points -/

/-- An array of cut points on the stack, and how much of it is used. -/
structure Cuts where
  cells : Vector Int rgzSubregionMax
  len : Nat

/-- `a[len++] = v`. -/
def Cuts.push (c : Cuts) (v : Int) : Except Overrun Cuts := do
  let cells ← store c.cells c.len v
  return ⟨cells, c.len + 1⟩

/-- `rgz_bsort` and `rgz_bunique`, as both callers apply them. -/
def Cuts.unique (c : Cuts) : Except Overrun Cuts := do
  let cells ← rgzBsort c.cells c.len
  let (cells, len) ← rgzBunique cells c.len
  return ⟨cells, len⟩

/-- The used cells of the array are the list. -/
def Cuts.Is (c : Cuts) (l : List Int) : Prop := Holds c.cells l ∧ c.len = l.length

variable {c : Cuts}

lemma Cuts.Is.push (h : c.Is l) (hlt : l.length < rgzSubregionMax) (v : Int) :
    ∃ c', c.push v = .ok c' ∧ c'.Is (l ++ [v]) := by
  obtain ⟨cells, hcells, hh⟩ := h.1.push hlt v
  refine ⟨⟨cells, c.len + 1⟩, ?_, hh, by simp [h.2]⟩
  rw [Cuts.push, h.2, hcells, ok_bind]
  rfl

lemma Cuts.Is.load (h : c.Is l) (hi : i < l.length) : Sized.load c.cells i = .ok (arr l i) := by
  rw [h.1.load hi, arr_eq_getElem hi]

lemma Cuts.Is.unique (h : c.Is l) (hne : l ≠ []) :
    ∃ c', c.unique = .ok c' ∧ c'.Is (cutPoints l) := by
  have hlen : HoldsLength c.len c.cells l := ⟨h.1, h.2.symm⟩
  obtain ⟨a₁, ha₁, h₁⟩ := rgzBsort_follows hlen
  obtain ⟨a₂, ha₂, h₂⟩ := buniqueLoop_follows c.len 0 1 h₁
  refine ⟨⟨a₂, (cutPoints l).length⟩, ?_, ?_, rfl⟩
  · rw [Cuts.unique, ha₁, ok_bind, rgzBunique, ha₂, length_cutPoints hne, ← h.2]
    rfl
  · rw [cutPoints, ← h.2]
    exact h₂.1.take _

/-! ## A band -/

/-- `blit_hregion_t`. -/
structure HregionArrays where
  rect : Rect
  rgzLayers : Vector RgzLayer rgzMaxLayers
  nlayers : Nat
  nsubregions : Nat
  blitrects : Vector (Vector Rect rgzSubregionMax) rgzMaxLayers

/-- The entries of a band, cleared. -/
def noRects : Vector (Vector Rect rgzSubregionMax) rgzMaxLayers :=
  Vector.replicate rgzMaxLayers (Vector.replicate rgzSubregionMax Rect.zero)

/-- The ends of one layer, kept inside the screen. -/
def pushEnds (lo hi : RgzLayer → Int) (size : Int) (c : Cuts) (l : RgzLayer) :
    Except Overrun Cuts := do
  let c ← c.push (max 0 (lo l))
  c.push (min (hi l) size)

/-- `blitrects[l][r] = subregion`. -/
def storeRect (m : Vector (Vector Rect rgzSubregionMax) rgzMaxLayers) (l r : Nat) (sub : Rect) :
    Except Overrun (Vector (Vector Rect rgzSubregionMax) rgzMaxLayers) := do
  let row ← load m l
  let row ← store row r sub
  store m l row

/-- The body of the loop over the layers of a subregion. -/
def genLayer (h : HregionArrays) (sub : Rect) (r : Nat)
    (m : Vector (Vector Rect rgzSubregionMax) rgzMaxLayers) (l : Nat) :
    Except Overrun (Vector (Vector Rect rgzSubregionMax) rgzMaxLayers) := do
  let layer ← load h.rgzLayers l
  if rectIntersects sub layer.frame then storeRect m l r sub else return m

/-- The body of the loop over the subregions. -/
def genSubregion (h : HregionArrays) (offsets : Cuts)
    (m : Vector (Vector Rect rgzSubregionMax) rgzMaxLayers) (r : Nat) :
    Except Overrun (Vector (Vector Rect rgzSubregionMax) rgzMaxLayers) := do
  let left ← load offsets.cells r
  let right ← load offsets.cells (r + 1)
  (List.range h.nlayers).foldlM (genLayer h ⟨left, h.rect.top, right, h.rect.bottom⟩ r) m

/-- `rgz_gen_blitregions`; `stack` is what the array of offsets holds at first. -/
def rgzGenBlitregions (damagedArea : Rect) (screenWidth : Int)
    (stack : Vector Int rgzSubregionMax) (h : HregionArrays) : Except Overrun HregionArrays := do
  let c ← Cuts.push ⟨stack, 0⟩ damagedArea.left
  let c ← c.push damagedArea.right
  let c ← (List.range h.nlayers).foldlM (fun c l => do
    let layer ← load h.rgzLayers l
    pushEnds (fun l => l.frame.left) (fun l => l.frame.right) screenWidth c layer) c
  let offsets ← c.unique
  let m ← (List.range (offsets.len - 1)).foldlM (genSubregion h offsets) noRects
  return { h with nsubregions := offsets.len - 1, blitrects := m }

/-- `blitrects[l][r]`. -/
def entry (m : Vector (Vector Rect rgzSubregionMax) rgzMaxLayers) (l r : Nat) : Rect :=
  if hl : l < rgzMaxLayers then
    if hr : r < rgzSubregionMax then m[l][r] else Rect.zero
  else Rect.zero

/-- The used part of the arrays of a band. -/
def HregionArrays.view (h : HregionArrays) : Hregion where
  rect := h.rect
  rgzLayers := h.rgzLayers.toList.take h.nlayers
  nsubregions := h.nsubregions
  blitrects := (List.range h.nlayers).map fun l =>
    (List.range h.nsubregions).map fun r => entry h.blitrects l r

/-- The band has this rectangle and these layers. -/
structure HregionArrays.Has (h : HregionArrays) (rect : Rect) (layers : List RgzLayer) : Prop where
  rect_eq : h.rect = rect
  holds : Holds h.rgzLayers layers
  count : h.nlayers = layers.length

/-! ### Offsets -/

open HregionArrays

lemma pushEnds_follows (lo hi : RgzLayer → Int) (size : Int) (h : c.Is l)
    (hroom : l.length + 2 ≤ rgzSubregionMax) (layer : RgzLayer) :
    ∃ c', pushEnds lo hi size c layer = .ok c' ∧
      c'.Is (l ++ [max 0 (lo layer), min (hi layer) size]) := by
  obtain ⟨c₁, hc₁, h₁⟩ := h.push (by omega) (max 0 (lo layer))
  obtain ⟨c₂, hc₂, h₂⟩ := h₁.push (by rw [List.length_append, List.length_singleton]; omega)
    (min (hi layer) size)
  refine ⟨c₂, by rw [pushEnds, hc₁, ok_bind, hc₂], ?_⟩
  rwa [List.append_assoc] at h₂

lemma foldlM_pushEnds (lo hi : RgzLayer → Int) (size : Int) : ∀ (layers : List RgzLayer)
    {c : Cuts} {l : List Int}, c.Is l → l.length + 2 * layers.length ≤ rgzSubregionMax →
    ∃ c', layers.foldlM (pushEnds lo hi size) c = .ok c' ∧
      c'.Is (l ++ layers.flatMap fun layer => [max 0 (lo layer), min (hi layer) size])
  | [], c, l, h, _ => ⟨c, rfl, by simpa using h⟩
  | layer :: layers, c, l, h, hroom => by
    rw [List.length_cons] at hroom
    obtain ⟨c₁, hc₁, h₁⟩ := pushEnds_follows lo hi size h (by omega) layer
    obtain ⟨c₂, hc₂, h₂⟩ := foldlM_pushEnds lo hi size layers h₁ (by simp; omega)
    refine ⟨c₂, by rw [List.foldlM_cons, hc₁, ok_bind, hc₂], ?_⟩
    rw [List.flatMap_cons, ← List.append_assoc]
    exact h₂

lemma push_damaged (stack : Vector Int rgzSubregionMax) (dlo dhi : Int) :
    ∃ c₁ c₂ : Cuts, Cuts.push ⟨stack, 0⟩ dlo = .ok c₁ ∧ c₁.push dhi = .ok c₂ ∧
      c₂.Is [dlo, dhi] := by
  have h₀ : Cuts.Is ⟨stack, 0⟩ [] := ⟨Holds.nil _, rfl⟩
  obtain ⟨c₁, hc₁, h₁⟩ := h₀.push (by decide) dlo
  obtain ⟨c₂, hc₂, h₂⟩ := h₁.push (by simp [rgzSubregionMax, rgzMaxLayers]) dhi
  exact ⟨c₁, c₂, hc₁, hc₂, h₂⟩

/-! ### Entries -/

section Entries
variable {m : Vector (Vector Rect rgzSubregionMax) rgzMaxLayers}

lemma storeRect_follows {l r : Nat} (hl : l < rgzMaxLayers) (hr : r < rgzSubregionMax)
    (sub : Rect) : ∃ m', storeRect m l r sub = .ok m' ∧
      ∀ l' r', entry m' l' r' = if l' = l ∧ r' = r then sub else entry m l' r' := by
  refine ⟨m.set l (m[l].set r sub), ?_, fun l' r' => ?_⟩
  · rw [storeRect, load_eq_ok hl, ok_bind, store_eq_ok hr, ok_bind, store_eq_ok hl]
  · unfold entry
    by_cases hl' : l' < rgzMaxLayers
    · by_cases hr' : r' < rgzSubregionMax
      · simp only [hl', hr', dif_pos, Vector.getElem_set]
        by_cases hll : l = l'
        · subst hll
          simp only [if_true, Vector.getElem_set, true_and, eq_comm]
        · simp [hll, Ne.symm hll]
      · have hne : ¬ (l' = l ∧ r' = r) := by omega
        simp [hr', hne]
    · have hne : ¬ (l' = l ∧ r' = r) := by omega
      simp [hl', hne]

variable {h : HregionArrays} {rect : Rect} {layers : List RgzLayer}

/-- The entries after the layers `ks` of a subregion. -/
lemma foldlM_genLayer (hh : h.Has rect layers) {r : Nat} (hr : r < rgzSubregionMax) (sub : Rect) :
    ∀ (ks : List Nat) {m : Vector (Vector Rect rgzSubregionMax) rgzMaxLayers},
    (∀ k ∈ ks, k < layers.length) → ∃ m', ks.foldlM (genLayer h sub r) m = .ok m' ∧
      ∀ l' r', entry m' l' r' = if r' = r ∧ l' ∈ ks ∧
        (∃ lay, layers[l']? = some lay ∧ rectIntersects sub lay.frame = true)
        then sub else entry m l' r'
  | [], m, _ => ⟨m, rfl, by simp⟩
  | k :: ks, m, hks => by
    have hk := hks k List.mem_cons_self
    have hkmax : k < rgzMaxLayers := lt_of_lt_of_le hk hh.holds.length_le
    have hstep : ∃ m₁, genLayer h sub r m k = .ok m₁ ∧ ∀ l' r', entry m₁ l' r' =
        if l' = k ∧ r' = r ∧ rectIntersects sub layers[k].frame = true then sub
        else entry m l' r' := by
      rw [genLayer, hh.holds.load hk]
      simp only [ok_bind]
      split_ifs with hmeet
      · obtain ⟨m₁, hm₁, he⟩ := storeRect_follows (m := m) hkmax hr sub
        exact ⟨m₁, hm₁, by simpa [hmeet] using he⟩
      · exact ⟨m, rfl, by simp [hmeet]⟩
    obtain ⟨m₁, hm₁, he₁⟩ := hstep
    obtain ⟨m₂, hm₂, he₂⟩ := foldlM_genLayer hh hr sub ks (m := m₁)
      (fun k hk => hks k (List.mem_cons_of_mem _ hk))
    refine ⟨m₂, by rw [List.foldlM_cons, hm₁, ok_bind, hm₂], fun l' r' => ?_⟩
    rw [he₂, he₁, ← ite_or]
    refine if_congr ⟨?_, ?_⟩ rfl rfl
    · rintro (⟨hr', hmem, hmeet⟩ | ⟨rfl, hr', hmeet⟩)
      · exact ⟨hr', List.mem_cons_of_mem _ hmem, hmeet⟩
      · exact ⟨hr', List.mem_cons_self, _, List.getElem?_eq_getElem hk, hmeet⟩
    · rintro ⟨hr', hmem, lay, hlay, hmeet⟩
      rcases List.mem_cons.mp hmem with rfl | hmem
      · obtain ⟨_, rfl⟩ := List.getElem?_eq_some_iff.mp hlay
        exact .inr ⟨rfl, hr', hmeet⟩
      · exact .inl ⟨hr', hmem, lay, hlay, hmeet⟩

lemma foldlM_genSubregion (hh : h.Has rect layers) {offsets : Cuts} {os : List Int}
    (ho : offsets.Is os) :
    ∀ (rs : List Nat) {m : Vector (Vector Rect rgzSubregionMax) rgzMaxLayers},
    (∀ r ∈ rs, r + 1 < os.length) → ∃ m', rs.foldlM (genSubregion h offsets) m = .ok m' ∧
      ∀ l' r', entry m' l' r' = if r' ∈ rs ∧ ∃ lay, layers[l']? = some lay ∧
        rectIntersects ⟨arr os r', rect.top, arr os (r' + 1), rect.bottom⟩ lay.frame = true
        then ⟨arr os r', rect.top, arr os (r' + 1), rect.bottom⟩ else entry m l' r'
  | [], m, _ => ⟨m, rfl, by simp⟩
  | r :: rs, m, hrs => by
    have hr := hrs r List.mem_cons_self
    have hrmax : r < rgzSubregionMax := by
      have := ho.1.length_le
      omega
    obtain ⟨m₁, hm₁, he₁⟩ := foldlM_genLayer hh hrmax
      ⟨arr os r, rect.top, arr os (r + 1), rect.bottom⟩ (List.range h.nlayers) (m := m)
      (by simp [hh.count])
    obtain ⟨m₂, hm₂, he₂⟩ := foldlM_genSubregion hh ho rs (m := m₁)
      (fun r hr => hrs r (List.mem_cons_of_mem _ hr))
    refine ⟨m₂, ?_, fun l' r' => ?_⟩
    · rw [List.foldlM_cons, genSubregion, ho.load (by omega), ho.load hr]
      simp only [ok_bind, hh.rect_eq, hm₁, hm₂]
    · rw [he₂]
      by_cases hrr : r' = r
      · subst hrr
        rw [he₁, ← ite_or]
        refine if_congr ⟨?_, ?_⟩ rfl rfl
        · rintro (⟨-, hmeet⟩ | ⟨-, -, hmeet⟩)
          · exact ⟨List.mem_cons_self, hmeet⟩
          · exact ⟨List.mem_cons_self, hmeet⟩
        · rintro ⟨-, lay, hlay, hmeet⟩
          obtain ⟨hlt, -⟩ := List.getElem?_eq_some_iff.mp hlay
          exact .inr ⟨rfl, List.mem_range.mpr (hh.count ▸ hlt), lay, hlay, hmeet⟩
      · have hsame : entry m₁ l' r' = entry m l' r' := by rw [he₁, if_neg fun hin => hrr hin.1]
        simp only [hsame, List.mem_cons, hrr, false_or]

end Entries

lemma entry_noRects (l r : Nat) : entry noRects l r = Rect.zero := by
  unfold entry noRects
  split_ifs <;> simp

lemma cells_eq_map_range : ∀ os : List Int,
    cells os = (List.range (os.length - 1)).map fun r => (arr os r, arr os (r + 1))
  | [] => rfl
  | [_] => rfl
  | a :: b :: os => by
    rw [cells_cons_cons, cells_eq_map_range (b :: os)]
    simp only [List.length_cons, Nat.add_sub_cancel, List.range_succ_eq_map, List.map_cons,
      List.map_map]
    rfl

variable {layers : List RgzLayer}

/-- The entries the loops leave, as a table of layers by cells. -/
lemma table_eq {os : List Int} {rect : Rect} {m : Vector (Vector Rect rgzSubregionMax) rgzMaxLayers}
    (he : ∀ l r, entry m l r = if r ∈ List.range (os.length - 1) ∧ ∃ lay, layers[l]? = some lay ∧
      rectIntersects ⟨arr os r, rect.top, arr os (r + 1), rect.bottom⟩ lay.frame = true
      then ⟨arr os r, rect.top, arr os (r + 1), rect.bottom⟩ else Rect.zero) :
    ((List.range layers.length).map fun l => (List.range (os.length - 1)).map fun r =>
      entry m l r) = layers.map fun l => (cells os).map (blitRectOf rect l) := by
  simp only [cells_eq_map_range, List.map_map]
  refine List.ext_getElem (by simp) fun k hk _ => ?_
  have hkl : k < layers.length := by simpa using hk
  simp only [List.getElem_map, List.getElem_range]
  refine List.map_congr_left fun r hr => ?_
  simp only [he, hr, true_and, List.getElem?_eq_getElem hkl, Option.some.injEq, exists_eq_left',
    Function.comp_apply, blitRectOf]

/-- **`rgz_gen_blitregions` stays inside its arrays** and computes the entries of the band. -/
lemma rgzGenBlitregions_follows {h : HregionArrays} {rect : Rect} (hh : h.Has rect layers)
    (hroom : 2 + 2 * layers.length ≤ rgzSubregionMax) (d : Rect) (w : Int)
    (stack : Vector Int rgzSubregionMax) : ∃ h', rgzGenBlitregions d w stack h = .ok h' ∧
      h'.view = Solana.rgzGenBlitregions d rect layers w := by
  obtain ⟨c₁, c₂, hc₁, hc₂, h₂⟩ := push_damaged stack d.left d.right
  obtain ⟨c₃, hc₃, h₃⟩ := foldlM_pushEnds (fun l => l.frame.left) (fun l => l.frame.right) w
    layers h₂ hroom
  obtain ⟨offsets, hoff, ho⟩ := h₃.unique (List.cons_ne_nil _ _)
  obtain ⟨m, hm, he⟩ := foldlM_genSubregion hh ho (List.range (offsets.len - 1))
    (m := noRects)
    (fun r hr => by rw [List.mem_range, ho.2] at hr; omega)
  have hfill := hh.holds.foldlM_range
    (pushEnds (fun l => l.frame.left) (fun l => l.frame.right) w) c₂
  rw [← hh.count] at hfill
  refine ⟨{ h with nsubregions := offsets.len - 1, blitrects := m }, ?_, ?_⟩
  · simp only [rgzGenBlitregions, hc₁, hc₂, hfill, hc₃, hoff, hm, ok_bind]
    rfl
  · have hlayers : h.rgzLayers.toList.take h.nlayers = layers := by
      rw [hh.count]
      exact (List.prefix_iff_eq_take.mp hh.holds).symm
    simp only [view, Solana.rgzGenBlitregions, hlayers, hh.rect_eq, Hregion.mk.injEq, true_and]
    simp only [entry_noRects, ho.2] at he
    refine ⟨by rw [ho.2]; rfl, ?_⟩
    rw [hh.count, ho.2]
    exact table_eq he

/-! ## The bands of a frame -/

/-- The locals of the loop that collects the coordinates of the bands. -/
structure YScan where
  cuts : Cuts
  dispw : Int

/-- The body of that loop. -/
def scanLayer (screenHeight : Int) (y : YScan) (l : RgzLayer) : Except Overrun YScan := do
  let cuts ← pushEnds (fun l => l.frame.top) (fun l => l.frame.bottom) screenHeight y.cuts l
  return ⟨cuts, if y.dispw > l.frame.right then y.dispw else l.frame.right⟩

/-- The layers of a band while they are collected. -/
structure BandScan where
  cells : Vector RgzLayer rgzMaxLayers
  nlayers : Nat

/-- The body of the loop that collects the layers of a band. -/
def scanBandLayer (rect : Rect) (b : BandScan) (l : RgzLayer) : Except Overrun BandScan :=
  if rectIntersects rect l.frame then do
    let cells ← store b.cells b.nlayers l
    return ⟨cells, b.nlayers + 1⟩
  else .ok b

/-- What a null pointer to a layer stands for: it is never followed. -/
def nullLayer : RgzLayer := ⟨screenBgLayer 0 0, 0, 0, 0⟩

/-- One of the bands `calloc` made room for, with its rectangle and layers. -/
def rgzBand (g : SurfGeom) (cur : Vector RgzLayer rgzMaxLayers) (layerno : Nat) (dispw : Int)
    (ys : Cuts) (i : Nat) : Except Overrun HregionArrays := do
  let top ← load ys.cells i
  let bottom ← load ys.cells (i + 1)
  let rect := hregionRect g dispw (top, bottom)
  let b ← (List.range layerno).foldlM (fun b j => do
    let l ← load cur j
    scanBandLayer rect b l) ⟨Vector.replicate rgzMaxLayers nullLayer, 0⟩
  return ⟨rect, b.cells, b.nlayers, 0, noRects⟩

/-- `rgz_in_hwc`, with `cur` for the layers of `cur_fb_state`; `none` is the return value -1. -/
def rgzInHwc (p : RgzInParams) (rgz : Rgz) (cur : Vector RgzLayer rgzMaxLayers)
    (stack : Vector Int rgzSubregionMax) : Except Overrun (Option (List HregionArrays)) :=
  let layerno := rgz.curFbState.length
  if !rgz.stateInit then .ok none
  else if (layerno + 1) * 2 > rgzSubregionMax then .ok none
  else do
    let c ← Cuts.push ⟨stack, 0⟩ rgz.damagedArea.top
    let c ← c.push rgz.damagedArea.bottom
    let y ← (List.range layerno).foldlM (fun y j => do
      let l ← load cur j
      scanLayer p.dstgeom.height y l) ⟨c, rgz.damagedArea.right⟩
    let ys ← y.cuts.unique
    if !p.callocOk then return none
    else
      let bands ← (List.range (ys.len - 1)).mapM
        (rgzBand p.dstgeom cur layerno y.dispw ys)
      let hregions ← bands.mapM (rgzGenBlitregions rgz.damagedArea p.dstgeom.width stack)
      return some hregions

lemma foldlM_scanLayer (size : Int) : ∀ (layers : List RgzLayer) {y : YScan} {l : List Int},
    y.cuts.Is l → l.length + 2 * layers.length ≤ rgzSubregionMax →
    ∃ c, layers.foldlM (scanLayer size) y = .ok ⟨c, layers.foldl
        (fun dispw l => if dispw > l.frame.right then dispw else l.frame.right) y.dispw⟩ ∧
      c.Is (l ++ layers.flatMap fun l => [max 0 l.frame.top, min l.frame.bottom size])
  | [], y, l, h, _ => ⟨y.cuts, rfl, by simpa using h⟩
  | layer :: layers, y, l, h, hroom => by
    rw [List.length_cons] at hroom
    obtain ⟨c₁, hc₁, h₁⟩ := pushEnds_follows (fun l => l.frame.top) (fun l => l.frame.bottom)
      size h (by omega) layer
    obtain ⟨c₂, hc₂, h₂⟩ := foldlM_scanLayer size layers (y := ⟨c₁, _⟩) h₁ (by simp; omega)
    refine ⟨c₂, ?_, ?_⟩
    · rw [List.foldlM_cons, scanLayer, hc₁]
      simp only [ok_bind, pure_eq_ok]
      exact hc₂
    · rw [List.flatMap_cons, ← List.append_assoc]
      exact h₂

lemma foldlM_scanBandLayer (rect : Rect) : ∀ (layers : List RgzLayer) {b : BandScan}
    {l : List RgzLayer}, Holds b.cells l → b.nlayers = l.length →
    l.length + layers.length ≤ rgzMaxLayers →
    ∃ cells, layers.foldlM (scanBandLayer rect) b = .ok ⟨cells,
        (l ++ layers.filter fun l => rectIntersects rect l.frame).length⟩ ∧
      Holds cells (l ++ layers.filter fun l => rectIntersects rect l.frame)
  | [], b, l, h, hn, _ =>
    ⟨b.cells, by rw [List.filter_nil, List.append_nil, ← hn]; rfl, by simpa using h⟩
  | layer :: layers, b, l, h, hn, hroom => by
    rw [List.length_cons] at hroom
    rw [List.foldlM_cons, scanBandLayer]
    by_cases hmeet : rectIntersects rect layer.frame = true
    · obtain ⟨cells, hcells, hh⟩ := h.push (by omega) layer
      obtain ⟨cells', hcells', hh'⟩ := foldlM_scanBandLayer rect layers
        (b := ⟨cells, b.nlayers + 1⟩) hh (by simp [hn]) (by simp; omega)
      simp only [List.filter_cons, if_pos hmeet]
      rw [List.append_cons]
      refine ⟨cells', ?_, hh'⟩
      rw [hn, hcells, ← hn]
      simp only [ok_bind, pure_eq_ok]
      exact hcells'
    · obtain ⟨cells', hcells', hh'⟩ := foldlM_scanBandLayer rect layers h hn (by omega)
      simp only [List.filter_cons, if_neg hmeet]
      exact ⟨cells', hcells', hh'⟩

variable {cur : Vector RgzLayer rgzMaxLayers}

lemma rgzBand_follows (g : SurfGeom) (hcur : Holds cur layers) (dispw : Int) {ys : Cuts}
    (hys : ys.Is l) (hi : i + 1 < l.length) : ∃ h, rgzBand g cur layers.length dispw ys i = .ok h ∧
      h.Has (hregionRect g dispw (arr l i, arr l (i + 1))) (layers.filter fun l' => rectIntersects
          (hregionRect g dispw (arr l i, arr l (i + 1))) l'.frame) := by
  obtain ⟨cells, hcells, hh⟩ := foldlM_scanBandLayer
    (hregionRect g dispw (arr l i, arr l (i + 1))) layers
    (b := ⟨Vector.replicate rgzMaxLayers nullLayer, 0⟩) (Holds.nil _) rfl
    (by simpa using hcur.length_le)
  rw [List.nil_append] at hcells hh
  have hscan := hcur.foldlM_range (scanBandLayer (hregionRect g dispw (arr l i, arr l (i + 1))))
    ⟨Vector.replicate rgzMaxLayers nullLayer, 0⟩
  refine ⟨⟨_, cells, _, 0, noRects⟩, ?_, ⟨rfl, hh, rfl⟩⟩
  rw [rgzBand, hys.load (by omega), hys.load hi]
  simp only [ok_bind, hscan, hcells]
  rfl

/-- First all bands with their layers, then their entries. -/
lemma bands_follow (g : SurfGeom) (d : Rect) (hcur : Holds cur layers)
    (hroom : (layers.length + 1) * 2 ≤ rgzSubregionMax) (dispw : Int) {ys : Cuts} (hys : ys.Is l)
    (stack : Vector Int rgzSubregionMax) : ∃ bands hregions,
      (List.range (ys.len - 1)).mapM (rgzBand g cur layers.length dispw ys) = .ok bands ∧
      bands.mapM (rgzGenBlitregions d g.width stack) = .ok hregions ∧
      hregions.map view = (cells l).map fun c =>
        Solana.rgzGenBlitregions d (hregionRect g dispw c)
          (layers.filter fun l' => rectIntersects (hregionRect g dispw c) l'.frame) g.width := by
  obtain ⟨bands, hbands, hhas⟩ := exists_mapM_forall₂ (List.range (ys.len - 1))
    fun i hi => rgzBand_follows g hcur dispw hys (i := i)
      (by rw [List.mem_range, hys.2] at hi; omega)
  obtain ⟨hregions, hgen, hview⟩ := mapM_view view hhas fun i h hh =>
    rgzGenBlitregions_follows hh (by
      have := List.length_filter_le (fun l' => rectIntersects
        (hregionRect g dispw (arr l i, arr l (i + 1))) l'.frame) layers
      omega) d g.width stack
  refine ⟨bands, hregions, hbands, hgen, ?_⟩
  rw [hview, cells_eq_map_range, List.map_map, hys.2]
  rfl

/-- **`rgz_in_hwc` stays inside its arrays**, from any state whose current frame is in an array
of layers, and leaves the regions of the frame. -/
theorem rgzInHwc_refines (p : RgzInParams) (rgz : Rgz) (hcur : Holds cur rgz.curFbState)
    (stack : Vector Int rgzSubregionMax) : ∃ res, rgzInHwc p rgz cur stack = .ok res ∧
      res.map (List.map view) =
        if (Solana.rgzInHwc p rgz).1 = 0 then some (Solana.rgzInHwc p rgz).2.hregions
        else none := by
  unfold rgzInHwc Solana.rgzInHwc
  by_cases hinit : (!rgz.stateInit) = true
  · exact ⟨none, by simp [hinit], by simp [hinit]⟩
  by_cases hfull : (rgz.curFbState.length + 1) * 2 > rgzSubregionMax
  · exact ⟨none, by simp [hinit, hfull], by simp [hinit, hfull]⟩
  simp only [hinit, hfull, if_false, Bool.false_eq_true]
  obtain ⟨c₁, c₂, hc₁, hc₂, h₂⟩ := push_damaged stack rgz.damagedArea.top rgz.damagedArea.bottom
  obtain ⟨c₃, hc₃, h₃⟩ := foldlM_scanLayer p.dstgeom.height rgz.curFbState
    (y := ⟨c₂, rgz.damagedArea.right⟩) h₂ (by simp only [List.length_cons, List.length_nil]; omega)
  obtain ⟨ys, hys, hcuts⟩ := h₃.unique (List.cons_ne_nil _ _)
  have hscan := hcur.foldlM_range (scanLayer p.dstgeom.height) ⟨c₂, rgz.damagedArea.right⟩
  simp only [hc₁, hc₂, hscan, hc₃, hys, ok_bind]
  by_cases hcalloc : (!p.callocOk) = true
  · exact ⟨none, by simp [hcalloc], by simp [hcalloc, rgzDeleteRegionData]⟩
  simp only [hcalloc, if_false, Bool.false_eq_true, if_true]
  obtain ⟨bands, hregions, hbands, hgen, hview⟩ := bands_follow p.dstgeom rgz.damagedArea hcur
    (by omega) (widestRight rgz.damagedArea rgz.curFbState) hcuts stack
  refine ⟨some hregions, ?_, ?_⟩
  · rw [show rgz.curFbState.foldl (fun dispw l => if dispw > l.frame.right then dispw
      else l.frame.right) rgz.damagedArea.right =
        widestRight rgz.damagedArea rgz.curFbState from rfl, hbands, ok_bind, hgen]
    rfl
  · rw [Option.map_some, hview]
    rfl

/-! ## Collecting the layers of a list -/

/-- The locals of the collecting loop of `rgz_in_hwccheck`, with the array it fills. -/
structure CheckArrays where
  memidx : Int
  possibleBlit : Nat
  candidates : Nat
  cells : Vector RgzLayer rgzMaxLayers

/-- Fill in an entry of the frame; its dirty counter stays. -/
def storeLayer (cells : Vector RgzLayer rgzMaxLayers) (i : Nat) (layer : HwcLayer) (identity : Nat)
    (buffidx : Int) : Except Overrun (Vector RgzLayer rgzMaxLayers) := do
  let old ← load cells i
  store cells i { old with hwcLayer := layer, identity := identity, buffidx := buffidx }

/-- The body of the collecting loop. -/
def rgzCheckStep (s : CheckArrays) (e : ExtLayer) : Except Overrun CheckArrays :=
  if e.layer.compositionType = .framebuffer then
    let s := { s with candidates := s.candidates + 1 }
    if rgzInValidHwcLayer e.layer = true ∧ s.possibleBlit < rgzInputMaxLayers then do
      let cells ← storeLayer s.cells (s.possibleBlit + 1) e.layer e.identity s.memidx
      return { s with
        memidx := s.memidx + 1
        possibleBlit := s.possibleBlit + 1
        cells := cells }
    else .ok s
  else if e.layer.hints.clearFb then
    let s := { s with candidates := s.candidates + 1 }
    if s.possibleBlit < rgzInputMaxLayers then do
      let cells ← storeLayer s.cells (s.possibleBlit + 1) { e.layer with handle := .dummy }
        e.identity rgzClearhintBuffidx
      return { s with possibleBlit := s.possibleBlit + 1, cells := cells }
    else .ok s
  else .ok s

/-- `rgz_add_background_layer`; it sets no identity. -/
def rgzAddBackgroundLayer (bgLayer : HwcLayer) (cells : Vector RgzLayer rgzMaxLayers) :
    Except Overrun (Vector RgzLayer rgzMaxLayers) := do
  let old ← load cells 0
  store cells 0
    { old with hwcLayer := { bgLayer with handle := .dummy }, buffidx := rgzBackgroundBuffidx }

/-- The part of `rgz_in_hwccheck` that fills `cur_fb_state`, from any contents of it. -/
def rgzInHwccheck (p : RgzInParams) (layers : List ExtLayer)
    (cells : Vector RgzLayer rgzMaxLayers) : Except Overrun CheckArrays := do
  let cells ← rgzAddBackgroundLayer p.bgLayer cells
  layers.foldlM rgzCheckStep ⟨overlayCount layers, 0, 0, cells⟩

/-- The array holds the background and the layers collected so far, counters apart. -/
structure CheckArrays.Follows (bg : HwcLayer) (s : CheckArrays) (t : CheckScan) : Prop where
  memidx : s.memidx = t.memidx
  possibleBlit : s.possibleBlit = t.possibleBlit
  candidates : s.candidates = t.candidates
  length : t.rgzLayers.length = t.possibleBlit
  room : t.possibleBlit ≤ rgzInputMaxLayers
  holds : ∃ b l, Holds s.cells (b :: l) ∧ b.hwcLayer = { bg with handle := .dummy } ∧
    b.buffidx = rgzBackgroundBuffidx ∧ l.map RgzLayer.core = t.rgzLayers.map RgzLayer.core

lemma CheckArrays.Follows.store {bg : HwcLayer} {s : CheckArrays} {t : CheckScan}
    (h : s.Follows bg t) (hlt : t.possibleBlit < rgzInputMaxLayers) (layer : HwcLayer)
    (identity : Nat) (buffidx : Int) :
    ∃ cells, storeLayer s.cells (s.possibleBlit + 1) layer identity buffidx = .ok cells ∧
      ∃ b l, Holds cells (b :: l) ∧ b.hwcLayer = { bg with handle := .dummy } ∧
        b.buffidx = rgzBackgroundBuffidx ∧ l.map RgzLayer.core =
          (t.rgzLayers ++ [RgzLayer.mk layer identity buffidx 0]).map RgzLayer.core := by
  obtain ⟨b, l, hl, hbg, hidx, hcore⟩ := h.holds
  have hlen : (b :: l).length = s.possibleBlit + 1 := by
    have := congrArg List.length hcore
    simp only [List.length_map] at this
    rw [List.length_cons, this, h.length, h.possibleBlit]
  have hmax : rgzInputMaxLayers + 2 = rgzMaxLayers := rfl
  have hpb := h.possibleBlit
  have hroom : s.possibleBlit + 1 < rgzMaxLayers := by omega
  obtain ⟨cells, hcells, hh⟩ := hl.push (by omega)
    (RgzLayer.mk layer identity buffidx (s.cells[s.possibleBlit + 1]).dirtyCount)
  rw [hlen] at hcells
  rw [List.cons_append] at hh
  refine ⟨cells, ?_, b, _, hh, hbg, hidx, ?_⟩
  · rw [storeLayer, load_eq_ok hroom, ok_bind, hcells]
  · rw [List.map_append, hcore, List.map_append]
    rfl

lemma rgzCheckStep_follows {bg : HwcLayer} {s : CheckArrays} {t : CheckScan} (h : s.Follows bg t)
    (e : ExtLayer) : ∃ s', rgzCheckStep s e = .ok s' ∧ s'.Follows bg (Solana.rgzCheckStep t e) := by
  unfold rgzCheckStep Solana.rgzCheckStep
  have hpb := h.possibleBlit
  by_cases hf : e.layer.compositionType = .framebuffer
  · simp only [hf, if_true, hpb]
    by_cases hv : rgzInValidHwcLayer e.layer = true ∧ t.possibleBlit < rgzInputMaxLayers
    · obtain ⟨cells, hcells, hholds⟩ := h.store hv.2 e.layer e.identity t.memidx
      rw [hpb] at hcells
      rw [if_pos hv, if_pos hv, h.memidx, hcells]
      exact ⟨_, rfl, ⟨rfl, rfl, by simp [h.candidates], by simp [h.length], hv.2, hholds⟩⟩
    · rw [if_neg hv, if_neg hv]
      exact ⟨_, rfl, ⟨h.memidx, rfl, by simp [h.candidates], h.length, h.room, h.holds⟩⟩
  · simp only [hf, if_false, hpb]
    by_cases hc : e.layer.hints.clearFb = true
    · rw [if_pos hc, if_pos hc]
      by_cases hv : t.possibleBlit < rgzInputMaxLayers
      · obtain ⟨cells, hcells, hholds⟩ := h.store hv { e.layer with handle := .dummy }
          e.identity rgzClearhintBuffidx
        rw [hpb] at hcells
        rw [if_pos hv, if_pos hv, hcells]
        exact ⟨_, rfl, ⟨h.memidx, rfl, by simp [h.candidates], by simp [h.length], hv, hholds⟩⟩
      · rw [if_neg hv, if_neg hv]
        exact ⟨_, rfl, ⟨h.memidx, rfl, by simp [h.candidates], h.length, h.room, h.holds⟩⟩
    · rw [if_neg hc, if_neg hc]
      exact ⟨s, rfl, h⟩

/-- **Collecting stays inside the array**, for a list of any length. -/
theorem rgzInHwccheck_refines (p : RgzInParams) (layers : List ExtLayer)
    (cells : Vector RgzLayer rgzMaxLayers) :
    ∃ s, rgzInHwccheck p layers cells = .ok s ∧ s.Follows p.bgLayer (rgzCheckScan layers) := by
  have h0 : 0 < rgzMaxLayers := by decide
  obtain ⟨cells', hcells', hh⟩ := (Holds.nil cells).push h0
    { cells[0] with
      hwcLayer := { p.bgLayer with handle := .dummy }, buffidx := rgzBackgroundBuffidx }
  have hbg : rgzAddBackgroundLayer p.bgLayer cells = .ok cells' := by
    rw [rgzAddBackgroundLayer, load_eq_ok h0, ok_bind]
    exact hcells'
  obtain ⟨s, hs, hfollows⟩ := foldlM_follows (R := CheckArrays.Follows p.bgLayer)
    (fun e _ s t h => rgzCheckStep_follows h e)
    (s := ⟨overlayCount layers, 0, 0, cells'⟩) (t := ⟨overlayCount layers, 0, 0, []⟩)
    ⟨rfl, rfl, rfl, rfl, Nat.zero_le _, _, [], hh, rfl, rfl, rfl⟩
  exact ⟨s, by rw [rgzInHwccheck, hbg, ok_bind, hs], hfollows⟩

/-! ## Accepted lists -/

lemma stored_fits {r : Rgz} (h : RgzCalls r) : ∀ i, (r.fbStates i).length ≤ rgzMaxLayers := by
  refine stored_of_calls (P := fun fb => fb.length ≤ rgzMaxLayers) (Nat.zero_le _)
    (fun p layers r hacc _ => ?_) h
  have hcore := congrArg List.length (rgzHandleDirtyRegion_core p.dstgeom (rgzCurLayers p layers)
    r.prevFbState r.targetFbState)
  obtain ⟨hcol, hle, -⟩ := rgzCheckScan_accepted hacc
  have hmax : rgzInputMaxLayers + 2 = rgzMaxLayers := rfl
  have hcur : (rgzCurLayers p layers).length =
      (rgzCollect (overlayCount layers) layers).length + 1 := by
    rw [rgzCurLayers, List.length_cons, hcol]
  simp only [List.length_map] at hcore
  omega

/-- The number of layers of an accepted frame: the candidates and the background. -/
lemma length_of_accepted {p : RgzInParams} {r r₁ : Rgz} {layers : List ExtLayer}
    (hl : p.layers = some layers) (h : Solana.rgzInHwccheck p r = (rgzAll, r₁)) :
    r₁.stateInit = true ∧ r₁.curFbState.length = (layers.filter ExtLayer.isCandidate).length + 1 ∧
      (layers.filter ExtLayer.isCandidate).length ≤ rgzInputMaxLayers := by
  obtain ⟨layers', hl', hacc, rfl⟩ := rgzInHwccheck_eq_all h
  obtain rfl : layers = layers' := Option.some.inj (hl.symm.trans hl')
  have hcur := congrArg List.length (rgzAdvance_cur_map (p := p) { r with stateInit := false } hacc)
  have hcol := congrArg List.length (rgzCollect_map (overlayCount layers) layers)
  simp only [List.length_map, List.length_cons] at hcur hcol
  exact ⟨rfl, hcur, hcol ▸ (rgzCheckScan_accepted hacc).2.1⟩

/-- **Sizes and limits.**  For a list that `rgz_in_hwccheck` accepts, after any calls, no array
is overrun: not by collecting the layers, nor by reading the stored frames, nor by cutting the
frame into regions, which leaves what the functions on lists compute.  And if memory can be
allocated, `rgz_in_hwc` succeeds exactly if the list has at most ten candidates. -/
theorem accepted_list_fits_arrays {p : RgzInParams} {r r₁ : Rgz} {layers : List ExtLayer}
    (hr : RgzCalls r) (hl : p.layers = some layers) (h : Solana.rgzInHwccheck p r = (rgzAll, r₁)) :
    (∀ cells, ∃ s, rgzInHwccheck p layers cells = .ok s ∧
      s.Follows p.bgLayer (rgzCheckScan layers)) ∧
    (r₁.curFbState.length ≤ rgzMaxLayers ∧ r.prevFbState.length ≤ rgzMaxLayers ∧
      r.targetFbState.length ≤ rgzMaxLayers) ∧
    (∀ cur stack, Holds cur r₁.curFbState → ∃ res, rgzInHwc p r₁ cur stack = .ok res ∧
      res.map (List.map HregionArrays.view) =
        if (Solana.rgzInHwc p r₁).1 = 0 then some (Solana.rgzInHwc p r₁).2.hregions
        else none) ∧ (p.callocOk = true → ((Solana.rgzInHwc p r₁).1 = 0 ↔
      (layers.filter ExtLayer.isCandidate).length ≤ 10)) := by
  obtain ⟨hinit, hlen, hle⟩ := length_of_accepted hl h
  have hmax : rgzInputMaxLayers = 11 ∧ rgzMaxLayers = 13 ∧ rgzSubregionMax = 25 :=
    ⟨rfl, rfl, rfl⟩
  refine ⟨rgzInHwccheck_refines p layers, ⟨by omega, stored_fits hr _, stored_fits hr _⟩,
    fun cur stack hcur => rgzInHwc_refines p r₁ hcur stack, fun hcalloc => ?_⟩
  unfold Solana.rgzInHwc
  simp only [hinit, Bool.not_true, Bool.false_eq_true, if_false, hcalloc, hlen]
  split_ifs with hfull
  · simp only [show ¬ ((-1 : Int) = 0) by decide, false_iff]
    omega
  · simp only [true_iff]
    omega

theorem sampleOverlap_fits_arrays :
    (Solana.rgzInHwc sampleOverlap (Solana.rgzInHwccheck sampleOverlap Rgz.zero).2).1 = 0 :=
  ((accepted_list_fits_arrays (r := Rgz.zero) (.start rfl) (rfl : sampleOverlap.layers = some
      [sampleLayer 1 ⟨0, 0, 3, 3⟩ .none, sampleLayer 2 ⟨1, 1, 6, 4⟩ .premult])
    (Prod.ext (by decide) rfl)).2.2.2 rfl).mpr (by decide)

/-- Eleven layers over the whole screen. -/
def sampleEleven : RgzInParams :=
  sampleParams ((List.range 11).map fun id => sampleLayer id ⟨0, 0, 4, 4⟩ .none)

/-- Eleven candidates are accepted and then cannot be regionized. -/
theorem sampleEleven_fails :
    sampleEleven.callocOk = true ∧ (Solana.rgzInHwccheck sampleEleven Rgz.zero).1 = rgzAll ∧
      (Solana.rgzInHwc sampleEleven (Solana.rgzInHwccheck sampleEleven Rgz.zero).2).1 = -1 := by
  decide +kernel

end Solana.Arrays
