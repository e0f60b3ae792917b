import Solana.Lib.Cells
import Solana.Rgz.Sort
import Solana.Rgz.Check

/-!
# Regionizing a frame

`rgz_in_hwc` cuts the screen into horizontal bands at the tops and bottoms of all layers and
of the damaged area; `rgz_gen_blitregions` cuts a band into subregions at their lefts and
rights.  In both directions the ends are clamped to the screen, sorted and made unique
(`cutPoints`), so a band or a subregion is a cell of such a list and no edge of a layer runs
through it.

The main result, `rgzIn_partitions_screen`, says that every screen pixel lies in exactly one
subregion of one band, and that the layers stored there are the layers whose frame contains
the pixel, in list order.
-/

namespace Solana

open Cells Hregion SurfGeom List

/-! ## The functions -/

/-- The coordinates collected along one axis: the ends of the damaged area, then the ends of
every layer, kept inside the screen. -/
def clampedEnds (damagedLo damagedHi : Int) (lo hi : RgzLayer → Int) (size : Int)
    (layers : List RgzLayer) : List Int :=
  damagedLo :: damagedHi :: layers.flatMap fun l => [max 0 (lo l), min (hi l) size]

/-- The `offsets` of `rgz_gen_blitregions`. -/
def blitOffsets (damagedArea : Rect) (layers : List RgzLayer) (screenWidth : Int) : List Int :=
  clampedEnds damagedArea.left damagedArea.right (fun l => l.frame.left) (fun l => l.frame.right)
    screenWidth layers

/-- The part of a subregion a layer gets: all of it, or nothing. -/
def blitRectOf (rect : Rect) (l : RgzLayer) (c : Int × Int) : Rect :=
  let subregion : Rect := ⟨c.1, rect.top, c.2, rect.bottom⟩
  if rectIntersects subregion l.frame then subregion else Rect.zero

/-- `rgz_gen_blitregions` on a band whose rectangle and layers are set. -/
def rgzGenBlitregions (damagedArea rect : Rect) (layers : List RgzLayer) (screenWidth : Int) :
    Hregion :=
  let offsets := cutPoints (blitOffsets damagedArea layers screenWidth)
  { rect := rect
    rgzLayers := layers
    nsubregions := offsets.length - 1
    blitrects := layers.map fun l => (cells offsets).map (blitRectOf rect l) }

/-- The `yentries` of `rgz_in_hwc`. -/
def yEntries (damagedArea : Rect) (layers : List RgzLayer) (screenHeight : Int) : List Int :=
  clampedEnds damagedArea.top damagedArea.bottom (fun l => l.frame.top) (fun l => l.frame.bottom)
    screenHeight layers

/-- The right end of the widest layer. -/
def widestRight (damagedArea : Rect) (layers : List RgzLayer) : Int :=
  layers.foldl (fun dispw l => if dispw > l.frame.right then dispw else l.frame.right)
    damagedArea.right

/-- The band of one cell of the y coordinates. -/
def hregionRect (g : SurfGeom) (dispw : Int) (c : Int × Int) : Rect :=
  ⟨0, c.1, if dispw > g.width then g.width else dispw, c.2⟩

/-- The horizontal regions of a frame. -/
def hregionsOf (g : SurfGeom) (damagedArea : Rect) (layers : List RgzLayer) : List Hregion :=
  (cells (cutPoints (yEntries damagedArea layers g.height))).map fun c =>
    let rect := hregionRect g (widestRight damagedArea layers) c
    rgzGenBlitregions damagedArea rect (layers.filter fun l => rectIntersects rect l.frame)
      g.width

/-- `rgz_in_hwc`.  When `calloc` fails the state keeps a region count without regions, which
nothing reads: `RGZ_REGION_DATA` is off. -/
def rgzInHwc (p : RgzInParams) (rgz : Rgz) : Int × Rgz :=
  if !rgz.stateInit then (-1, rgz)
  else if (rgz.curFbState.length + 1) * 2 > rgzSubregionMax then (-1, rgz)
  else
    let rgz := rgzDeleteRegionData rgz
    if !p.callocOk then (-1, rgz)
    else
      (0, { rgz with
        hregions := hregionsOf p.dstgeom rgz.damagedArea rgz.curFbState
        regionData := true })

/-- The operations of `rgz_in`. -/
inductive RgzInOp
  | hwc
  | hwcchk
  | other (code : Int)

/-- `rgz_in`. -/
def rgzIn (op : RgzInOp) (p : RgzInParams) (rgz : Rgz) : Int × Rgz :=
  match op with
  | .hwc =>
    let chk := rgzInHwccheck p rgz
    if chk.1 = rgzAll then
      let hwc := rgzInHwc p chk.2
      (if hwc.1 ≠ 0 then 0 else rgzAll, hwc.2)
    else chk
  | .hwcchk => rgzInHwccheck p Rgz.zero
  | .other _ => (-1, rgz)

variable {p : RgzInParams}

lemma rgzInHwc_eq_zero {a : Rgz} (h : (rgzInHwc p a).1 = 0) : (rgzInHwc p a).2 =
      { a with
        hregions := hregionsOf p.dstgeom a.damagedArea a.curFbState
        regionData := true } := by
  unfold rgzInHwc at h ⊢
  split_ifs at h ⊢ with h1 h2 h3
  · simp at h
  · simp at h
  · simp at h
  · rfl

/-- **When `rgz_in(RGZ_IN_HWC)` accepts.** -/
lemma rgzIn_hwc_eq_all {r r' : Rgz} (h : rgzIn .hwc p r = (rgzAll, r')) :
    ∃ layers a, p.layers = some layers ∧ (rgzCheckScan layers).Accepted ∧
      a = rgzAdvance p.dstgeom (rgzCurLayers p layers) { r with stateInit := false } ∧
      r' = { a with
        hregions := hregionsOf p.dstgeom a.damagedArea a.curFbState
        regionData := true } := by
  simp only [rgzIn] at h
  by_cases hchk : (rgzInHwccheck p r).1 = rgzAll
  · obtain ⟨layers, hl, hacc, ha⟩ := rgzInHwccheck_eq_all (Prod.ext hchk rfl)
    rw [if_pos hchk] at h
    obtain ⟨h1, h2⟩ := Prod.mk.inj h
    have hz : (rgzInHwc p (rgzInHwccheck p r).2).1 = 0 := by
      by_contra hne
      rw [if_pos hne] at h1
      exact absurd h1 (by decide)
    exact ⟨layers, _, hl, hacc, ha, by rw [← h2, rgzInHwc_eq_zero hz]⟩
  · rw [if_neg hchk] at h
    exact absurd (by rw [h]) hchk

/-! ## Bands and subregions as cells -/

variable {c : Int × Int}

section Clamped

variable (dlo dhi size : Int) (lo hi : RgzLayer → Int) {ls : List RgzLayer} {b l : RgzLayer}

lemma clampedEnds_strict (ls : List RgzLayer) :
    (cutPoints (clampedEnds dlo dhi lo hi size ls)).SortedLT :=
  cutPoints_strict (cons_ne_nil _ _)

lemma mem_clampedEnds (hl : l ∈ ls) : max 0 (lo l) ∈ cutPoints (clampedEnds dlo dhi lo hi size ls) ∧
      min (hi l) size ∈ cutPoints (clampedEnds dlo dhi lo hi size ls) := by
  constructor <;>
  · refine (mem_cutPoints (cons_ne_nil _ _)).mpr ?_
    exact mem_cons_of_mem _ (mem_cons_of_mem _ (mem_flatMap.mpr ⟨l, hl, by simp⟩))

variable {lo hi size}

/-- When some layer spans the axis, so do the cuts. -/
lemma ends_mem_clampedEnds (hb : b ∈ ls) (hlo : lo b = 0) (hhi : hi b = size) :
    0 ∈ cutPoints (clampedEnds dlo dhi lo hi size ls) ∧
      size ∈ cutPoints (clampedEnds dlo dhi lo hi size ls) := by
  have h := mem_clampedEnds dlo dhi size lo hi hb
  rwa [hlo, hhi, max_self, min_self] at h

variable {dlo dhi}

/-- Along one axis, a layer meets the cell around a screen coordinate exactly if it contains
the coordinate. -/
lemma meets_clamped_iff (hb : b ∈ ls) (hlo : lo b = 0) (hhi : hi b = size)
    (hc : c ∈ cells (cutPoints (clampedEnds dlo dhi lo hi size ls))) {x : Int}
    (hx : 0 ≤ x ∧ x < size) (hcx : c.1 ≤ x ∧ x < c.2) (hl : l ∈ ls) :
    (lo l < c.2 ∧ c.1 < hi l) ↔ (lo l ≤ x ∧ x < hi l) := by
  obtain ⟨h0, hs⟩ := ends_mem_clampedEnds dlo dhi hb hlo hhi
  obtain ⟨h1, h2⟩ := mem_clampedEnds dlo dhi size lo hi hl
  exact meets_cell_iff (clampedEnds_strict _ _ _ _ _ _) hc h0 hs h1 h2 hx hcx

lemma exists_clamped_cell (hb : b ∈ ls) (hlo : lo b = 0) (hhi : hi b = size) {x : Int}
    (hx : 0 ≤ x ∧ x < size) : ∃ (i : Nat) (c : Int × Int),
      (cells (cutPoints (clampedEnds dlo dhi lo hi size ls)))[i]? = some c ∧ c.1 ≤ x ∧ x < c.2 := by
  obtain ⟨h0, hs⟩ := ends_mem_clampedEnds dlo dhi hb hlo hhi
  obtain ⟨c, hc, hcx⟩ := exists_cell h0 hs hx.1 hx.2 (clampedEnds_strict _ _ _ _ _ _)
  obtain ⟨i, hi⟩ := mem_iff_getElem?.mp hc
  exact ⟨i, c, hi, hcx⟩

end Clamped

variable {l : RgzLayer} {ls : List RgzLayer}

lemma le_widestRight {d : Rect} (hl : l ∈ ls) : l.frame.right ≤ widestRight d ls := by
  have acc : ∀ (ls : List RgzLayer) (m : Int), m ≤ ls.foldl
      (fun dispw l => if dispw > l.frame.right then dispw else l.frame.right) m := by
    intro ls
    induction ls with
    | nil => exact fun m => le_rfl
    | cons a ls ih => exact fun m => le_trans (by dsimp only; split_ifs <;> omega) (ih _)
  unfold widestRight
  generalize d.right = m
  induction ls generalizing m with
  | nil => simp at hl
  | cons a ls ih =>
    rcases mem_cons.mp hl with rfl | hl
    · exact le_trans (by dsimp only; split_ifs <;> omega) (acc ls _)
    · exact ih hl _

@[simp] lemma rgzGenBlitregions_rgzLayers (d rect : Rect) (ls : List RgzLayer) (w : Int) :
    (rgzGenBlitregions d rect ls w).rgzLayers = ls := rfl

lemma rgzGenBlitregions_nsubregions (d rect : Rect) (ls : List RgzLayer) (w : Int) :
    (rgzGenBlitregions d rect ls w).nsubregions = (cells (cutPoints (blitOffsets d ls w))).length :=
  (length_cells _).symm

/-- The entry of a layer in a subregion of its band. -/
lemma rgzGenBlitregions_blitrect {d rect : Rect} {w : Int} {l s : Nat} {lay : RgzLayer}
    (hl : ls[l]? = some lay) (hs : (cells (cutPoints (blitOffsets d ls w)))[s]? = some c) :
    (rgzGenBlitregions d rect ls w).blitrect l s = blitRectOf rect lay c := by
  simp [blitrect, rgzGenBlitregions, getD_eq_getElem?_getD, hl, hs]

lemma Hregion.layer_mem {h : Hregion} {k : Nat} (hk : k < h.rgzLayers.length) :
    h.layer k ∈ h.rgzLayers := by
  simp [layer, getD_eq_getElem?_getD, hk]

lemma mem_of_mem_hregion {g : SurfGeom} {d : Rect} {cur : List RgzLayer} {h : Hregion}
    (hh : h ∈ hregionsOf g d cur) (hl : l ∈ h.rgzLayers) : l ∈ cur := by
  obtain ⟨c, -, rfl⟩ := mem_map.mp hh
  exact mem_of_mem_filter hl

/-! ## Pixels -/

/-- The pixel lies in subregion `s` of the `i`-th band. -/
def Rgz.InSubregion (r : Rgz) (i s : Nat) (px : Pixel) : Prop :=
  ∃ hr, r.hregions[i]? = some hr ∧ s < hr.nsubregions ∧
    ∃ l < hr.rgzLayers.length, (hr.blitrect l s).Contains px

lemma rgzGenBlitregions_layersAt {d rect : Rect} {w : Int} {s : Nat}
    (hs : (cells (cutPoints (blitOffsets d ls w)))[s]? = some c) :
    (rgzGenBlitregions d rect ls w).layersAt s =
      ls.filter fun l => !emptyRect (blitRectOf rect l c) := by
  set h := rgzGenBlitregions d rect ls w with hh
  have hget : ∀ k, (hk : k < ls.length) → h.layer k = ls[k] := fun k hk => by
    simp [layer, hh, getD_eq_getElem?_getD, hk]
  -- the list itself, read through its indices
  have hls : ls = (range ls.length).map h.layer := by
    refine ext_getElem (by simp) fun k hk _ => ?_
    simp [hget k hk]
  conv_rhs => rw [hls]
  rw [filter_map, layersAt, stackFrom, Nat.sub_zero, ← range_eq_range']
  congr 1
  refine filter_congr fun k hk => ?_
  have hk' : k < ls.length := by simpa [hh] using hk
  rw [Function.comp_apply, hget k hk', hh,
    rgzGenBlitregions_blitrect (List.getElem?_eq_getElem hk') hs]

/-- An entry is empty exactly when the layer does not meet the subregion. -/
lemma emptyRect_blitRectOf {rect : Rect} (hc : c.1 < c.2) : emptyRect (blitRectOf rect l c) =
      !rectIntersects ⟨c.1, rect.top, c.2, rect.bottom⟩ l.frame := by
  unfold blitRectOf
  simp only
  split_ifs with h
  · simp only [h, Bool.not_true]
    rw [← Bool.not_eq_true, emptyRect_iff, Rect.zero, Rect.mk.injEq]
    omega
  · simp [h]

lemma contains_blitRectOf {rect : Rect} {px : Pixel} (h : (blitRectOf rect l c).Contains px) :
    (c.1 ≤ px.x ∧ px.x < c.2) ∧ (rect.top ≤ px.y ∧ px.y < rect.bottom) := by
  unfold blitRectOf at h
  simp only at h
  split_ifs at h
  · exact ⟨⟨h.1, h.2.1⟩, h.2.2.1, h.2.2.2⟩
  · obtain ⟨h1, h2, -, -⟩ := h
    simp only [Rect.zero] at h1 h2
    omega

/-! ## The screen is partitioned -/

section Partition

variable {g : SurfGeom} {d : Rect} {cur : List RgzLayer} {b : RgzLayer} {px : Pixel}

/-- With a background as large as the screen, the bands reach from side to side. -/
lemma hregionRect_eq (hb : b ∈ cur) (hf : b.frame = g.rect) (c : Int × Int) :
    hregionRect g (widestRight d cur) c = ⟨0, c.1, g.width, c.2⟩ := by
  have hw : (g.width : Int) ≤ widestRight d cur := by
    have := le_widestRight (d := d) hb
    rwa [hf] at this
  unfold hregionRect
  split_ifs
  · rfl
  · rw [show widestRight d cur = g.width by omega]

/-- The layers of the band of a cell. -/
def bandLayers (g : SurfGeom) (cur : List RgzLayer) (c : Int × Int) : List RgzLayer :=
  cur.filter fun l => rectIntersects ⟨0, c.1, g.width, c.2⟩ l.frame

/-- The `i`-th band of a frame with a screen-sized background. -/
lemma hregionsOf_getElem? (hb : b ∈ cur) (hf : b.frame = g.rect) (i : Nat) :
    (hregionsOf g d cur)[i]? = (cells (cutPoints (yEntries d cur g.height)))[i]?.map fun c =>
        rgzGenBlitregions d ⟨0, c.1, g.width, c.2⟩ (bandLayers g cur c) g.width := by
  simp only [hregionsOf, List.getElem?_map, hregionRect_eq hb hf, bandLayers]

/-- The two cells around a pixel: `c` of the rows and `e` of the columns of its band. -/
structure PixelCell (g : SurfGeom) (d : Rect) (cur : List RgzLayer) (px : Pixel) (i s : Nat)
    (c e : Int × Int) : Prop where
  row : (cells (cutPoints (yEntries d cur g.height)))[i]? = some c
  inRow : c.1 ≤ px.y ∧ px.y < c.2
  column : (cells (cutPoints (blitOffsets d (bandLayers g cur c) g.width)))[s]? = some e
  inColumn : e.1 ≤ px.x ∧ px.x < e.2

variable {i s : Nat} {c e : Int × Int}

lemma background_mem_band (hb : b ∈ cur) (hf : b.frame = g.rect)
    (hpx : g.rect.Contains px) (hin : c.1 ≤ px.y ∧ px.y < c.2) : b ∈ bandLayers g cur c := by
  obtain ⟨hx1, hx2, hy1, hy2⟩ := SurfGeom.rect_contains_iff.mp hpx
  simp only [bandLayers, mem_filter, rectIntersects_iff, hf, SurfGeom.rect]
  exact ⟨hb, by omega, by omega, by omega, by omega⟩

/-- A layer of the frame meets the cell around a pixel exactly if it contains the pixel. -/
lemma PixelCell.meets_iff (h : PixelCell g d cur px i s c e) (hb : b ∈ cur)
    (hf : b.frame = g.rect) (hpx : g.rect.Contains px) (hl : l ∈ cur) :
    (l ∈ bandLayers g cur c ∧ rectIntersects ⟨e.1, c.1, e.2, c.2⟩ l.frame = true) ↔
      l.frame.Contains px := by
  obtain ⟨hx1, hx2, hy1, hy2⟩ := SurfGeom.rect_contains_iff.mp hpx
  have hrow := meets_clamped_iff hb (by rw [hf]; rfl) (by rw [hf]; rfl)
    (mem_of_getElem? h.row) ⟨hy1, hy2⟩ h.inRow hl
  have hcol := fun hl' : l ∈ bandLayers g cur c =>
    meets_clamped_iff (background_mem_band hb hf hpx h.inRow) (by rw [hf]; rfl) (by rw [hf]; rfl)
      (mem_of_getElem? h.column) ⟨hx1, hx2⟩ h.inColumn hl'
  simp only [rectIntersects_iff]
  constructor
  · rintro ⟨hm, h1, h2, h3, h4⟩
    have hx := (hcol hm).mp ⟨h3, h4⟩
    have hy := hrow.mp ⟨h1, h2⟩
    exact ⟨hx.1, hx.2, hy.1, hy.2⟩
  · rintro ⟨h1, h2, h3, h4⟩
    have hy := hrow.mpr ⟨h3, h4⟩
    have hm : l ∈ bandLayers g cur c := by
      simp only [bandLayers, mem_filter, rectIntersects_iff]
      exact ⟨hl, hy.1, hy.2, by omega, by omega⟩
    have hx := (hcol hm).mpr ⟨h1, h2⟩
    exact ⟨hm, hy.1, hy.2, hx.1, hx.2⟩

lemma exists_pixelCell (d : Rect) (hb : b ∈ cur) (hf : b.frame = g.rect)
    (hpx : g.rect.Contains px) : ∃ i s c e, PixelCell g d cur px i s c e := by
  obtain ⟨hx1, hx2, hy1, hy2⟩ := SurfGeom.rect_contains_iff.mp hpx
  obtain ⟨i, c, hi, hc⟩ : ∃ (i : Nat) (c : Int × Int),
      (cells (cutPoints (yEntries d cur g.height)))[i]? = some c ∧ c.1 ≤ px.y ∧ px.y < c.2 :=
    exists_clamped_cell hb (by rw [hf]; rfl) (by rw [hf]; rfl) ⟨hy1, hy2⟩
  obtain ⟨s, e, hs, he⟩ : ∃ (s : Nat) (e : Int × Int),
      (cells (cutPoints (blitOffsets d (bandLayers g cur c) g.width)))[s]? = some e ∧
        e.1 ≤ px.x ∧ px.x < e.2 :=
    exists_clamped_cell (background_mem_band hb hf hpx hc) (by rw [hf]; rfl) (by rw [hf]; rfl)
      ⟨hx1, hx2⟩
  exact ⟨i, s, c, e, hi, hc, hs, he⟩

lemma PixelCell.unique {i' s' : Nat} {c' e' : Int × Int} (h : PixelCell g d cur px i s c e)
    (h' : PixelCell g d cur px i' s' c' e') : i = i' ∧ s = s' := by
  have hi : i = i' := cell_index_unique (clampedEnds_strict _ _ _ _ _ _) h.row h'.row
    h.inRow.1 h.inRow.2 h'.inRow.1 h'.inRow.2
  obtain rfl : c = c' := by
    have := h.row
    rw [hi, h'.row] at this
    exact (Option.some.inj this).symm
  exact ⟨hi, cell_index_unique (clampedEnds_strict _ _ _ _ _ _) h.column h'.column
    h.inColumn.1 h.inColumn.2 h'.inColumn.1 h'.inColumn.2⟩

/-- The subregions of a regionized frame are its cells. -/
lemma inSubregion_iff {r : Rgz} (hr : r.hregions = hregionsOf g d cur) (hb : b ∈ cur)
    (hf : b.frame = g.rect) (hpx : g.rect.Contains px) :
    r.InSubregion i s px ↔ ∃ c e, PixelCell g d cur px i s c e := by
  simp only [Rgz.InSubregion, hr, hregionsOf_getElem? hb hf, Option.map_eq_some_iff]
  constructor
  · rintro ⟨_, ⟨c, hi, rfl⟩, hs, l, hl, hcont⟩
    rw [rgzGenBlitregions_nsubregions] at hs
    rw [rgzGenBlitregions_rgzLayers] at hl
    rw [rgzGenBlitregions_blitrect (List.getElem?_eq_getElem hl)
      (List.getElem?_eq_getElem hs)] at hcont
    obtain ⟨hx, hy⟩ := contains_blitRectOf hcont
    exact ⟨c, _, hi, hy, List.getElem?_eq_getElem hs, hx⟩
  · rintro ⟨c, e, h⟩
    -- the background's entry is the whole subregion
    obtain ⟨l, hl⟩ := mem_iff_getElem?.mp (background_mem_band hb hf hpx h.inRow)
    have hmeet : rectIntersects ⟨e.1, c.1, e.2, c.2⟩ b.frame = true :=
      ((h.meets_iff hb hf hpx hb).mpr (by rwa [hf])).2
    have hll := (List.getElem?_eq_some_iff.mp hl).1
    have hss := (List.getElem?_eq_some_iff.mp h.column).1
    refine ⟨_, ⟨c, h.row, rfl⟩, by rwa [rgzGenBlitregions_nsubregions], l, hll, ?_⟩
    rw [rgzGenBlitregions_blitrect hl h.column, blitRectOf]
    simp only [hmeet, if_true]
    exact ⟨h.inColumn.1, h.inColumn.2, h.inRow.1, h.inRow.2⟩

section

variable (h : PixelCell g d cur px i s c e) (hb : b ∈ cur) (hf : b.frame = g.rect)
  (hpx : g.rect.Contains px)
include h hb hf hpx

/-- The layers of a subregion are those whose frame contains its pixels. -/
lemma PixelCell.layersAt_eq :
    (rgzGenBlitregions d ⟨0, c.1, g.width, c.2⟩ (bandLayers g cur c) g.width).layersAt s =
      cur.filter fun l => l.frame.Contains px := by
  have hlt := cell_lt (clampedEnds_strict _ _ _ _ _ _) (mem_of_getElem? h.column)
  rw [rgzGenBlitregions_layersAt h.column]
  simp only [emptyRect_blitRectOf hlt, Bool.not_not]
  conv_lhs => rw [bandLayers]
  rw [filter_filter]
  refine filter_congr fun l hl => ?_
  have hm := h.meets_iff hb hf hpx hl
  simp only [bandLayers, mem_filter, hl, true_and] at hm
  rw [Bool.and_comm, Bool.eq_iff_iff, Bool.and_eq_true, decide_eq_true_iff]
  exact hm

lemma PixelCell.entry_iff {l : Nat} {lay : RgzLayer} (hl : (bandLayers g cur c)[l]? = some lay) :
    emptyRect ((rgzGenBlitregions d ⟨0, c.1, g.width, c.2⟩ (bandLayers g cur c)
        g.width).blitrect l s) = false ↔ lay.frame.Contains px := by
  have hlt := cell_lt (clampedEnds_strict _ _ _ _ _ _) (mem_of_getElem? h.column)
  have hmem := mem_of_getElem? hl
  rw [rgzGenBlitregions_blitrect hl h.column, emptyRect_blitRectOf hlt, Bool.not_eq_false',
    ← h.meets_iff hb hf hpx (mem_of_mem_filter hmem)]
  exact ⟨fun hi => ⟨hmem, hi⟩, fun hi => hi.2⟩

end

end Partition

/-- The current frame of an accepted list: the background, then the candidates in order. -/
lemma rgzAdvance_cur_map {layers : List ExtLayer} (r : Rgz)
    (hacc : (rgzCheckScan layers).Accepted) :
    (rgzAdvance p.dstgeom (rgzCurLayers p layers) r).curFbState.map
        (fun l => (l.identity, l.frame)) = (0, p.bgLayer.displayFrame) ::
        (layers.filter ExtLayer.isCandidate).map fun e => (e.identity, e.layer.displayFrame) := by
  have hcore := congrArg (map fun k : HwcLayer × Nat × Int => (k.2.1, k.1.displayFrame))
    (rgzHandleDirtyRegion_core p.dstgeom (rgzCurLayers p layers) r.prevFbState r.targetFbState)
  simp only [map_map, Function.comp_def, RgzLayer.core] at hcore
  refine hcore.trans ?_
  rw [rgzCurLayers, (rgzCheckScan_accepted hacc).1, map_cons,
    ← rgzCollect_map (overlayCount layers) layers]
  rfl

/-- **Regionizing partitions the screen.**  Let `rgz_in(RGZ_IN_HWC)` accept a list, with a
background as large as the screen, from any earlier state.  Then every screen pixel lies in
exactly one subregion of one band; there the entry of a band's layer is non-empty exactly if
the layer's frame contains the pixel, and the layers with a non-empty entry are those of the
list, the background first, whose frame contains the pixel, in the order of the list. -/
theorem rgzIn_partitions_screen {p : RgzInParams} {r r' : Rgz}
    (h : rgzIn .hwc p r = (rgzAll, r')) (hbg : p.bgLayer.displayFrame = p.dstgeom.rect) :
    (∃ layers, p.layers = some layers ∧ r'.curFbState.map (fun l => (l.identity, l.frame)) =
        (0, p.dstgeom.rect) :: (layers.filter ExtLayer.isCandidate).map
            fun e => (e.identity, e.layer.displayFrame)) ∧ ∀ px, p.dstgeom.rect.Contains px →
      (∃! is : Nat × Nat, r'.InSubregion is.1 is.2 px) ∧
      ∀ i s hr, r'.InSubregion i s px → r'.hregions[i]? = some hr →
        (∀ (l : Nat) (lay : RgzLayer), hr.rgzLayers[l]? = some lay →
          (emptyRect (hr.blitrect l s) = false ↔ lay.frame.Contains px)) ∧
        hr.layersAt s = r'.curFbState.filter fun l => l.frame.Contains px := by
  obtain ⟨layers, a, hl, hacc, ha, hr'⟩ := rgzIn_hwc_eq_all h
  have hmap := rgzAdvance_cur_map (p := p) { r with stateInit := false } hacc
  rw [← ha] at hmap
  have hcur : r'.curFbState = a.curFbState := by rw [hr']
  have hreg : r'.hregions = hregionsOf p.dstgeom a.damagedArea a.curFbState := by rw [hr']
  rw [hcur]
  refine ⟨⟨layers, hl, by rw [hmap, hbg]⟩, fun px hpx => ?_⟩
  -- the background heads the current frame
  obtain ⟨b, hb, hf⟩ : ∃ b ∈ a.curFbState, b.frame = p.dstgeom.rect := by
    have hmem : (0, p.bgLayer.displayFrame) ∈
        a.curFbState.map (fun l => (l.identity, l.frame)) := by rw [hmap]; simp
    obtain ⟨b, hb, hbe⟩ := mem_map.mp hmem
    exact ⟨b, hb, by rw [← hbg]; exact congrArg Prod.snd hbe⟩
  refine ⟨?_, fun i s hr hin hget => ?_⟩
  · obtain ⟨i, s, c, e, hcell⟩ := exists_pixelCell a.damagedArea hb hf hpx
    refine ⟨(i, s), (inSubregion_iff hreg hb hf hpx).mpr ⟨c, e, hcell⟩, fun is his => ?_⟩
    obtain ⟨c', e', hcell'⟩ := (inSubregion_iff hreg hb hf hpx).mp his
    obtain ⟨h1, h2⟩ := hcell'.unique hcell
    exact Prod.ext h1 h2
  · obtain ⟨c, e, hcell⟩ := (inSubregion_iff hreg hb hf hpx).mp hin
    rw [hreg, hregionsOf_getElem? hb hf, hcell.row] at hget
    obtain rfl := Option.some.inj hget
    exact ⟨fun l lay hlay => hcell.entry_iff hb hf hpx hlay, hcell.layersAt_eq hb hf hpx⟩

/-! ### A sample frame

A four by four screen with two overlapping layers, one of them partly off screen. -/

/-- A layer of the framebuffer, unscaled, whose buffer is known by the layer's identity. -/
def sampleLayer (id : Nat) (frame : Rect) (blending : Blending) : ExtLayer where
  layer :=
    { compositionType := .framebuffer
      hints := {}
      skipLayer := false
      handle := .native ⟨id, 4, 4, .rgba8888, false, false⟩
      transform := {}
      blending := blending
      sourceCrop := ⟨0, 0, frame.width, frame.height⟩
      displayFrame := frame }
  identity := id

/-- A four by four screen with its background, and a list to regionize. -/
def sampleParams (layers : List ExtLayer) : RgzInParams where
  layers := some layers
  dstgeom := ⟨.bgra24, 4, 4, 0, 16⟩
  bgLayer := screenBgLayer 4 4
  callocOk := true

/-- Two overlapping layers, the upper one reaching over the right edge. -/
def sampleOverlap : RgzInParams :=
  sampleParams [sampleLayer 1 ⟨0, 0, 3, 3⟩ .none, sampleLayer 2 ⟨1, 1, 6, 4⟩ .premult]

theorem sampleOverlap_partitioned : (rgzIn .hwc sampleOverlap Rgz.zero).1 = rgzAll ∧
      ∃! is : Nat × Nat, (rgzIn .hwc sampleOverlap Rgz.zero).2.InSubregion is.1 is.2 ⟨2, 2⟩ :=
  ⟨by decide,
    ((rgzIn_partitions_screen (p := sampleOverlap) (r := Rgz.zero)
      (Prod.ext (by decide) rfl) rfl).2 ⟨2, 2⟩ (by decide)).1⟩

end Solana
