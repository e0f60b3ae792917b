import Solana.Rgz.Composition
import Solana.Rgz.OnScreen
import Mathlib.Algebra.Group.End

/-!
# The picture of a whole frame

Both outputs of the regionizer give every screen pixel the value of painting, over a
transparent pixel, the layers whose frame contains it (`FramePicture`).  For the paint output
that is the definition of its loop.  For the region output it follows from the partition of
the screen: the blits of the one subregion around the pixel draw exactly those layers, and the
clip rectangles of all others miss it.
-/

namespace Solana

open Cells Compositing Fallible RgzLayer Hregion List

/-! ## Clip rectangles on the screen -/

/-- Some pixel of the screen lies in the rectangle. -/
def Rect.Meets (g : SurfGeom) (r : Rect) : Prop := ∃ px, g.rect.Contains px ∧ r.Contains px

section Clip

variable {g : SurfGeom} {rect : Rect}

lemma clipToScreen_eq (h : rect.OnScreen g) : clipToScreen g rect = rect := by
  obtain ⟨hl, hr, ht, hb⟩ := h
  simp only [clipToScreen, minScreen, if_neg (not_lt.mpr hr.1), if_neg (not_lt.mpr hb.1)]
  rw [max_eq_right hl.1, max_eq_right ht.1, min_eq_right hr.2, min_eq_right hb.2]

section

variable (h : rect.Meets g)
include h

/-- What is left of a rectangle that meets the screen. -/
lemma clipToScreen_onScreen : (clipToScreen g rect).OnScreen g ∧ (clipToScreen g rect).Ordered := by
  obtain ⟨q, hq, hl, hr, ht, hb⟩ := h
  obtain ⟨h1, h2, h3, h4⟩ := SurfGeom.rect_contains_iff.mp hq
  simp only [clipToScreen, minScreen, if_neg (show ¬rect.right < 0 by omega),
    if_neg (show ¬rect.bottom < 0 by omega)]
  refine ⟨⟨?_, ?_, ?_, ?_⟩, ?_, ?_⟩ <;> simp only <;> omega

/-- On the screen, clipping keeps a rectangle as it is, unless it lies beside the screen. -/
lemma clipToScreen_contains {px : Pixel} (hpx : g.rect.Contains px) :
    (clipToScreen g rect).Contains px ↔ rect.Contains px := by
  obtain ⟨q, hq, hl, hr, ht, hb⟩ := h
  obtain ⟨h1, h2, h3, h4⟩ := SurfGeom.rect_contains_iff.mp hpx
  obtain ⟨h5, h6, h7, h8⟩ := SurfGeom.rect_contains_iff.mp hq
  simp only [clipToScreen, minScreen, if_neg (show ¬rect.right < 0 by omega),
    if_neg (show ¬rect.bottom < 0 by omega), Rect.Contains]
  omega

end

end Clip

/-! ## The frame an accepted list leaves -/

/-- A regionized frame of the list `layers`: the background `b`, the layers above it, and
their regions. -/
structure RegionizedFrame (g : SurfGeom) (layers : List ExtLayer) (r : Rgz) (b : RgzLayer)
    (tail : List RgzLayer) : Prop where
  cur : r.curFbState = b :: tail
  regions : r.hregions = hregionsOf g r.damagedArea (b :: tail)
  damage : r.damagedArea.OnScreen g
  screen : b.frame = g.rect
  background : b.buffidx = rgzBackgroundBuffidx
  backgroundOpaque : b.hwcLayer.blending ≠ .premult
  notBackground : ∀ l ∈ tail, l.buffidx ≠ rgzBackgroundBuffidx
  dummy : ∀ l ∈ b :: tail, l.buffidx = rgzBackgroundBuffidx ∨ l.buffidx = rgzClearhintBuffidx →
    l.hwcLayer.handle = .dummy
  candidate : ∀ l ∈ tail, ∃ e ∈ layers, ∃ k, e.isCandidate = true ∧ l.core = (rgzEntry k e).core

lemma exists_regionizedFrame {p : RgzInParams} {r r' : Rgz} (h : rgzIn .hwc p r = (rgzAll, r'))
    (hbg : p.bgLayer = screenBgLayer p.dstgeom.width p.dstgeom.height) :
    ∃ layers b tail, p.layers = some layers ∧ RegionizedFrame p.dstgeom layers r' b tail := by
  obtain ⟨layers, a, hl, hacc, ha, hr'⟩ := rgzIn_hwc_eq_all h
  obtain ⟨hcol, -, -⟩ := rgzCheckScan_accepted hacc
  have hcore : r'.curFbState.map core = (rgzCurLayers p layers).map core := by
    subst hr' ha
    exact rgzHandleDirtyRegion_core _ _ _ _
  have hdmg : r'.damagedArea.OnScreen p.dstgeom := by
    subst hr' ha
    exact damagedArea_onScreen _ _ _ _
  have hreg : r'.hregions = hregionsOf p.dstgeom r'.damagedArea r'.curFbState := by
    subst hr' ha
    rfl
  cases hcur : r'.curFbState with
  | nil => simp [hcur, rgzCurLayers] at hcore
  | cons b tail =>
    rw [hcur, rgzCurLayers, hcol, map_cons, map_cons] at hcore
    obtain ⟨hb, ht⟩ := cons.inj hcore
    obtain ⟨hb1, -, hb3⟩ := core_eq_iff.mp hb
    -- the layers above the background, each with the candidate it stands for
    have hcand : ∀ l ∈ tail, ∃ e ∈ layers, ∃ k, (overlayCount layers : Int) ≤ k ∧
        e.isCandidate = true ∧ l.core = (rgzEntry k e).core := by
      intro l hlt
      have hm : l.core ∈ (rgzCollect (overlayCount layers) layers).map core :=
        ht ▸ mem_map_of_mem hlt
      obtain ⟨l₀, hl₀, hcore₀⟩ := mem_map.mp hm
      obtain ⟨e, he, k, hk, hc, rfl⟩ := mem_rgzCollect hl₀
      exact ⟨e, he, k, hk, hc, hcore₀.symm⟩
    have hentry : ∀ l ∈ tail, (0 ≤ l.buffidx) ∨
        (l.buffidx = rgzClearhintBuffidx ∧ l.hwcLayer.handle = .dummy) := by
      intro l hlt
      obtain ⟨e, -, k, hk, -, hce⟩ := hcand l hlt
      obtain ⟨h1, -, h3⟩ := core_eq_iff.mp hce
      have hk0 : (0 : Int) ≤ k := (Int.natCast_nonneg _).trans hk
      unfold rgzEntry at h1 h3
      split_ifs at h1 h3
      · exact Or.inl (by rw [h3]; exact hk0)
      · exact Or.inr ⟨h3, by rw [h1]⟩
    refine ⟨layers, b, tail, hl, ?_⟩
    constructor
    · exact hcur
    · rw [hreg, hcur]
    · exact hdmg
    · rw [frame, hb1, hbg]; rfl
    · exact hb3
    · simp [hb1, hbg, rgzAddBackgroundLayer, screenBgLayer]
    · intro l hlt
      rcases hentry l hlt with h0 | ⟨h0, -⟩
      · simp only [rgzBackgroundBuffidx]; omega
      · rw [h0]; decide
    · intro l hlm
      rcases mem_cons.mp hlm with rfl | hlt
      · exact fun _ => by rw [hb1]; rfl
      · intro hs
        rcases hentry l hlt with h0 | ⟨-, h0⟩
        · simp only [rgzBackgroundBuffidx, rgzClearhintBuffidx] at hs; omega
        · exact h0
    · intro l hlt
      obtain ⟨e, he, k, -, hc, hce⟩ := hcand l hlt
      exact ⟨e, he, k, hc, hce⟩

/-! ## The picture -/

section Picture

variable {α : Type*} [Monoid α] {sample : Int → Pixel → α} {px : Pixel} {params : OutParams}
variable {g : SurfGeom} {layers : List ExtLayer} {r : Rgz} {bg : RgzLayer} {tail : List RgzLayer}

variable (sample px) in
/-- The value of a pixel in a frame: the layers that contain it, painted bottom to top over a
transparent pixel. -/
def framePicture (noblend : Bool) (tail : List RgzLayer) : α :=
  paint ((tail.filter fun l => l.frame.Contains px).map (layerDraw sample px noblend)) 1

/-- The layers above the background that contain the pixel, after the background. -/
lemma RegionizedFrame.paint_cur (h : RegionizedFrame g layers r bg tail) (noblend : Bool)
    (hpx : g.rect.Contains px) (d : α) :
    paint (((bg :: tail).filter fun l => l.frame.Contains px).map
      (layerDraw sample px noblend)) d = framePicture sample px noblend tail := by
  have hb : bg.frame.Contains px := by rwa [h.screen]
  have hput : layerDraw sample px noblend bg = .put 1 := by simp [layerDraw, h.background]
  rw [filter_cons_of_pos (by simpa using hb), map_cons, hput]
  rfl

lemma foldl_filter_paint {β : Type*} (C : β → Prop) [DecidablePred C] (f : β → Draw α) :
    ∀ (xs : List β) (d : α), xs.foldl (fun d x => if C x then (f x).apply d else d) d =
      paint ((xs.filter fun x => C x).map f) d
  | [], _ => rfl
  | x :: xs, d => by
    rw [foldl_cons, foldl_filter_paint C f xs]
    by_cases hx : C x
    · simp [hx]
    · simp [hx]

/-- The slot of the paint loop draws the layer where its frame contains the pixel. -/
lemma LayerPlan.exec {l : RgzLayer} {fills : List (BltEntry → BltEntry)}
    (hp : LayerPlan params l fills) (hpx : params.dstgeom.rect.Contains px)
    (hmeets : l.frame.Meets params.dstgeom)
    (hbg : l.buffidx ≠ rgzBackgroundBuffidx) (d : α) : execAll sample px (freshEntries fills) d =
      if l.frame.Contains px then (layerDraw sample px params.noblend l).apply d else d := by
  have hclip := clipToScreen_contains hmeets hpx
  obtain ⟨hon, hord⟩ := clipToScreen_onScreen hmeets
  have hns : l.buffidx ≠ -1 →
      ¬(l.buffidx = rgzBackgroundBuffidx ∨ l.buffidx = rgzClearhintBuffidx) :=
    fun hidx h => h.elim hbg hidx
  cases hp with
  | clear hidx =>
    have hput : layerDraw sample px params.noblend l = .put 1 := if_pos (Or.inr hidx)
    refine (rgzClearEntry_exec sample px (by rwa [clipToScreen_eq hon]) .zero d).trans ?_
    simp only [clipToScreen_eq hon, hclip, hput, Draw.apply_put]
  | blend hidx hblend _ =>
    refine (rgzBlendDst_exec sample px hord l _ .zero d).trans ?_
    simp only [hclip, layerDraw, if_neg (hns hidx), if_pos hblend, Draw.apply_over]
  | copy hidx hblend _ =>
    refine (rgzCopyEntry_exec sample px hord l _ .zero d).trans ?_
    simp only [hclip, layerDraw, if_neg (hns hidx), if_neg hblend, Draw.apply_put]

variable (sample px) in
/-- The commands handed out draw what the steps of the output draw. -/
lemma execAll_rgzOut {op : RgzOutOp} {out : OutData} (h : rgzOut op r params = .ok out) :
    ∃ parts, List.Forall₂ (fun step part => (step .init).map Blts.bvcmds = .ok part ∧
        ∀ P, Oblivious P step → ∃ fills, P fills ∧ part = freshEntries fills)
        (rgzSteps op r params) parts ∧
      ∀ d : α, execAll sample px out.cmds d = execAll sample px parts.flatten d := by
  obtain ⟨parts, hparts, hcmds, -, hlt⟩ := rgzOut_eq_blits h
  refine ⟨parts, parts_of_rgzBlits hparts hlt, fun d => ?_⟩
  rw [hcmds, execAll_modifyLast sample px (rgzSetAsync_exec sample px false)]

/-- **The paint output** gives a screen pixel its value in the frame. -/
theorem RegionizedFrame.paint_exec (h : RegionizedFrame g layers r bg tail)
    (hg : params.dstgeom = g) (hpx : g.rect.Contains px)
    (hframes : ∀ l ∈ tail, l.frame.Meets g) {out : OutData}
    (hout : rgzOut .bvcmdPaint r params = .ok out) (d : α) :
    execAll sample px out.cmds d = framePicture sample px params.noblend tail := by
  obtain ⟨parts, hparts, hexec⟩ := execAll_rgzOut sample px hout
  subst hg
  have hscreen : params.dstgeom.rect.Meets params.dstgeom := ⟨px, hpx, hpx⟩
  rw [rgzSteps, h.cur, tail_cons] at hparts
  cases hparts with
  | @cons _ clear _ parts hclear hparts =>
    have hpart : ∀ d : α, execAll sample px clear d = 1 := fun d => by
      obtain ⟨_, rfl, rfl⟩ := hclear.2 (· = [rgzClearEntry params params.dstgeom.rect])
        (.draws _ rfl fun _ => rfl)
      exact (rgzClearEntry_exec sample px (clipToScreen_onScreen hscreen).2 .zero d).trans
        (if_pos ((clipToScreen_contains hscreen hpx).mpr hpx))
    have hlayers : List.Forall₂ (fun l part => ∀ d : α, execAll sample px part d =
        if l.frame.Contains px then (layerDraw sample px params.noblend l).apply d else d)
        tail parts := by
      refine ((forall₂_and_left _ _).mpr
        ⟨fun _ hl => hl, forall₂_map_left_iff.mp hparts⟩).imp fun l part h' => ?_
      obtain ⟨hl, hpart⟩ := h'
      obtain ⟨fills, hplan, rfl⟩ := hpart.2 _ (paintLayer_oblivious params l)
      exact hplan.exec hpx (hframes l hl) (h.notBackground l hl)
    rw [hexec, flatten_cons, execAll_append, hpart, execAll_flatten sample px hlayers]
    exact foldl_filter_paint (fun l : RgzLayer => l.frame.Contains px) _ tail 1

variable (px) in
/-- The pixel lies in an entry of the subregion. -/
def Hregion.hits (h : Hregion) (s : Nat) : Bool :=
  (List.range h.rgzLayers.length).any fun k => decide ((h.blitrect k s).Contains px)

omit [Monoid α] in
lemma foldl_hit {β : Type*} (P : β → Bool) (v : α) : ∀ (xs : List β) (d : α),
    xs.foldl (fun d x => if P x then v else d) d = if xs.any P then v else d
  | [], _ => by simp
  | x :: xs, d => by
    rw [foldl_cons, foldl_hit P v xs, any_cons]
    cases P x <;> simp

/-- The subregion's rectangle, as the common value of its non-empty entries. -/
lemma gen_uniformRect {d rect : Rect} {ls : List RgzLayer} {w : Int} {s : Nat} {e : Int × Int}
    (hs : (cells (cutPoints (blitOffsets d ls w)))[s]? = some e) :
    UniformRect (rgzGenBlitregions d rect ls w) s ⟨e.1, rect.top, e.2, rect.bottom⟩ := by
  intro k hk
  by_cases hlt : k < ls.length
  · rw [rgzGenBlitregions_blitrect (getElem?_eq_getElem hlt) hs] at hk ⊢
    unfold blitRectOf at hk ⊢
    simp only at hk ⊢
    split_ifs at hk ⊢
    · rfl
    · simp at hk
  · exfalso
    simp [blitrect, rgzGenBlitregions, getD_eq_getElem?_getD, not_lt.mp hlt] at hk

/-- Every subregion of the frame is redrawn. -/
def AllDirty (r : Rgz) : Prop :=
  ∀ h ∈ r.hregions, ∀ s < h.nsubregions, SubregionDirty h s r.damagedArea

section

variable (h : RegionizedFrame g layers r bg tail) (hg : params.dstgeom = g)
  (hpx : g.rect.Contains px) (hframes : ∀ l ∈ tail, l.frame.Meets g)
  (hok : ∀ l ∈ bg :: tail, LayerOk sample px l)
include h hg hpx hframes hok

/-- One subregion of the frame sets the pixel to its value or leaves it alone. -/
lemma RegionizedFrame.subregion_exec {i s : Nat} {hr : Hregion} (hi : r.hregions[i]? = some hr)
    (hs : s < hr.nsubregions) (hd : SubregionDirty hr s r.damagedArea)
    {fills : List (BltEntry → BltEntry)} (hplan : SubregionPlan params hr r.damagedArea s fills)
    (d : α) : execAll sample px (freshEntries fills) d =
      if hr.hits px s then framePicture sample px params.noblend tail else d := by
  have hbm : bg ∈ bg :: tail := mem_cons_self
  have hall : ∀ l ∈ bg :: tail, (l.frame.left ≤ g.width ∧ 0 ≤ l.frame.right) ∧
      l.frame.top ≤ g.height ∧ 0 ≤ l.frame.bottom := by
    intro l hl
    obtain ⟨q, hq, hql, hqr, hqt, hqb⟩ : l.frame.Meets g := by
      rcases mem_cons.mp hl with rfl | hl
      · exact ⟨px, hpx, h.screen ▸ hpx⟩
      · exact hframes l hl
    obtain ⟨h1, h2, h3, h4⟩ := SurfGeom.rect_contains_iff.mp hq
    omega
  have hget := hi
  rw [h.regions, hregionsOf_getElem? hbm h.screen] at hget
  obtain ⟨c, hc, rfl⟩ := Option.map_eq_some_iff.mp hget
  rw [rgzGenBlitregions_nsubregions] at hs
  obtain ⟨e, he⟩ : ∃ e, (cells (cutPoints (blitOffsets r.damagedArea
      (bandLayers g (bg :: tail) c) g.width)))[s]? = some e := ⟨_, getElem?_eq_getElem hs⟩
  -- the cuts are on the screen, so clipping changes nothing
  have he2 := cell_onScreen h.damage.left h.damage.right
    (fun l hl => (hall l (mem_of_mem_filter hl)).1) (mem_of_getElem? he)
  have hc2 := cell_onScreen h.damage.top h.damage.bottom (fun l hl => (hall l hl).2)
    (mem_of_getElem? hc)
  have hclip : clipToScreen params.dstgeom ⟨e.1, c.1, e.2, c.2⟩ = ⟨e.1, c.1, e.2, c.2⟩ := by
    rw [hg]
    refine clipToScreen_eq ?_
    constructor <;> dsimp only <;> omega
  have hord : (clipToScreen params.dstgeom ⟨e.1, c.1, e.2, c.2⟩).Ordered := by
    rw [hclip]
    exact ⟨he2.2.1.le, hc2.2.1.le⟩
  have hcell : (⟨e.1, c.1, e.2, c.2⟩ : Rect).Contains px →
      PixelCell g r.damagedArea (bg :: tail) px i s c e :=
    fun hin => ⟨hc, ⟨hin.2.2.1, hin.2.2.2⟩, he, ⟨hin.1, hin.2.1⟩⟩
  have hlayers := fun hin => (hcell hin).layersAt_eq hbm h.screen hpx
  set hr := rgzGenBlitregions r.damagedArea ⟨0, c.1, g.width, c.2⟩
    (bandLayers g (bg :: tail) c) g.width with hhr
  have hR : UniformRect hr s ⟨e.1, c.1, e.2, c.2⟩ := gen_uniformRect he
  have hhit : hr.hits px s = true ↔ (⟨e.1, c.1, e.2, c.2⟩ : Rect).Contains px := by
    simp only [hits, any_eq_true, mem_range, decide_eq_true_eq]
    constructor
    · rintro ⟨k, -, hk⟩
      rwa [hR k (emptyRect_eq_false_of_contains hk)] at hk
    · intro hin
      obtain ⟨hr', hi', -, k, hk, hcont⟩ :=
        (inSubregion_iff h.regions hbm h.screen hpx).mpr ⟨c, e, hcell hin⟩
      obtain rfl : hr = hr' := Option.some.inj (hi.symm.trans hi')
      exact ⟨k, hk, hcont⟩
  refine (hplan.exec hord hR (fun k hk => ?_) (fun hin k hk => ?_) hd d).trans ?_
  · have hlt : k < hr.rgzLayers.length := by
      have := (mem_filter.mp hk).1
      simp only [mem_range'_1] at this
      omega
    have hmem := mem_of_getElem? hi
    rw [h.regions] at hmem
    exact hok _ (mem_of_mem_hregion hmem (layer_mem hlt))
  · -- the lowest layer around a screen pixel is the background
    have hl := hlayers (hclip ▸ hin)
    have hb : bg.frame.Contains px := by rwa [h.screen]
    rw [filter_cons_of_pos (by simpa using hb)] at hl
    have hhead : some (hr.layer k) = some bg := by
      have := congrArg head? hl
      rwa [layersAt, head?_map, Option.mem_def.mp hk] at this
    rw [Option.some.inj hhead]
    exact h.backgroundOpaque
  · rw [hclip]
    by_cases hin : (⟨e.1, c.1, e.2, c.2⟩ : Rect).Contains px
    · rw [if_pos hin, if_pos (hhit.mpr hin), hlayers hin]
      exact h.paint_cur params.noblend hpx d
    · rw [if_neg hin, if_neg (fun hc => hin (hhit.mp hc))]

/-- **The region output** gives a screen pixel its value in the frame, when every subregion is
dirty. -/
theorem RegionizedFrame.region_exec (hdirty : AllDirty r) {out : OutData}
    (hout : rgzOut .bvcmdRegion r params = .ok out) (d : α) :
    execAll sample px out.cmds d = framePicture sample px params.noblend tail := by
  obtain ⟨parts, hparts, hexec⟩ := execAll_rgzOut sample px hout
  have hsubregions : List.Forall₂ (fun hs part => ∀ d : α, execAll sample px part d =
      if hs.1.hits px hs.2 then framePicture sample px params.noblend tail else d)
      (rgzSubregions r) parts := by
    refine ((forall₂_and_left _ _).mpr
      ⟨fun _ hs => hs, forall₂_map_left_iff.mp hparts⟩).imp fun ⟨hr, s⟩ part h' => ?_
    obtain ⟨hmem, hpart⟩ := h'
    obtain ⟨hmem, hs⟩ := mem_rgzSubregions.mp hmem
    obtain ⟨i, hi⟩ := mem_iff_getElem?.mp hmem
    obtain ⟨fills, hplan, rfl⟩ := hpart.2 _ (subregionBlit_oblivious params hr r.damagedArea s)
    exact h.subregion_exec hg hpx hframes hok hi hs (hdirty hr hmem s hs) hplan
  rw [hexec, execAll_flatten sample px hsubregions,
    foldl_hit fun hs : Hregion × Nat => hs.1.hits px hs.2]
  -- some band holds the pixel
  have hbm : bg ∈ bg :: tail := mem_cons_self
  obtain ⟨i, s, c, e, hcell⟩ := exists_pixelCell r.damagedArea hbm h.screen hpx
  obtain ⟨hr, hi, hs, k, hk, hcont⟩ :=
    (inSubregion_iff h.regions hbm h.screen hpx).mpr ⟨c, e, hcell⟩
  rw [if_pos]
  simp only [any_eq_true, mem_range, hits, decide_eq_true_eq]
  exact ⟨(hr, s), mem_rgzSubregions.mpr ⟨mem_of_getElem? hi, hs⟩, k, hk, hcont⟩

end

end Picture

/-- **Region output and paint output draw the same picture.**  Let `rgz_in` accept a list over
a screen-sized background, every candidate's frame meeting the screen, every subregion being
dirty, and both outputs returning 0.  For any pixel values with an associative `over` whose
unit is the transparent pixel, and samples that absorb for opaque formats, executing either
blit list gives every screen pixel the same value, whatever the two framebuffers held. -/
theorem region_and_paint_agree {α : Type*} [Monoid α] (sample : Int → Pixel → α)
    {p : RgzInParams} {r r' : Rgz} {params : OutParams} {outRegion outPaint : OutData}
    (hin : rgzIn .hwc p r = (rgzAll, r'))
    (hbg : p.bgLayer = screenBgLayer p.dstgeom.width p.dstgeom.height)
    (hgeom : params.dstgeom = p.dstgeom)
    (hframes : ∀ layers ∈ p.layers, ∀ e ∈ layers, e.isCandidate = true →
      ∃ px, p.dstgeom.rect.Contains px ∧ e.layer.displayFrame.Contains px)
    (hsample : ∀ l ∈ r'.curFbState, ∀ n, l.hwcLayer.handle = .native n →
      n.iFormat.isOpaque = true → ∀ px, Absorbs (sample l.buffidx px)) (hdirty : AllDirty r')
    (hregion : rgzOut .bvcmdRegion r' params = .ok outRegion)
    (hpaint : rgzOut .bvcmdPaint r' params = .ok outPaint)
    {px : Pixel} (hpx : p.dstgeom.rect.Contains px) (d d' : α) :
    execAll sample px outRegion.cmds d = execAll sample px outPaint.cmds d' := by
  obtain ⟨layers, bg, tail, hl, hframe⟩ := exists_regionizedFrame hin hbg
  have hmeet : ∀ l ∈ tail, l.frame.Meets p.dstgeom := by
    intro l hlt
    obtain ⟨e, he, k, hc, hcore⟩ := hframe.candidate l hlt
    rw [frame_eq_of_core hcore, rgzEntry_frame]
    exact hframes layers hl e he hc
  have hok : ∀ l ∈ bg :: tail, LayerOk sample px l := fun l hlm => by
    refine ⟨hframe.dummy l hlm, fun n hn ho => ?_⟩
    have hne : l.buffidx ≠ -1 := fun h1 => by
      have := hframe.dummy l hlm (Or.inr h1)
      rw [hn] at this
      cases this
    have habs := hsample l (by rwa [hframe.cur]) n hn ho px
    rwa [layerValue, AuxPtr.value, if_neg hne]
  rw [hframe.region_exec hgeom hpx hmeet hok hdirty hregion d,
    hframe.paint_exec hgeom hpx hmeet hpaint d']

/-! ### The first frame after a reset -/

lemma rgzDirtyLoop_fresh {g : SurfGeom} {targetFb : List RgzLayer} :
    ∀ {i : Nat} {cur : List RgzLayer} {d : Rect} {c : RgzLayer},
      c ∈ (rgzDirtyLoop g [] targetFb i cur d).1 → c.dirtyCount = rgzNumFb
  | _, [], _, _, hc => by simp [rgzDirtyLoop] at hc
  | i, cur :: rest, d, c, hc => by
    rcases mem_cons.mp hc with rfl | hc
    · simp [rgzDirtyLayer, rgzPrevLayer, rgzFindLayer, rgzDirtyCount]
    · exact rgzDirtyLoop_fresh hc

/-- The first frame after a reset is redrawn everywhere. -/
lemma allDirty_of_fresh {p : RgzInParams} {r r' : Rgz} (h : rgzIn .hwc p r = (rgzAll, r'))
    (hprev : r.prevFbState = []) : AllDirty r' := by
  obtain ⟨layers, a, hl, hacc, ha, hr'⟩ := rgzIn_hwc_eq_all h
  have hcur : ∀ l ∈ r'.curFbState, l.dirtyCount = rgzNumFb := by
    subst hr' ha
    intro l hl
    have hl' : l ∈ (rgzDirtyLoop p.dstgeom r.prevFbState r.targetFbState 0
      (rgzCurLayers p layers) Rect.zero).1 := hl
    rw [hprev] at hl'
    exact rgzDirtyLoop_fresh hl'
  have hreg : r'.hregions = hregionsOf p.dstgeom r'.damagedArea r'.curFbState := by
    subst hr' ha; rfl
  intro hr hmem s _ ops lix hops
  obtain ⟨rest, hdesc⟩ := getLayerOps_spec hops
  obtain ⟨hlt, -, -, -⟩ := stackFrom_cons hdesc.stack
  have hlayer : hr.layer lix ∈ r'.curFbState := by
    rw [hreg] at hmem
    exact mem_of_mem_hregion hmem (layer_mem hlt)
  obtain ⟨n, hn⟩ : ∃ n, hr.rgzLayers.length = n + 1 := ⟨hr.rgzLayers.length - 1, by omega⟩
  simp [subregionDirty, hn, anyLayerDirty, hcur _ hlayer, rgzNumFb]

/-- A layer of an opaque format below a translucent one. -/
def sampleBlended : RgzInParams :=
  let opaqueLayer := (sampleLayer 1 ⟨0, 0, 3, 3⟩ .premult).layer
  sampleParams
    [⟨{ opaqueLayer with handle := .native ⟨1, 4, 4, .rgbx8888, false, false⟩ }, 1⟩,
      sampleLayer 2 ⟨1, 1, 6, 4⟩ .premult]

/-- Two opaque colours: `true` for the first buffer, `false` for the others.  A pixel value is
the function it applies to the colour below, so an opaque one is constant. -/
def sampleColours : Int → Pixel → Function.End Bool := fun ix _ => fun _ => decide (ix = 0)

theorem sampleBlended_agree : ∃ outRegion outPaint,
      rgzOut .bvcmdRegion (rgzIn .hwc sampleBlended Rgz.zero).2
        ⟨sampleBlended.dstgeom, false⟩ = .ok outRegion ∧
      rgzOut .bvcmdPaint (rgzIn .hwc sampleBlended Rgz.zero).2
        ⟨sampleBlended.dstgeom, false⟩ = .ok outPaint ∧ ∀ d d' : Function.End Bool,
        execAll sampleColours ⟨2, 2⟩ outRegion.cmds d =
          execAll sampleColours ⟨2, 2⟩ outPaint.cmds d' := by
  have hin : rgzIn .hwc sampleBlended Rgz.zero =
      (rgzAll, (rgzIn .hwc sampleBlended Rgz.zero).2) := Prod.ext (by decide) rfl
  obtain ⟨outRegion, hregion⟩ := exists_ok (x := rgzOut .bvcmdRegion
    (rgzIn .hwc sampleBlended Rgz.zero).2 ⟨sampleBlended.dstgeom, false⟩) (by decide +kernel)
  obtain ⟨outPaint, hpaint⟩ := exists_ok (x := rgzOut .bvcmdPaint
    (rgzIn .hwc sampleBlended Rgz.zero).2 ⟨sampleBlended.dstgeom, false⟩) (by decide +kernel)
  refine ⟨outRegion, outPaint, hregion, hpaint, fun d d' => ?_⟩
  refine region_and_paint_agree _ hin rfl rfl ?_ (fun _ _ _ _ _ _ _ => rfl)
    (allDirty_of_fresh hin rfl) hregion hpaint (by decide) d d'
  intro layers hl e he _
  cases hl
  simp only [mem_cons, not_mem_nil, or_false] at he
  rcases he with rfl | rfl
  · exact ⟨⟨1, 1⟩, by decide, by decide⟩
  · exact ⟨⟨2, 2⟩, by decide, by decide⟩

end Solana
