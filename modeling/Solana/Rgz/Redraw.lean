import Solana.Rgz.Stale

/-!
# Drawing over the frame before last

The region output is executed on the framebuffer of the target frame, and a subregion that is
skipped keeps what that frame has left there.  `framebuffers_current` follows a screen pixel in the
two framebuffers through a whole run: as long as the layers keep their place, buffer, blending and
order, each framebuffer shows all layers of its frame, as if it had been painted from nothing.

Blits are executed as in `Solana.Rgz.Execution`: one that draws the pixel gives it what the layer
shows there, the same for every blit of the layer.  Which part of the buffer that is, by the source
rectangles, flips and scaling, is not followed (see `Solana.Rgz.Mapping`).
-/

namespace Solana

open Runs Compositing RgzLayer List

/-! ## One output -/

section Output

variable {α : Type*} [Monoid α] {sample : Int → Pixel → α} {px : Pixel} {params : OutParams}
  {g : SurfGeom} {layers : List ExtLayer} {r : Rgz} {bg : RgzLayer} {tail : List RgzLayer}

/-- The region output gives a screen pixel its value in the frame, or the pixel lies in a subregion
that is skipped and keeps its value. -/
lemma RegionizedFrame.redraw_exec (h : RegionizedFrame g layers r bg tail)
    (hg : params.dstgeom = g) (hpx : g.rect.Contains px)
    (hframes : ∀ l ∈ tail, l.frame.Meets g)
    (hok : ∀ l ∈ bg :: tail, LayerOk sample px l) {out : OutData}
    (hout : rgzOut .bvcmdRegion r params = .ok out) (d : α) :
    execAll sample px out.cmds d = framePicture sample px params.noblend tail ∨
      execAll sample px out.cmds d = d ∧ ∃ i s hr, r.InSubregion i s px ∧
        r.hregions[i]? = some hr ∧
          rgzHwcSubregionBlit params hr r.damagedArea .init s = .ok .init := by
  classical
  let draws : Hregion × Nat → Bool :=
    fun hs => hs.1.hits px hs.2 && decide (SubregionDirty hs.1 hs.2 r.damagedArea)
  obtain ⟨parts, hparts, hexec⟩ := execAll_rgzOut sample px hout
  have hsubregions : List.Forall₂ (fun hs part => ∀ d : α, execAll sample px part d =
      if draws hs then framePicture sample px params.noblend tail else d)
      (rgzSubregions r) parts := by
    refine ((forall₂_and_left _ _).mpr
      ⟨fun _ hs => hs, forall₂_map_left_iff.mp hparts⟩).imp fun ⟨hr, s⟩ part h' d => ?_
    obtain ⟨hmem, hs⟩ := mem_rgzSubregions.mp h'.1
    obtain ⟨i, hi⟩ := mem_iff_getElem?.mp hmem
    obtain ⟨fills, hplan, rfl⟩ := h'.2.2 _ (subregionBlit_oblivious params hr r.damagedArea s)
    by_cases hd : SubregionDirty hr s r.damagedArea
    · simpa [draws, hd] using h.subregion_exec hg hpx hframes hok hi hs hd hplan d
    · cases hplan with
      | clean => simp [draws, hd, freshEntries, execAll]
      | clear hops hdirty | drawn hops hdirty =>
        exact absurd (fun _ _ h => by cases hops.symm.trans h; exact hdirty) hd
  rw [hexec, execAll_flatten sample px hsubregions, foldl_hit draws]
  split_ifs with hany
  · exact .inl rfl
  · -- no subregion draws the pixel, so the one it lies in is clean
    have hbm : bg ∈ bg :: tail := mem_cons_self
    obtain ⟨i, s, c, e, hcell⟩ := exists_pixelCell r.damagedArea hbm h.screen hpx
    have hin := (inSubregion_iff h.regions hbm h.screen hpx).mpr ⟨c, e, hcell⟩
    obtain ⟨hr, hi, hs, k, hk, hcont⟩ := id hin
    have hclean : ¬SubregionDirty hr s r.damagedArea := fun hd => hany <| any_eq_true.mpr
      ⟨(hr, s), mem_rgzSubregions.mpr ⟨mem_of_getElem? hi, hs⟩, by
        simpa [draws, hd, Hregion.hits] using ⟨k, hk, hcont⟩⟩
    simp only [SubregionDirty, not_forall, Bool.not_eq_true] at hclean
    obtain ⟨ops, lix, hops, hclean⟩ := hclean
    exact .inr ⟨rfl, i, s, hr, hin, hi, by simp [rgzHwcSubregionBlit, hops, hclean]⟩

lemma stopsDescent_of_hidesBelow {l : RgzLayer} (h : l.hidesBelow = true) :
    stopsDescent l = .ok true := by
  unfold hidesBelow at h
  unfold stopsDescent
  split_ifs with hb
  · rfl
  · cases hd : l.hwcLayer.handle.deref with
    | none => simp [hd, hb] at h
    | some n => simpa [hd, hb] using h

end Output

/-! ## Both framebuffers -/

/-- The regionizer, and the value of a pixel in the framebuffer that is drawn next and in the other
one. -/
structure Screen (α : Type*) where
  rgz : Rgz
  back : α
  front : α

section Run

variable {α : Type*} [Monoid α] (frameOf : Nat → Rect) (bufOf : Nat → BufferHandle)
  (colour : Nat → α) (px : Pixel) (params : OutParams)

/-- What drawing a layer does, if its identity gives its colour. -/
def shownDraw : Nat × Blending × Bool → Draw α
  | (_, _, true) => .put 1
  | (id, blending, false) =>
    if !params.noblend ∧ blending = .premult then .over (colour id) else .put (colour id)

/-- The value of a pixel in a frame: all layers that cover it, over a transparent pixel. -/
def picture (fb : List RgzLayer) : α :=
  paint (((coveringLayers px fb).map shown).map (shownDraw colour params)) 1

/-- A frame is accepted, its region output is executed, and the framebuffers are swapped. -/
structure Redraws (s : Screen α) (p : RgzInParams) (s' : Screen α) : Prop where
  frame : SteadyFrame frameOf bufOf s.rgz p s'.rgz
  stacking : KeepsStacking s.rgz p
  screen : params.dstgeom = p.dstgeom
  background : p.bgLayer = screenBgLayer p.dstgeom.width p.dstgeom.height
  drawn : ∃ sample out, rgzOut .bvcmdRegion s'.rgz params = .ok out ∧
    s'.front = execAll sample px out.cmds s.back ∧ ∀ l ∈ s'.rgz.curFbState.tail,
      l.buffidx ≠ rgzClearhintBuffidx → sample l.buffidx px = colour l.identity
  swapped : s'.back = s.front

variable {frameOf bufOf colour px params} {s s' : Screen α} {p : RgzInParams}

lemma layerDraw_eq_shownDraw {sample : Int → Pixel → α} {l : RgzLayer}
    (hbg : l.buffidx ≠ rgzBackgroundBuffidx)
    (hvalue : l.buffidx ≠ rgzClearhintBuffidx → layerValue sample px l = colour l.identity) :
    layerDraw sample px params.noblend l = shownDraw colour params l.shown := by
  by_cases hc : l.buffidx = rgzClearhintBuffidx
  · simp [layerDraw, shownDraw, shown, hc]
  · simp [layerDraw, shownDraw, shown, hc, hbg, hvalue hc]

variable
  (hmeets : ∀ id, (frameOf id).Meets params.dstgeom)
  (habsorbs : ∀ id n, bufOf id = .native n → n.iFormat.isOpaque = true → Absorbs (colour id))
  (hpx : params.dstgeom.rect.Contains px)
  (hr : Reachable (· = Rgz.zero) (SteadyFrame frameOf bufOf) s.rgz)
  (h : Redraws frameOf bufOf colour px params s p s')
include hpx hr h

/-- A pixel of a skipped subregion has the same value in the target frame. -/
lemma picture_of_skipped (hhides : ∀ l ∈ s'.rgz.curFbState.tail, l.hidesBelow = true →
      Resets (shownDraw colour params l.shown)) {i k : Nat} {hregion : Hregion}
    (hin : s'.rgz.InSubregion i k px) (hi : s'.rgz.hregions[i]? = some hregion)
    (hskip : rgzHwcSubregionBlit params hregion s'.rgz.damagedArea .init k = .ok .init) :
    picture colour px params s.rgz.targetFbState =
      picture colour px params s'.rgz.curFbState := by
  have hreach : RgzReachable s.rgz := hr.mono (fun _ h => h) fun _ _ _ h => h.1
  have hring := ringOk_of_reachable hreach
  have hT := (steady_of_reachable hr).2
  obtain ⟨layers, hs⟩ := h.frame.1.step
  have hret : ReturnsInPlace s.rgz p := by
    intro layers' hl e he hc _ t ht hid
    rw [hT.frame t ht, (h.frame.2 layers' hl e he hc).1, hid]
  rw [h.screen] at hpx
  obtain ⟨hout, pre, vis, hcov, hclean, htop⟩ :=
    visible_clean_of_skipped h.frame.1.2 h.background hpx hin hi hskip
  have hids := hs.covering_ids_eq hT h.frame.steady (hs.damageCovers hring hret) h.stacking hpx hout
  rw [hcov, map_append] at hids
  obtain ⟨preT, visT, hcovT, hpre, hvisT⟩ := map_eq_append_iff.mp hids
  have hvis : ∀ l ∈ vis, l ∈ s'.rgz.curFbState.tail := fun l hl =>
    mem_of_mem_filter (hcov ▸ mem_append_right pre hl)
  have hmatch := congrArg (map Prod.fst) (hs.map_shown_eq hring hT h.frame.steady
    (hs.contentDirty hring (countsBehind_of_reachable hreach)) h.stacking
    (fun t ht => mem_of_mem_filter (hcovT ▸ mem_append_right preT ht)) hvis hclean hvisT)
  have hshown : visT.map shown = vis.map shown := by rwa [map_map, map_map] at hmatch
  rw [picture, picture, hcovT, hcov, map_append, map_append, hshown, map_append, map_append]
  -- below the visible layers nothing is shown
  rcases htop with ⟨rfl, -⟩ | ⟨x, xs, rfl, hx, -⟩
  · rw [map_eq_nil_iff.mp hpre]
  · have hx := hhides x (hvis x mem_cons_self) hx
    exact (paint_eq_of_resets hx _ _ 1 1).trans (paint_eq_of_resets hx _ _ 1 1).symm

include hmeets habsorbs

/-- One frame, drawn over its target. -/
lemma Redraws.front_eq (hback : s.back = picture colour px params s.rgz.targetFbState) :
    s'.front = picture colour px params s'.rgz.curFbState := by
  obtain ⟨sample, out, hout, hfront, hsample⟩ := h.drawn
  have hC := h.frame.steady
  obtain ⟨layers, bg, tail, -, hframe⟩ := exists_regionizedFrame h.frame.1.2 h.background
  rw [hframe.cur, tail_cons] at hsample
  obtain ⟨hplace, hbuf⟩ := hC
  rw [hframe.cur, tail_cons] at hplace hbuf
  have hvalue : ∀ l ∈ tail, l.buffidx ≠ rgzClearhintBuffidx →
      layerValue sample px l = colour l.identity := fun l hl hc =>
    (if_neg hc).trans (hsample l hl hc)
  have hdraw : ∀ l ∈ tail, layerDraw sample px params.noblend l =
      shownDraw colour params l.shown := fun l hl =>
    layerDraw_eq_shownDraw (hframe.notBackground l hl) (hvalue l hl)
  have hok : ∀ l ∈ bg :: tail, LayerOk sample px l := by
    refine fun l hl => ⟨hframe.dummy l hl, fun n hn ho => ?_⟩
    have hnot : ¬(l.buffidx = rgzBackgroundBuffidx ∨ l.buffidx = rgzClearhintBuffidx) := fun hc =>
      absurd (hn.symm.trans (hframe.dummy l hl hc)) (by simp)
    rcases mem_cons.mp hl with rfl | hl
    · exact absurd (.inl hframe.background) hnot
    · rw [hvalue l hl fun hc => hnot (.inr hc)]
      rcases hbuf l hl with hb | hb
      · exact absurd (hn.symm.trans hb) (by simp)
      · exact habsorbs _ n (hb.symm.trans hn) ho
  have hframes : ∀ l ∈ tail, l.frame.Meets p.dstgeom := fun l hl => by
    rw [hplace l hl, ← h.screen]
    exact hmeets _
  rw [hfront]
  rcases hframe.redraw_exec h.screen (h.screen ▸ hpx) hframes hok hout s.back with
    hexec | ⟨hexec, i, k, hregion, hin, hi, hskip⟩
  · rw [hexec, framePicture, picture, coveringLayers, hframe.cur, tail_cons, map_map]
    exact congrArg (paint · 1) (map_congr_left fun l hl => hdraw l (mem_of_mem_filter hl))
  · rw [hexec, hback]
    refine picture_of_skipped hpx hr h (fun l hl hhides => ?_) hin hi hskip
    rw [hframe.cur, tail_cons] at hl
    rw [← hdraw l hl]
    exact layerDraw_resets (hok l (mem_cons_of_mem _ hl)) (stopsDescent_of_hidesBelow hhides) _

omit hr h

/-- **Both framebuffers show their frames**, in every run from transparent ones in which each frame
is drawn over the frame before last: all layers of the list, as the code would paint them.  What a
layer shows at the pixel is its colour there, whichever part of it a blit draws. -/
theorem framebuffers_current
    (hrun : Reachable (· = ⟨Rgz.zero, 1, 1⟩) (Redraws frameOf bufOf colour px params) s) :
    s.back = picture colour px params s.rgz.targetFbState ∧
      s.front = picture colour px params s.rgz.prevFbState := by
  refine (hrun.invariant (fun s => Reachable (· = Rgz.zero) (SteadyFrame frameOf bufOf) s.rgz ∧
    s.back = picture colour px params s.rgz.targetFbState ∧
      s.front = picture colour px params s.rgz.prevFbState) ?_ ?_).2
  · rintro _ rfl
    exact ⟨.start rfl, rfl, rfl⟩
  · rintro s p s' ⟨hr, hback, hfront⟩ h
    obtain ⟨layers, hstep⟩ := h.frame.1.step
    refine ⟨.next hr h.frame, ?_, ?_⟩
    · rw [h.swapped, hfront, hstep.target]
    · rw [hstep.prev]
      exact h.front_eq hmeets habsorbs hpx hr hback

end Run

/-- Two opaque layers over each other, drawn into a transparent framebuffer. -/
theorem stacked_layers_shown :
    ∃ out, rgzOut .bvcmdRegion (rgzRun [sampleStacked]) ⟨sampleStacked.dstgeom, false⟩ = .ok out ∧
      execAll (fun ix _ => ix.toNat + 2) ⟨2, 2⟩ out.cmds 1 = picture (· + 1) ⟨2, 2⟩
        ⟨sampleStacked.dstgeom, false⟩ (rgzRun [sampleStacked]).prevFbState := by
  obtain ⟨out, hout⟩ := Fallible.exists_ok (x := rgzOut .bvcmdRegion (rgzRun [sampleStacked])
    ⟨sampleStacked.dstgeom, false⟩) (by decide +kernel)
  have hframe : AcceptedFrame Rgz.zero sampleStacked (rgzRun [sampleStacked]) :=
    ⟨sampleStacked_steady.1, Prod.ext (by decide) rfl⟩
  have hkeeps : KeepsStacking Rgz.zero sampleStacked := by
    intro layers hl
    cases hl
    decide
  have hsample : ∀ l ∈ (rgzRun [sampleStacked]).curFbState.tail,
      l.buffidx ≠ rgzClearhintBuffidx → l.buffidx.toNat + 2 = l.identity + 1 := by decide
  have hstep : Redraws sampleFrameOf sampleBufOf (· + 1) ⟨2, 2⟩ ⟨sampleStacked.dstgeom, false⟩
      ⟨Rgz.zero, 1, 1⟩ sampleStacked
      ⟨rgzRun [sampleStacked], 1, execAll (fun ix _ => ix.toNat + 2) ⟨2, 2⟩ out.cmds 1⟩ :=
    ⟨⟨hframe, sampleStacked_steady.2⟩, hkeeps, rfl, rfl,
      ⟨_, out, hout, rfl, hsample⟩, rfl⟩
  refine ⟨out, hout, (framebuffers_current (fun id => ⟨⟨2, 2⟩, by decide, ?_⟩)
    (fun _ _ hn ho => by cases hn; cases ho) (by decide) (.next (.start rfl) hstep)).2⟩
  unfold sampleFrameOf
  split_ifs <;> decide

end Solana
