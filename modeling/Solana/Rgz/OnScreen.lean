import Solana.Lib.Fallible
import Solana.Rgz.Blits

/-!
# Regions on the screen

The background covers the screen, so a band or a subregion of the screen always has something to
draw, and both outputs treat the opposite as impossible.  It is impossible as long as the cuts
stay on the screen.  They are clamped on one side only: a top is raised to the first row but not
lowered to the last, a bottom the other way round.  A layer that lies below the screen, or above
it, therefore makes a band outside, where there is no background.

`regions_on_screen_iff` says that this is the only way: the bands are on the screen, and all of
them and their subregions have a layer to draw, exactly if every candidate of the list starts at
most at the bottom edge and ends at least at the top edge.  Columns need no such condition, since
a layer next to the screen is in no band.
-/

namespace Solana

open Cells List

/-! ## Cuts on the screen -/

/-- All coordinates of the rectangle are on the screen or on its edges. -/
structure Rect.OnScreen (g : SurfGeom) (r : Rect) : Prop where
  left : 0 ≤ r.left ∧ r.left ≤ g.width
  right : 0 ≤ r.right ∧ r.right ≤ g.width
  top : 0 ≤ r.top ∧ r.top ≤ g.height
  bottom : 0 ≤ r.bottom ∧ r.bottom ≤ g.height

lemma rgzAddToDamagedArea_onScreen (g : SurfGeom) (l : RgzLayer) (d : Rect) (h : d.OnScreen g) :
    (rgzAddToDamagedArea g l d).OnScreen g := by
  by_cases hi : rectIntersects g.rect l.frame = true
  · obtain ⟨h1, h2, h3, h4⟩ := rectIntersects_iff.mp hi
    obtain ⟨hl, hr, ht, hb⟩ := h
    have hs : g.rect.left = 0 ∧ g.rect.top = 0 ∧ g.rect.right = g.width ∧
        g.rect.bottom = g.height := ⟨rfl, rfl, rfl, rfl⟩
    simp only [rgzAddToDamagedArea, hi, Bool.not_true, Bool.false_eq_true, if_false]
    split_ifs
    · constructor <;> dsimp only <;> omega
    · constructor <;> dsimp only <;> omega
  · simpa [rgzAddToDamagedArea, hi] using h

/-- The damaged area of a frame is on the screen, whatever the layers. -/
lemma damagedArea_onScreen (g : SurfGeom) (curFb prevFb targetFb : List RgzLayer) :
    (rgzHandleDirtyRegion g curFb prevFb targetFb).2.OnScreen g := by
  refine rgzHandleDirtyRegion_keeps ?_ (rgzAddToDamagedArea_onScreen g) curFb prevFb targetFb
  constructor <;> simp [Rect.zero]

section Axis

variable {dlo dhi size : Int} {lo hi : RgzLayer → Int} {ls : List RgzLayer}

section

variable (hlo : 0 ≤ dlo ∧ dlo ≤ size) (hhi : 0 ≤ dhi ∧ dhi ≤ size)
  (hls : ∀ l ∈ ls, lo l ≤ size ∧ 0 ≤ hi l)
include hlo hhi hls

/-- Along an axis the cuts stay on the screen if every layer starts and ends on its side of it. -/
lemma cut_onScreen {x : Int} (hx : x ∈ cutPoints (clampedEnds dlo dhi lo hi size ls)) :
    0 ≤ x ∧ x ≤ size := by
  replace hx := (mem_cutPoints (cons_ne_nil _ _)).mp hx
  simp only [mem_cons, mem_flatMap, not_mem_nil, or_false] at hx
  rcases hx with rfl | rfl | ⟨l, hl, rfl | rfl⟩
  · exact hlo
  · exact hhi
  · have := hls l hl
    omega
  · have := hls l hl
    omega

lemma cell_onScreen {c : Int × Int}
    (hc : c ∈ cells (cutPoints (clampedEnds dlo dhi lo hi size ls))) :
    0 ≤ c.1 ∧ c.1 < c.2 ∧ c.2 ≤ size := by
  obtain ⟨h1, h2⟩ := mem_of_mem_cells hc
  exact ⟨(cut_onScreen hlo hhi hls h1).1, cell_lt (clampedEnds_strict _ _ _ _ _ _) hc,
    (cut_onScreen hlo hhi hls h2).2⟩

end

variable (dlo dhi lo hi)

/-- A layer that starts behind the screen or ends before it makes a cell that is not on it. -/
lemma exists_cell_offScreen {b l : RgzLayer} (hb : b ∈ ls) (hblo : lo b = 0) (hbhi : hi b = size)
    (hsize : 0 ≤ size) (hl : l ∈ ls) (hoff : ¬ (lo l ≤ size ∧ 0 ≤ hi l)) :
    ∃ c ∈ cells (cutPoints (clampedEnds dlo dhi lo hi size ls)), c.1 < 0 ∨ size < c.2 := by
  obtain ⟨h0, -⟩ := ends_mem_clampedEnds dlo dhi hb hblo hbhi
  obtain ⟨hstart, hend⟩ := mem_clampedEnds dlo dhi size lo hi hl
  have hsorted := clampedEnds_strict dlo dhi size lo hi ls
  by_cases hlo : lo l ≤ size
  · have hneg : hi l < 0 := by
      by_contra h
      exact hoff ⟨hlo, by omega⟩
    rw [show min (hi l) size = hi l by omega] at hend
    obtain ⟨c, hc, hcl, -⟩ := exists_cell hend h0 le_rfl hneg hsorted
    exact ⟨c, hc, Or.inl (by omega)⟩
  · rw [show max 0 (lo l) = lo l by omega] at hstart
    obtain ⟨c, hc, -, hcl⟩ := exists_cell (x := size) h0 hstart hsize (by omega) hsorted
    exact ⟨c, hc, Or.inr hcl⟩

end Axis

/-! ## Something to draw -/

lemma getLayerOpsFrom_pos {h : Hregion} {s : Nat} :
    ∀ {l ops ops' : Nat} {bottom bottom' : Option Nat},
    (ops ≠ 0 ∨ ∃ k < l, emptyRect (h.blitrect k s) = false) →
    getLayerOpsFrom h s l ops bottom = .ok (ops', bottom') → ops' ≠ 0
  | 0, ops, ops', bottom, bottom', hpos, hres => by
    obtain ⟨rfl, -⟩ := Prod.mk.inj (Except.ok.inj hres)
    rcases hpos with hpos | ⟨k, hk, -⟩
    · exact hpos
    · omega
  | l + 1, ops, ops', bottom, bottom', hpos, hres => by
    rw [getLayerOpsFrom] at hres
    by_cases hempty : emptyRect (h.blitrect l s) = true
    · simp only [hempty, Bool.not_true, Bool.false_eq_true, if_false] at hres
      refine getLayerOpsFrom_pos (hpos.imp_right ?_) hres
      rintro ⟨k, hk, hkne⟩
      have hkl : k ≠ l := by
        rintro rfl
        rw [hempty] at hkne
        exact Bool.noConfusion hkne
      exact ⟨k, by omega, hkne⟩
    · simp only [hempty, Bool.not_false, if_true] at hres
      obtain ⟨stops, -, hres⟩ := Fallible.exists_of_bind_eq_ok hres
      cases stops with
      | true =>
        obtain ⟨rfl, -⟩ := Prod.mk.inj (Except.ok.inj hres)
        exact Nat.succ_ne_zero ops
      | false => exact getLayerOpsFrom_pos (Or.inl (Nat.succ_ne_zero ops)) hres

/-- A band as both outputs expect it: on the screen, with a layer, and with a layer operation in
each of its subregions. -/
structure Hregion.Sound (g : SurfGeom) (h : Hregion) : Prop where
  onScreen : h.rect.OnScreen g
  layers : h.rgzLayers.length ≠ 0
  ops : ∀ s < h.nsubregions, ∀ ops bottom, getLayerOps h s = .ok (ops, bottom) → ops ≠ 0

section Frame

variable {g : SurfGeom} {d : Rect} {cur : List RgzLayer} {b : RgzLayer}

/-- A layer of a band does not lie next to the screen. -/
lemma columns_of_mem_band {c : Int × Int} {l : RgzLayer} (hl : l ∈ bandLayers g cur c) :
    l.frame.left ≤ g.width ∧ 0 ≤ l.frame.right := by
  simp only [bandLayers, mem_filter, rectIntersects_iff] at hl
  omega

section

variable (hb : b ∈ cur) (hf : b.frame = g.rect) (hw : 0 < g.width) (hd : d.OnScreen g)
include hb hf hw hd

/-- On the screen the background is in every band and in each of its subregions. -/
lemma band_sound {c : Int × Int} (hc : 0 ≤ c.1 ∧ c.1 < c.2 ∧ c.2 ≤ g.height) :
    (rgzGenBlitregions d ⟨0, c.1, g.width, c.2⟩ (bandLayers g cur c) g.width).Sound g := by
  have hband : b ∈ bandLayers g cur c := by
    simp only [bandLayers, mem_filter, rectIntersects_iff, hf, SurfGeom.rect]
    exact ⟨hb, by omega, by omega, by omega, by omega⟩
  refine ⟨?_, ?_, ?_⟩
  · constructor <;> simp only [rgzGenBlitregions] <;> omega
  · exact length_pos_of_mem hband |>.ne'
  · intro s hs ops bottom hops
    rw [rgzGenBlitregions_nsubregions] at hs
    obtain ⟨k, hk⟩ := mem_iff_getElem?.mp hband
    have hcol := List.getElem?_eq_getElem hs
    obtain ⟨he1, he2, he3⟩ := cell_onScreen hd.left hd.right
      (fun l hl => columns_of_mem_band hl) (List.mem_of_getElem? hcol)
    refine getLayerOpsFrom_pos (Or.inr ⟨k, (List.getElem?_eq_some_iff.mp hk).1, ?_⟩) hops
    rw [rgzGenBlitregions_blitrect hk hcol, emptyRect_blitRectOf he2, Bool.not_eq_false',
      rectIntersects_iff, hf]
    simp only [SurfGeom.rect]
    omega

/-- The bands of a frame are sound exactly if no layer lies below or above the screen. -/
lemma hregions_sound_iff : (∀ h ∈ hregionsOf g d cur, h.Sound g) ↔
      ∀ l ∈ cur, l.frame.top ≤ g.height ∧ 0 ≤ l.frame.bottom := by
  constructor
  · intro hsound l hl
    by_contra hoff
    obtain ⟨c, hc, hout⟩ := exists_cell_offScreen d.top d.bottom
      (fun l => l.frame.top) (fun l => l.frame.bottom) hb (by rw [hf]; rfl) (by rw [hf]; rfl)
       (Int.natCast_nonneg g.height) hl hoff
    have hrect := (hsound _ (mem_map_of_mem hc)).onScreen
    have htop := hrect.top
    have hbottom := hrect.bottom
    simp only [rgzGenBlitregions, hregionRect] at htop hbottom
    omega
  · intro hls h hh
    obtain ⟨i, hi⟩ := mem_iff_getElem?.mp hh
    rw [hregionsOf_getElem? hb hf] at hi
    obtain ⟨c, hc, rfl⟩ := Option.map_eq_some_iff.mp hi
    exact band_sound hb hf hw hd (cell_onScreen hd.top hd.bottom hls (List.mem_of_getElem? hc))

end

end Frame

/-- **Where the impossible branches are impossible.**  Let a list be accepted, from any state,
for a screen with its background.  Every band is on the screen and has a layer, and every
subregion a layer operation, exactly if no candidate of the list lies below or above the
screen. -/
theorem regions_on_screen_iff {p : RgzInParams} {r r' : Rgz} {layers : List ExtLayer}
    (hl : p.layers = some layers) (h : rgzIn .hwc p r = (rgzAll, r'))
    (hbg : p.bgLayer.displayFrame = p.dstgeom.rect) (hw : 0 < p.dstgeom.width) :
    (∀ hr ∈ r'.hregions, hr.Sound p.dstgeom) ↔ ∀ e ∈ layers, e.isCandidate = true →
        e.layer.displayFrame.top ≤ p.dstgeom.height ∧ 0 ≤ e.layer.displayFrame.bottom := by
  obtain ⟨layers', a, hl', hacc, ha, hr'⟩ := rgzIn_hwc_eq_all h
  obtain rfl : layers = layers' := Option.some.inj (hl.symm.trans hl')
  have hmap := rgzAdvance_cur_map (p := p) { r with stateInit := false } hacc
  rw [← ha, hbg] at hmap
  have hreg : r'.hregions = hregionsOf p.dstgeom a.damagedArea a.curFbState := by rw [hr']
  have hd : a.damagedArea.OnScreen p.dstgeom := by
    rw [ha]
    exact damagedArea_onScreen _ _ _ _
  -- the frame is the background and the candidates
  have hframes : a.curFbState.map RgzLayer.frame = p.dstgeom.rect ::
      (layers.filter ExtLayer.isCandidate).map fun e => e.layer.displayFrame := by
    simpa [Function.comp_def] using congrArg (map Prod.snd) hmap
  obtain ⟨b, hb, hf⟩ : ∃ b ∈ a.curFbState, b.frame = p.dstgeom.rect := by
    have hmem : p.dstgeom.rect ∈ a.curFbState.map RgzLayer.frame := by simp [hframes]
    exact mem_map.mp hmem
  rw [hreg, hregions_sound_iff hb hf hw hd]
  have hall : (∀ l ∈ a.curFbState, l.frame.top ≤ p.dstgeom.height ∧ 0 ≤ l.frame.bottom) ↔
      ∀ f ∈ a.curFbState.map RgzLayer.frame, f.top ≤ p.dstgeom.height ∧ 0 ≤ f.bottom :=
    (forall_mem_map (P := fun f : Rect => f.top ≤ p.dstgeom.height ∧ 0 ≤ f.bottom)).symm
  rw [hall, hframes]
  simp only [mem_cons, forall_eq_or_imp, forall_mem_map, mem_filter, and_imp]
  exact and_iff_right ⟨Int.natCast_nonneg _, Int.natCast_nonneg _⟩

theorem sampleOverlap_regions_on_screen : (rgzIn .hwc sampleOverlap Rgz.zero).1 = rgzAll ∧
      ∀ hr ∈ (rgzIn .hwc sampleOverlap Rgz.zero).2.hregions, hr.Sound sampleOverlap.dstgeom := by
  have haccepted : (rgzIn .hwc sampleOverlap Rgz.zero).1 = rgzAll := by decide
  refine ⟨haccepted, (regions_on_screen_iff (p := sampleOverlap) rfl
    (Prod.ext haccepted rfl : rgzIn .hwc sampleOverlap Rgz.zero = (rgzAll, _)) rfl
    (by decide)).mpr ?_⟩
  decide

/-- One layer, two rows below the screen. -/
def sampleBelow : RgzInParams := sampleParams [sampleLayer 1 ⟨0, 6, 2, 8⟩ .none]

/-- The list is accepted, but between the screen and the layer there is a band without a layer,
and the output stops at it. -/
theorem sampleBelow_fails : (rgzIn .hwc sampleBelow Rgz.zero).1 = rgzAll ∧
      (∃ hr ∈ (rgzIn .hwc sampleBelow Rgz.zero).2.hregions,
        hr.rect = ⟨0, 4, 4, 6⟩ ∧ hr.rgzLayers.length = 0) ∧
      (rgzOut .bvcmdRegion (rgzIn .hwc sampleBelow Rgz.zero).2
        ⟨sampleBelow.dstgeom, false⟩).map OutData.outBlits = .error .failed := by
  decide +kernel

end Solana
