import Solana.Hwc.System
import Solana.Lib.Planes
import Mathlib.Algebra.Group.End

/-!
# What a frame composed by SGX shows

A frame that SGX helps to compose shows some layers by overlays and the others in the
framebuffer, which is an overlay itself.  All of the framebuffer is at one z-order, so the scan
over the layers moves it up to its last layer, lets a later overlay in only if it is opaque, and
has it punched out of the framebuffer.

`SceneScan` is the loop invariant that describes the stacking.  `sgx_frame_shows_layers` is the
result: at every pixel, the overlays of the primary display in the order of their z-orders show
what painting all layers in list order would.  A layer is painted source-over; an overlay without
blending is assumed to be opaque.
-/

namespace Solana

open Compositing Fallible HwcLayer OvlInfo Function List

/-! ## The stacking -/

/-- Is the layer shown by an overlay? -/
def HwcLayer.isOverlay (l : HwcLayer) : Bool := l.compositionType = .overlay

/-- The layers shown by overlays. -/
def overlayLayers (layers : List HwcLayer) : List HwcLayer := layers.filter HwcLayer.isOverlay

lemma overlayLayers_append (ls ls' : List HwcLayer) :
    overlayLayers (ls ++ ls') = overlayLayers ls ++ overlayLayers ls' := by
  simp [overlayLayers]

/-- The window an overlay gets for the layer. -/
def HwcLayer.window (l : HwcLayer) : DssRect :=
  ⟨l.displayFrame.left, l.displayFrame.top, l.displayFrame.width, l.displayFrame.height⟩

/-- Overlays above a framebuffer layer are not blended, and what is not blended is punched out
of the framebuffer. -/
def Stacked (layers : List HwcLayer) : Prop :=
  ∀ pre l post, layers = pre ++ l :: post → l.isOverlay = true →
    (l.isBlended = true → ∀ x ∈ pre, x.isOverlay = true) ∧
      (l.isBlended = false → l.hints.clearFb = true)

/-- How the layers split at the framebuffer: with `some f`, the first `f` overlays come before the
last framebuffer layer, with `none` there is no framebuffer layer. -/
def SplitAt (layers : List HwcLayer) : Option Nat → Prop
  | none => ∀ l ∈ layers, l.isOverlay = true
  | some f => ∃ pre fb post, layers = pre ++ fb :: post ∧ fb.isOverlay = false ∧
      (overlayLayers pre).length = f ∧ ∀ l ∈ post, l.isOverlay = true

/-- The invariant of the scan when SGX draws the framebuffer, about the layers it has seen. -/
structure SceneScan (s : Scan) : Prop where
  count : s.ovls.length = (overlayLayers s.layers).length + 1
  split : SplitAt s.layers s.fbZ
  stacked : Stacked s.layers
  buffers : ∀ (j : Nat) (l : HwcLayer), (overlayLayers s.layers)[j]? = some l →
    s.buffers (j + 1) = l.handle
  windows : ∀ (j : Nat) (l : HwcLayer) (o : OvlInfo), (overlayLayers s.layers)[j]? = some l →
    s.ovls[j + 1]? = some o → o.cfg.win = l.window
  marked : ∀ l ∈ s.layers, l.compositionType = .framebuffer ∨
    (l.compositionType = .overlay ∧ l.hints.tripleBuffer = true)

variable {layers : List HwcLayer} {l : HwcLayer}

lemma Stacked.concat (h : Stacked layers)
    (hl : l.isOverlay = true → (l.isBlended = true → ∀ x ∈ layers, x.isOverlay = true) ∧
      (l.isBlended = false → l.hints.clearFb = true)) : Stacked (layers ++ [l]) := by
  intro pre x post he hx
  rcases eq_nil_or_concat post with rfl | ⟨post', y, rfl⟩
  · obtain ⟨rfl, rfl⟩ := append_inj' he rfl |>.imp id fun h => singleton_inj.mp h
    exact hl hx
  · have he' : layers ++ [l] = (pre ++ x :: post') ++ [y] := by
      rw [he]
      simp
    exact h pre x post' (append_inj' he' rfl).1 hx

lemma SplitAt.concat {fbZ : Option Nat} (h : SplitAt layers fbZ) (hl : l.isOverlay = true) :
    SplitAt (layers ++ [l]) fbZ := by
  have hmem : ∀ {xs : List HwcLayer}, (∀ x ∈ xs, x.isOverlay = true) →
      ∀ x ∈ xs ++ [l], x.isOverlay = true := by
    intro xs hxs
    rw [forall_mem_append]
    exact ⟨hxs, by simpa using hl⟩
  cases fbZ with
  | none => exact hmem h
  | some f =>
    obtain ⟨pre, fb, post, he, hfb, hlen, hpost⟩ := h
    exact ⟨pre, fb, post ++ [l], by rw [he]; simp, hfb, hlen, hmem hpost⟩

lemma SceneScan.start (dev : HwcDev) : SceneScan (.start dev true) where
  count := rfl
  split := by simp [Scan.start, SplitAt]
  stacked := by
    intro pre l post he
    simp [Scan.start] at he
  buffers j l h := by simp [Scan.start, overlayLayers] at h
  windows j l o h := by simp [Scan.start, overlayLayers] at h
  marked l h := by simp [Scan.start] at h

variable {dev : HwcDev} {s : Scan}

lemma SceneScan.overlay (h : SceneScan s) (hsgx : SgxScan dev s) (hdev : dev.useSgx = true)
    {layer : HwcLayer} {handle : NativeHandle} (ht : takesOverlay dev s layer handle = true) :
    SceneScan (overlayLayer dev s layer handle) := by
  obtain ⟨-, -, -, hblend⟩ := takesOverlay_spec ht
  have happ := hsgx.appendOvl_eq layer handle
  set l := overlaidLayer dev layer with hl
  have hov : l.isOverlay = true := rfl
  have hnew : overlayLayers (s.layers ++ [l]) = overlayLayers s.layers ++ [l] := by
    simp [overlayLayers, hov]
  have hcount := h.count
  constructor
  · simp only [overlayLayer, happ, ← hl, hnew, length_append, length_singleton, h.count]
  · exact h.split.concat hov
  · refine h.stacked.concat fun _ => ⟨fun hb => ?_, fun hb => ?_⟩
    · -- a blended layer is let in only while no framebuffer layer has been seen
      have hnone : s.fbZ = none := by
        cases hf : s.fbZ with
        | none => rfl
        | some f =>
          have hno := hblend (by simp [hf])
          have hb' : layer.isBlended = true := hb
          rw [hno] at hb'
          cases hb'
      have := h.split
      rw [hnone] at this
      exact this
    · have hb' : layer.isBlended = false := hb
      simp [overlaidLayer, hdev, hb']
  · intro j x hx
    simp only [overlayLayer, ← hl, hnew] at hx ⊢
    rcases getElem?_concat_cases hx with hx | ⟨rfl, rfl⟩
    · have hj := (List.getElem?_eq_some_iff.mp hx).1
      rw [update_of_ne (by omega)]
      exact h.buffers j x hx
    · rw [hcount, update_self]
      rfl
  · intro j x o hx ho
    simp only [overlayLayer, happ, ← hl, hnew] at hx ho
    rcases getElem?_concat_cases hx with hx | ⟨rfl, rfl⟩
    · have hj := (List.getElem?_eq_some_iff.mp hx).1
      rw [List.getElem?_append_left (by omega)] at ho
      exact h.windows j x o hx ho
    · rw [← hcount, List.getElem?_concat_length] at ho
      rw [← Option.some.inj ho]
      rfl
  · intro x hx
    rcases mem_append.mp hx with hx | hx
    · exact h.marked x hx
    · rw [mem_singleton.mp hx]
      exact Or.inr ⟨rfl, rfl⟩

lemma SceneScan.framebuffer (h : SceneScan s) (hsgx : SgxScan dev s) {layer : HwcLayer}
    (hcomp : layer.compositionType = .framebuffer) : SceneScan (framebufferLayer s layer) := by
  have hl : layer.isOverlay = false := by simp [isOverlay, hcomp]
  have hsame : overlayLayers (s.layers ++ [layer]) = overlayLayers s.layers := by
    simp [overlayLayers, hl]
  obtain ⟨ovls, he, hlen, hget⟩ := hsgx.framebufferLayer_eq layer
  rw [he]
  constructor
  · simp only [hlen, hsame, h.count]
  · -- the framebuffer goes above every overlay there is
    refine ⟨s.layers, layer, [], rfl, hl, ?_, by simp⟩
    rw [h.count, Nat.add_sub_cancel]
  · exact h.stacked.concat fun hov => absurd (hl.symm.trans hov) Bool.false_ne_true
  · simp only [hsame]
    exact h.buffers
  · intro j l o hx ho
    simp only [hsame] at hx
    obtain ⟨p, hp, rfl⟩ := hget j o ho
    exact h.windows j l p hx hp
  · intro x hx
    rcases mem_append.mp hx with hx | hx
    · exact h.marked x hx
    · rw [mem_singleton.mp hx]
      exact Or.inl hcomp

/-- **The stacking after the scan** over layers marked for the framebuffer. -/
lemma sceneScan (hsgx : dev.useSgx = true)
    (hmarked : ∀ l ∈ layers, l.compositionType = .framebuffer) :
    SceneScan (scanLayers dev true layers) := by
  have hall : ∀ (ls : List HwcLayer) (s : Scan), (∀ l ∈ ls, l.compositionType = .framebuffer) →
      SgxScan dev s → SceneScan s → SceneScan (ls.foldl (scanLayer dev) s) := by
    intro ls
    induction ls with
    | nil => exact fun s _ _ h => h
    | cons l ls ih =>
      intro s hls hs h
      rw [foldl_cons]
      have htail : ∀ x ∈ ls, x.compositionType = .framebuffer :=
        fun x hx => hls x (by simp [hx])
      rcases scanLayer_cases dev s l with ⟨handle, -, ht, he⟩ | ⟨-, he⟩ | ⟨hno, -⟩
      · rw [he]
        exact ih _ htail (hs.overlay ht) (h.overlay hs hsgx ht)
      · rw [he]
        exact ih _ htail (hs.framebuffer l) (h.framebuffer hs (hls l (by simp)))
      · rw [hsgx] at hno
        cases hno
  exact hall layers _ hmarked (.start dev dev) (.start dev)

/-- The framebuffer goes between two parts of the list. -/
lemma SceneScan.exists_split (h : SceneScan s) (hsgx : SgxScan dev s) :
    ∃ pre post, s.layers = pre ++ post ∧ (overlayLayers pre).length = s.fbZorder ∧
      (∀ l ∈ post, l.isOverlay = true) ∧ (post ≠ [] → ∃ x ∈ pre, x.isOverlay = false) := by
  have hsplit := h.split
  have hz := hsgx.z
  have hcount := h.count
  unfold Scan.fbZorder
  cases hf : s.fbZ with
  | none =>
    simp only [hf, Option.isSome_none, Bool.false_eq_true, if_false] at hz
    exact ⟨s.layers, [], by simp, by simp only [Option.getD_none]; omega, by simp, by simp⟩
  | some f =>
    rw [hf] at hsplit
    obtain ⟨pre, fb, post, he, hfb, hlen, hpost⟩ := hsplit
    refine ⟨pre ++ [fb], post, by simp [he], ?_, hpost, fun _ => ⟨fb, by simp, hfb⟩⟩
    rw [overlayLayers_append, length_append, hlen]
    simp [overlayLayers, hfb]

/-- Which overlays are below the framebuffer. -/
lemma SceneScan.below_iff (h : SceneScan s) (hsgx : SgxScan dev s) {pre post : List HwcLayer}
    (he : s.layers = pre ++ l :: post) (hl : l.isOverlay = true) :
    (overlayLayers pre).length < s.fbZorder ↔
      (∃ x ∈ post, x.isOverlay = false) ∨ ∀ x ∈ s.layers, x.isOverlay = true := by
  have hsplit := h.split
  have hz := hsgx.z
  have hcount := h.count
  have hlen : (overlayLayers (pre ++ l :: post)).length =
      (overlayLayers pre).length + 1 + (overlayLayers post).length := by
    simp [overlayLayers, hl]
    omega
  unfold Scan.fbZorder
  cases hf : s.fbZ with
  | none =>
    simp only [hf, Option.isSome_none, Bool.false_eq_true, if_false] at hz
    rw [hf] at hsplit
    rw [he, hlen] at hcount
    simp only [Option.getD_none]
    exact iff_of_true (by omega) (Or.inr hsplit)
  | some f =>
    rw [hf] at hsplit
    obtain ⟨pre', fb, post', he', hfb, rfl, hpost⟩ := hsplit
    simp only [Option.getD_some]
    -- the overlay stands on one side of the last framebuffer layer
    rcases append_eq_append_iff.mp (he.symm.trans he') with
      ⟨mid, hmid, hrest⟩ | ⟨mid, hmid, hrest⟩
    · cases mid with
      | nil =>
        obtain ⟨rfl, -⟩ := cons.inj hrest
        rw [hl] at hfb
        cases hfb
      | cons x mid =>
        obtain ⟨rfl, rfl⟩ := cons.inj hrest
        refine iff_of_true ?_ (Or.inl ⟨fb, by simp, hfb⟩)
        rw [hmid]
        simp [overlayLayers, hl]
    · cases mid with
      | nil =>
        obtain ⟨rfl, -⟩ := cons.inj hrest
        rw [hl] at hfb
        cases hfb
      | cons x mid =>
        obtain ⟨rfl, rfl⟩ := cons.inj hrest
        refine iff_of_false ?_ ?_
        · rw [hmid, overlayLayers_append, length_append]
          omega
        · rintro (⟨y, hy, hno⟩ | hall)
          · rw [hpost y (by simp [hy])] at hno
            cases hno
          · have := hall fb (by rw [he']; simp)
            rw [hfb] at this
            cases this

/-! ## The picture -/

section
variable {α : Type*} [Monoid α] (sample : HwcLayer → Pixel → α) (p : Pixel)

/-- What a layer contributes to a pixel.  It does not depend on how the layer is composed. -/
def layerPixel (l : HwcLayer) : α := if l.displayFrame.Contains p then sample l.bare p else 1

/-- The layer as a part of the scene at a pixel. -/
def layerItem (l : HwcLayer) : Item α :=
  if l.isOverlay then
    .overlay (layerPixel sample p l) (l.hints.clearFb && decide (l.displayFrame.Contains p))
  else .plane (layerPixel sample p l)

/-- The framebuffer: the layers left to it, drawn in list order on a transparent buffer, with the
holes of the overlays. -/
def framebufferPixel (layers : List HwcLayer) : α := planeValue (layers.map (layerItem sample p))

/-- The primary display at a pixel, when its first overlay shows the framebuffer and the others
the layers marked for overlays. -/
def primaryPixel (d : Dsscomp) (layers : List HwcLayer) : α :=
  stack (byHeight ((zorders (d.managed 0)).zip
    (framebufferPixel sample p layers :: (overlayLayers layers).map (layerPixel sample p))))

/-- All layers painted in list order. -/
def paintedPixel (layers : List HwcLayer) : α := stack (layers.map (layerPixel sample p))

/-- Overlays without blending are opaque. -/
def Solid (layers : List HwcLayer) : Prop :=
  ∀ l ∈ overlayLayers layers, l.isBlended = false → ∀ q, l.displayFrame.Contains q →
    Absorbs (sample l.bare q)

@[simp] lemma layerItem_value (l : HwcLayer) :
    (layerItem sample p l).value = layerPixel sample p l := by
  unfold layerItem
  split_ifs <;> rfl

@[simp] lemma layerItem_isPlane (l : HwcLayer) : (layerItem sample p l).isPlane = !l.isOverlay := by
  unfold layerItem
  cases hl : l.isOverlay <;> rfl

lemma overlayValues_layerItem (layers : List HwcLayer) :
    overlayValues (layers.map (layerItem sample p)) =
      (overlayLayers layers).map (layerPixel sample p) := by
  simp [overlayValues, overlayLayers, filter_map, comp_def]

lemma paintedPixel_congr {layers layers' : List HwcLayer} (h : layers.map bare = layers'.map bare) :
    paintedPixel sample p layers = paintedPixel sample p layers' := by
  have hbare : ∀ ls : List HwcLayer,
      ls.map (layerPixel sample p) = (ls.map bare).map (layerPixel sample p) := by
    intro ls
    rw [map_map]
    rfl
  rw [paintedPixel, paintedPixel, hbare, h, ← hbare]

variable {sample p}

/-- An opaque overlay with the hint punches the framebuffer where it is. -/
lemma layerItem_punches (hsolid : Solid sample layers) (hl : l ∈ layers) (hov : l.isOverlay = true)
    (hb : l.isBlended = false) (hclear : l.hints.clearFb = true) :
    (layerItem sample p l).Punches := by
  have hmem : l ∈ overlayLayers layers := mem_filter.mpr ⟨hl, hov⟩
  simp only [layerItem, hov, if_true, hclear, Bool.true_and, layerPixel, Item.Punches]
  by_cases hp : l.displayFrame.Contains p
  · exact Or.inl ⟨by rw [if_pos hp]; exact hsolid l hmem hb p hp, by simpa using hp⟩
  · exact Or.inr ⟨if_neg hp, by simpa using hp⟩

lemma Stacked.wellStacked (h : Stacked layers) (hsolid : Solid sample layers) :
    WellStacked (layers.map (layerItem sample p)) := by
  intro items i rest he hi
  obtain ⟨pre, tail, rfl, rfl, htail⟩ := map_eq_append_iff.mp he
  obtain ⟨l, post, rfl, rfl, rfl⟩ := map_eq_cons_iff.mp htail
  have hov : l.isOverlay = true := by simpa using hi
  obtain ⟨hblend, hclear⟩ := h pre l post rfl hov
  cases hb : l.isBlended with
  | true =>
    refine Or.inl fun j hj => ?_
    obtain ⟨x, hx, rfl⟩ := mem_map.mp hj
    simp [hblend hb x hx]
  | false => exact Or.inr (layerItem_punches hsolid (by simp) hov hb (hclear hb))

/-- **The scan's stacking shows the painted picture.** -/
lemma SceneScan.pixel (h : SceneScan s) (hsgx : SgxScan dev s) (hsolid : Solid sample s.layers) :
    stack (byHeight ((s.fbZorder ::
      (range (overlayLayers s.layers).length).map (zAt (some s.fbZorder))).zip
        (framebufferPixel sample p s.layers ::
          (overlayLayers s.layers).map (layerPixel sample p)))) =
      paintedPixel sample p s.layers := by
  obtain ⟨pre, post, he, hlen, hpost, hfb⟩ := h.exists_split hsgx
  have hstacked := h.stacked
  rw [he] at hstacked hsolid ⊢
  have hovs := overlayLayers_append pre post
  have hle : s.fbZorder ≤ ((overlayLayers (pre ++ post)).map (layerPixel sample p)).length := by
    rw [hovs, length_map, length_append]
    omega
  have hins := byHeight_insert hle (framebufferPixel sample p (pre ++ post))
  rw [length_map] at hins
  have hwell : WellStacked (pre.map (layerItem sample p)) := by
    have := hstacked.wellStacked (p := p) hsolid
    rw [map_append] at this
    exact this.of_append
  have hpunch : ∀ i ∈ post.map (layerItem sample p), i.Punches := by
    intro i hi
    obtain ⟨l, hl, rfl⟩ := mem_map.mp hi
    obtain ⟨a, b, rfl⟩ := append_of_mem hl
    obtain ⟨hblend, hclear⟩ := hstacked (pre ++ a) l b (by simp) (hpost l hl)
    -- a framebuffer layer comes first, so the overlay is not blended
    have hb : l.isBlended = false := by
      by_contra hb
      obtain ⟨x, hx, hno⟩ := hfb (by simp)
      rw [hblend (by simpa using hb) x (by simp [hx])] at hno
      cases hno
    exact layerItem_punches hsolid (by simp) (hpost l hl) hb (hclear hb)
  have hpicture := stack_planes hwell hpunch
  rw [overlayValues_layerItem, overlayValues_layerItem, ← map_append] at hpicture
  have htake : ((overlayLayers (pre ++ post)).map (layerPixel sample p)).take s.fbZorder =
      (overlayLayers pre).map (layerPixel sample p) := by
    rw [hovs, map_append, take_left' (by rw [length_map, hlen])]
  have hdrop : ((overlayLayers (pre ++ post)).map (layerPixel sample p)).drop s.fbZorder =
      (overlayLayers post).map (layerPixel sample p) := by
    rw [hovs, map_append, drop_left' (by rw [length_map, hlen])]
  rw [htake, hdrop] at hins
  refine (congrArg stack hins).trans (hpicture.trans ?_)
  rw [paintedPixel, map_map]
  refine congrArg stack (map_congr_left fun l _ => ?_)
  simp

end

/-! ## The frame -/

lemma adjustPrimary_append (dev : HwcDev) (ovls ovls' : List OvlInfo) :
    adjustPrimary dev (ovls ++ ovls') = adjustPrimary dev ovls ++ adjustPrimary dev ovls' := by
  unfold adjustPrimary
  split_ifs <;> simp

lemma mgrIx_of_mem_adjustPrimary {ovls : List OvlInfo} {mgr : Nat}
    (h : ∀ o ∈ ovls, o.cfg.mgrIx = mgr) : ∀ o ∈ adjustPrimary dev ovls, o.cfg.mgrIx = mgr := by
  intro o ho
  have hmem : o.placement ∈ ovls.map placement := by
    rw [← adjustPrimary_placement dev]
    exact mem_map_of_mem ho
  obtain ⟨q, hq, he⟩ := mem_map.mp hmem
  simp only [placement, Prod.mk.injEq] at he
  rw [← he.2.2.1]
  exact h q hq

lemma Cloned.managed_zero {d dev' : HwcDev} {prim cs : List OvlInfo} (h : Cloned d prim cs dev')
    (hnum : dev'.dsscomp.numOvls ≠ 0) (hprim : ∀ o ∈ prim, o.cfg.mgrIx = 0) :
    dev'.dsscomp.managed 0 = adjustPrimary d prim := by
  have hn : dev'.dsscomp.numOvls = dev'.dsscomp.ovls.length := h.numOvls.resolve_left hnum
  rw [Dsscomp.managed, hn, take_length, h.ovls, adjustPrimary_append, filter_append,
    filter_eq_self.mpr, filter_eq_nil_iff.mpr, append_nil]
  · intro o ho
    simp [mgrIx_of_mem_adjustPrimary h.clones.mgrIx o ho]
  · intro o ho
    simp [mgrIx_of_mem_adjustPrimary hprim o ho]

/-- The scene a frame composed by SGX presents on the primary display, for the list it was
given and the layers as `hwc_prepare` marked them. -/
structure SgxScene {α : Type*} [Monoid α] (sample : HwcLayer → Pixel → α) (dev : HwcDev)
    (list layers : List HwcLayer) : Prop where
  /-- The display shows what painting the list would. -/
  pixel : ∀ p, primaryPixel sample p dev.dsscomp layers = paintedPixel sample p list
  /-- Behind the framebuffer's, the overlays are those of the layers in list order. -/
  shows : ∀ (j : Nat) (l : HwcLayer), (overlayLayers layers)[j]? = some l →
    ∃ o, (dev.dsscomp.managed 0)[j + 1]? = some o ∧ o.addressing = .layerIx ∧
      dev.buffers o.ba = l.handle ∧ (dev.primaryTransform = 0 → o.cfg.win = l.window)
  increasing : (zorders (dev.dsscomp.managed 0)).tail.Pairwise (· < ·)
  /-- An overlay is below the framebuffer exactly if a framebuffer layer follows it, or if no
  layer is left to the framebuffer. -/
  below : ∀ pre l post, layers = pre ++ l :: post → l.isOverlay = true →
    ∃ z fbZ, (zorders (dev.dsscomp.managed 0))[(overlayLayers pre).length + 1]? = some z ∧
      (zorders (dev.dsscomp.managed 0))[0]? = some fbZ ∧
      (z < fbZ ↔ (∃ x ∈ post, x.isOverlay = false) ∨ ∀ x ∈ layers, x.isOverlay = true)

lemma zAt_strictMono (f : Nat) : StrictMono (zAt (some f)) := by
  intro a b hab
  simp only [zAt]
  split_ifs <;> omega

lemma zAt_lt_iff {f k : Nat} : zAt (some f) k < f ↔ k < f := by
  simp only [zAt]
  split_ifs <;> omega

lemma SceneScan.entry (h : SceneScan s) (hsgx : SgxScan dev s)
    (hfmt : dev.fbDev.format.isValid = true) {j : Nat}
    (hl : (overlayLayers s.layers)[j]? = some l) :
    ∃ o, (adjustPrimary dev (placeFb dev true s).1)[j + 1]? = some o ∧ o.addressing = .layerIx ∧
      o.ba = j + 1 ∧ (dev.primaryTransform = 0 → o.cfg.win = l.window) := by
  have hcount := h.count
  have hplan : PrimaryPlan dev [] (placeFb dev true s).1 (placeFb dev true s).2 :=
    primaryPlan_of_sgx hsgx hfmt
  obtain ⟨q, rest, hovls, hplaced⟩ := hsgx.placeFb_eq
  have hj := (List.getElem?_eq_some_iff.mp hl).1
  have hlen : s.ovls.length = rest.length + 1 := by rw [hovls]; rfl
  -- the entry that the scan made for the layer
  obtain ⟨o, ho⟩ : ∃ o, rest[j]? = some o := ⟨_, List.getElem?_eq_getElem (by omega)⟩
  have hprimo : (placeFb dev true s).1[j + 1]? = some o := by rw [hplaced]; exact ho
  have hscan : s.ovls[j + 1]? = some o := by rw [hovls]; exact ho
  have hplj := congrArg (fun ps => ps[j + 1]?)
    (adjustPrimary_placement dev (placeFb dev true s).1)
  simp only [List.getElem?_map, hprimo, Option.map_some] at hplj
  obtain ⟨o', ho', hpl⟩ := Option.map_eq_some_iff.mp hplj
  simp only [placement, Prod.mk.injEq] at hpl
  obtain ⟨-, -, -, hadr, hba⟩ := hpl
  have hentry := hplan.entry (j + 1) o hprimo
  refine ⟨o', ho', by rw [hadr, hentry.addressing], by rw [hba, hentry.ba], fun h0 => ?_⟩
  -- nothing is adjusted on an untransformed display
  have : o' = o := by
    rw [adjustPrimary, if_neg (by simp [h0]), hprimo] at ho'
    exact (Option.some.inj ho').symm
  rw [this]
  exact h.windows j l o hl hscan

/-- The end of `hwc_prepare` turns the scan's stacking into a scene. -/
lemma SceneScan.scene {α : Type*} [Monoid α] {sample : HwcLayer → Pixel → α} {dev dev' : HwcDev}
    {cs : List OvlInfo} (h : SceneScan s) (hsgx : SgxScan dev s)
    (hfmt : dev.fbDev.format.isValid = true) (hcloned : Cloned dev (placeFb dev true s).1 cs dev')
    (hnum : dev'.dsscomp.numOvls ≠ 0) (hbuf : ∀ j, dev'.buffers (j + 1) = s.buffers (j + 1))
    (htr : dev'.primaryTransform = dev.primaryTransform) (hsolid : Solid sample s.layers) :
    SgxScene sample dev' s.layers s.layers := by
  have hcount := h.count
  have hplan : PrimaryPlan dev [] (placeFb dev true s).1 (placeFb dev true s).2 :=
    primaryPlan_of_sgx hsgx hfmt
  have hprim : ∀ o ∈ (placeFb dev true s).1, o.cfg.mgrIx = 0 := by
    intro o ho
    obtain ⟨j, hj⟩ := List.getElem?_of_mem ho
    exact (hplan.entry j o hj).mgrIx
  have hman := hcloned.managed_zero hnum hprim
  have hplace : (dev'.dsscomp.managed 0).map placement = (placeFb dev true s).1.map placement := by
    rw [hman, adjustPrimary_placement]
  have hz : zorders (dev'.dsscomp.managed 0) = s.fbZorder ::
      (range (overlayLayers s.layers).length).map (zAt (some s.fbZorder)) := by
    have hzs : ∀ ovls : List OvlInfo, zorders ovls = (ovls.map placement).map fun q => q.2.1 := by
      intro ovls
      rw [map_map]
      rfl
    rw [hzs, hplace, ← hzs, hsgx.zorders_placeFb hfmt, hcount, Nat.add_sub_cancel]
  refine ⟨fun p => ?_, fun j l hl => ?_, ?_, fun pre l post he hl => ?_⟩
  · rw [primaryPixel, hz]
    exact h.pixel hsgx hsolid
  · obtain ⟨o, ho, hadr, hba, hwin⟩ := h.entry hsgx hfmt hl
    rw [← hman] at ho
    exact ⟨o, ho, hadr, by rw [hba, hbuf, h.buffers j l hl], fun h0 => hwin (by rw [← htr, h0])⟩
  · rw [hz, tail_cons, pairwise_map]
    exact pairwise_lt_range.imp fun hab => zAt_strictMono _ hab
  · have hpre : (overlayLayers pre).length < (overlayLayers s.layers).length := by
      rw [he, overlayLayers_append]
      simp [overlayLayers, hl]
    refine ⟨zAt (some s.fbZorder) (overlayLayers pre).length, s.fbZorder, ?_, by rw [hz]; rfl, ?_⟩
    · rw [hz]
      simp [hpre]
    · rw [zAt_lt_iff, h.below_iff hsgx he hl]

lemma listLayers_withLayers {list : Option LayerList} (h : list = none → layers = []) :
    listLayers (withLayers list layers) = layers := by
  cases list with
  | none => exact (h rfl).symm
  | some list => rfl

lemma frameLayers_bare (list : Option LayerList) :
    (frameLayers list).map bare = (listLayers list).map bare := by
  cases list with
  | none => rfl
  | some list =>
    show (list.layers.map _).map _ = list.layers.map _
    rw [map_map]
    rfl

lemma compositionType_of_mem_frameLayers {list : Option LayerList} (h : l ∈ frameLayers list) :
    l.compositionType = .framebuffer := by
  cases list with
  | none => cases h
  | some list =>
    obtain ⟨x, -, rfl⟩ := mem_map.mp h
    rfl

/-- **A frame composed by SGX and overlays shows its layers**, for every list and every state of
the device, provided that overlays without blending are opaque. -/
theorem sgx_frame_shows_layers {α : Type*} [Monoid α] (sample : HwcLayer → Pixel → α)
    {env : PrepareEnv} {list list' : Option LayerList} {dev dev' : HwcDev}
    (h : hwcPrepare env list dev = .ok (dev', list'))
    (hfmt : dev.fbDev.format.isValid = true) (hsgx : dev'.useSgx = true)
    (hnum : dev'.dsscomp.numOvls ≠ 0) (hsolid : Solid sample (listLayers list')) :
    SgxScene sample dev' (listLayers list) (listLayers list') := by
  have hout : Outcome env (list.map LayerList.marked) (startDev dev list) dev' list' :=
    composeFrame_ok h
  cases hout with
  | blitAll q out _ _ hdev _ => subst hdev; cases hsgx
  | blitRest s q out _ _ _ _ hdev _ => subst hdev; cases hsgx
  | noBlit s hs hdev hlist =>
    have hsgx₁ : (startDev dev list).useSgx = true := by subst hdev; exact hsgx
    rw [hsgx₁] at hs hdev
    have hscan : SgxScan (startDev dev list) s := hs ▸ sgxScan hsgx₁ _
    have hscene : SceneScan s := hs ▸ sceneScan hsgx₁ fun l => compositionType_of_mem_frameLayers
    have hlayers : listLayers list' = s.layers := by
      rw [hlist, listLayers_withLayers]
      intro hnone
      rw [hs, hnone]
      rfl
    rw [hlayers] at hsolid ⊢
    have hplan : PrimaryPlan (startDev dev list) [] (placeFb (startDev dev list) true s).1
      (placeFb (startDev dev list) true s).2 := primaryPlan_of_sgx hscan hfmt
    -- the device whose overlays are cloned differs from that of the start in buffers only
    obtain ⟨d, hcore, hbuf, hd⟩ : ∃ d : HwcDev, d.core = (startDev dev list).core ∧
        d.buffers = update s.buffers 0 .null ∧
        dev' = setupDsscomp env d (placeFb (startDev dev list) true s).1
          (placeFb (startDev dev list) true s).2 s.ixDocking := by
      refine ⟨_, ?_, ?_, hdev⟩
      · rfl
      · simp only [and_self, if_true]
    rw [hplan.z] at hd
    obtain ⟨cs, hcloned⟩ := setupDsscomp_cloned (d := d) hplan.zorders env s.ixDocking
    rw [← hd] at hcloned
    have hpainted : (listLayers list).map bare = s.layers.map bare := by
      rw [hs, scanLayers_bare]
      exact (frameLayers_bare list).symm
    have hfinal : SgxScene sample dev' s.layers s.layers := by
      refine hscene.scene hscan hfmt (hcloned.congr hcore) hnum (fun j => ?_) ?_ hsolid
      · subst hd
        show d.buffers (j + 1) = _
        rw [hbuf, update_of_ne (Nat.succ_ne_zero j)]
      · subst hd
        have : d.core.primaryTransform = (startDev dev list).core.primaryTransform := by
          rw [hcore]
        exact this
    exact ⟨fun p => (hfinal.pixel p).trans (paintedPixel_congr sample p hpainted.symm),
      hfinal.shows, hfinal.increasing, hfinal.below⟩

/-! ## A framebuffer without layers -/

/-- A layer with protected contents, which SGX cannot read. -/
def sampleProtected (id : Nat) (frame : Rect) : HwcLayer :=
  { (sampleLayer id frame .none).layer with
    handle := .native ⟨id, 4, 4, .rgba8888, true, false⟩ }

/-- A frame of two layers, after which the screen idles and SGX is forced. -/
def sampleIdle : List Event :=
  sampleFrame [(sampleLayer 1 ⟨0, 0, 4, 4⟩ .none).layer,
    (sampleLayer 2 ⟨0, 0, 2, 2⟩ .none).layer] ++ [.idle]

/-- Opaque layers in two colours, `true` for those at the corner of the screen. -/
def sampleScene : HwcLayer → Pixel → Function.End Bool :=
  fun l _ => fun _ => decide (l.displayFrame.left = 0)

/-- A protected layer over one that is left to the framebuffer. -/
theorem protected_frame_shows_layers : ∃ s dev' list', System.Reachable s ∧
      hwcPrepare sampleEnv (sampleList [(sampleLayer 1 ⟨0, 0, 4, 4⟩ .none).layer,
        sampleProtected 2 ⟨1, 1, 3, 3⟩]) s.dev = .ok (dev', list') ∧
      (listLayers list').map HwcLayer.isOverlay = [false, true] ∧
      SgxScene sampleScene dev' [(sampleLayer 1 ⟨0, 0, 4, 4⟩ .none).layer,
        sampleProtected 2 ⟨1, 1, 3, 3⟩] (listLayers list') := by
  obtain ⟨s, hr, hprep⟩ : ∃ s, System.Reachable s ∧
      (hwcPrepare sampleEnv (sampleList [(sampleLayer 1 ⟨0, 0, 4, 4⟩ .none).layer,
        sampleProtected 2 ⟨1, 1, 3, 3⟩]) s.dev).map
        (fun r => (r.1.useSgx, r.1.dsscomp.numOvls, (listLayers r.2).map isOverlay)) =
      .ok (true, 2, [false, true]) :=
    Runs.exists_of_run ⟨sampleOpen false .disabled, rfl⟩ sampleIdle (by decide +kernel)
  obtain ⟨⟨dev', list'⟩, hok, hv⟩ := exists_of_map_eq_ok hprep
  simp only [Prod.mk.injEq] at hv
  obtain ⟨hsgx, hnum, hl⟩ := hv
  exact ⟨s, dev', list', hr, hok, hl,
    sgx_frame_shows_layers sampleScene hok (devOk_of_reachable hr).fbFormat hsgx
      (by rw [hnum]; decide) fun _ _ _ _ _ _ => rfl⟩

/-- Forced to use SGX for one protected layer, the composer shows it by an overlay and puts an
empty framebuffer on top: the overlay is below it although no framebuffer layer follows. -/
theorem overlay_below_empty_framebuffer :
    ∃ s env list dev' list', System.Reachable s ∧ hwcPrepare env list s.dev = .ok (dev', list') ∧
      dev'.useSgx = true ∧ dev'.dsscomp.numOvls ≠ 0 ∧
      ¬ ∀ pre l post, listLayers list' = pre ++ l :: post → l.isOverlay = true →
        ∃ z fbZ, (zorders (dev'.dsscomp.managed 0))[(overlayLayers pre).length + 1]? = some z ∧
          (zorders (dev'.dsscomp.managed 0))[0]? = some fbZ ∧
          (z < fbZ ↔ ∃ x ∈ post, x.isOverlay = false) := by
  obtain ⟨s, hr, hprep⟩ : ∃ s, System.Reachable s ∧
      (hwcPrepare sampleEnv (sampleList [sampleProtected 1 ⟨0, 0, 4, 4⟩]) s.dev).map
        (fun r => (r.1.useSgx, r.1.dsscomp.numOvls, zorders (r.1.dsscomp.managed 0),
          (listLayers r.2).map isOverlay)) = .ok (true, 2, [1, 0], [true]) :=
    Runs.exists_of_run ⟨sampleOpen false .disabled, rfl⟩ sampleIdle (by decide +kernel)
  obtain ⟨⟨dev', list'⟩, hok, hv⟩ := exists_of_map_eq_ok hprep
  simp only [Prod.mk.injEq] at hv
  obtain ⟨hsgx, hnum, hz, hl⟩ := hv
  refine ⟨s, _, _, dev', list', hr, hok, hsgx, by rw [hnum]; decide, fun hall => ?_⟩
  obtain ⟨l, rest, hlist, hov, hrest⟩ := map_eq_cons_iff.mp hl
  obtain rfl := map_eq_nil_iff.mp hrest
  obtain ⟨z, fbZ, h1, h2, hiff⟩ := hall [] l [] hlist hov
  rw [hz] at h1 h2
  obtain rfl : 0 = z := Option.some.inj h1
  obtain rfl : 1 = fbZ := Option.some.inj h2
  simp at hiff

end Solana
