import Solana.Rgz.Execution

/-!
# Which source pixel a blit shows

A layer is drawn by one blit for its whole frame or by a blit for each of its subregions, and both
have to show the same picture.  A blit pairs the pixels of its source and destination rectangles,
each in the view its surface is described in.  The blitter itself is not in the repository, and what
it makes of a flip flag is a parameter here (`Blitter`).

Turning is taken into account by the code in both places where it occurs: the source rectangle of
a subregion is looked up in the frame turned back, and the source or, for NV12, the destination
is described turned.  So a layer without flip flags is drawn right by every blitter.  Flipping is
not: the source rectangle of a subregion is the one of the layer without the flip.  That is right if
the flag flips the whole surface.  If it reverses the order within the source rectangle, a flipped
layer, which only NV12 can be, is drawn right only where the subregion lies in the middle of the
frame (`subregion_source_iff`).
-/

namespace Solana

open BltEntry Rect

/-! ## The meaning of a blit -/

/-- A pixel in the view of a surface that is turned. -/
def turnPixel (outer : Rect) (o : Int) (px : Pixel) : Pixel :=
  let v := rgzGetRotatedView outer ⟨px.x, px.y, px.x + 1, px.y + 1⟩ o
  ⟨v.left, v.top⟩

/-- A pixel mirrored in a rectangle, horizontally or vertically. -/
def mirrorIn (r : Rect) (flips : Bool × Bool) (p : Pixel) : Pixel where
  x := if flips.1 then r.left + r.right - 1 - p.x else p.x
  y := if flips.2 then r.top + r.bottom - 1 - p.y else p.y

/-- What a blitter makes of the flip flags of a source. -/
structure Blitter where
  /-- The pixel of the surface that is read in place of a pixel of the source rectangle. -/
  flip (surface src : Rect) (flips : Bool × Bool) (p : Pixel) : Pixel
  flip_none : ∀ surface src p, flip surface src (false, false) p = p

/-- A flag reverses the order within the source rectangle. -/
def Blitter.FlipsRectangle (b : Blitter) : Prop :=
  ∀ surface src flips p, b.flip surface src flips p = mirrorIn src flips p

/-- A flag reverses the order in the whole surface. -/
def Blitter.FlipsSurface (b : Blitter) : Prop :=
  ∀ surface src flips p, b.flip surface src flips p = mirrorIn surface flips p

variable (b : Blitter)

/-- The pixel of a source that a blit without scaling pairs with the pixel `v` of its
destination: the one at the same place of the source rectangle, flipped, in the buffer as it is in
memory. -/
def pairedPixel (geom : SurfGeom) (src dst : BvRect) (flips : Bool × Bool) (v : Pixel) : Pixel :=
  turnPixel geom.rect (0 - geom.orientation)
    (b.flip geom.rect src.toRect flips ⟨src.left + (v.x - dst.left), src.top + (v.y - dst.top)⟩)

/-- The pixel of the first source that a blit shows at a screen pixel. -/
def BltEntry.src1Pixel (e : BltEntry) (px : Pixel) : Pixel :=
  pairedPixel b e.src1geom e.src1rect e.dstrect (e.flags.horzFlipSrc1, e.flags.vertFlipSrc1)
    (e.viewPixel px)

/-- The pixel of the second source that a blit shows at a screen pixel. -/
def BltEntry.src2Pixel (e : BltEntry) (px : Pixel) : Pixel :=
  pairedPixel b e.src2geom e.src2rect e.dstrect (e.flags.horzFlipSrc2, e.flags.vertFlipSrc2)
    (e.viewPixel px)

/-- The pixel of the buffer that a layer shows at a screen pixel, but for the flips. -/
def HwcLayer.bufferPixel (l : HwcLayer) (px : Pixel) : Pixel :=
  let v := turnPixel l.displayFrame (0 - rgzGetOrientation l.transform) px
  ⟨v.x + l.sourceCrop.left, v.y + l.sourceCrop.top⟩

/-- The blits of a layer for a rectangle show the buffer's pixel `p` at a screen pixel.  The layer
is the source of a copy, the upper source of a blend with the framebuffer or with another layer,
or the lower source of a blend with a layer that it can be blended together with. -/
inductive ShowsPixel (params : OutParams) (l : RgzLayer) (handle : NativeHandle) (rect : Rect)
    (px : Pixel) : Pixel → Prop
  | copied (e : BltEntry) :
      ShowsPixel params l handle rect px ((rgzCopyEntry params rect l handle e).src1Pixel b px)
  | blended (e : BltEntry) :
      ShowsPixel params l handle rect px
        ((rgzSetSrc2IsDst (rgzBlendEntry params rect l handle e)).src1Pixel b px)
  | above (e : BltEntry) (m : RgzLayer) (handle2 : NativeHandle) :
      ShowsPixel params l handle rect px
        ((rgzSetSrc2 rect m handle2 (rgzBlendEntry params rect l handle e)).src1Pixel b px)
  | below (e : BltEntry) (m : RgzLayer) (handle1 : NativeHandle)
      (hm : m.hwcLayer.handle.deref = some handle1)
      (htogether : rgzCanBlendTogether m.hwcLayer l.hwcLayer = .ok true) :
      ShowsPixel params l handle rect px
        ((rgzSetSrc2 rect l handle (rgzBlendEntry params rect m handle1 e)).src2Pixel b px)

/-! ## Turned views -/

section Turns

variable (outer inner : Rect)

lemma rgzGetRotatedView_none {o : Int} (ho : o = 0 ∨ o = 360) : rgzGetRotatedView outer inner o =
    ⟨inner.left - outer.left, inner.top - outer.top, inner.right - outer.left,
      inner.bottom - outer.top⟩ := by
  rcases ho with rfl | rfl <;> simp [rgzGetRotatedView, width, height]

lemma rgzGetRotatedView_quarter {o : Int} (ho : o = 90 ∨ o = -270) :
    rgzGetRotatedView outer inner o = ⟨outer.bottom - inner.bottom, inner.left - outer.left,
      outer.bottom - inner.top, inner.right - outer.left⟩ := by
  rcases ho with rfl | rfl <;> simp [rgzGetRotatedView, width, height] <;> omega

lemma rgzGetRotatedView_half {o : Int} (ho : o = 180 ∨ o = -180) :
    rgzGetRotatedView outer inner o = ⟨outer.right - inner.right, outer.bottom - inner.bottom,
      outer.right - inner.left, outer.bottom - inner.top⟩ := by
  rcases ho with rfl | rfl <;> simp [rgzGetRotatedView, width, height] <;> omega

lemma rgzGetRotatedView_threeQuarters {o : Int} (ho : o = 270 ∨ o = -90) :
    rgzGetRotatedView outer inner o = ⟨inner.top - outer.top, outer.right - inner.right,
      inner.bottom - outer.top, outer.right - inner.left⟩ := by
  rcases ho with rfl | rfl <;> simp [rgzGetRotatedView, width, height] <;> omega

@[simp] lemma rgzGetRotatedView_surface (g : SurfGeom) (r : Rect) :
    rgzGetRotatedView g.rect r 0 = r := by
  rw [rgzGetRotatedView_none _ _ (Or.inl rfl)]
  simp [SurfGeom.rect]

@[simp] lemma turnPixel_surface (g : SurfGeom) (px : Pixel) : turnPixel g.rect 0 px = px := by
  simp [turnPixel]

/-- The angle of a layer, and the flip flags that go with it. -/
lemma orientation_cases (t : Transform) :
    (rgzGetOrientation t = 0 ∧ t.rot90 = false) ∨ (rgzGetOrientation t = 90 ∧ t.rot90 = true) ∨
    (rgzGetOrientation t = 180 ∧ t.rot90 = false ∧ rgzGetFlipFlags t = (false, false)) ∨
    (rgzGetOrientation t = 270 ∧ t.rot90 = true ∧ rgzGetFlipFlags t = (false, false)) := by
  obtain ⟨flipH, flipV, rot90⟩ := t
  cases flipH <;> cases flipV <;> cases rot90 <;> simp [rgzGetOrientation, rgzGetFlipFlags]

end Turns

@[simp] lemma toBv_left (r : Rect) : r.toBv.left = r.left := rfl

@[simp] lemma toBv_top (r : Rect) : r.toBv.top = r.top := rfl

section Buffer

variable {l : HwcLayer} (hs : l.scaled = false) (rect : Rect) (px : Pixel)
include hs

/-- A source as it is in memory, on a screen turned back by the layer's angle. -/
lemma bufferPixel_of_turned_screen (screen : Rect) :
    let d := 360 - rgzGetOrientation l.transform
    let dst := rgzGetRotatedView screen rect d
    (rgzGetSrcRect l rect).left + ((turnPixel screen d px).x - dst.left) = (l.bufferPixel px).x ∧
    (rgzGetSrcRect l rect).top + ((turnPixel screen d px).y - dst.top) = (l.bufferPixel px).y := by
  simp only [HwcLayer.bufferPixel, rgzGetSrcRect, hs, turnPixel]
  rcases orientation_cases l.transform with ⟨ho, -⟩ | ⟨ho, -⟩ | ⟨ho, -⟩ | ⟨ho, -⟩
  · simp [ho, rgzGetRotatedView_none]
    omega
  · simp [ho, rgzGetRotatedView_threeQuarters]
    omega
  · simp [ho, rgzGetRotatedView_half]
    omega
  · simp [ho, rgzGetRotatedView_quarter]
    omega

/-- A source turned by the layer's angle, on the screen as it is. -/
lemma bufferPixel_of_turned_source (g : SurfGeom) :
    let o := rgzGetOrientation l.transform
    let src := rgzGetRotatedView g.rect (rgzGetSrcRect l rect) o
    turnPixel (g.turned o).rect (0 - o)
        ⟨src.left + (px.x - rect.left), src.top + (px.y - rect.top)⟩ = l.bufferPixel px := by
  simp only [HwcLayer.bufferPixel, rgzGetSrcRect, hs, turnPixel]
  rcases orientation_cases l.transform with ⟨ho, -⟩ | ⟨ho, -⟩ | ⟨ho, -⟩ | ⟨ho, -⟩
  · simp [ho, rgzGetRotatedView_none, SurfGeom.turned, SurfGeom.rect]
    omega
  · simp [ho, rgzGetRotatedView_quarter, rgzGetRotatedView_threeQuarters, SurfGeom.turned,
      SurfGeom.rect]
    omega
  · simp [ho, rgzGetRotatedView_half, SurfGeom.turned, SurfGeom.rect]
    omega
  · simp [ho, rgzGetRotatedView_quarter, rgzGetRotatedView_threeQuarters, SurfGeom.turned,
      SurfGeom.rect]
    omega

end Buffer

/-! ## The blit of a layer -/

section Setup

variable {params : OutParams} {rect : Rect} {l : RgzLayer} {handle : NativeHandle}

/-- The destination's part of a blit: the pixel and the rectangle in the turned view. -/
lemma rgzSetDstData_view {o : Int} (e : BltEntry) (px : Pixel) :
    (rgzSetDstData params rect o e).viewPixel px = turnPixel params.dstgeom.rect o px ∧
      (rgzSetDstData params rect o e).dstrect =
        (rgzGetRotatedView params.dstgeom.rect rect o).toBv := by
  rcases eq_or_ne o 0 with rfl | h
  · exact ⟨rfl, by simp [rgzSetDstData]⟩
  · unfold rgzSetDstData
    simp only [if_pos h, rgzRotateDst, viewPixel, turned_orientation, turned_turned, toBv_toRect]
    exact ⟨rfl, rfl⟩

/-- The buffer as a rectangle. -/
def NativeHandle.surface (handle : NativeHandle) : Rect :=
  ⟨0, 0, handle.iWidth.toNat, handle.iHeight.toNat⟩

/-- The source's part of a blit: a turned surface, and the source rectangle in that view. -/
lemma rgzSrcData_view (l : RgzLayer) (handle : NativeHandle) (rect : Rect) (o : Int) :
    ∃ g : SurfGeom, g.rect = handle.surface ∧ g.orientation = o ∧
      (rgzSrcData l handle rect o).2.1 = g.turned o ∧
      (rgzSrcData l handle rect o).2.2 =
        (rgzGetRotatedView g.rect (rgzGetSrcRect l.hwcLayer rect) o).toBv := by
  refine ⟨⟨halToOcd handle.iFormat, handle.iWidth.toNat, handle.iHeight.toNat, o,
    rgzHandleToStride handle⟩, rfl, rfl, ?_⟩
  unfold rgzSrcData
  rcases eq_or_ne o 0 with rfl | h
  · exact ⟨rfl, by simp⟩
  · simp only [if_pos h, toBv_toRect, and_self]

section

variable (hs : l.hwcLayer.scaled = false)
include hs

/-- The pixel shown of a source that is as it is in memory, on a screen turned back. -/
lemma pairedPixel_turned_screen (flips : Bool × Bool) (screen : Rect) (px : Pixel) :
    let d := 360 - rgzGetOrientation l.hwcLayer.transform
    pairedPixel b (rgzSrcData l handle rect 0).2.1 (rgzSrcData l handle rect 0).2.2
        (rgzGetRotatedView screen rect d).toBv flips (turnPixel screen d px) =
      b.flip handle.surface (rgzGetSrcRect l.hwcLayer rect) flips (l.hwcLayer.bufferPixel px) := by
  obtain ⟨g, hsurface, horient, hgeom, hsource⟩ := rgzSrcData_view l handle rect 0
  obtain ⟨hx, hy⟩ := bufferPixel_of_turned_screen hs rect px screen
  have hturned : (g.turned 0).rect = handle.surface := hsurface
  simp only [pairedPixel, hgeom, hsource, turned_orientation, horient, toBv_toRect, sub_zero,
    rgzGetRotatedView_surface, turnPixel_surface, toBv_left, toBv_top, hx, hy]
  rw [hturned]

/-- The pixel shown of a source that is turned and not flipped, on the screen as it is. -/
lemma pairedPixel_turned_source (px : Pixel) : let o := rgzGetOrientation l.hwcLayer.transform
    pairedPixel b (rgzSrcData l handle rect o).2.1 (rgzSrcData l handle rect o).2.2 rect.toBv
      (false, false) px = l.hwcLayer.bufferPixel px := by
  intro o
  obtain ⟨g, -, horient, hgeom, hsource⟩ := rgzSrcData_view l handle rect o
  simp only [pairedPixel, hgeom, hsource, turned_orientation, horient, b.flip_none, toBv_left,
    toBv_top]
  exact bufferPixel_of_turned_source hs rect px g

/-- The first source of an unscaled layer's blit, and its destination. -/
lemma rgzSetupSrc1_src1Pixel_eq (e : BltEntry) (px : Pixel) :
    let src := rgzSrcData l handle rect (rgzSrc1Orientation l.hwcLayer handle)
    let d := rgzDstOrientation l.hwcLayer handle
    (rgzSetupSrc1 params rect l handle e).src1Pixel b px =
      pairedPixel b src.2.1 src.2.2 (rgzGetRotatedView params.dstgeom.rect rect d).toBv
        (rgzGetFlipFlags l.hwcLayer.transform) (turnPixel params.dstgeom.rect d px) := by
  have htmp : rgzTmpRect l.hwcLayer rect = rect := by simp [rgzTmpRect, hs]
  unfold rgzSetupSrc1 src1Pixel
  simp only [htmp, (rgzSetDstData_view ..).1, (rgzSetDstData_view _ px).2,
    rgzSetDstData_src1geom, rgzSetDstData_src1rect, rgzSetDstData_flags, rgzSetClipRect]

/-- **The source pixel of an unscaled layer's blit.** -/
lemma rgzSetupSrc1_src1Pixel
    (hflip : handle.iFormat.isNv12 = true ∨ rgzGetFlipFlags l.hwcLayer.transform = (false, false))
    (e : BltEntry) (px : Pixel) : (rgzSetupSrc1 params rect l handle e).src1Pixel b px =
      b.flip handle.surface (rgzGetSrcRect l.hwcLayer rect) (rgzGetFlipFlags l.hwcLayer.transform)
        (l.hwcLayer.bufferPixel px) := by
  rw [rgzSetupSrc1_src1Pixel_eq b hs]
  by_cases hnv : handle.iFormat.isNv12 = true
  · simp only [rgzSrc1Orientation, rgzDstOrientation, if_pos hnv]
    exact pairedPixel_turned_screen b hs _ _ px
  · simp only [rgzSrc1Orientation, rgzDstOrientation, if_neg hnv, hflip.resolve_left hnv,
      rgzGetRotatedView_surface, turnPixel_surface, b.flip_none]
    exact pairedPixel_turned_source b hs px

end

lemma rgzCopyEntry_src1Pixel (e : BltEntry) (px : Pixel) :
    (rgzCopyEntry params rect l handle e).src1Pixel b px =
      (rgzSetupSrc1 params rect l handle { e with
        op := .srcCopy, flags := { clip := true, rop := true } }).src1Pixel b px := by
  unfold rgzCopyEntry
  simp only
  generalize rgzSetupSrc1 params rect l handle _ = e'
  split_ifs
  · unfold src1Pixel viewPixel SurfGeom.turned
    split_ifs <;> rfl
  · rfl

/-- The second source of a blend, when the first is neither scaled nor NV12. -/
lemma rgzSetSrc2_src2Pixel {m : RgzLayer} {handle1 : NativeHandle} (hs : l.hwcLayer.scaled = false)
    (hflip : rgzGetFlipFlags l.hwcLayer.transform = (false, false))
    (hsm : m.hwcLayer.scaled = false) (hnv : handle1.iFormat.isNv12 = false)
    (e : BltEntry) (px : Pixel) :
    (rgzSetSrc2 rect l handle (rgzBlendEntry params rect m handle1 e)).src2Pixel b px =
      l.hwcLayer.bufferPixel px := by
  have htmp : rgzTmpRect m.hwcLayer rect = rect := by simp [rgzTmpRect, hsm]
  have hd : rgzDstOrientation m.hwcLayer handle1 = 0 := by simp [rgzDstOrientation, hnv]
  have hview : (rgzSetSrc2 rect l handle (rgzBlendEntry params rect m handle1 e)).viewPixel px =
      turnPixel params.dstgeom.rect 0 px := by
    unfold rgzBlendEntry rgzSetupSrc1
    simp only [htmp, hd]
    exact (rgzSetDstData_view _ px).1
  have hdst : (rgzSetSrc2 rect l handle (rgzBlendEntry params rect m handle1 e)).dstrect =
      (rgzGetRotatedView params.dstgeom.rect rect 0).toBv := by
    unfold rgzBlendEntry rgzSetupSrc1
    simp only [htmp, hd]
    exact (rgzSetDstData_view _ px).2
  unfold src2Pixel
  rw [hview, hdst, rgzGetRotatedView_surface, turnPixel_surface]
  simp only [rgzSetSrc2, hflip]
  exact pairedPixel_turned_source b hs px

end Setup

/-! ## Subregions and the whole frame -/

/-- What the validation leaves of the flips: only NV12 layers can have one. -/
lemma flips_of_rgzInValidHwcLayer {l : HwcLayer} {handle : NativeHandle}
    (hvalid : rgzInValidHwcLayer l = true) (hh : l.handle = .native handle) :
    handle.iFormat.isNv12 = true ∨ rgzGetFlipFlags l.transform = (false, false) := by
  by_cases hnv : handle.iFormat.isNv12 = true
  · exact Or.inl hnv
  · refine Or.inr ?_
    unfold rgzInValidHwcLayer at hvalid
    simp only [hh, if_neg hnv] at hvalid
    rcases ht : l.transform with ⟨flipH, flipV, rot90⟩
    rw [ht] at hvalid
    cases flipH <;> cases flipV <;> cases rot90 <;>
      simp_all [rgzGetFlipFlags, Transform.identity]

lemma rgzCanBlendTogether_true {m l : HwcLayer} {handle1 handle2 : NativeHandle}
    (h : rgzCanBlendTogether m l = .ok true) (hm : m.handle.deref = some handle1)
    (hl : l.handle.deref = some handle2) :
    m.scaled = false ∧ handle1.iFormat.isNv12 = false ∧ handle2.iFormat.isNv12 = false := by
  unfold rgzCanBlendTogether at h
  by_cases hs : (m.scaled || l.scaled) = true
  · simp [hs] at h
  · simp only [if_neg hs, hm, hl, Except.ok.injEq, Bool.not_eq_true', Bool.or_eq_false_iff] at h
    exact ⟨by simp_all, h.1, h.2⟩

variable {b}

lemma ShowsPixel.eq {params : OutParams} {l : RgzLayer} {handle : NativeHandle} {rect : Rect}
    {px p : Pixel} (hvalid : rgzInValidHwcLayer l.hwcLayer = true)
    (hh : l.hwcLayer.handle = .native handle) (hs : l.hwcLayer.scaled = false)
    (hp : ShowsPixel b params l handle rect px p) :
    p = b.flip handle.surface (rgzGetSrcRect l.hwcLayer rect)
      (rgzGetFlipFlags l.hwcLayer.transform) (l.hwcLayer.bufferPixel px) := by
  have hflip := flips_of_rgzInValidHwcLayer hvalid hh
  cases hp with
  | copied e =>
    rw [rgzCopyEntry_src1Pixel]
    exact rgzSetupSrc1_src1Pixel b hs hflip _ px
  | blended e => exact rgzSetupSrc1_src1Pixel b hs hflip _ px
  | above e m handle2 => exact rgzSetupSrc1_src1Pixel b hs hflip _ px
  | below e m handle1 hm htogether =>
    obtain ⟨hsm, hnv1, hnv⟩ := rgzCanBlendTogether_true htogether hm (by rw [hh]; rfl)
    have hnone := hflip.resolve_left (by simp [hnv])
    rw [rgzSetSrc2_src2Pixel b hs hnone hsm hnv1, hnone, b.flip_none]

/-- The directions in which a layer is flipped on the screen. -/
def HwcLayer.screenFlips (l : HwcLayer) : Bool × Bool :=
  let flips := rgzGetFlipFlags l.transform
  if l.transform.rot90 then (flips.2, flips.1) else flips

/-- The subregion lies in the middle of the frame, in each direction the layer is flipped in. -/
def HwcLayer.Centred (l : HwcLayer) (sub : Rect) : Prop :=
  (l.screenFlips.1 = true →
    sub.left + sub.right = l.displayFrame.left + l.displayFrame.right) ∧
  (l.screenFlips.2 = true →
    sub.top + sub.bottom = l.displayFrame.top + l.displayFrame.bottom)

instance (l : HwcLayer) (sub : Rect) : Decidable (l.Centred sub) := by
  unfold HwcLayer.Centred; infer_instance

lemma mirrorIn_eq_iff (r r' : Rect) (flips : Bool × Bool) (p : Pixel) :
    mirrorIn r flips p = mirrorIn r' flips p ↔
      (flips.1 = true → r.left + r.right = r'.left + r'.right) ∧
      (flips.2 = true → r.top + r.bottom = r'.top + r'.bottom) := by
  obtain ⟨h, v⟩ := flips
  cases h <;> cases v <;> simp [mirrorIn]

/-- When the middles of the source rectangles agree. -/
lemma rgzGetSrcRect_centred_iff {l : HwcLayer} (hs : l.scaled = false) (sub : Rect) :
    ((rgzGetFlipFlags l.transform).1 = true →
        (rgzGetSrcRect l sub).left + (rgzGetSrcRect l sub).right =
          (rgzGetSrcRect l l.displayFrame).left + (rgzGetSrcRect l l.displayFrame).right) ∧
      ((rgzGetFlipFlags l.transform).2 = true →
        (rgzGetSrcRect l sub).top + (rgzGetSrcRect l sub).bottom =
          (rgzGetSrcRect l l.displayFrame).top + (rgzGetSrcRect l l.displayFrame).bottom) ↔
    l.Centred sub := by
  unfold HwcLayer.Centred HwcLayer.screenFlips
  simp only [rgzGetSrcRect, hs]
  rcases orientation_cases l.transform with
    ⟨ho, hrot⟩ | ⟨ho, hrot⟩ | ⟨ho, hrot, hflip⟩ | ⟨ho, hrot, hflip⟩
  · simp [ho, hrot, rgzGetRotatedView_none]
    exact and_congr (imp_congr_right fun _ => by omega) (imp_congr_right fun _ => by omega)
  · -- turned by a quarter, the directions of the screen are those of the buffer exchanged
    simp [ho, hrot, rgzGetRotatedView_threeQuarters]
    rw [and_comm]
    exact and_congr (imp_congr_right fun _ => by omega) (imp_congr_right fun _ => by omega)
  · simp [hrot, hflip]
  · simp [hrot, hflip]

variable (b) in
/-- The blits for the subregion show the pixels of the buffer that those for the frame do. -/
def SameSource (params : OutParams) (l : RgzLayer) (handle : NativeHandle) (sub : Rect) : Prop :=
  ∀ px, sub.Contains px → ∀ p q, ShowsPixel b params l handle sub px p →
    ShowsPixel b params l handle l.hwcLayer.displayFrame px q → p = q

variable (b) in
/-- **Drawing a subregion is drawing a part of the layer**, for every valid layer that is not
scaled: whatever the blitter, if the layer has no flip flag, and with flips if the blitter flips the
whole surface.  If it flips within the source rectangle, exactly unless the subregion has pixels and
lies, in a direction the layer is flipped in, not in the middle of the frame. -/
theorem subregion_source_iff {params : OutParams} {l : RgzLayer} {handle : NativeHandle}
    (hh : l.hwcLayer.handle = .native handle) (hvalid : rgzInValidHwcLayer l.hwcLayer = true)
    (hs : l.hwcLayer.scaled = false) (sub : Rect) :
    (rgzGetFlipFlags l.hwcLayer.transform = (false, false) ∨ b.FlipsSurface →
      SameSource b params l handle sub) ∧
    (b.FlipsRectangle → (SameSource b params l handle sub ↔
      (sub.left < sub.right → sub.top < sub.bottom → l.hwcLayer.Centred sub))) := by
  refine ⟨fun hflip px _ p q hp hq => ?_, fun hrect => ?_⟩
  · rw [hp.eq hvalid hh hs, hq.eq hvalid hh hs]
    rcases hflip with hnone | hsurface
    · rw [hnone, b.flip_none, b.flip_none]
    · rw [hsurface, hsurface]
  · rw [← rgzGetSrcRect_centred_iff hs]
    constructor
    · intro h hw hv
      have hsame := h ⟨sub.left, sub.top⟩ ⟨le_rfl, hw, le_rfl, hv⟩ _ _ (.copied .zero)
        (.copied .zero)
      rw [ShowsPixel.eq hvalid hh hs (.copied .zero), ShowsPixel.eq hvalid hh hs (.copied .zero),
        hrect, hrect] at hsame
      exact (mirrorIn_eq_iff ..).mp hsame
    · rintro h px ⟨hleft, hright, htop, hbottom⟩ p q hp hq
      rw [hp.eq hvalid hh hs, hq.eq hvalid hh hs, hrect, hrect]
      exact (mirrorIn_eq_iff ..).mpr (h (by omega) (by omega))

/-- The buffer of a four by four video, and a layer that shows it mirrored on a screen of its
size. -/
def videoHandle : NativeHandle := ⟨1, 4, 4, .tiNv12, false, false⟩

@[inherit_doc videoHandle] def mirroredVideo : RgzLayer where
  hwcLayer :=
    { compositionType := .framebuffer
      hints := {}
      skipLayer := false
      handle := .native videoHandle
      transform := { flipH := true }
      blending := .none
      sourceCrop := ⟨0, 0, 4, 4⟩
      displayFrame := ⟨0, 0, 4, 4⟩ }
  identity := 1
  buffidx := 0
  dirtyCount := 0

@[inherit_doc videoHandle] def videoScreen : OutParams := ⟨⟨.bgra24, 4, 4, 0, 16⟩, false⟩

/-- A blitter that flips within the source rectangle. -/
def rectangleBlitter : Blitter := ⟨fun _ src flips p => mirrorIn src flips p, fun _ _ _ => rfl⟩

/-- The strip in the middle of the mirrored video is drawn right. -/
theorem middle_strip_source : mirroredVideo.hwcLayer.screenFlips = (true, false) ∧
      SameSource rectangleBlitter videoScreen mirroredVideo videoHandle ⟨1, 0, 3, 4⟩ :=
  ⟨by decide, ((@subregion_source_iff rectangleBlitter videoScreen mirroredVideo videoHandle rfl
    (by decide) (by decide) ⟨1, 0, 3, 4⟩).2 fun _ _ _ _ => rfl).mpr fun _ _ => by decide⟩

/-- Left of it, a blitter that flips within the source rectangle shows the second column of the
video in the corner of the screen when the left half is drawn by a blit of its own, and the last one
when the whole video is. -/
theorem left_half_source_differs : ∃ b : Blitter, b.FlipsRectangle ∧
    rgzInValidHwcLayer mirroredVideo.hwcLayer = true ∧ mirroredVideo.hwcLayer.scaled = false ∧
      ¬SameSource b videoScreen mirroredVideo videoHandle ⟨0, 0, 2, 4⟩ ∧
      (rgzHwcSubregionCopy videoScreen ⟨0, 0, 2, 4⟩ mirroredVideo Blts.init).map
          (fun blts => blts.bvcmds.map (BltEntry.src1Pixel b · ⟨0, 0⟩)) = .ok [⟨1, 0⟩] ∧
      (rgzHwcSubregionCopy videoScreen ⟨0, 0, 4, 4⟩ mirroredVideo Blts.init).map
          (fun blts => blts.bvcmds.map (BltEntry.src1Pixel b · ⟨0, 0⟩)) = .ok [⟨3, 0⟩] := by
  refine ⟨rectangleBlitter, fun _ _ _ _ => rfl, by decide, by decide, fun h => ?_, ?_, ?_⟩
  · exact absurd (h ⟨0, 0⟩ (by decide) _ _ (.copied .zero) (.copied .zero)) (by decide +kernel)
  · decide +kernel
  · decide +kernel

end Solana
