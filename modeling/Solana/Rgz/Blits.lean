import Solana.Rgz.Regions

/-!
# Generating blits

The two `BVCMD` outputs of the regionizer.  `rgz_out_bvcmd_paint` clears the screen and draws
every layer over it; `rgz_out_region` walks the bands and subregions, skips what is clean, and
draws each dirty subregion with as few blits as it can.

The static array of blit entries is the list `Blts.bvcmds` of its first `idx` entries.  An
entry handed out by `rgz_blts_get` is always the last one, also when the array is full and the
last slot is handed out again, so the functions that fill or change an entry act on the last
element.  A read through the dummy handle of a background or clear-hint layer is the fault
`segv`; the return value `-1` is the fault `failed`.

The direct outputs (`BVDIRECT`, which call the blitter library at once) and the SVG dump are
not modelled.
-/

namespace Solana

/-! ## Blit entries -/

/-- `struct bvrect`.  Its width and height are unsigned; a negative one stands for the number it
wraps to. -/
structure BvRect where
  left : Int
  top : Int
  width : Int
  height : Int
  deriving DecidableEq, Repr

/-- A rectangle in the form of a blit parameter. -/
def Rect.toBv (r : Rect) : BvRect := ⟨r.left, r.top, r.width, r.height⟩

/-- A blit parameter as a rectangle. -/
def BvRect.toRect (r : BvRect) : Rect := ⟨r.left, r.top, r.left + r.width, r.top + r.height⟩

/-- The values `auxptr` carries through the ioctl: an index into the posted buffers, or the
framebuffer of an overlay (`HWC_BLT_DESC_FB_FN`). -/
inductive AuxPtr
  | index (ix : Int)
  | descFb (ovlno : Nat)
  deriving DecidableEq, Repr

/-- `struct bvbuffdesc`. -/
structure BuffDesc where
  length : Int
  auxptr : AuxPtr
  deriving DecidableEq, Repr

/-- The operation of a blit: nothing yet, `0xCCCC` (SRCCOPY) or `BVBLEND_SRC1OVER`. -/
inductive BltOp
  | unset
  | srcCopy
  | src1Over
  deriving DecidableEq, Repr

/-- The two bits of `BVFLAG_BATCH_MASK`; `BATCH_END` has both set. -/
inductive BatchState
  | single
  | batchBegin
  | batchContinue
  | batchEnd
  deriving DecidableEq, Repr

/-- The test `flags & BVFLAG_BATCH_BEGIN`. -/
def BatchState.hasBeginBit : BatchState → Bool
  | .batchBegin | .batchEnd => true
  | _ => false

/-- The bits of `bp.flags`. -/
structure BltFlags where
  rop : Bool := false
  blend : Bool := false
  clip : Bool := false
  async : Bool := false
  batch : BatchState := .single
  horzFlipSrc1 : Bool := false
  vertFlipSrc1 : Bool := false
  horzFlipSrc2 : Bool := false
  vertFlipSrc2 : Bool := false
  deriving DecidableEq, Repr

/-- The bits of `bp.batchflags` (`BVBATCH_*`): what changed since the entry before. -/
structure BatchFlags where
  op : Bool := false
  scale : Bool := false
  dst : Bool := false
  src1 : Bool := false
  src2 : Bool := false
  dstrectOrigin : Bool := false
  dstrectSize : Bool := false
  src1rectOrigin : Bool := false
  src1rectSize : Bool := false
  src2rectOrigin : Bool := false
  src2rectSize : Bool := false
  cliprect : Bool := false
  deriving DecidableEq, Repr

/-- Bitwise or of two words of batch flags. -/
def BatchFlags.union (a b : BatchFlags) : BatchFlags where
  op := a.op || b.op
  scale := a.scale || b.scale
  dst := a.dst || b.dst
  src1 := a.src1 || b.src1
  src2 := a.src2 || b.src2
  dstrectOrigin := a.dstrectOrigin || b.dstrectOrigin
  dstrectSize := a.dstrectSize || b.dstrectSize
  src1rectOrigin := a.src1rectOrigin || b.src1rectOrigin
  src1rectSize := a.src1rectSize || b.src1rectSize
  src2rectOrigin := a.src2rectOrigin || b.src2rectOrigin
  src2rectSize := a.src2rectSize || b.src2rectSize
  cliprect := a.cliprect || b.cliprect

/-- `bp.scalemode`. -/
inductive ScaleMode
  | unset
  | bilinear
  | tap9x9
  deriving DecidableEq, Repr

/-- `struct rgz_blt_entry`. -/
structure BltEntry where
  op : BltOp
  flags : BltFlags
  batchflags : BatchFlags
  scalemode : ScaleMode
  dstrect : BvRect
  src1rect : BvRect
  src2rect : BvRect
  cliprect : BvRect
  dstgeom : SurfGeom
  src1geom : SurfGeom
  src2geom : SurfGeom
  src1desc : BuffDesc
  src2desc : BuffDesc
  deriving DecidableEq, Repr

/-- A zeroed rectangle, geometry, descriptor and entry. -/
def BvRect.zero : BvRect := ⟨0, 0, 0, 0⟩

@[inherit_doc BvRect.zero] def SurfGeom.zero : SurfGeom := ⟨.unknown, 0, 0, 0, 0⟩

@[inherit_doc BvRect.zero] def BuffDesc.zero : BuffDesc := ⟨0, .index 0⟩

@[inherit_doc BvRect.zero] def BltEntry.zero : BltEntry :=
  ⟨.unset, {}, {}, .unset, .zero, .zero, .zero, .zero, .zero, .zero, .zero, .zero, .zero⟩

/-- What `rgz_out` can run into besides returning 0. -/
inductive OutFault
  | segv
  | failed
  deriving DecidableEq, Repr

/-- `struct rgz_blts`, with the counter `out_blits` of the parameters. -/
structure Blts where
  bvcmds : List BltEntry
  outBlits : Nat
  deriving DecidableEq, Repr

/-- `rgz_blts_init` and `out_blits = 0`. -/
def Blts.init : Blts := ⟨[], 0⟩

/-- Change the last element of a list. -/
def modifyLast {α : Type} (f : α → α) : List α → List α
  | [] => []
  | [a] => [f a]
  | a :: b :: l => a :: modifyLast f (b :: l)

lemma length_modifyLast {α : Type} (f : α → α) : ∀ xs : List α, (modifyLast f xs).length = xs.length
  | [] => rfl
  | [_] => rfl
  | _ :: b :: xs => by simp [modifyLast, length_modifyLast f (b :: xs)]

/-- `rgz_blts_get`, and what the caller writes to the entry it gets.  When the array is full
the last entry is handed out again, with what it held. -/
def Blts.put (b : Blts) (fill : BltEntry → BltEntry) : Blts :=
  if b.bvcmds.length < rgzMaxBlits then ⟨b.bvcmds ++ [fill .zero], b.outBlits + 1⟩
  else ⟨modifyLast fill b.bvcmds, b.outBlits⟩

/-- Change the entry handed out last. -/
def Blts.modify (b : Blts) (f : BltEntry → BltEntry) : Blts :=
  ⟨modifyLast f b.bvcmds, b.outBlits⟩

/-- The `BVCMD` parameters of `rgz_out`. -/
structure OutParams where
  dstgeom : SurfGeom
  noblend : Bool
  deriving Repr

/-! ## Geometry -/

/-- `rgz_handle_to_stride`; `ALIGN(x, 32)` rounds up to a multiple of 32. -/
def rgzHandleToStride (h : NativeHandle) : Int :=
  let bpp : Int := if h.iFormat.isNv12 then 0 else if h.iFormat = .rgb565 then 2 else 4
  (h.iWidth + 31) / 32 * 32 * bpp

/-- `rgz_get_orientation`. -/
def rgzGetOrientation (t : Transform) : Int :=
  (if t.flipH && t.flipV then 180 else 0) + (if t.rot90 then 90 else 0)

/-- `rgz_get_flip_flags`, as the pair of the horizontal and the vertical flag: both flips
together are a rotation and set none. -/
def rgzGetFlipFlags (t : Transform) : Bool × Bool :=
  if t.flipV then (false, !t.flipH) else (t.flipH, false)

/-- `rgz_get_rotated_view`.  For an angle that is no multiple of 90 degrees the source leaves
the corner unset; no caller passes one. -/
def rgzGetRotatedView (outer inner : Rect) (orientation : Int) : Rect :=
  let deltaTop := inner.top - outer.top
  let deltaLeft := inner.left - outer.left
  let orientation := orientation.tmod 360 + 360
  let (left, top) :=
    if orientation.tmod 360 = 0 then (deltaLeft, deltaTop)
    else if orientation.tmod 360 = 180 then
      (outer.width - inner.width - deltaLeft, outer.height - inner.height - deltaTop)
    else if orientation.tmod 360 = 90 then
      (outer.height - inner.height - deltaTop, deltaLeft)
    else if orientation.tmod 360 = 270 then
      (deltaTop, outer.width - inner.width - deltaLeft)
    else (0, 0)
  let (w, h) :=
    if orientation.tmod 180 ≠ 0 then (inner.height, inner.width)
    else (inner.width, inner.height)
  ⟨left, top, left + w, top + h⟩

/-- `rgz_get_src_rect`: the part of the source for a part of the layer's frame; a scaled layer
always uses its whole crop. -/
def rgzGetSrcRect (layer : HwcLayer) (subregion : Rect) : Rect :=
  if layer.scaled then layer.sourceCrop
  else
    let res := rgzGetRotatedView layer.displayFrame subregion
      (0 - rgzGetOrientation layer.transform)
    { left := res.left + layer.sourceCrop.left
      top := res.top + layer.sourceCrop.top
      right := res.right + layer.sourceCrop.left
      bottom := res.bottom + layer.sourceCrop.top }

/-- Swap width and height when turned by an odd number of quarters. -/
def SurfGeom.turned (g : SurfGeom) (orientation : Int) : SurfGeom :=
  if orientation.tmod 180 ≠ 0 then { g with width := g.height, height := g.width } else g

/-- `rgz_rotate_dst`. -/
def rgzRotateDst (e : BltEntry) (dstOrientation : Int) : BltEntry :=
  let view r := (rgzGetRotatedView e.dstgeom.rect (BvRect.toRect r) dstOrientation).toBv
  { e with
    dstrect := view e.dstrect
    cliprect := view e.cliprect
    dstgeom := e.dstgeom.turned dstOrientation }

/-- `rgz_set_dst_data`. -/
def rgzSetDstData (params : OutParams) (subregion : Rect) (dstOrientation : Int)
    (e : BltEntry) : BltEntry :=
  let e := { e with
    dstgeom := { params.dstgeom with orientation := dstOrientation }
    dstrect := subregion.toBv }
  if dstOrientation ≠ 0 then rgzRotateDst e dstOrientation else e

section
variable (params : OutParams) (rect : Rect) (o : Int) (e : BltEntry)

/-- Setting the destination changes its geometry and the two rectangles on it, and nothing
else. -/
lemma rgzSetDstData_eq : rgzSetDstData params rect o e =
    { e with
      dstgeom := (rgzSetDstData params rect o e).dstgeom
      dstrect := (rgzSetDstData params rect o e).dstrect
      cliprect := (rgzSetDstData params rect o e).cliprect } := by
  unfold rgzSetDstData
  simp only
  split_ifs <;> rfl

@[simp] lemma rgzSetDstData_op : (rgzSetDstData params rect o e).op = e.op := by
  rw [rgzSetDstData_eq]

@[simp] lemma rgzSetDstData_flags : (rgzSetDstData params rect o e).flags = e.flags := by
  rw [rgzSetDstData_eq]

@[simp] lemma rgzSetDstData_batchflags :
    (rgzSetDstData params rect o e).batchflags = e.batchflags := by
  rw [rgzSetDstData_eq]

@[simp] lemma rgzSetDstData_src1desc : (rgzSetDstData params rect o e).src1desc = e.src1desc := by
  rw [rgzSetDstData_eq]

@[simp] lemma rgzSetDstData_src1geom : (rgzSetDstData params rect o e).src1geom = e.src1geom := by
  rw [rgzSetDstData_eq]

@[simp] lemma rgzSetDstData_src1rect : (rgzSetDstData params rect o e).src1rect = e.src1rect := by
  rw [rgzSetDstData_eq]

end

/-- The three fields `rgz_set_src_data` sets for one of the two sources: descriptor, geometry
and rectangle, `rgz_rotate_src` included. -/
def rgzSrcData (layer : RgzLayer) (handle : NativeHandle) (subregion : Rect)
    (srcOrientation : Int) : BuffDesc × SurfGeom × BvRect :=
  let desc : BuffDesc := ⟨handle.iHeight * rgzHandleToStride handle, .index layer.buffidx⟩
  let geom : SurfGeom :=
    ⟨halToOcd handle.iFormat, handle.iWidth.toNat, handle.iHeight.toNat, srcOrientation,
      rgzHandleToStride handle⟩
  let rect := (rgzGetSrcRect layer.hwcLayer subregion).toBv
  if srcOrientation ≠ 0 then
    (desc, geom.turned srcOrientation,
      (rgzGetRotatedView geom.rect rect.toRect srcOrientation).toBv)
  else (desc, geom, rect)

/-- C's `min` of an unsigned screen size and a signed coordinate: a negative coordinate turns
into a huge unsigned number and loses. -/
def minScreen (size : Nat) (coord : Int) : Int := if coord < 0 then size else min size coord

/-- The part of a rectangle on the screen, as `rgz_set_clip_rect` and the clear-hint case of
`rgz_out_bvcmd_paint` compute it. -/
def clipToScreen (g : SurfGeom) (r : Rect) : Rect :=
  { left := max 0 r.left
    top := max 0 r.top
    bottom := minScreen g.height r.bottom
    right := minScreen g.width r.right }

/-- `rgz_set_clip_rect`. -/
def rgzSetClipRect (params : OutParams) (subregion : Rect) (e : BltEntry) : BltEntry :=
  { e with cliprect := (clipToScreen params.dstgeom subregion).toBv }

/-! ## Single blits -/

/-- The rectangle a blit of a layer is set up for: a scaled layer is always drawn whole and
clipped. -/
def rgzTmpRect (layer : HwcLayer) (subregion : Rect) : Rect :=
  if layer.scaled then layer.displayFrame else subregion

/-- `rgz_cfg_scale_mode`, for a scaled layer only. -/
def rgzCfgScaleMode (layer : HwcLayer) (handle : NativeHandle) (mode : ScaleMode) : ScaleMode :=
  if layer.scaled then (if handle.iFormat.isNv12 then .tap9x9 else .bilinear) else mode

/-- NV12 is left as it is and the destination turned instead. -/
def rgzSrc1Orientation (layer : HwcLayer) (handle : NativeHandle) : Int :=
  if handle.iFormat.isNv12 then 0 else rgzGetOrientation layer.transform

@[inherit_doc rgzSrc1Orientation]
def rgzDstOrientation (layer : HwcLayer) (handle : NativeHandle) : Int :=
  if handle.iFormat.isNv12 then 360 - rgzGetOrientation layer.transform else 0

/-- What the copy and the blend of a layer have in common: the flip flags, source 1, the clip
rectangle and the destination. -/
def rgzSetupSrc1 (params : OutParams) (subregion : Rect) (src1 : RgzLayer)
    (handle : NativeHandle) (e : BltEntry) : BltEntry :=
  let layer := src1.hwcLayer
  let flips := rgzGetFlipFlags layer.transform
  let tmpRect := rgzTmpRect layer subregion
  let src := rgzSrcData src1 handle tmpRect (rgzSrc1Orientation layer handle)
  let e := { e with
    flags := { e.flags with horzFlipSrc1 := flips.1, vertFlipSrc1 := flips.2, async := true }
    scalemode := rgzCfgScaleMode layer handle e.scalemode
    src1desc := src.1
    src1geom := src.2.1
    src1rect := src.2.2 }
  rgzSetDstData params tmpRect (rgzDstOrientation layer handle)
    (rgzSetClipRect params subregion e)

/-- The entry of `rgz_hwc_subregion_copy`. -/
def rgzCopyEntry (params : OutParams) (subregion : Rect) (src1 : RgzLayer)
    (handle : NativeHandle) (e : BltEntry) : BltEntry :=
  let e := { e with op := .srcCopy, flags := { clip := true, rop := true } }
  let e := rgzSetupSrc1 params subregion src1 handle e
  if e.src1geom.format = .bgr124 ∨ e.src1geom.format = .rgb124 ∨ e.src1geom.format = .rgb16 then
    { e with dstgeom := { e.dstgeom with format := .bgr124 } }
  else e

/-- `rgz_hwc_subregion_copy`: copies a layer into the framebuffer. -/
def rgzHwcSubregionCopy (params : OutParams) (subregion : Rect) (src1 : RgzLayer) (b : Blts) :
    Except OutFault Blts :=
  match src1.hwcLayer.handle.deref with
  | some handle => .ok (b.put (rgzCopyEntry params subregion src1 handle))
  | none => .error .segv

/-- The first part of the entry of `rgz_hwc_subregion_blend`. -/
def rgzBlendEntry (params : OutParams) (subregion : Rect) (src1 : RgzLayer)
    (handle : NativeHandle) (e : BltEntry) : BltEntry :=
  rgzSetupSrc1 params subregion src1 handle
    { e with op := .src1Over, flags := { clip := true, blend := true } }

/-- `rgz_set_src2_is_dst`. -/
def rgzSetSrc2IsDst (e : BltEntry) : BltEntry :=
  { e with
    src2geom := e.dstgeom
    src2desc := { e.src2desc with auxptr := .descFb 0 }
    src2rect := e.dstrect }

/-- The second source of a blend of two layers. -/
def rgzSetSrc2 (subregion : Rect) (src2 : RgzLayer) (handle : NativeHandle) (e : BltEntry) :
    BltEntry :=
  let flips := rgzGetFlipFlags src2.hwcLayer.transform
  let src := rgzSrcData src2 handle subregion (rgzGetOrientation src2.hwcLayer.transform)
  { e with
    flags := { e.flags with horzFlipSrc2 := flips.1, vertFlipSrc2 := flips.2 }
    src2desc := src.1
    src2geom := src.2.1
    src2rect := src.2.2 }

/-- `rgz_hwc_subregion_blend`: blends `src1` over `src2`, or over the framebuffer when there
is no `src2`. -/
def rgzHwcSubregionBlend (params : OutParams) (subregion : Rect) (src1 : RgzLayer)
    (src2 : Option RgzLayer) (b : Blts) : Except OutFault Blts :=
  match src1.hwcLayer.handle.deref with
  | none => .error .segv
  | some handle1 =>
    match src2 with
    | none =>
      .ok (b.put fun e => rgzSetSrc2IsDst (rgzBlendEntry params subregion src1 handle1 e))
    | some src2 =>
      match src2.hwcLayer.handle.deref with
      | none => .error .segv
      | some handle2 =>
        .ok (b.put fun e =>
          rgzSetSrc2 subregion src2 handle2 (rgzBlendEntry params subregion src1 handle1 e))

/-- The entry of `rgz_out_clrdst`: a copy from the one-pixel source `-1`, which the kernel
replaces by a transparent pixel. -/
def rgzClearEntry (params : OutParams) (rect : Rect) (e : BltEntry) : BltEntry :=
  let e := { e with
    op := .srcCopy
    flags := { clip := true, rop := true, async := true }
    src1desc := ⟨4, .index (-1)⟩
    src1geom := { e.src1geom with format := .rgba24, width := 1, height := 1, orientation := 0 }
    src1rect := ⟨0, 0, 1, 1⟩ }
  rgzSetDstData params rect 0 (rgzSetClipRect params rect e)

/-- `rgz_out_clrdst`; without a rectangle the whole screen is cleared. -/
def rgzOutClrdst (params : OutParams) (rect : Option Rect) (b : Blts) : Blts :=
  b.put (rgzClearEntry params (rect.getD params.dstgeom.rect))

/-! ## Painting -/

/-- `rgz_hwc_layer_blit`. -/
def rgzHwcLayerBlit (params : OutParams) (l : RgzLayer) (b : Blts) : Except OutFault Blts :=
  if !params.noblend ∧ l.hwcLayer.blending = .premult then
    rgzHwcSubregionBlend params l.frame l none b
  else rgzHwcSubregionCopy params l.frame l b

/-- The body of the loop of `rgz_out_bvcmd_paint`. -/
def rgzPaintLayer (params : OutParams) (b : Blts) (l : RgzLayer) : Except OutFault Blts :=
  if l.buffidx = -1 then
    .ok (rgzOutClrdst params (some (clipToScreen params.dstgeom l.frame)) b)
  else rgzHwcLayerBlit params l b

/-- What a `BVCMD` output hands back: the commands and the handles of their sources. -/
structure OutData where
  cmds : List BltEntry
  outHndls : List BufferHandle
  outBlits : Nat

/-- `rgz_set_async`. -/
def rgzSetAsync (async : Bool) (e : BltEntry) : BltEntry :=
  { e with flags := { e.flags with async := async } }

/-- The end of both outputs: the last blit is made synchronous, and too many blits are an
error.  The handles are those of the layers behind the background that are not clear hints. -/
def rgzFinish (curFb : List RgzLayer) (b : Blts) : Except OutFault OutData :=
  let b := b.modify (rgzSetAsync false)
  if b.outBlits ≥ rgzMaxBlits then .error .failed
  else
    .ok { cmds := b.bvcmds
          outHndls := (curFb.tail.filter fun l => l.buffidx ≠ -1).map fun l => l.hwcLayer.handle
          outBlits := b.outBlits }

/-- `rgz_out_bvcmd_paint`. -/
def rgzOutBvcmdPaint (rgz : Rgz) (params : OutParams) : Except OutFault OutData := do
  let b ← rgz.curFbState.tail.foldlM (rgzPaintLayer params) (rgzOutClrdst params none .init)
  rgzFinish rgz.curFbState b

/-! ## The layers of a subregion -/

/-- A layer that needs nothing below it drawn first; asking for the format of a blended layer
reads its handle. -/
def stopsDescent (l : RgzLayer) : Except OutFault Bool :=
  if l.hwcLayer.blending ≠ .premult then .ok true
  else
    match l.hwcLayer.handle.deref with
    | some handle => .ok handle.iFormat.isOpaque
    | none => .error .segv

/-- The loop of `get_layer_ops`, with the layers below `l` still to visit. -/
def getLayerOpsFrom (h : Hregion) (s : Nat) :
    Nat → Nat → Option Nat → Except OutFault (Nat × Option Nat)
  | 0, ops, bottom => .ok (ops, bottom)
  | l + 1, ops, bottom =>
    if !emptyRect (h.blitrect l s) then do
      if ← stopsDescent (h.layer l) then pure (ops + 1, some l)
      else getLayerOpsFrom h s l (ops + 1) (some l)
    else getLayerOpsFrom h s l ops bottom

/-- `get_layer_ops`: the number of layers to draw in a subregion, walking down to the first
that needs no blending, and the index of the lowest of them. -/
def getLayerOps (h : Hregion) (s : Nat) : Except OutFault (Nat × Option Nat) :=
  getLayerOpsFrom h s h.rgzLayers.length 0 none

/-- `get_layer_ops_next`: the next layer above `l` in the subregion. -/
def getLayerOpsNext (h : Hregion) (s l : Nat) : Option Nat :=
  (List.range' (l + 1) (h.rgzLayers.length - (l + 1))).find? fun k => !emptyRect (h.blitrect k s)

/-- `get_top_rect`: the topmost layer of the subregion, with the layers below `l` still to
visit. -/
def getTopRectFrom (h : Hregion) (s : Nat) : Nat → Option Nat
  | 0 => none
  | l + 1 => if !emptyRect (h.blitrect l s) then some l else getTopRectFrom h s l

/-- The dirty test of `rgz_hwc_subregion_blit` along the layers from `lix` up. -/
def anyLayerDirty (h : Hregion) (s : Nat) : Nat → Nat → Bool
  | 0, _ => false
  | fuel + 1, lix =>
    decide ((h.layer lix).dirtyCount ≠ 0) ||
      match getLayerOpsNext h s lix with
      | some next => anyLayerDirty h s fuel next
      | none => false

/-- Is the subregion redrawn?  The loop visits each of the band's layers at most once. -/
def subregionDirty (h : Hregion) (s lix : Nat) (damagedArea : Rect) : Bool :=
  rectIntersects damagedArea (h.blitrect lix s) ||
    anyLayerDirty h s h.rgzLayers.length lix

/-! ## Drawing a subregion -/

/-- `rgz_can_blend_together`. -/
def rgzCanBlendTogether (src1 src2 : HwcLayer) : Except OutFault Bool :=
  if src1.scaled || src2.scaled then .ok false
  else
    match src1.handle.deref, src2.handle.deref with
    | some h1, some h2 => .ok (!(h1.iFormat.isNv12 || h2.iFormat.isNv12))
    | _, _ => .error .segv

/-- `rgz_is_layer_nv12`. -/
def rgzIsLayerNv12 (l : HwcLayer) : Except OutFault Bool :=
  match l.handle.deref with
  | some h => .ok h.iFormat.isNv12
  | none => .error .segv

/-- `rgz_batch_entry`. -/
def rgzBatchEntry (flag : BatchState) (set : BatchFlags) (e : BltEntry) : BltEntry :=
  { e with
    flags := { e.flags with batch := flag }
    batchflags := e.batchflags.union set }

/-- The locals of the blending loop. -/
structure BlendState where
  blts : Blts
  prevLayerScaled : Bool
  prevLayerNv12 : Bool
  firstBatchflags : BatchFlags

/-- The body of the loop that blends the remaining layers with the framebuffer. -/
def rgzBlendNext (params : OutParams) (rect : Rect) (src1 : RgzLayer) (st : BlendState) :
    Except OutFault BlendState := do
  let blts ← rgzHwcSubregionBlend params rect src1 none st.blts
  let curLayerScaled := src1.hwcLayer.scaled
  let curLayerNv12 ← rgzIsLayerNv12 src1.hwcLayer
  let srcFlags : BatchFlags := { src1 := true, src1rectOrigin := true, src1rectSize := true }
  let scaleFlags : BatchFlags :=
    if curLayerScaled || st.prevLayerScaled then
      { dstrectOrigin := true, dstrectSize := true, src2rectOrigin := true,
        src2rectSize := true, scale := true }
    else {}
  let nv12Flags : BatchFlags :=
    if curLayerNv12 || st.prevLayerNv12 then
      { dst := true, dstrectOrigin := true, dstrectSize := true, src2 := true,
        src2rectOrigin := true, src2rectSize := true, cliprect := true }
    else {}
  let batchflags := ((st.firstBatchflags.union srcFlags).union scaleFlags).union nv12Flags
  return { blts := blts.modify (rgzBatchEntry .batchContinue batchflags)
           prevLayerScaled := curLayerScaled
           prevLayerNv12 := curLayerNv12
           firstBatchflags := {} }

/-- The loop that blends the remaining layers with the framebuffer; it visits each of the
band's layers at most once. -/
def rgzBlendRest (params : OutParams) (h : Hregion) (s : Nat) (rect : Rect) :
    Nat → Nat → BlendState → Except OutFault BlendState
  | 0, _, st => .ok st
  | fuel + 1, lix, st =>
    match getLayerOpsNext h s lix with
    | none => .ok st
    | some next => do
      let st ← rgzBlendNext params rect (h.layer next) st
      rgzBlendRest params h s rect fuel next st

/-- The start of a blend: the two lowest layers in one blit if they allow it, otherwise a copy
of the lowest one.  Returns the layer reached. -/
def rgzBlendFirst (params : OutParams) (h : Hregion) (rect : Rect) (s2lix lix : Nat)
    (b : Blts) : Except OutFault (Nat × BlendState) := do
  let src1 := h.layer lix
  let src2 := h.layer s2lix
  let srcChanged : BatchFlags := { src2 := true, src2rectOrigin := true, src2rectSize := true }
  if ← rgzCanBlendTogether src1.hwcLayer src2.hwcLayer then
    let blts ← rgzHwcSubregionBlend params rect src1 (some src2) b
    return (lix, ⟨blts, false, false, srcChanged⟩)
  else
    let blts ← rgzHwcSubregionCopy params rect src2 b
    let nv12 ← rgzIsLayerNv12 src2.hwcLayer
    return (s2lix, ⟨blts, src2.hwcLayer.scaled, nv12, srcChanged.union { op := true }⟩)

/-- The blend case of `rgz_hwc_subregion_blit`, for two or more layers from `lix` up. -/
def rgzBlendLayers (params : OutParams) (h : Hregion) (s lix : Nat) (b : Blts) :
    Except OutFault Blts :=
  match getLayerOpsNext h s lix with
  | none => .error .segv
  | some next => do
    let rect := h.blitrect lix s
    let (reached, st) ← rgzBlendFirst params h rect lix next b
    let st := { st with blts := st.blts.modify (rgzBatchEntry .batchBegin {}) }
    let st ← rgzBlendRest params h s rect h.rgzLayers.length reached st
    -- a batch of one is no batch
    return st.blts.modify fun e =>
      if e.flags.batch.hasBeginBit then rgzBatchEntry .single {} e
      else rgzBatchEntry .batchEnd {} e

/-- The copy case of `rgz_hwc_subregion_blit`; without blending the topmost layer wins. -/
def rgzCopyLayer (params : OutParams) (h : Hregion) (s lix : Nat) (b : Blts) :
    Except OutFault Blts :=
  if params.noblend then
    match getTopRectFrom h s h.rgzLayers.length with
    | some top => rgzHwcSubregionCopy params (h.blitrect top s) (h.layer top) b
    | none => .error .segv
  else rgzHwcSubregionCopy params (h.blitrect lix s) (h.layer lix) b

/-- The part of `rgz_hwc_subregion_blit` after the background has been dealt with: a clear-hint
layer at the bottom clears the subregion or is skipped. -/
def rgzDrawLayers (params : OutParams) (h : Hregion) (s ldepth lix : Nat) (b : Blts) :
    Except OutFault Blts :=
  let draw (ldepth lix : Nat) : Except OutFault Blts :=
    if !params.noblend ∧ ldepth > 1 then rgzBlendLayers params h s lix b
    else rgzCopyLayer params h s lix b
  if (h.layer lix).buffidx = rgzClearhintBuffidx then
    if ldepth - 1 = 0 then .ok (rgzOutClrdst params (some (h.blitrect lix s)) b)
    else
      match getLayerOpsNext h s lix with
      | some next => draw (ldepth - 1) next
      | none => .error .segv
  else draw ldepth lix

/-- `rgz_hwc_subregion_blit`. -/
def rgzHwcSubregionBlit (params : OutParams) (h : Hregion) (damagedArea : Rect) (b : Blts)
    (s : Nat) : Except OutFault Blts := do
  let (ldepth, bottom) ← getLayerOps h s
  match bottom with
  | none => .error .failed
  | some lix =>
    if !subregionDirty h s lix damagedArea then return b
    else if (h.layer lix).buffidx = rgzBackgroundBuffidx then
      if ldepth = 1 then return rgzOutClrdst params (some (h.blitrect lix s)) b
      else
        match getLayerOpsNext h s lix with
        | some next => rgzDrawLayers params h s (ldepth - 1) next b
        | none => .error .segv
    else rgzDrawLayers params h s ldepth lix b

/-- The subregions of one band. -/
def rgzOutHregion (params : OutParams) (damagedArea : Rect) (b : Blts) (h : Hregion) :
    Except OutFault Blts :=
  if h.rgzLayers.length = 0 then .error .failed
  else (List.range h.nsubregions).foldlM (rgzHwcSubregionBlit params h damagedArea) b

/-- `rgz_out_region` for the `BVCMD` operation. -/
def rgzOutRegion (rgz : Rgz) (params : OutParams) : Except OutFault OutData :=
  if !rgz.regionData then .error .failed
  else do
    let b ← rgz.hregions.foldlM (rgzOutHregion params rgz.damagedArea) .init
    rgzFinish rgz.curFbState b

/-- The two operations of `rgz_out` the composer uses. -/
inductive RgzOutOp
  | bvcmdPaint
  | bvcmdRegion
  deriving DecidableEq, Repr

/-- `rgz_out`. -/
def rgzOut (op : RgzOutOp) (rgz : Rgz) (params : OutParams) : Except OutFault OutData :=
  match op with
  | .bvcmdPaint => rgzOutBvcmdPaint rgz params
  | .bvcmdRegion => rgzOutRegion rgz params

end Solana
