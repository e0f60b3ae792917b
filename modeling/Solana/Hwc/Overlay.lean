import Solana.Display.Layer

/-!
# Overlay configurations

The display subsystem shows up to four overlays; each has a pipe index, a z-order, a manager
(the primary or the external display), a window on the screen and the way its buffer is
addressed.  This module has the configuration record and the functions of `hwc.c` that fill it
from a layer or move it to another display.

The matrices of `apply_transform` are floating-point; a matrix stands here for the function on
windows it computes.  Nothing below depends on which function that is: moving an overlay never
touches its index, z-order, manager or buffer (`OvlInfo.placement`).
-/

namespace Solana

/-! ## The record -/

/-- `omap_color_mode`, the values the composer uses. -/
inductive DssColor
  | unset
  | argb32
  | rgb24u
  | rgb16
  | nv12
  deriving DecidableEq, Repr

/-- `dss2_rect_t`. -/
structure DssRect where
  x : Int
  y : Int
  w : Int
  h : Int
  deriving DecidableEq, Repr

/-- `omapdss_buffer_addressing_type`: how `ba` is read. -/
inductive BufAddr
  | direct
  | ion
  | ovlIx
  | layerIx
  | fb
  deriving DecidableEq, Repr

/-- `dss2_ovl_cfg` without the colour conversion, interlacing and write-back settings, which
are the same for every overlay. -/
structure OvlCfg where
  width : Int
  height : Int
  stride : Int
  colorMode : DssColor
  preMultAlpha : Bool
  globalAlpha : Nat
  rotation : Nat
  mirror : Bool
  win : DssRect
  crop : DssRect
  ix : Nat
  zorder : Nat
  enabled : Bool
  mgrIx : Nat
  deriving DecidableEq, Repr

/-- `dss2_ovl_info`. -/
structure OvlInfo where
  cfg : OvlCfg
  addressing : BufAddr
  ba : Nat
  deriving DecidableEq, Repr

/-- A zeroed entry of `ovls`. -/
def OvlInfo.zero : OvlInfo where
  cfg := ⟨0, 0, 0, .unset, false, 0, 0, false, ⟨0, 0, 0, 0⟩, ⟨0, 0, 0, 0⟩, 0, 0, false, 0⟩
  addressing := .direct
  ba := 0

/-! ## Formats -/

/-- Reduction of a C value to `uint32_t`. -/
def u32 (x : Int) : Nat := (x % 4294967296).toNat

/-- `ALIGN(x, HW_ALIGN)`. -/
def hwAlign (x : Int) : Int := (x + 31) / 32 * 32

/-- `is_valid_format`. -/
def PixelFormat.isValid : PixelFormat → Bool
  | .rgb565 | .rgbx8888 | .rgba8888 | .bgra8888 | .bgrx8888 | .tiNv12 | .tiNv121d => true
  | _ => false

/-- `is_BGR_format`. -/
def PixelFormat.isBgr : PixelFormat → Bool
  | .rgbx8888 | .rgba8888 => true
  | _ => false

/-- `is_RGB`. -/
def PixelFormat.isRgb : PixelFormat → Bool
  | .bgra8888 | .bgrx8888 | .rgb565 => true
  | _ => false

/-- `is_NV12` of `hwc.c`. -/
def PixelFormat.isTiNv12 : PixelFormat → Bool
  | .tiNv12 | .tiNv121d => true
  | _ => false

/-- `get_format_bpp`. -/
def PixelFormat.bpp : PixelFormat → Int
  | .bgra8888 | .bgrx8888 | .rgbx8888 | .rgba8888 => 32
  | .rgb565 => 16
  | .tiNv12 | .tiNv121d => 8
  | _ => 0

/-- `is_BLENDED`. -/
def HwcLayer.isBlended (l : HwcLayer) : Bool := decide (l.blending ≠ .none)

/-! ## Setting up an overlay -/

/-- The colour mode `setup_layer_base` picks, if it supports the format. -/
def dssColorMode (format : PixelFormat) (blended : Bool) : Option DssColor :=
  match format with
  | .rgba8888 | .bgra8888 => some (if blended then .argb32 else .rgb24u)
  | .rgbx8888 | .bgrx8888 => some .rgb24u
  | .rgb565 => some .rgb16
  | .tiNv12 | .tiNv121d => some .nv12
  | _ => none

/-- `setup_layer_base`; an unsupported format leaves the entry as it was. -/
def setupLayerBase (oc : OvlCfg) (index : Nat) (format : PixelFormat) (blended : Bool)
    (width height : Int) : OvlCfg :=
  match dssColorMode format blended with
  | none => oc
  | some mode =>
    { oc with
      colorMode := mode
      width := width
      height := height
      stride := hwAlign width * format.bpp / 8
      enabled := true
      globalAlpha := 255
      zorder := index
      ix := 0
      crop := { oc.crop with w := width, h := height }
      win := { oc.win with w := width, h := height } }

/-- The conversion of the transformation in `setup_layer`, from a zeroed entry. -/
def setupTransform (t : Transform) : Nat × Bool :=
  let mirror := t.flipH
  let (rotation, mirror) := if t.flipV then (2, !mirror) else (0, mirror)
  if t.rot90 then ((if mirror then rotation + 3 else rotation + 1) % 4, mirror)
  else (rotation, mirror)

/-- `setup_layer`, on a zeroed entry. -/
def setupLayer (layer : HwcLayer) (index : Nat) (format : PixelFormat) (width height : Int) :
    OvlCfg :=
  let oc := setupLayerBase OvlInfo.zero.cfg index format layer.isBlended width height
  { oc with
    rotation := (setupTransform layer.transform).1
    mirror := (setupTransform layer.transform).2
    preMultAlpha := decide (layer.blending = .premult)
    win := ⟨layer.displayFrame.left, layer.displayFrame.top, layer.displayFrame.width,
      layer.displayFrame.height⟩
    crop := ⟨layer.sourceCrop.left, layer.sourceCrop.top, layer.sourceCrop.width,
      layer.sourceCrop.height⟩ }

/-! ## Moving an overlay -/

/-- Position and extent of a rectangle along one axis. -/
structure Span where
  xy : Int
  wh : Int
  deriving DecidableEq, Repr

/-- Look at the span from its other end. -/
def Span.flip (s : Span) : Span := ⟨s.xy + s.wh, -s.wh⟩

/-- Look at one of two spans from its other end; `i` is the C index. -/
def flipAt (i : Bool) (c : Span × Span) : Span × Span :=
  if i then (c.1, c.2.flip) else (c.1.flip, c.2)

/-- The body of the loop of `crop_to_rect` for one axis: the window span cropped to the visible
range, and the crop span with it; nothing if nothing is left. -/
def cropAxis (win crop : Span) (lt rb : Int) : Option (Span × Span) :=
  if win.wh ≤ 0 ∨ rb ≤ lt ∨ win.xy + win.wh ≤ lt ∨ rb ≤ win.xy ∨ crop.wh = 0 then none
  else
    -- crop left or top
    let (win, crop) :=
      if win.xy < lt then
        let a := ((lt - win.xy) * crop.wh).tdiv win.wh
        ((⟨lt, win.wh - (lt - win.xy)⟩ : Span), (⟨crop.xy + a, crop.wh - a⟩ : Span))
      else (win, crop)
    -- crop right or bottom
    let (win, crop) :=
      if rb < win.xy + win.wh then
        ((⟨win.xy, rb - win.xy⟩ : Span),
          (⟨crop.xy, (crop.wh * (rb - win.xy)).tdiv win.wh⟩ : Span))
      else (win, crop)
    if crop.wh = 0 ∨ win.wh = 0 then none else some (win, crop)

/-- The crop spans seen in display coordinates; the same function turns them back when its
steps are done in the other order. -/
def alignCrop (rotation : Nat) (mirror : Bool) (c : Span × Span) : Span × Span :=
  let swap := rotation % 2 = 1
  let upside := rotation / 2 % 2 = 1
  let c := if swap then flipAt true c else c
  let c := if upside then flipAt (!decide swap) c else c
  if (!mirror) ^^ !decide upside then flipAt swap c else c

/-- The crop spans seen in buffer coordinates again. -/
def realignCrop (rotation : Nat) (mirror : Bool) (c : Span × Span) : Span × Span :=
  let swap := rotation % 2 = 1
  let upside := rotation / 2 % 2 = 1
  let c := if upside then flipAt (!decide swap) c else c
  let c := if (!mirror) ^^ !decide upside then flipAt swap c else c
  if swap then flipAt true c else c

/-- `crop_to_rect`; `none` is the error return, which leaves the entry as it was. -/
def cropToRect (cfg : OvlCfg) (vis : Rect) : Option OvlCfg :=
  let swap := decide (cfg.rotation % 2 = 1)
  let c := alignCrop cfg.rotation cfg.mirror (⟨cfg.crop.x, cfg.crop.w⟩, ⟨cfg.crop.y, cfg.crop.h⟩)
  -- the crop axis of window axis `i` is `i ^ swap`
  do
    let (winX, cropX) ← cropAxis ⟨cfg.win.x, cfg.win.w⟩ (if swap then c.2 else c.1)
      vis.left vis.right
    let (winY, cropY) ← cropAxis ⟨cfg.win.y, cfg.win.h⟩ (if swap then c.1 else c.2)
      vis.top vis.bottom
    let c := realignCrop cfg.rotation cfg.mirror (if swap then (cropY, cropX) else (cropX, cropY))
    return { cfg with
      win := ⟨winX.xy, winY.xy, winX.wh, winY.wh⟩
      crop := ⟨c.1.xy, c.2.xy, c.1.wh, c.2.wh⟩ }

/-- A rotation of the display combined with that of the overlay. -/
def turnBy (oc : OvlCfg) (turns : Nat) : Nat :=
  (((oc.rotation : Int) + (if oc.mirror then -1 else 1) * turns) % 4).toNat

/-- `adjust_primary_display_layer`; `m` is `apply_transform` with the primary matrix. -/
def adjustPrimaryDisplayLayer (region : Rect) (m : DssRect → DssRect) (turns : Nat)
    (ovl : OvlInfo) : OvlInfo :=
  match cropToRect ovl.cfg region with
  | none => { ovl with cfg := { ovl.cfg with enabled := false } }
  | some oc => { ovl with cfg := { oc with win := m oc.win, rotation := turnBy oc turns } }

/-! ## What moving keeps -/

/-- Where an overlay sits among the others and what it shows. -/
def OvlInfo.placement (o : OvlInfo) : Nat × Nat × Nat × BufAddr × Nat :=
  (o.cfg.ix, o.cfg.zorder, o.cfg.mgrIx, o.addressing, o.ba)

lemma cropToRect_placement {cfg cfg' : OvlCfg} {vis : Rect} (h : cropToRect cfg vis = some cfg') :
    cfg'.ix = cfg.ix ∧ cfg'.zorder = cfg.zorder ∧ cfg'.mgrIx = cfg.mgrIx := by
  simp only [cropToRect, Option.bind_eq_bind, Option.bind_eq_some_iff, Option.pure_def,
    Option.some.injEq] at h
  obtain ⟨-, -, -, -, rfl⟩ := h
  exact ⟨rfl, rfl, rfl⟩

@[simp] lemma adjustPrimaryDisplayLayer_placement (region : Rect) (m : DssRect → DssRect)
    (turns : Nat) (o : OvlInfo) :
    (adjustPrimaryDisplayLayer region m turns o).placement = o.placement := by
  unfold adjustPrimaryDisplayLayer
  cases hc : cropToRect o.cfg region with
  | none => rfl
  | some oc =>
    obtain ⟨h1, h2, h3⟩ := cropToRect_placement hc
    simp [OvlInfo.placement, h1, h2, h3]

end Solana
