import Solana.Hwc.Overlay
import Solana.Rgz.Blits

/-!
# The composer device

The state of the hardware composer (`omap_hwc_device_t` and the static variables of `hwc.c`)
and the decisions `hwc_prepare` takes before it assigns overlays: the layer statistics, how
many overlays each display may use, and whether the display subsystem can show all layers by
itself.

Floating-point data is represented by what it decides: a matrix by its function on windows,
`upscaled_nv12_limit` by its comparison with a pair of lengths, and the mode search of
`set_best_hdmi_mode` by its outcome.
-/

namespace Solana

/-! ## State -/

/-- `MAX_HW_OVERLAYS`. -/
def maxHwOverlays : Nat := 4

/-- `NUM_NONSCALING_OVERLAYS`. -/
def numNonscalingOverlays : Nat := 1

/-- `ext_transform_t`. -/
structure ExtTransform where
  rotation : Nat := 0
  hflip : Bool := false
  enabled : Bool := false
  docking : Bool := false
  deriving DecidableEq, Repr

/-- `omap_hwc_ext_t`.  `m` is `apply_transform` with the external matrix; the resolution and
pixel ratio that only feed the mode search are left out. -/
structure HwcExt where
  mirror : ExtTransform
  dock : ExtTransform
  forceDock : Bool
  hdmiState : Bool
  onTv : Bool
  current : ExtTransform
  last : ExtTransform
  lastMode : Nat
  mirrorMode : Nat
  m : DssRect → DssRect
  mirrorRegion : Rect

/-- `enum bltpolicy`. -/
inductive BltPolicy
  | disabled
  | default
  | all
  deriving DecidableEq, Repr

/-- `enum bltmode`. -/
inductive BltMode
  | paint
  | region
  deriving DecidableEq, Repr

/-- `counts_t`. -/
structure Counts where
  possibleOverlayLayers : Nat := 0
  compositedLayers : Nat := 0
  scaledLayers : Nat := 0
  rgb : Nat := 0
  bgr : Nat := 0
  nv12 : Nat := 0
  dockable : Nat := 0
  protected_ : Nat := 0
  maxHwOverlays : Nat := 0
  maxScalingOverlays : Nat := 0
  mem : Nat := 0
  deriving DecidableEq, Repr

/-- `dsscomp_platform_info`. -/
structure PlatformInfo where
  maxXdecim2d : UInt32
  maxYdecim2d : UInt32
  maxXdecim1d : UInt32
  maxYdecim1d : UInt32
  fclk : UInt32
  minWidth : UInt32
  maxDownscale : UInt32
  integerScaleRatioLimit : UInt32
  tiler1dSlotSize : Nat
  fbmemTiler2d : Bool

/-- What `hwc.c` reads of `dsscomp_display_info`: whether the channel is the digital one, and
the pixel clock. -/
structure DisplayInfo where
  channelDigit : Bool
  pixelClock : UInt32

/-- The framebuffer device. -/
structure FbDev where
  format : PixelFormat
  width : Int
  height : Int

/-- `dsscomp_setup_dispc_data`, as far as the composer fills it.  `ovls` holds the entries
written so far, and `numOvls` how many of them the kernel is told about. -/
structure Dsscomp where
  syncId : Nat
  numOvls : Nat
  ovls : List OvlInfo
  numMgrs : Nat
  swapRb : Bool

/-- `omap_hwc_blit_data`: the `USE_FB` bit, the number of blits, and the blits. -/
structure BlitData where
  useFb : Bool
  rgzItems : Nat
  rgzBlts : List BltEntry

/-- `omap_hwc_device_t`, followed by the static variables of `hwc.c`. -/
structure HwcDev where
  fbDev : FbDev
  fbDis : DisplayInfo
  flagsRgbOrder : Bool
  flagsNv12Only : Bool
  /-- `dst >= src * upscaled_nv12_limit`. -/
  nv12LimitReached : Int → Int → Bool
  onTv : Bool
  forceSgx : Nat
  ext : HwcExt
  primaryM : DssRect → DssRect
  primaryTransform : Nat
  primaryRotation : Nat
  primaryRegion : Rect
  buffers : Nat → BufferHandle
  useSgx : Bool
  swapRb : Bool
  post2Layers : Nat
  post2BlitBuffers : Nat
  extOvls : Int
  extOvlsWanted : Int
  lastExtOvls : Int
  lastIntOvls : Int
  bltMode : BltMode
  bltPolicy : BltPolicy
  /-- The `HWC_BLT_FLAG_USE_FB` bit of `blit_flags`. -/
  blitUseFb : Bool
  blitNum : Nat
  dsscomp : Dsscomp
  blitData : BlitData
  counts : Counts
  ionHandles : Nat → Option Nat
  /-- The static `grgz`. -/
  grgz : Rgz
  /-- The static `gscrngeom`. -/
  gscrngeom : SurfGeom
  /-- The background layer `rgz_get_screengeometry` has set up. -/
  bgLayer : HwcLayer
  /-- The static `sync_id`. -/
  syncId : Nat
  /-- The static `limits`. -/
  limits : PlatformInfo

/-! ## Layers -/

/-- The usage bit `GRALLOC_USAGE_PROTECTED` (`is_protected`). -/
def HwcLayer.isProtected (l : HwcLayer) : Bool :=
  (l.handle.deref.map NativeHandle.protected_).getD false

/-- The usage bit `GRALLOC_USAGE_EXTERNAL_DISP` (`dockable`). -/
def HwcLayer.dockable (l : HwcLayer) : Bool :=
  (l.handle.deref.map NativeHandle.externalDisp).getD false

/-- `mem1d` of a gralloc handle. -/
def NativeHandle.mem1d (h : NativeHandle) : Nat :=
  if h.iFormat.isTiNv12 then 0
  else u32 (hwAlign h.iWidth * (if h.iFormat = .rgb565 then 2 else 4) * h.iHeight)

/-- `is_upscaled_NV12`. -/
def isUpscaledNv12 (dev : HwcDev) (layer : HwcLayer) (handle : NativeHandle) : Bool :=
  let w := layer.sourceCrop.width
  let h := layer.sourceCrop.height
  let (w, h) := if layer.transform.rot90 then (h, w) else (w, h)
  handle.iFormat.isTiNv12 &&
    (dev.nv12LimitReached layer.displayFrame.width w ||
      dev.nv12LimitReached layer.displayFrame.height h)

/-- `DIV_ROUND_UP`. -/
def divRoundUp (a b : UInt32) : UInt32 := (a + b - 1) / b

/-- `can_scale`; `bpp32` is set for a handle of a 32-bit format. -/
def canScale (srcW srcH dstW dstH : UInt32) (is2d : Bool) (dis : DisplayInfo)
    (limits : PlatformInfo) (pclk : UInt32) (bpp32 : Bool) : Bool :=
  let maxX := if is2d then limits.maxXdecim2d else limits.maxXdecim1d
  let maxY := if is2d then limits.maxYdecim2d else limits.maxYdecim1d
  let minSrcW := divRoundUp srcW maxX
  let minSrcH := divRoundUp srcH maxY
  if !dis.channelDigit && dstW < limits.minWidth then false
  else if dstH < srcH / 4 then false
  else if dstH * limits.maxDownscale < minSrcH then false
  -- for manual panels the pixel clock is 0 and only the decimation counts
  else if pclk = 0 then !(decide (dstW < srcW / limits.maxDownscale / maxX))
  else if dstW * 4 < srcW then false
  else if bpp32 && 1280 < srcW && dstW * 3 < srcW then false
  else
    let fclk := limits.fclk / 1000
    let fclk := if pclk * limits.maxDownscale < fclk then pclk * limits.maxDownscale else fclk
    let fclk := if srcW < limits.integerScaleRatioLimit then fclk / pclk * pclk else fclk
    !(decide (dstW * fclk < minSrcW * pclk))

/-- `can_scale_layer`. -/
def canScaleLayer (dev : HwcDev) (layer : HwcLayer) (handle : NativeHandle) : Bool :=
  let srcW := layer.sourceCrop.width
  let srcH := layer.sourceCrop.height
  let (srcW, srcH) := if layer.transform.rot90 then (srcH, srcW) else (srcW, srcH)
  canScale (.ofNat (u32 srcW)) (.ofNat (u32 srcH)) (.ofNat (u32 layer.displayFrame.width))
    (.ofNat (u32 layer.displayFrame.height)) handle.iFormat.isTiNv12 dev.fbDis dev.limits
    dev.fbDis.pixelClock (handle.iFormat.bpp = 32)

/-- `is_valid_layer` for a layer with a handle. -/
def isValidLayer (dev : HwcDev) (layer : HwcLayer) (handle : NativeHandle) : Bool :=
  !layer.skipLayer && handle.iFormat.isValid &&
    (handle.iFormat.isTiNv12 ||
      (layer.transform.identity && handle.mem1d ≤ dev.limits.tiler1dSlotSize)) &&
    canScaleLayer dev layer handle

/-- Does the layer need a scaling pipe?  (`scaled(layer) || is_NV12(handle)`.) -/
def needsScaling (layer : HwcLayer) (handle : NativeHandle) : Bool :=
  layer.scaled || handle.iFormat.isTiNv12

/-! ## Statistics -/

/-- The body of the loop of `gather_layer_statistics`. -/
def gatherLayer (dev : HwcDev) (num : Counts) (layer : HwcLayer) : Counts :=
  match layer.handle.deref with
  | none => num
  | some handle =>
    if !isValidLayer dev layer handle then num
    else
      { num with
        possibleOverlayLayers := num.possibleOverlayLayers + 1
        scaledLayers := num.scaledLayers +
          if needsScaling layer handle || dev.primaryTransform ≠ 0 then 1 else 0
        bgr := num.bgr + if handle.iFormat.isBgr then 1 else 0
        rgb := num.rgb + if !handle.iFormat.isBgr && handle.iFormat.isRgb then 1 else 0
        nv12 := num.nv12 +
          if !handle.iFormat.isBgr && !handle.iFormat.isRgb && handle.iFormat.isTiNv12 then 1
          else 0
        dockable := num.dockable + if layer.dockable then 1 else 0
        protected_ := num.protected_ + if layer.isProtected then 1 else 0
        mem := u32 (num.mem + handle.mem1d) }

/-- The counters of `gather_layer_statistics`. -/
def gatherLayerStatistics (dev : HwcDev) (layers : List HwcLayer) : Counts :=
  layers.foldl (gatherLayer dev) { compositedLayers := layers.length }

/-! ## Sharing the overlays between the displays -/

/-- Is the external display docked to (rather than mirroring or off)? -/
def docks (ext : HwcExt) (num : Counts) : Bool :=
  ext.dock.enabled && !(ext.mirror.enabled && !(num.dockable ≠ 0 || ext.forceDock))

/-- The first part of `decide_supported_cloning`: how many overlays the primary display may use
and the external one should have, the external transformation, and the non-scaling overlays. -/
def decideShares (dev : HwcDev) (num : Counts) : Int × Int × ExtTransform × Nat :=
  let ext := dev.ext
  if docks ext num then
    let extOvls : Int := if num.dockable ≠ 0 ∨ ext.forceDock then 1 else 0
    (maxHwOverlays - max extOvls dev.lastExtOvls, extOvls,
      if ext.mirror.enabled then { ext.mirror with docking := true } else ext.dock,
      numNonscalingOverlays)
  else if ext.mirror.enabled then
    (maxHwOverlays / 2, maxHwOverlays - maxHwOverlays / 2, ext.mirror, numNonscalingOverlays / 2)
  else
    (maxHwOverlays - dev.lastExtOvls, 0, { ext.current with enabled := false },
      numNonscalingOverlays)

/-- `decide_supported_cloning`. -/
def decideSupportedCloning (dev : HwcDev) : HwcDev :=
  let num := dev.counts
  let (share, wanted, current, nonscaling) := decideShares dev num
  let extOvls := min (maxHwOverlays - dev.lastIntOvls) wanted
  -- a mirrored frame is limited by the external overlays as well
  let share :=
    if num.protected_ = 0 ∧ extOvls ≠ 0 ∧ current.enabled ∧ !current.docking then extOvls
    else share
  let (maxHw, maxScaling) :=
    if dev.primaryTransform ≠ 0 then
      (share - numNonscalingOverlays, share - numNonscalingOverlays)
    else (share, share - nonscaling)
  { dev with
    ext := { dev.ext with current := current }
    extOvls := extOvls
    extOvlsWanted := wanted
    counts := { num with maxHwOverlays := u32 maxHw, maxScalingOverlays := u32 maxScaling } }

/-! ## What the display subsystem can render -/

/-- `can_dss_render_all`. -/
def canDssRenderAll (dev : HwcDev) : Bool :=
  let ext := dev.ext
  let num := dev.counts
  let onTv := dev.onTv || (ext.onTv && ext.current.enabled)
  let tform := ext.current.enabled && (ext.current.rotation ≠ 0 || ext.current.hflip)
  dev.forceSgx = 0 &&
    num.possibleOverlayLayers ≠ 0 &&
    num.possibleOverlayLayers ≤ num.maxHwOverlays &&
    num.possibleOverlayLayers = num.compositedLayers &&
    num.scaledLayers ≤ num.maxScalingOverlays &&
    num.nv12 ≤ num.maxScalingOverlays &&
    num.mem ≤ dev.limits.tiler1dSlotSize &&
    (!tform || num.nv12 = num.possibleOverlayLayers || (num.nv12 ≠ 0 && ext.current.docking)) &&
    (num.bgr = 0 || (num.rgb = 0 && !onTv) || !dev.flagsRgbOrder) &&
    (!dev.flagsNv12Only || (num.bgr = 0 && num.rgb = 0))

/-- `can_dss_render_layer` for a layer with a handle; without one it is false. -/
def canDssRenderLayer (dev : HwcDev) (layer : HwcLayer) (handle : NativeHandle) : Bool :=
  let ext := dev.ext
  let cloning := ext.current.enabled && (!ext.current.docking || layer.dockable)
  let onTv := dev.onTv || (ext.onTv && cloning)
  let tform := cloning && (ext.current.rotation ≠ 0 || ext.current.hflip)
  isValidLayer dev layer handle &&
    (!tform || handle.iFormat.isTiNv12) &&
    (!dev.flagsNv12Only || !dev.useSgx || handle.iFormat.isTiNv12) &&
    (!(if dev.swapRb then handle.iFormat.isRgb else handle.iFormat.isBgr) ||
      !dev.flagsRgbOrder) &&
    !(onTv && handle.iFormat.isBgr)

/-! ## Cloning -/

/-- `adjust_ext_layer`. -/
def adjustExtLayer (ext : HwcExt) (ovl : OvlInfo) : OvlInfo :=
  match (if ext.current.docking then some ovl.cfg else cropToRect ovl.cfg ext.mirrorRegion) with
  | none => { ovl with cfg := { ovl.cfg with enabled := false } }
  | some oc =>
    { ovl with
      cfg := { oc with
        win := ext.m oc.win
        rotation := turnBy oc ext.current.rotation
        mirror := oc.mirror ^^ ext.current.hflip } }

@[simp] lemma adjustExtLayer_placement (ext : HwcExt) (o : OvlInfo) :
    (adjustExtLayer ext o).placement = o.placement := by
  unfold adjustExtLayer
  split
  · rfl
  · rename_i oc hoc
    split_ifs at hoc
    · obtain rfl := Option.some.inj hoc
      rfl
    · obtain ⟨h1, h2, h3⟩ := cropToRect_placement hoc
      simp [OvlInfo.placement, h1, h2, h3]

/-- The entry `clone_layer` writes for overlay `ix`, of which `src` is the configuration. -/
def cloneEntry (dev : HwcDev) (numOvls : Nat) (src : OvlInfo) (ix : Nat) : OvlInfo :=
  let extOvlIx := numOvls - dev.post2Layers
  let backup := dev.ionHandles (dev.syncId % 2)
  let o : OvlInfo :=
    { cfg := { src.cfg with
        ix := maxHwOverlays - 1 - extOvlIx
        mgrIx := 1
        zorder := src.cfg.zorder + dev.post2Layers }
      addressing := if ix = 0 ∧ backup.isSome ∧ dev.useSgx then .ion else .ovlIx
      ba := if ix = 0 ∧ backup.isSome ∧ dev.useSgx then backup.getD 0 else ix }
  adjustExtLayer dev.ext o

/-- `clone_layer`: the overlays with the clone at their end, or nothing if all pipes are used. -/
def cloneLayer (dev : HwcDev) (ovls : List OvlInfo) (src : OvlInfo) (ix : Nat) :
    Option (List OvlInfo) :=
  if ovls.length ≥ maxHwOverlays then none
  else some (ovls ++ [cloneEntry dev ovls.length src ix])

/-- The outcome of `set_best_hdmi_mode`: a failure, or the mode picked, if any, and whether the
channel is the digital one. -/
inductive HdmiMode
  | failed
  | picked (best : Option Nat) (digit : Bool)
  deriving DecidableEq, Repr

/-- `set_best_hdmi_mode`, given its outcome. -/
def setBestHdmiMode (mode : HdmiMode) (ext : HwcExt) : Option HwcExt :=
  match mode with
  | .failed => none
  | .picked best digit =>
    some { ext with
      lastMode := (best.map fun b => u32 (-1 - b)).getD ext.lastMode
      onTv := ext.onTv || digit }

end Solana
