import Solana.Hwc.Device

/-!
# Preparing a frame

`hwc_prepare` decides how a frame is composed.  Layers the display subsystem takes get an
overlay in list order; the others go to the framebuffer, which is drawn by SGX or, when the
regionizer accepts the list, by the blitter.  Afterwards the overlays are cloned to the
external display.

The function is cut at the places where its locals change meaning: `prepareStart` up to the
choice between SGX and overlays, `blitLayers`, the scan over the layers (`scanLayers`), the
overlay of the framebuffer (`placeFb`), the clones (`cloneOverlays`) and the rest of the
set-up (`prepareEnd`).
-/

namespace Solana

/-! ## Inputs -/

/-- `displays[0]`, as far as it is read: `HWC_EXTENDED_API`, the layers, and whether the
display and the surface are set. -/
structure LayerList where
  extendedApi : Bool
  layers : List HwcLayer
  dpy : Bool
  sur : Bool

/-- The layers of a list that may be null. -/
def listLayers (list : Option LayerList) : List HwcLayer := (list.map LayerList.layers).getD []

/-- What `hwc_prepare` learns from its surroundings. -/
structure PrepareEnv where
  /-- The extension callback is there and supports `HWC_EXTENDED_OP_LAYERDATA`. -/
  extSupported : Bool
  /-- The identity it reports for the layer of an index. -/
  extIdentity : Nat → Option Nat
  callocOk : Bool
  /-- `clone_external_layer` finds the HDMI mode unsuitable. -/
  modeNeeded : Bool
  hdmiMode : HdmiMode
  /-- `apply_transform` with the matrix that `set_ext_matrix` computes. -/
  extMatrix : DssRect → DssRect
  dockWidth : Int
  dockHeight : Int
  dockRowbytes : Int

/-! ## Blitting -/

/-- `blit_reset`. -/
def blitReset (dev : HwcDev) : HwcDev :=
  { dev with
    blitUseFb := false
    blitNum := 0
    post2BlitBuffers := 0
    blitData := { dev.blitData with rgzItems := 0 } }

/-- The layers of a list with their identities, if the callback knows all of them. -/
def extLayers (env : PrepareEnv) (layers : List HwcLayer) : Option (List ExtLayer) :=
  layers.zipIdx.mapM fun l => (env.extIdentity l.2).map fun id => ⟨l.1, id⟩

/-- The regionizer operations of a blit mode. -/
def BltMode.ops : BltMode → RgzInOp × RgzOutOp
  | .paint => (.hwcchk, .bvcmdPaint)
  | .region => (.hwc, .bvcmdRegion)

/-- The buffers with the handles `hs` written from `off` on. -/
def writeBuffers (buffers : Nat → BufferHandle) : Nat → List BufferHandle → Nat → BufferHandle
  | _, [] => buffers
  | off, h :: hs => writeBuffers (Function.update buffers off h) (off + 1) hs

/-- A layer after a successful `blit_layers`. -/
def blittedLayer (l : HwcLayer) : HwcLayer :=
  { l with
    compositionType := .overlay
    hints :=
      { tripleBuffer := l.hints.tripleBuffer && decide (l.compositionType = .overlay)
        clearFb := false } }

/-- The error exit of `blit_layers`. -/
def blitErrOut (dev : HwcDev) : HwcDev := { dev with grgz := rgzRelease dev.grgz }

/-- The device after a successful `blit_layers`. -/
def blitPlanned (dev : HwcDev) (grgz : Rgz) (out : OutData) (bufoff : Nat) : HwcDev :=
  { dev with
    grgz := grgz
    blitUseFb := true
    blitNum := out.outBlits
    post2BlitBuffers := out.outHndls.length
    buffers := writeBuffers dev.buffers bufoff out.outHndls
    blitData := { dev.blitData with rgzBlts := out.cmds } }

/-- The input `blit_layers` gives to the regionizer, if it gets that far. -/
def blitInput (env : PrepareEnv) (dev : HwcDev) (list : Option LayerList) : Option RgzInParams :=
  match list with
  | none => none
  | some list =>
    if dev.ext.mirror.enabled || !list.extendedApi || !env.extSupported ||
        decide (rgzInputMaxLayers < list.layers.length) then none
    else
      (extLayers env list.layers).map fun ext =>
        { layers := some ext
          dstgeom := dev.gscrngeom
          bgLayer := dev.bgLayer
          callocOk := env.callocOk }

/-- `blit_layers`: the device, and the plan if there is one.  A fault of the output functions
takes the whole process down. -/
def blitLayers (env : PrepareEnv) (dev : HwcDev) (list : Option LayerList) (bufoff : Nat) :
    Except OutFault (HwcDev × Bool) :=
  match blitInput env dev list with
  | none => .ok (blitErrOut dev, false)
  | some p =>
    let res := rgzIn dev.bltMode.ops.1 p dev.grgz
    if res.1 ≠ rgzAll then .ok (blitErrOut dev, false)
    else
      match rgzOut dev.bltMode.ops.2 res.2 ⟨dev.gscrngeom, false⟩ with
      | .error .segv => .error .segv
      | .error .failed => .ok (blitErrOut dev, false)
      | .ok out =>
        -- without the regionizer, buffers without a blit are a mistake
        if dev.bltMode = .paint ∧ out.outBlits = 0 ∧ 0 < out.outHndls.length then
          .ok (blitErrOut dev, false)
        else .ok (blitPlanned dev res.2 out bufoff, true)

/-! ## Assigning overlays -/

/-- The locals of the scan over the layers.  `ovls` are the overlays set up so far, `layers`
the layers visited, with what the scan wrote to them. -/
structure Scan where
  ovls : List OvlInfo
  buffers : Nat → BufferHandle
  layers : List HwcLayer
  z : Nat
  fbZ : Option Nat
  ixDocking : Option Nat
  scaledGfx : Bool
  memUsed : Nat

/-- The part of the scan's condition that depends on the layer alone. -/
def overlayEligible (dev : HwcDev) (layer : HwcLayer) (handle : NativeHandle) : Bool :=
  canDssRenderLayer dev layer handle &&
    (dev.forceSgx = 0 || layer.isProtected || isUpscaledNv12 dev layer handle ||
      (dev.ext.current.docking && dev.ext.current.enabled && layer.dockable))

/-- The condition of the scan for rendering a layer via an overlay. -/
def takesOverlay (dev : HwcDev) (s : Scan) (layer : HwcLayer) (handle : NativeHandle) : Bool :=
  s.ovls.length < dev.counts.maxHwOverlays && overlayEligible dev layer handle &&
    u32 (s.memUsed + handle.mem1d) ≤ dev.limits.tiler1dSlotSize &&
    !(layer.isBlended && s.fbZ.isSome)

/-- Change the pipe index of an overlay. -/
def OvlInfo.setIx (ix : Nat) (o : OvlInfo) : OvlInfo := { o with cfg := { o.cfg with ix := ix } }

/-- Change the z-order of an overlay. -/
def OvlInfo.setZorder (z : Nat) (o : OvlInfo) : OvlInfo :=
  { o with cfg := { o.cfg with zorder := z } }

/-- The overlay the scan sets up for a layer, as the `n`-th one. -/
def layerOvl (dev : HwcDev) (n z : Nat) (layer : HwcLayer) (handle : NativeHandle) : OvlInfo where
  cfg := { setupLayer layer z handle.iFormat handle.iWidth handle.iHeight with
    ix := n + dev.primaryTransform }
  addressing := .layerIx
  ba := n

/-- A layer that is rendered via an overlay. -/
def overlaidLayer (dev : HwcDev) (layer : HwcLayer) : HwcLayer :=
  { layer with
    compositionType := .overlay
    hints :=
      { tripleBuffer := true
        clearFb := layer.hints.clearFb || (dev.useSgx && !layer.isBlended) } }

/-- The graphics pipe must not scale: the overlays with the new one at their end, after a
scaled first one has changed pipes with it if it can, and whether the first one is still
scaled. -/
def appendOvl (dev : HwcDev) (s : Scan) (layer : HwcLayer) (handle : NativeHandle) :
    List OvlInfo × Bool :=
  let n := s.ovls.length
  let o := layerOvl dev n s.z layer handle
  if n = 0 ∧ dev.primaryTransform = 0 then (s.ovls ++ [o], needsScaling layer handle)
  else if s.scaledGfx ∧ !needsScaling layer handle then
    (s.ovls.modify 0 (OvlInfo.setIx n) ++ [o.setIx 0], false)
  else (s.ovls ++ [o], s.scaledGfx)

/-- `display_area`. -/
def displayArea (o : OvlInfo) : Int := o.cfg.win.w * o.cfg.win.h

/-- The largest dockable overlay so far, when the `n`-th one is `o`. -/
def largestDockable (s : Scan) (layer : HwcLayer) (n : Nat) (o : OvlInfo) : Option Nat :=
  if !layer.dockable then s.ixDocking
  else
    match s.ixDocking with
    | none => some n
    | some ix => if displayArea (s.ovls.getD ix .zero) < displayArea o then some n else some ix

/-- The scan renders a layer via an overlay. -/
def overlayLayer (dev : HwcDev) (s : Scan) (layer : HwcLayer) (handle : NativeHandle) : Scan :=
  let n := s.ovls.length
  { s with
    ovls := (appendOvl dev s layer handle).1
    buffers := Function.update s.buffers n layer.handle
    layers := s.layers ++ [overlaidLayer dev layer]
    z := s.z + 1
    ixDocking := largestDockable s layer n (layerOvl dev n s.z layer handle)
    scaledGfx := (appendOvl dev s layer handle).2
    memUsed := u32 (s.memUsed + handle.mem1d) }

/-- The loop that lowers the z-order of `k` overlays from the `i`-th on. -/
def lowerOvls : Nat → Nat → List OvlInfo → List OvlInfo
  | 0, _, ovls => ovls
  | k + 1, i, ovls =>
    lowerOvls k (i + 1) (ovls.modify i fun o => o.setZorder (o.cfg.zorder - 1))

/-- The scan leaves a layer to the framebuffer: the first one fixes the framebuffer's z-order,
every later one moves it to the top. -/
def framebufferLayer (s : Scan) (layer : HwcLayer) : Scan :=
  match s.fbZ with
  | none => { s with layers := s.layers ++ [layer], fbZ := some s.z, z := s.z + 1 }
  | some fbZ =>
    { s with
      layers := s.layers ++ [layer]
      ovls := lowerOvls (s.z - 1 - fbZ) (1 + fbZ) s.ovls
      fbZ := some (max fbZ (s.z - 1)) }

/-- The body of the scan. -/
def scanLayer (dev : HwcDev) (s : Scan) (layer : HwcLayer) : Scan :=
  match layer.handle.deref with
  | some handle =>
    if takesOverlay dev s layer handle then overlayLayer dev s layer handle
    else if dev.useSgx then framebufferLayer s layer
    else { s with layers := s.layers ++ [layer] }
  | none =>
    if dev.useSgx then framebufferLayer s layer
    else { s with layers := s.layers ++ [layer] }

/-- The scan before the first layer: a framebuffer takes the first entry. -/
def Scan.start (dev : HwcDev) (needsFb : Bool) : Scan where
  ovls := if needsFb then [.zero] else []
  buffers := dev.buffers
  layers := []
  z := 0
  fbZ := none
  ixDocking := none
  scaledGfx := false
  memUsed := 0

/-- The scan over the layers. -/
def scanLayers (dev : HwcDev) (needsFb : Bool) (layers : List HwcLayer) : Scan :=
  layers.foldl (scanLayer dev) (.start dev needsFb)

/-- A first overlay that is still scaled moves to the next pipe. -/
def Scan.shiftGfx (s : Scan) : List OvlInfo :=
  if s.scaledGfx then s.ovls.modify 0 (OvlInfo.setIx s.ovls.length) else s.ovls

/-! ## The framebuffer and the clones -/

/-- The overlay of the framebuffer. -/
def fbOvl (dev : HwcDev) (fbZ : Nat) : OvlInfo where
  cfg := { setupLayerBase OvlInfo.zero.cfg fbZ dev.fbDev.format true dev.fbDev.width
      dev.fbDev.height with
    preMultAlpha := true
    ix := dev.primaryTransform }
  addressing := .layerIx
  ba := 0

/-- The overlays with the framebuffer's in the first place, if one is needed, and the next
z-order. -/
def placeFb (dev : HwcDev) (needsFb : Bool) (s : Scan) : List OvlInfo × Nat :=
  if needsFb then
    (s.shiftGfx.set 0 (fbOvl dev (s.fbZ.getD s.z)), if s.fbZ.isSome then s.z else s.z + 1)
  else (s.shiftGfx, s.z)

/-- `clone_external_layer`: the external state, and the overlays if the clone was made. -/
def cloneExternalLayer (env : PrepareEnv) (dev : HwcDev) (ovls : List OvlInfo) (src : OvlInfo)
    (ix : Nat) : HwcExt × Option (List OvlInfo) :=
  match (if env.modeNeeded then setBestHdmiMode env.hdmiMode dev.ext else some dev.ext) with
  | none => ({ dev.ext with current := { dev.ext.current with enabled := false } }, none)
  | some ext =>
    let ext := { ext with m := env.extMatrix }
    (ext, cloneLayer { dev with ext := ext } ovls src ix)

/-- The loop that mirrors the overlays from the `ix`-th on. -/
def mirrorOvls (dev : HwcDev) : Nat → Nat → List OvlInfo → List OvlInfo
  | 0, _, ovls => ovls
  | k + 1, ix, ovls =>
    match cloneLayer dev ovls (ovls.getD ix .zero) ix with
    | none => ovls
    | some ovls => mirrorOvls dev k (ix + 1) ovls

/-- `setup_mirroring`. -/
def setupMirroring (mode : HdmiMode) (m : DssRect → DssRect) (ext : HwcExt) : Option HwcExt :=
  (setBestHdmiMode mode ext).map fun ext => { ext with m := m }

/-- The dock image as an overlay. -/
def dockOvl (env : PrepareEnv) : OvlInfo :=
  { OvlInfo.zero with
    cfg := { setupLayerBase OvlInfo.zero.cfg 0 .bgra8888 true env.dockWidth env.dockHeight with
      stride := env.dockRowbytes } }

/-- May this frame use the external display? -/
def clones (dev : HwcDev) : Bool :=
  dev.ext.current.enabled &&
    ((dev.counts.protected_ = 0 && dev.extOvls ≠ 0) ||
      (dev.extOvlsWanted ≠ 0 && dev.extOvls ≥ dev.extOvlsWanted))

/-- The part of `hwc_prepare` that clones overlays, with the next z-order `z`. -/
def cloneOverlays (env : PrepareEnv) (dev : HwcDev) (ovls : List OvlInfo)
    (ixDocking : Option Nat) (z : Nat) : HwcExt × List OvlInfo :=
  if !clones dev then (dev.ext, ovls)
  else if dev.ext.current.docking then
    match ixDocking with
    | some ix =>
      match cloneExternalLayer env dev ovls (ovls.getD ix .zero) ix with
      | (ext, some ovls') => (ext, ovls'.modify (ovls'.length - 1) (OvlInfo.setZorder z))
      | (ext, none) => (ext, ovls)
    | none =>
      if dev.ext.forceDock then
        match cloneExternalLayer env dev ovls (dockOvl env) ovls.length with
        | (ext, some ovls') =>
          (ext, ovls'.modify ovls.length fun o => { o with addressing := .fb, ba := 0 })
        | (ext, none) => (ext, ovls)
      else (dev.ext, ovls)
  else
    -- coming from docking, the mode is set up again
    match (if dev.ext.last.docking then setupMirroring env.hdmiMode env.extMatrix dev.ext
      else some dev.ext) with
    | none => (dev.ext, ovls)
    | some ext => (ext, mirrorOvls { dev with ext := ext } dev.post2Layers 0 ovls)

/-! ## The whole function -/

/-- `hwc_prepare` up to the choice between SGX and overlays. -/
def prepareStart (dev : HwcDev) (layers : List HwcLayer) : HwcDev :=
  let dev := decideSupportedCloning
    { dev with
      dsscomp := ⟨dev.syncId, 0, [], 0, false⟩
      syncId := dev.syncId + 1
      counts := gatherLayerStatistics dev layers }
  let all := canDssRenderAll dev
  blitReset { dev with
    useSgx := !all
    swapRb := if all then decide (dev.counts.bgr ≠ 0) else dev.fbDev.format.isBgr }

/-- The list with every layer marked for the framebuffer. -/
def LayerList.marked (list : LayerList) : LayerList :=
  { list with layers := list.layers.map fun l => { l with compositionType := .framebuffer } }

/-- The blit of the policy `BLTPOLICY_ALL`. -/
def blitAllStage (env : PrepareEnv) (dev : HwcDev) (list : Option LayerList) :
    Except OutFault (HwcDev × Bool) :=
  if dev.bltPolicy = .all then
    (blitLayers env dev list 0).map fun (dev, all) =>
      (if all then { dev with useSgx := false, swapRb := false } else dev, all)
  else .ok (dev, false)

/-- The blit of the policy `BLTPOLICY_DEFAULT`. -/
def blitRestStage (env : PrepareEnv) (dev : HwcDev) (list : Option LayerList) (numOvls : Nat) :
    Except OutFault (HwcDev × Bool) :=
  if dev.bltPolicy = .default then
    if dev.useSgx then
      (blitLayers env dev list (if numOvls = 1 then 0 else numOvls)).map fun (dev, blit) =>
        (if blit then { dev with useSgx := false } else dev, blit)
    else .ok ({ dev with grgz := rgzRelease dev.grgz }, false)
  else .ok (dev, false)

/-- The primary display's transformation of the overlays. -/
def adjustPrimary (dev : HwcDev) (ovls : List OvlInfo) : List OvlInfo :=
  if dev.primaryTransform ≠ 0 then
    ovls.map fun o =>
      if o.cfg.mgrIx = 0 then
        adjustPrimaryDisplayLayer dev.primaryRegion dev.primaryM dev.primaryRotation o
      else o
  else ovls

/-- The end of `hwc_prepare`, when the overlays of the primary display are set up and `z` is the
next z-order. -/
def setupDsscomp (env : PrepareEnv) (dev : HwcDev) (ovls : List OvlInfo) (z : Nat)
    (ixDocking : Option Nat) : HwcDev :=
  let dev := { dev with post2Layers := ovls.length }
  let cloned := cloneOverlays env dev ovls ixDocking z
  let ext := cloned.1
  let ovls' := adjustPrimary dev cloned.2
  let external := ext.current.enabled || decide (dev.lastExtOvls ≠ 0)
  { dev with
    ext := { ext with last := ext.current }
    extOvls := if external then (ovls'.length : Int) - ovls.length else dev.extOvls
    dsscomp := { dev.dsscomp with
      -- while the mode is being changed, compositions are dropped
      numOvls := if ext.lastMode = 0 ∧ dev.onTv then 0 else ovls'.length
      ovls := ovls'
      numMgrs := if external then 2 else 1
      swapRb := dev.swapRb } }

/-- `hwc_prepare` from the overlay of the framebuffer on.  SGX posts a null handle for it. -/
def prepareEnd (env : PrepareEnv) (dev : HwcDev) (needsFb : Bool) (s : Scan) : HwcDev :=
  let placed := placeFb dev needsFb s
  setupDsscomp env
    { dev with
      buffers := if needsFb ∧ dev.useSgx then Function.update dev.buffers 0 .null
        else dev.buffers }
    placed.1 placed.2 s.ixDocking

/-- A list with other layers. -/
def withLayers (list : Option LayerList) (layers : List HwcLayer) : Option LayerList :=
  list.map fun l => { l with layers := layers }

/-- `hwc_prepare` after the choice between SGX and overlays. -/
def composeFrame (env : PrepareEnv) (list : Option LayerList) (dev : HwcDev) :
    Except OutFault (HwcDev × Option LayerList) := do
  let sgx := dev.useSgx
  let (dev, blitAll) ← blitAllStage env dev list
  let needsFb := sgx || blitAll
  let s := scanLayers dev needsFb (if blitAll then [] else listLayers list)
  let list := if blitAll then list else withLayers list s.layers
  let dev := { dev with buffers := s.buffers }
  let (dev, blitRest) ← blitRestStage env dev list s.ovls.length
  let list := if blitAll || blitRest then
      withLayers list ((listLayers list).map blittedLayer) else list
  return (prepareEnd env dev needsFb s, list)

/-- `hwc_prepare`: the device, and the list with the composition types and hints written. -/
def hwcPrepare (env : PrepareEnv) (list : Option LayerList) (dev : HwcDev) :
    Except OutFault (HwcDev × Option LayerList) :=
  let list := list.map LayerList.marked
  composeFrame env list (prepareStart dev (listLayers list))

end Solana
