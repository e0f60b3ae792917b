import Solana.Hwc.Clones

/-!
# Posting a frame

`hwc_set` hands the frame that `hwc_prepare` has planned to the display driver: the overlays, the
blits, and one array of buffers that both refer to.  The driver's `ProcessFlipV2` puts the blit
framebuffer in front of that array when the frame uses it, so the composer moves its own buffers
down by one place and renumbers the overlays before it posts.

`Post` is what crosses the interface.  `Post.memInfo`, `Post.src1` and `Post.src2` are the
driver's side of the numbering.  Memory for the page lists of the buffers is taken to be there:
the driver skips a buffer it cannot allocate one for.
-/

namespace Solana

open LayerList

/-! ## `hwc_set` -/

/-- What `hwc_set` learns from its surroundings. -/
structure SetEnv where
  /-- `eglSwapBuffers` succeeds. -/
  swapOk : Bool
  /-- `Post2` succeeds. -/
  post2Ok : Bool

/-- The arguments of `Post2`. -/
structure Post where
  buffers : List BufferHandle
  dsscomp : Dsscomp
  blit : BlitData

/-- The overlays a frame assigns to a manager: 0 for the primary display, 1 for the external
one. -/
def Dsscomp.managed (d : Dsscomp) (mgr : Nat) : List OvlInfo :=
  (d.ovls.take d.numOvls).filter fun o => o.cfg.mgrIx = mgr

/-- The number of buffers of a frame: the framebuffer's entry is not posted with blit buffers. -/
def HwcDev.nbufs (dev : HwcDev) : Nat :=
  if dev.post2BlitBuffers = 0 then dev.post2Layers
  else dev.post2Layers + (dev.post2BlitBuffers - 1)

/-- The buffers after the first `n` have been replaced by their successors. -/
def shiftBuffers (n : Nat) (buffers : Nat → BufferHandle) : Nat → BufferHandle :=
  fun i => if i < n then buffers (i + 1) else buffers i

/-- The overlays after those from the second to the `n`-th have been numbered. -/
def renumberOvls (n : Nat) (ovls : List OvlInfo) : List OvlInfo :=
  ovls.mapIdx fun j o => if 1 ≤ j ∧ j < n then { o with ba := j } else o

/-- `hwc_set` up to the call of `Post2`. -/
def beforePost (dev : HwcDev) : HwcDev :=
  let dev := { dev with
    forceSgx := dev.forceSgx - 1
    blitData := { dev.blitData with useFb := dev.blitUseFb, rgzItems := dev.blitNum } }
  if dev.post2BlitBuffers ≠ 0 ∧ 1 < dev.post2Layers then
    { dev with
      buffers := shiftBuffers dev.nbufs dev.buffers
      dsscomp := { dev.dsscomp with ovls := renumberOvls dev.post2Layers dev.dsscomp.ovls } }
  else dev

lemma beforePost_eq (dev : HwcDev) : beforePost dev = { dev with
      forceSgx := dev.forceSgx - 1
      blitData := { dev.blitData with useFb := dev.blitUseFb, rgzItems := dev.blitNum }
      buffers := if dev.post2BlitBuffers ≠ 0 ∧ 1 < dev.post2Layers then
        shiftBuffers dev.nbufs dev.buffers else dev.buffers
      dsscomp := { dev.dsscomp with
        ovls := if dev.post2BlitBuffers ≠ 0 ∧ 1 < dev.post2Layers then
          renumberOvls dev.post2Layers dev.dsscomp.ovls else dev.dsscomp.ovls } } := by
  unfold beforePost
  simp only
  split_ifs <;> rfl

/-- The frame that is posted. -/
def HwcDev.post (dev : HwcDev) : Post :=
  ⟨(List.range dev.nbufs).map dev.buffers, dev.dsscomp, dev.blitData⟩

/-- The counts that are carried over to the next frame. -/
def countOvls (dev : HwcDev) : HwcDev :=
  { dev with lastExtOvls := dev.extOvls, lastIntOvls := dev.post2Layers }

/-- Are the display and the surface set? -/
def LayerList.onScreen (list : LayerList) : Bool := list.dpy && list.sur

/-- `hwc_set`: the device, and the frame if one was posted.  There is a list: `check_sync_fds`
follows the pointer. -/
def hwcSet (env : SetEnv) (list : LayerList) (dev : HwcDev) : HwcDev × Option Post :=
  if list.onScreen then
    if dev.useSgx && !env.swapOk then (dev, none)
    else
      let dev := beforePost dev
      (countOvls dev, if env.post2Ok then some dev.post else none)
  else (countOvls dev, none)

lemma hwcSet_cases (env : SetEnv) (list : LayerList) (dev : HwcDev) :
    (list.onScreen = false ∧ hwcSet env list dev = (countOvls dev, none)) ∨
    (list.onScreen = true ∧ (dev.useSgx && !env.swapOk) = true ∧
      hwcSet env list dev = (dev, none)) ∨
    (list.onScreen = true ∧ (dev.useSgx && !env.swapOk) = false ∧
      hwcSet env list dev = (countOvls (beforePost dev),
        if env.post2Ok then some (beforePost dev).post else none)) := by
  unfold hwcSet
  cases hon : list.onScreen with
  | false => exact Or.inl ⟨rfl, rfl⟩
  | true =>
    cases hswap : dev.useSgx && !env.swapOk with
    | true => exact Or.inr (Or.inl ⟨rfl, rfl, rfl⟩)
    | false => exact Or.inr (Or.inr ⟨rfl, rfl, rfl⟩)

/-! ## `ProcessFlipV2` -/

/-- The driver's state: are the blit framebuffers set up, and which of the two is in use. -/
structure Kernel where
  bltReady : Bool
  bltIdx : Fin 2
  deriving DecidableEq

/-- What the driver learns from its surroundings. -/
structure FlipEnv where
  /-- `OMAPLFBInitBltFBs` succeeds. -/
  initOk : Bool
  /-- The blitter's library is there. -/
  bvPresent : Bool

/-- `ProcessFlipV2`: the driver's state, and whether the frame was processed. -/
def processFlip (env : FlipEnv) (post : Post) (kernel : Kernel) : Kernel × Bool :=
  if !post.blit.useFb && 0 < post.blit.rgzItems then (kernel, false)
  else if post.blit.useFb && !kernel.bltReady && !env.initOk then (kernel, false)
  else
    let kernel := { kernel with bltReady := kernel.bltReady || post.blit.useFb }
    if post.dsscomp.numOvls = 0 ∨ post.buffers = [] then (kernel, false)
    else if post.blit.useFb then ({ kernel with bltIdx := kernel.bltIdx + 1 }, true)
    else (kernel, true)

/-- What an overlay or a blit reads. -/
inductive Surface
  | bltFb
  | clear
  | buffer (handle : BufferHandle)
  deriving DecidableEq

/-- The place of the first posted buffer in `asMemInfo`. -/
def Post.memIdx (post : Post) : Nat := if post.blit.useFb then 1 else 0

/-- The number of entries of `asMemInfo` that are filled. -/
def Post.memCount (post : Post) : Nat :=
  post.memIdx + min post.buffers.length (min 5 post.dsscomp.numOvls - post.memIdx)

/-- The surface under an index of `asMemInfo`. -/
def Post.memInfo (post : Post) (ix : Nat) : Option Surface :=
  if post.memCount ≤ ix then none
  else if ix < post.memIdx then some .bltFb
  else post.buffers[ix - post.memIdx]?.map .buffer

/-- The surface of an overlay of the frame; a clone shows what another overlay does. -/
def Post.ovlSurface (post : Post) (o : OvlInfo) : Option Surface :=
  if o.addressing = .layerIx then post.memInfo o.ba else none

/-- The surface of a second source.  A negative index has both bits of the framebuffer's
descriptor set. -/
def Post.src2 (post : Post) : AuxPtr → Option Surface
  | .index ix => if ix < 0 then some .bltFb else post.buffers[ix.toNat]?.map .buffer
  | .descFb _ => some .bltFb

/-- The surface of a first source. -/
def Post.src1 (post : Post) (aux : AuxPtr) : Option Surface :=
  if aux = .index (-1) then some .clear else post.src2 aux

end Solana
