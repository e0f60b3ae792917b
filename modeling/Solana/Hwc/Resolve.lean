import Solana.Hwc.Scene
import Solana.Rgz.Sources

/-!
# From planned blits to buffers

A frame with blits uses three numberings.  An overlay refers to the buffers by its own position,
a blit by the number the regionizer gave its source, and the driver counts the buffers that were
posted, with the blit framebuffer in front of them for overlays.  `hwc_set` makes the three agree
by dropping the first buffer, the framebuffer's, before it posts; but it only does so when there
is a buffer to blit from.

`Resolved` says that the driver finds the right buffer for every overlay and every blit.
`posted_frame_resolved` is the exact condition for it: some layer is blitted, or every layer
happens to have the buffer that the dropped entry should have held.
-/

namespace Solana

open Fallible HwcLayer Post LayerList List

/-! ## What the driver finds -/

/-- The layers shown by overlays of their own; after blitting only the hint tells them apart. -/
def shownLayers (layers : List HwcLayer) : List HwcLayer :=
  layers.filter fun l => l.hints.tripleBuffer

/-- A source of a blit: the layer it was set up from, a layer of the list, has the buffer that
the driver finds. -/
def BlitSource (dev : HwcDev) (layers : List HwcLayer) (desc : BuffDesc) (geom : SurfGeom)
    (rect : BvRect) (found : Option Surface) : Prop :=
  ∃ l ∈ dev.grgz.curFbState, ∃ handle, blittedLayer l.hwcLayer ∈ layers ∧
    l.hwcLayer.handle = .native handle ∧ SourceOf l handle desc geom rect ∧
    found = some (.buffer (.native handle))

/-- The driver resolves the frame that `hwc_prepare` planned in `dev` and marked in `layers`. -/
structure Resolved (dev : HwcDev) (layers : List HwcLayer) (post : Post) : Prop where
  /-- Every overlay of the primary display but the framebuffer's shows a layer. -/
  count : dev.post2Layers = (shownLayers layers).length + 1
  framebuffer : ∃ o, post.dsscomp.ovls[0]? = some o ∧ post.ovlSurface o = some .bltFb
  overlays : ∀ (j : Nat) (l : HwcLayer), (shownLayers layers)[j]? = some l →
    ∃ o, post.dsscomp.ovls[j + 1]? = some o ∧ post.ovlSurface o = some (.buffer l.handle) ∧
      (dev.primaryTransform = 0 → o.cfg.win = l.window)
  src1 : ∀ e ∈ post.blit.rgzBlts, post.src1 e.src1desc.auxptr = some .clear ∨
    BlitSource dev layers e.src1desc e.src1geom e.src1rect (post.src1 e.src1desc.auxptr)
  src2 : ∀ e ∈ post.blit.rgzBlts, e.flags.blend = true →
    post.src2 e.src2desc.auxptr = some .bltFb ∨
      BlitSource dev layers e.src2desc e.src2geom e.src2rect (post.src2 e.src2desc.auxptr)

/-! ## The buffers -/

lemma writeBuffers_of_lt : ∀ (hs : List BufferHandle) (buffers : Nat → BufferHandle)
    {off k : Nat}, k < off → writeBuffers buffers off hs k = buffers k
  | [], _, _, _, _ => rfl
  | h :: hs, buffers, off, k, hk => by
    rw [writeBuffers, writeBuffers_of_lt hs _ (by omega), Function.update_of_ne (by omega)]

lemma writeBuffers_getElem? : ∀ {hs : List BufferHandle} (buffers : Nat → BufferHandle)
    (off : Nat) {i : Nat} {h : BufferHandle}, hs[i]? = some h →
    writeBuffers buffers off hs (off + i) = h
  | h' :: hs, buffers, off, 0, h, hi => by
    rw [writeBuffers, writeBuffers_of_lt hs _ (by omega), Nat.add_zero, Function.update_self]
    simpa using hi
  | h' :: hs, buffers, off, i + 1, h, hi => by
    rw [writeBuffers, show off + (i + 1) = off + 1 + i by omega]
    exact writeBuffers_getElem? _ (off + 1) (by simpa using hi)

lemma length_post_buffers (dev : HwcDev) : (beforePost dev).post.buffers.length = dev.nbufs := by
  rw [beforePost_eq]
  exact (length_map _).trans length_range

variable {dev : HwcDev}

/-- With a buffer to blit from and an overlay to show, the posted list starts with the second
buffer. -/
lemma post_buffers_getElem? {k : Nat} (hk : k < dev.nbufs) :
    (beforePost dev).post.buffers[k]? = some (dev.buffers
      (if dev.post2BlitBuffers ≠ 0 ∧ 1 < dev.post2Layers then k + 1 else k)) := by
  rw [beforePost_eq]
  refine (List.getElem?_map ..).trans ?_
  rw [List.getElem?_range (by exact hk), Option.map_some]
  split_ifs
  · exact congrArg some (if_pos hk)
  · rfl

lemma post_ovls_getElem? {j : Nat} {o : OvlInfo} (h : dev.dsscomp.ovls[j]? = some o)
    (hba : o.ba = j) : (beforePost dev).post.dsscomp.ovls[j]? = some o := by
  rw [beforePost_eq]
  simp only [HwcDev.post]
  split_ifs
  · simp only [renumberOvls, List.getElem?_mapIdx, h, Option.map_some]
    split_ifs
    · rw [← hba]
    · rfl
  · exact h

@[simp] lemma post_numOvls (dev : HwcDev) :
    (beforePost dev).post.dsscomp.numOvls = dev.dsscomp.numOvls := by
  rw [beforePost_eq]
  rfl

@[simp] lemma post_rgzBlts (dev : HwcDev) :
    (beforePost dev).post.blit.rgzBlts = dev.blitData.rgzBlts := by
  rw [beforePost_eq]
  rfl

/-! ## The plan of a frame with blits -/

/-- A layer whose buffer is blitted from, with its place behind the buffers of the overlays. -/
def BlitPlan.From (dev : HwcDev) (layers : List HwcLayer) (hs : List BufferHandle) (l : RgzLayer)
    (handle : NativeHandle) : Prop :=
  l ∈ dev.grgz.curFbState ∧ blittedLayer l.hwcLayer ∈ layers ∧
    l.hwcLayer.handle = .native handle ∧ ∃ i : Nat,
      l.buffidx = (shownLayers layers).length + i ∧ hs[i]? = some (.native handle)

/-- What the plan of a frame with blits has for the driver; `hs` are the buffers to blit from. -/
structure BlitPlan (dev : HwcDev) (layers : List HwcLayer) (hs : List BufferHandle) : Prop where
  useFb : dev.blitUseFb = true
  count : dev.post2Layers = (shownLayers layers).length + 1
  small : dev.post2Layers ≤ 4
  room : dev.post2Layers ≤ dev.dsscomp.ovls.length
  numOvls : dev.dsscomp.numOvls = 0 ∨ dev.dsscomp.numOvls = dev.dsscomp.ovls.length
  first : ∃ o, dev.dsscomp.ovls[0]? = some o ∧ o.addressing = .layerIx ∧ o.ba = 0
  entries : ∀ (j : Nat) (l : HwcLayer), (shownLayers layers)[j]? = some l →
    ∃ o, dev.dsscomp.ovls[j + 1]? = some o ∧ o.addressing = .layerIx ∧ o.ba = j + 1 ∧
      (dev.primaryTransform = 0 → o.cfg.win = l.window)
  overlayBuffers : ∀ (j : Nat) (l : HwcLayer), (shownLayers layers)[j]? = some l →
    dev.buffers (j + 1) = l.handle
  blitBuffers : dev.post2BlitBuffers = hs.length
  written : ∀ (i : Nat) (h : BufferHandle), hs[i]? = some h →
    dev.buffers ((if dev.post2Layers = 1 then 0 else dev.post2Layers) + i) = h
  sources : ∀ e ∈ dev.blitData.rgzBlts, Sourced (BlitPlan.From dev layers hs) e

section
variable {dev : HwcDev} {layers : List HwcLayer} {hs : List BufferHandle}
  (h : BlitPlan dev layers hs)
include h

lemma BlitPlan.post_useFb : (beforePost dev).post.blit.useFb = true := by
  rw [beforePost_eq]
  exact h.useFb

/-- The driver's table behind the blit framebuffer is the list of posted buffers. -/
lemma BlitPlan.memInfo_succ (hnum : dev.dsscomp.numOvls ≠ 0) {j : Nat}
    (hj : j < (shownLayers layers).length) : (beforePost dev).post.memInfo (j + 1) =
      (beforePost dev).post.buffers[j]?.map .buffer := by
  have hcount := h.count
  have hsmall := h.small
  have hroom := h.room
  have hn := h.numOvls.resolve_left hnum
  have hlen : j < (beforePost dev).post.buffers.length := by
    rw [length_post_buffers, HwcDev.nbufs]
    split_ifs <;> omega
  have hidx : (beforePost dev).post.memIdx = 1 := by
    rw [memIdx, if_pos h.post_useFb]
  have hmem : ¬ (beforePost dev).post.memCount ≤ j + 1 := by
    rw [memCount, hidx, post_numOvls]
    omega
  rw [memInfo, if_neg hmem, hidx, if_neg (by omega), Nat.add_sub_cancel]

/-- A source finds its buffer among those posted behind the overlays'. -/
lemma BlitPlan.blitSource {l : RgzLayer} {handle : NativeHandle} {desc : BuffDesc}
    {geom : SurfGeom} {rect : BvRect} (hl : BlitPlan.From dev layers hs l handle)
    (hsrc : SourceOf l handle desc geom rect) :
    BlitSource dev layers desc geom rect ((beforePost dev).post.src2 desc.auxptr) ∧
      (beforePost dev).post.src1 desc.auxptr = (beforePost dev).post.src2 desc.auxptr := by
  obtain ⟨hmem, hlay, hnat, i, hi, hget⟩ := hl
  have hcount := h.count
  have haux := hsrc.auxptr
  have hlen := (List.getElem?_eq_some_iff.mp hget).1
  have hb := h.blitBuffers
  have hlt : l.buffidx.toNat < dev.nbufs := by
    rw [HwcDev.nbufs, if_neg (by omega)]
    omega
  have hbuf : (beforePost dev).post.buffers[l.buffidx.toNat]? = some (.native handle) := by
    rw [post_buffers_getElem? hlt, ← h.written i _ hget]
    refine congrArg (fun k => some (dev.buffers k)) ?_
    split_ifs <;> omega
  refine ⟨⟨l, hmem, handle, hlay, hnat, hsrc, ?_⟩, ?_⟩
  · rw [haux, src2, if_neg (by omega), hbuf]
    rfl
  · rw [haux, src1, if_neg (by rw [AuxPtr.index.injEq]; omega)]

/-- **Everything but the overlays of layers is always resolved.** -/
lemma BlitPlan.resolved_iff (hnum : dev.dsscomp.numOvls ≠ 0) :
    Resolved dev layers (beforePost dev).post ↔
      ∀ (j : Nat) (l : HwcLayer), (shownLayers layers)[j]? = some l →
        (beforePost dev).post.buffers[j]? = some l.handle := by
  have hcount := h.count
  constructor
  · intro hr j l hl
    obtain ⟨o, ho, hsurf, -⟩ := hr.overlays j l hl
    obtain ⟨o', ho', hadr, hba, -⟩ := h.entries j l hl
    rw [post_ovls_getElem? ho' hba] at ho
    obtain rfl := Option.some.inj ho
    rw [ovlSurface, if_pos hadr, hba,
      h.memInfo_succ hnum (List.getElem?_eq_some_iff.mp hl).1] at hsurf
    obtain ⟨b, hb, he⟩ := Option.map_eq_some_iff.mp hsurf
    rw [hb, Surface.buffer.inj he]
  · intro hbufs
    refine ⟨hcount, ?_, fun j l hl => ?_, fun e he => ?_, fun e he hblend => ?_⟩
    · obtain ⟨o, ho, hadr, hba⟩ := h.first
      refine ⟨o, post_ovls_getElem? ho hba, ?_⟩
      have hidx : (beforePost dev).post.memIdx = 1 := by
        rw [memIdx, if_pos h.post_useFb]
      rw [ovlSurface, if_pos hadr, hba, memInfo, memCount, hidx,
        if_neg (by omega), if_pos (by omega)]
    · obtain ⟨o, ho, hadr, hba, hwin⟩ := h.entries j l hl
      refine ⟨o, post_ovls_getElem? ho hba, ?_, hwin⟩
      rw [ovlSurface, if_pos hadr, hba,
        h.memInfo_succ hnum (List.getElem?_eq_some_iff.mp hl).1, hbufs j l hl]
      rfl
    · rw [post_rgzBlts] at he
      rcases (h.sources e he).src1 with hclear | ⟨l, handle, hl, hsrc⟩
      · exact Or.inl (by rw [src1, if_pos hclear])
      · obtain ⟨hbs, heq⟩ := h.blitSource hl hsrc
        exact Or.inr (by rw [heq]; exact hbs)
    · rw [post_rgzBlts] at he
      rcases (h.sources e he).src2 hblend with ⟨ovlno, hfb⟩ | ⟨l, handle, hl, hsrc⟩
      · exact Or.inl (by rw [hfb]; rfl)
      · exact Or.inr (h.blitSource hl hsrc).1

end

/-- A list read one place too early is the same only if it repeats what stands before it. -/
lemma unshifted_iff {α β : Type} {f : α → β} {buffers : Nat → β} {xs : List α}
    (hbuf : ∀ (j : Nat) x, xs[j]? = some x → buffers (j + 1) = f x) :
    (∀ (j : Nat) x, xs[j]? = some x → buffers j = f x) ↔ ∀ x ∈ xs, f x = buffers 0 := by
  have hprev : ∀ (j : Nat) x, xs[j + 1]? = some x → ∃ y, xs[j]? = some y := fun j x hx =>
    ⟨_, List.getElem?_eq_getElem (Nat.lt_of_succ_lt (List.getElem?_eq_some_iff.mp hx).1)⟩
  constructor
  · intro hall
    have hzero : ∀ (j : Nat) x, xs[j]? = some x → f x = buffers 0 := by
      intro j
      induction j with
      | zero => exact fun x hx => (hall 0 x hx).symm
      | succ j ih =>
        intro x hx
        obtain ⟨y, hy⟩ := hprev j x hx
        rw [← hall (j + 1) x hx, hbuf j y hy, ih y hy]
    intro x hx
    obtain ⟨j, hj⟩ := List.getElem?_of_mem hx
    exact hzero j x hj
  · intro hall j x hx
    rw [hall x (mem_of_getElem? hx)]
    cases j with
    | zero => rfl
    | succ j =>
      obtain ⟨y, hy⟩ := hprev j x hx
      rw [hbuf j y hy, hall y (mem_of_getElem? hy)]

section
variable {dev : HwcDev} {layers : List HwcLayer} {hs : List BufferHandle}
  (h : BlitPlan dev layers hs)
include h

/-- With a buffer to blit from, the unused entry is dropped and everything is resolved. -/
lemma BlitPlan.resolved_of_blits (hnum : dev.dsscomp.numOvls ≠ 0)
    (hb : dev.post2BlitBuffers ≠ 0) : Resolved dev layers (beforePost dev).post := by
  refine (h.resolved_iff hnum).mpr fun j l hl => ?_
  have hlt := (List.getElem?_eq_some_iff.mp hl).1
  have hcount := h.count
  have hnb : j < dev.nbufs := by
    rw [HwcDev.nbufs, if_neg hb]
    omega
  rw [post_buffers_getElem? hnb, if_pos ⟨hb, by omega⟩, h.overlayBuffers j l hl]

/-- Without one, the unused entry is posted and every overlay reads one place too early. -/
lemma BlitPlan.resolved_iff_of_none (hnum : dev.dsscomp.numOvls ≠ 0)
    (hb : dev.post2BlitBuffers = 0) : Resolved dev layers (beforePost dev).post ↔
      ∀ l ∈ shownLayers layers, l.handle = dev.buffers 0 := by
  have hcount := h.count
  rw [h.resolved_iff hnum, ← unshifted_iff h.overlayBuffers]
  refine forall₂_congr fun j l => forall_congr' fun hl => ?_
  have hlt := (List.getElem?_eq_some_iff.mp hl).1
  have hnb : j < dev.nbufs := by
    rw [HwcDev.nbufs, if_pos hb]
    omega
  rw [post_buffers_getElem? hnb, if_neg fun h => h.1 hb, Option.some.injEq]

end

/-! ## The input of the regionizer -/

variable {env : PrepareEnv}

lemma extLayers_layer : ∀ {layers : List HwcLayer} {k : Nat}
    {ext : List ExtLayer},
    (layers.zipIdx k).mapM (fun l => (env.extIdentity l.2).map fun id => (⟨l.1, id⟩ : ExtLayer)) =
      some ext → ext.map ExtLayer.layer = layers
  | [], k, ext, h => by
    obtain rfl : [] = ext := by simpa using h
    rfl
  | l :: ls, k, ext, h => by
    simp only [zipIdx_cons, mapM_cons, Option.bind_eq_bind, Option.bind_eq_some_iff,
      Option.pure_def, Option.some.injEq, Option.map_eq_some_iff] at h
    obtain ⟨x, ⟨id, -, rfl⟩, xs, hxs, rfl⟩ := h
    rw [map_cons, extLayers_layer hxs]

variable {list : Option LayerList}

lemma blitInput_layers {q : RgzInParams} (h : blitInput env dev list = some q) :
    ∃ ext, q.layers = some ext ∧ ext.map ExtLayer.layer = listLayers list := by
  unfold blitInput at h
  cases list with
  | none => cases h
  | some list =>
    simp only at h
    split_ifs at h
    obtain ⟨ext, hext, rfl⟩ := Option.map_eq_some_iff.mp h
    exact ⟨ext, rfl, extLayers_layer hext⟩

lemma overlayCount_eq (ext : List ExtLayer) :
    overlayCount ext = (overlayLayers (ext.map ExtLayer.layer)).length := by
  rw [overlayCount, overlayLayers, filter_map, length_map, countP_eq_length_filter]
  rfl

/-- The sources of a successful `blit_layers`, in terms of the list it was given. -/
lemma BlitOk.sources {q : RgzInParams} {out : OutData} (h : BlitOk env dev list q out) :
    listLayers list ≠ [] ∧ out.outHndls.length =
        ((listLayers list).countP fun l => l.compositionType = .framebuffer) ∧
      ∀ e ∈ out.cmds, Sourced (fun l handle =>
        l ∈ (rgzIn dev.bltMode.ops.1 q dev.grgz).2.curFbState ∧ l.hwcLayer ∈ listLayers list ∧
          l.hwcLayer.handle = .native handle ∧ ∃ i : Nat,
            l.buffidx = (overlayLayers (listLayers list)).length + i ∧
              out.outHndls[i]? = some (.native handle)) e := by
  obtain ⟨ext, hext, hlayers⟩ := blitInput_layers h.input
  obtain ⟨ext', hext', hne, hlen, hsrc⟩ := rgzOut_sources (Prod.ext h.accepted rfl) h.output
  obtain rfl : ext = ext' := Option.some.inj (hext.symm.trans hext')
  rw [← hlayers]
  refine ⟨by simpa using hne, by rw [hlen, countP_map]; rfl, fun e he => ?_⟩
  refine (hsrc e he).imp fun l handle hl => ⟨hl.mem, ?_, hl.native, ?_⟩
  · obtain ⟨x, hx, hxl⟩ := hl.given
    rw [hxl]
    exact mem_map_of_mem hx
  · rw [← overlayCount_eq]
    exact hl.number

/-! ## When nothing is left to blit -/

/-- Does every layer get an overlay, when `n` are taken already and use `used` bytes?  This is
the test of the scan, as long as it has left no layer to the framebuffer. -/
def allOverlaid (dev : HwcDev) : Nat → Nat → List HwcLayer → Bool
  | _, _, [] => true
  | n, used, l :: ls =>
    match l.handle.deref with
    | some handle =>
      decide (n < dev.counts.maxHwOverlays) && overlayEligible dev l handle &&
        decide (u32 (used + handle.mem1d) ≤ dev.limits.tiler1dSlotSize) &&
        allOverlaid dev (n + 1) (u32 (used + handle.mem1d)) ls
    | none => false

lemma fbZ_framebufferLayer (s : Scan) (layer : HwcLayer) :
    (framebufferLayer s layer).fbZ ≠ none := by
  unfold framebufferLayer
  split <;> exact Option.some_ne_none _

variable {s : Scan}

lemma fbZ_scanLayer_of_some (h : s.fbZ ≠ none) (layer : HwcLayer) :
    (scanLayer dev s layer).fbZ ≠ none := by
  rcases scanLayer_cases dev s layer with ⟨handle, -, -, he⟩ | ⟨-, he⟩ | ⟨-, he⟩
  · rw [he]
    exact h
  · rw [he]
    exact fbZ_framebufferLayer s layer
  · rw [he]
    exact h

lemma fbZ_foldl_of_some (layers : List HwcLayer) (h : s.fbZ ≠ none) :
    (layers.foldl (scanLayer dev) s).fbZ ≠ none := by
  induction layers generalizing s with
  | nil => exact h
  | cons l ls ih => exact ih (fbZ_scanLayer_of_some h l)

/-- **Which lists leave nothing to the framebuffer.** -/
lemma fbZ_foldl_scanLayer (hsgx : dev.useSgx = true) (layers : List HwcLayer)
    (hscan : SgxScan dev s) (h : s.fbZ = none) : (layers.foldl (scanLayer dev) s).fbZ = none ↔
      allOverlaid dev s.ovls.length s.memUsed layers = true := by
  induction layers generalizing s with
  | nil => simp [allOverlaid, h]
  | cons l ls ih =>
    rw [foldl_cons]
    -- a layer that gets no overlay goes to the framebuffer for good
    have hleft : scanLayer dev s l = framebufferLayer s l →
        (ls.foldl (scanLayer dev) (scanLayer dev s l)).fbZ ≠ none := by
      intro he
      refine fbZ_foldl_of_some ls ?_
      rw [he]
      exact fbZ_framebufferLayer s l
    cases hd : l.handle.deref with
    | none =>
      have he : scanLayer dev s l = framebufferLayer s l := by simp [scanLayer, hd, hsgx]
      simpa [allOverlaid, hd] using hleft he
    | some handle =>
      have htakes : takesOverlay dev s l handle =
          (decide (s.ovls.length < dev.counts.maxHwOverlays) && overlayEligible dev l handle &&
            decide (u32 (s.memUsed + handle.mem1d) ≤ dev.limits.tiler1dSlotSize)) := by
        simp [takesOverlay, h]
      rw [allOverlaid]
      simp only [hd]
      rw [← htakes]
      cases ht : takesOverlay dev s l handle with
      | true =>
        have he : scanLayer dev s l = overlayLayer dev s l handle := by
          simp [scanLayer, hd, ht]
        have hlen : (overlayLayer dev s l handle).ovls.length = s.ovls.length + 1 := by
          simp [overlayLayer, hscan.appendOvl_eq l handle]
        rw [he, ih (hscan.overlay ht) h, hlen, Bool.true_and]
        rfl
      | false =>
        have he : scanLayer dev s l = framebufferLayer s l := by
          simp [scanLayer, hd, ht, hsgx]
        simpa using hleft he

lemma scanLayers_buffers_zero (dev : HwcDev) (layers : List HwcLayer) :
    (scanLayers dev true layers).buffers 0 = dev.buffers 0 := by
  have hinv : 0 < (scanLayers dev true layers).ovls.length ∧
      (scanLayers dev true layers).buffers 0 = dev.buffers 0 := by
    refine scanLayers_invariant (fun s => 0 < s.ovls.length ∧ s.buffers 0 = dev.buffers 0)
      ⟨by simp [Scan.start], rfl⟩ (fun s l ⟨hpos, hbuf⟩ => ?_) layers
    rcases scanLayer_cases dev s l with ⟨handle, -, -, he⟩ | ⟨-, he⟩ | ⟨-, he⟩
    · rw [he]
      refine ⟨?_, ?_⟩
      · simp only [overlayLayer, appendOvl]
        split_ifs <;> simp
      · simp only [overlayLayer]
        rw [Function.update_of_ne (by omega), hbuf]
    · rw [he]
      unfold framebufferLayer
      split
      · exact ⟨hpos, hbuf⟩
      · exact ⟨by rw [length_lowerOvls]; exact hpos, hbuf⟩
    · rw [he]
      exact ⟨hpos, hbuf⟩
  exact hinv.2

/-! ## The two ways to blit -/

lemma shownLayers_map_blitted {layers : List HwcLayer}
    (h : ∀ l ∈ layers, l.compositionType = .framebuffer ∨
      (l.compositionType = .overlay ∧ l.hints.tripleBuffer = true)) :
    shownLayers (layers.map blittedLayer) = (overlayLayers layers).map blittedLayer := by
  rw [shownLayers, filter_map, overlayLayers]
  refine congrArg (map blittedLayer) (filter_congr fun l hl => ?_)
  rcases h l hl with hf | ⟨ho, ht⟩
  · simp [blittedLayer, isOverlay, hf]
  · simp [blittedLayer, isOverlay, ho, ht]

lemma Frame.forDriver {dev dev' : HwcDev} {prim cs : List OvlInfo}
    (hf : Frame dev list dev' prim cs) (hok : DevOk dev) (hpos : 0 < dev'.post2Layers) :
    dev'.post2Layers ≤ 4 ∧ dev'.post2Layers ≤ dev'.dsscomp.ovls.length ∧
      ∃ o, dev'.dsscomp.ovls[0]? = some o ∧ o.addressing = .layerIx ∧ o.ba = 0 := by
  have hle := hf.prim_le hok
  have hext := hok.lastExtOvls
  have htr := hok.transform
  have hpost := hf.post2Layers
  have hlen := congrArg length hf.placement
  simp only [length_map, length_append] at hlen
  obtain ⟨p, rest, hprim⟩ := exists_cons_of_length_pos (hpost ▸ hpos)
  have hentry := hf.primary.entry 0 p (by rw [hprim]; rfl)
  have hfirst := congrArg (fun ps => ps[0]?) hf.placement
  simp only [List.getElem?_map, hprim, cons_append, List.getElem?_cons_zero,
    Option.map_some] at hfirst
  obtain ⟨o, ho, hpl⟩ := Option.map_eq_some_iff.mp hfirst
  simp only [OvlInfo.placement, Prod.mk.injEq] at hpl
  exact ⟨by omega, by omega, o, ho, by rw [hpl.2.2.2.1, hentry.addressing],
    by rw [hpl.2.2.2.2, hentry.ba]⟩

section
variable {env : PrepareEnv} {dev dev' : HwcDev} {list list' : Option LayerList}
  {q : RgzInParams} {out : OutData}

/-- The sources of the commands, when the blitted layers are marked in the list. -/
lemma BlitOk.sources_planned {dev₁ : HwcDev} {list₁ : Option LayerList}
    (hblit : BlitOk env dev₁ list₁ q out) (hcmds : dev'.blitData.rgzBlts = out.cmds)
    (hgrgz : dev'.grgz = (rgzIn dev₁.bltMode.ops.1 q dev₁.grgz).2)
    (hlist : listLayers list' = (listLayers list₁).map blittedLayer)
    (hshown : (shownLayers (listLayers list')).length = (overlayLayers (listLayers list₁)).length) :
    ∀ e ∈ dev'.blitData.rgzBlts,
      Sourced (BlitPlan.From dev' (listLayers list') out.outHndls) e := by
  obtain ⟨-, -, hsrc⟩ := hblit.sources
  intro e he
  rw [hcmds] at he
  refine (hsrc e he).imp fun l handle ⟨hmem, hlay, hnat, hnum⟩ => ⟨?_, ?_, hnat, ?_⟩
  · rw [hgrgz]
    exact hmem
  · rw [hlist]
    exact mem_map_of_mem hlay
  · rw [hshown]
    exact hnum

lemma getElem?_ovls_of_setupDsscomp {d : HwcDev} (hok : DevOk dev)
    (hscan : SgxScan (startDev dev list) s) (hcore : d.core = (startDev dev list).core)
    (hdev : dev' = setupDsscomp env d (placeFb (startDev dev list) true s).1
      (placeFb (startDev dev list) true s).2 s.ixDocking) {i : Nat} {o : OvlInfo}
    (ho : (adjustPrimary (startDev dev list) (placeFb (startDev dev list) true s).1)[i]? = some o) :
    dev'.dsscomp.ovls[i]? = some o := by
  have hplan : PrimaryPlan (startDev dev list) [] (placeFb (startDev dev list) true s).1
    (placeFb (startDev dev list) true s).2 := primaryPlan_of_sgx hscan hok.fbFormat
  rw [hplan.z] at hdev
  obtain ⟨cs', hcloned⟩ := setupDsscomp_cloned (d := d) hplan.zorders env s.ixDocking
  rw [← hdev] at hcloned
  have hlt := (List.getElem?_eq_some_iff.mp ho).1
  rw [(hcloned.congr hcore).ovls, adjustPrimary_append, List.getElem?_append_left hlt, ho]

lemma blitPlan_of_all {prim cs : List OvlInfo} (hf : Frame dev list dev' prim cs) (hok : DevOk dev)
    (hblit : BlitOk env (startDev dev list) (list.map marked) q out) (hdev : dev' = prepareEnd env
      { blitPlanned (startDev dev list)
          (rgzIn (startDev dev list).bltMode.ops.1 q (startDev dev list).grgz).2 out 0 with
        useSgx := false, swapRb := false } true (.start { blitPlanned (startDev dev list)
          (rgzIn (startDev dev list).bltMode.ops.1 q (startDev dev list).grgz).2 out 0 with
        useSgx := false, swapRb := false } true))
    (hlist : listLayers list' = (frameLayers list).map blittedLayer) :
    BlitPlan dev' (listLayers list') out.outHndls ∧ shownLayers (listLayers list') = [] := by
  have hmarked : ∀ l ∈ frameLayers list, l.compositionType = .framebuffer :=
    fun l => compositionType_of_mem_frameLayers
  have hnone : overlayLayers (frameLayers list) = [] := by
    rw [overlayLayers, filter_eq_nil_iff]
    intro l hl
    simp [isOverlay, hmarked l hl]
  have hshown : shownLayers (listLayers list') = [] := by
    rw [hlist, shownLayers_map_blitted fun l hl => Or.inl (hmarked l hl), hnone, map_nil]
  have hpost : dev'.post2Layers = 1 := by
    rw [hdev]
    exact length_placeFb _ _ _
  have hbuf : dev'.buffers = writeBuffers (startDev dev list).buffers 0 out.outHndls := by
    rw [hdev]
    rfl
  obtain ⟨hsmall, hroom, hfirst⟩ := hf.forDriver hok (by omega)
  refine ⟨⟨by rw [hdev]; rfl, by rw [hpost, hshown]; rfl, hsmall, hroom, hf.numOvls, hfirst, ?_,
    ?_, by rw [hdev]; rfl, ?_, ?_⟩, hshown⟩
  · intro j l hl
    rw [hshown] at hl
    cases hl
  · intro j l hl
    rw [hshown] at hl
    cases hl
  · intro i h hi
    rw [hpost, if_pos rfl, hbuf]
    exact writeBuffers_getElem? _ 0 hi
  · refine hblit.sources_planned (by rw [hdev]; rfl) (by rw [hdev]; rfl) hlist ?_
    have hoverlaid : overlayLayers (listLayers (list.map marked)) = [] := hnone
    rw [hshown, hoverlaid]

end

/-! ## The condition -/

/-- The frame leaves nothing to blit: every layer gets an overlay next to the framebuffer's. -/
def NothingToBlit (dev : HwcDev) (list : Option LayerList) : Prop :=
  allOverlaid (startDev dev list) 1 0 (frameLayers list) = true

instance (dev : HwcDev) (list : Option LayerList) : Decidable (NothingToBlit dev list) :=
  inferInstanceAs (Decidable (_ = true))

lemma hwcSet_post {env : SetEnv} {list : LayerList} {dev dev' : HwcDev} {post : Post}
    (h : hwcSet env list dev = (dev', some post)) : post = (beforePost dev).post := by
  rcases hwcSet_cases env list dev with ⟨-, he⟩ | ⟨-, -, he⟩ | ⟨-, -, he⟩
  · rw [he] at h
    cases (Prod.mk.inj h).2
  · rw [he] at h
    cases (Prod.mk.inj h).2
  · rw [he] at h
    have hpost := (Prod.mk.inj h).2
    split_ifs at hpost
    exact (Option.some.inj hpost).symm

lemma numOvls_ne_zero_of_processFlip {env : FlipEnv} {post : Post} {kernel kernel' : Kernel}
    (h : processFlip env post kernel = (kernel', true)) : post.dsscomp.numOvls ≠ 0 := by
  intro h0
  unfold processFlip at h
  simp only [h0, true_or, if_true] at h
  split_ifs at h <;> cases (Prod.mk.inj h).2

lemma SceneScan.isOverlay_of_fbZ_eq_none (h : SceneScan s) (hz : s.fbZ = none) :
    ∀ l ∈ s.layers, l.isOverlay = true := by
  have hsplit := h.split
  rw [hz] at hsplit
  exact hsplit

/-- The scan has a place for the framebuffer exactly if it left a layer to it. -/
lemma SceneScan.countP_framebuffer_eq_zero_iff (h : SceneScan s) :
    s.layers.countP (fun l => l.compositionType = .framebuffer) = 0 ↔ s.fbZ = none := by
  rw [countP_eq_zero]
  constructor
  · intro h0
    cases hz : s.fbZ with
    | none => rfl
    | some f =>
      have hsplit := h.split
      rw [hz] at hsplit
      obtain ⟨pre, fb, tail, he, hfb, -⟩ := hsplit
      have hmem : fb ∈ s.layers := by rw [he]; simp
      have hcomp : fb.compositionType = .framebuffer := by
        refine (h.marked fb hmem).resolve_right fun ho => ?_
        simp [isOverlay, ho.1] at hfb
      exact absurd (by simpa using hcomp) (h0 fb hmem)
  · intro hz l hl
    have hov := h.isOverlay_of_fbZ_eq_none hz l hl
    simp only [isOverlay, decide_eq_true_eq] at hov
    simp [hov]

lemma scanLayers_handles (dev : HwcDev) (list : Option LayerList) :
    (scanLayers dev true (frameLayers list)).layers.map handle = (listLayers list).map handle := by
  have hbare : ∀ ls : List HwcLayer, ls.map handle = (ls.map bare).map handle := by
    intro ls
    rw [map_map]
    rfl
  rw [hbare, scanLayers_bare]
  exact (congrArg (map handle) (frameLayers_bare list)).trans (hbare _).symm

lemma forall_handle_congr {ls ls' : List HwcLayer} {b : BufferHandle}
    (h : ls.map handle = ls'.map handle) : (∀ l ∈ ls, l.handle = b) ↔ ∀ l ∈ ls', l.handle = b := by
  have hmap : ∀ ls : List HwcLayer,
      (∀ l ∈ ls, l.handle = b) ↔ ∀ x ∈ ls.map handle, x = b := fun ls => by simp
  rw [hmap, hmap, h]

section
variable {env : PrepareEnv} {dev dev' : HwcDev} {list list' : Option LayerList}
  {q : RgzInParams} {out : OutData} {prim cs : List OvlInfo} {s : Scan}
  (hf : Frame dev list dev' prim cs) (hok : DevOk dev) (hsgx : (startDev dev list).useSgx = true)
  (hs : s = scanLayers (startDev dev list) true (frameLayers list))
  (hlayers : listLayers (withLayers (list.map LayerList.marked) s.layers) = s.layers)
  (hblit : BlitOk env { startDev dev list with buffers := s.buffers }
    (withLayers (list.map LayerList.marked) s.layers) q out)
  (hdev : dev' = prepareEnd env
    { blitPlanned { startDev dev list with buffers := s.buffers }
        (rgzIn (startDev dev list).bltMode.ops.1 q (startDev dev list).grgz).2 out
        (if s.ovls.length = 1 then 0 else s.ovls.length) with
      useSgx := false } true s)
  (hlist : listLayers list' = s.layers.map blittedLayer)
include hf hok hsgx hs hlayers hblit hdev hlist

lemma blitPlan_of_rest : BlitPlan dev' (listLayers list') out.outHndls := by
  have hscan : SgxScan (startDev dev list) s := hs ▸ sgxScan hsgx _
  have hscene : SceneScan s := hs ▸ sceneScan hsgx fun l => compositionType_of_mem_frameLayers
  have hcount := hscene.count
  have hshown : shownLayers (listLayers list') = (overlayLayers s.layers).map blittedLayer := by
    rw [hlist, shownLayers_map_blitted hscene.marked]
  have hpost : dev'.post2Layers = s.ovls.length := by
    rw [hdev]
    exact length_placeFb _ _ _
  have hbuf : dev'.buffers =
      writeBuffers s.buffers (if s.ovls.length = 1 then 0 else s.ovls.length) out.outHndls := by
    rw [hdev]
    rfl
  obtain ⟨hsmall, hroom, hfirst⟩ := hf.forDriver hok (by omega)
  refine ⟨by rw [hdev]; rfl, by rw [hpost, hshown, length_map, hcount], hsmall, hroom,
    hf.numOvls, hfirst, ?_, ?_, by rw [hdev]; rfl, ?_, ?_⟩
  · intro j l hl
    rw [hshown, List.getElem?_map] at hl
    obtain ⟨x, hx, rfl⟩ := Option.map_eq_some_iff.mp hl
    obtain ⟨o, ho, hadr, hba, hwin⟩ := hscene.entry hscan hok.fbFormat hx
    obtain ⟨d, hcore, hd⟩ : ∃ d : HwcDev, d.core = (startDev dev list).core ∧
        dev' = setupDsscomp env d (placeFb (startDev dev list) true s).1
          (placeFb (startDev dev list) true s).2 s.ixDocking := by
      refine ⟨_, ?_, hdev⟩
      rfl
    refine ⟨o, getElem?_ovls_of_setupDsscomp hok hscan hcore hd ho, hadr, hba, fun h0 => hwin ?_⟩
    rw [← h0, hdev]
    rfl
  · intro j l hl
    rw [hshown, List.getElem?_map] at hl
    obtain ⟨x, hx, rfl⟩ := Option.map_eq_some_iff.mp hl
    have hj := (List.getElem?_eq_some_iff.mp hx).1
    rw [hbuf, if_neg (by omega), writeBuffers_of_lt _ _ (by omega), hscene.buffers j x hx]
    rfl
  · intro i h hi
    rw [hpost, hbuf]
    exact writeBuffers_getElem? _ _ hi
  · refine hblit.sources_planned (by rw [hdev]; rfl) (by rw [hdev]; rfl) ?_ ?_
    · rw [hlayers, hlist]
    · rw [hlayers, hshown, length_map]

/-- A frame of which the rest is blitted. -/
lemma resolved_iff_of_blitRest (hnum : dev'.dsscomp.numOvls ≠ 0) :
    Resolved dev' (listLayers list') (beforePost dev').post ↔
      ¬NothingToBlit dev list ∨ ∀ l ∈ listLayers list, l.handle = dev.buffers 0 := by
  have hplan := blitPlan_of_rest hf hok hsgx hs hlayers hblit hdev hlist
  have hscene : SceneScan s := hs ▸ sceneScan hsgx fun l => compositionType_of_mem_frameLayers
  have hfits : s.fbZ = none ↔ NothingToBlit dev list := by
    rw [hs]
    exact fbZ_foldl_scanLayer hsgx _ (.start _ _) rfl
  have hblits : dev'.post2BlitBuffers = 0 ↔ NothingToBlit dev list := by
    rw [hplan.blitBuffers, hblit.sources.2.1, hlayers, hscene.countP_framebuffer_eq_zero_iff, hfits]
  by_cases hno : NothingToBlit dev list
  · -- nothing is blitted, and the buffers are posted with the unused entry in front
    have hzero := hblits.mpr hno
    have hempty : out.outHndls = [] := by
      rw [← length_eq_zero_iff, ← hplan.blitBuffers, hzero]
    have hfirst : dev'.buffers 0 = dev.buffers 0 := by
      have hw : dev'.buffers = writeBuffers s.buffers
          (if s.ovls.length = 1 then 0 else s.ovls.length) out.outHndls := by
        rw [hdev]
        rfl
      rw [hw, hempty]
      show s.buffers 0 = _
      rw [hs, scanLayers_buffers_zero]
      rfl
    have hhandles : (shownLayers (listLayers list')).map handle = (listLayers list).map handle := by
      have hov : overlayLayers s.layers = s.layers :=
        filter_eq_self.mpr (hscene.isOverlay_of_fbZ_eq_none (hfits.mpr hno))
      rw [hlist, shownLayers_map_blitted hscene.marked, hov, map_map,
        ← scanLayers_handles (startDev dev list) list, ← hs]
      rfl
    rw [hplan.resolved_iff_of_none hnum hzero, hfirst, forall_handle_congr hhandles]
    exact ⟨Or.inr, fun h => h.resolve_left fun hyes => hyes hno⟩
  · exact iff_of_true (hplan.resolved_of_blits hnum fun h0 => hno (hblits.mp h0)) (Or.inl hno)

end

/-- **What `hwc_set` posts is resolved**, for a frame planned with blits in any reachable state
and processed by the driver, exactly if the policy is to blit everything, or some layer is left
to blit, or every layer has the buffer that the framebuffer's unused entry holds. -/
theorem posted_frame_resolved {s : System} (hs : System.Reachable s) {env : PrepareEnv}
    {list list' : Option LayerList} {slist : LayerList} {dev' dev'' : HwcDev} {senv : SetEnv}
    {post : Post} {fenv : FlipEnv} {kernel kernel' : Kernel}
    (hprep : hwcPrepare env list s.dev = .ok (dev', list')) (hblit : dev'.blitUseFb = true)
    (hset : hwcSet senv slist dev' = (dev'', some post))
    (hflip : processFlip fenv post kernel = (kernel', true)) :
    Resolved dev' (listLayers list') post ↔ s.dev.bltPolicy = .all ∨
      ¬ NothingToBlit s.dev list ∨ ∀ l ∈ listLayers list, l.handle = s.dev.buffers 0 := by
  have hok := devOk_of_reachable hs
  obtain ⟨prim, cs, hf, -⟩ := hwcPrepare_frame hprep hok
  obtain rfl := hwcSet_post hset
  have hnum : dev'.dsscomp.numOvls ≠ 0 := by
    have hflipped := numOvls_ne_zero_of_processFlip hflip
    rwa [post_numOvls] at hflipped
  have hout : Outcome env (list.map marked) (startDev s.dev list) dev' list' :=
    composeFrame_ok hprep
  cases hout with
  | blitAll q out hpolicy hok' hdev hlist =>
    have hlayers : listLayers list' = (frameLayers list).map blittedLayer := by
      rw [hlist, listLayers_withLayers]
      · rfl
      · intro hnone
        rw [hnone]
        rfl
    obtain ⟨hplan, hnone⟩ := blitPlan_of_all hf hok hok' hdev hlayers
    -- there is no overlay but the framebuffer's
    refine iff_of_true ((hplan.resolved_iff hnum).mpr fun j l hl => ?_) (Or.inl hpolicy)
    rw [hnone] at hl
    cases hl
  | blitRest scan q out hpolicy hsgx hscan hok' hdev hlist =>
    rw [hsgx] at hscan hdev
    have hmarked : listLayers (withLayers (list.map marked) scan.layers) = scan.layers := by
      refine listLayers_withLayers fun hnone => ?_
      rw [hscan, hnone]
      rfl
    have hlayers : listLayers list' = scan.layers.map blittedLayer := by
      rw [hlist, listLayers_withLayers, hmarked]
      intro hnone
      rw [hmarked, hscan]
      have : list.map marked = none := by
        cases list with
        | none => rfl
        | some l => cases hnone
      rw [this]
      rfl
    have hdefault : s.dev.bltPolicy ≠ .all := by
      have hdef : s.dev.bltPolicy = .default := hpolicy
      rw [hdef]
      exact nofun
    rw [resolved_iff_of_blitRest hf hok hsgx hscan hmarked hok' hdev hlayers hnum]
    exact ⟨Or.inr, fun h => h.resolve_left hdefault⟩
  | noBlit scan _ hdev _ =>
    subst hdev
    cases hblit

/-- A layer to blit below a protected layer, which gets an overlay. -/
theorem blitted_frame_resolved : ∃ s dev' list' dev'' post kernel', System.Reachable s ∧
      hwcPrepare sampleEnv (sampleList [(sampleLayer 1 ⟨0, 0, 4, 4⟩ .none).layer,
        sampleProtected 2 ⟨1, 1, 3, 3⟩]) s.dev = .ok (dev', list') ∧ dev'.blitUseFb = true ∧
      hwcSet ⟨true, true⟩ ⟨true, [], true, true⟩ dev' = (dev'', some post) ∧
      processFlip ⟨true, true⟩ post s.kernel = (kernel', true) ∧
      post.buffers.length = 2 ∧ Resolved dev' (listLayers list') post := by
  obtain ⟨s, hr, hprep⟩ : ∃ s, System.Reachable s ∧
      (hwcPrepare sampleEnv (sampleList [(sampleLayer 1 ⟨0, 0, 4, 4⟩ .none).layer,
        sampleProtected 2 ⟨1, 1, 3, 3⟩]) s.dev).map
        (fun r => (r.1.blitUseFb, (hwcSet ⟨true, true⟩ ⟨true, [], true, true⟩ r.1).2.map fun post =>
          ((processFlip ⟨true, true⟩ post s.kernel).2, post.buffers.length,
            decide (NothingToBlit s.dev (sampleList [(sampleLayer 1 ⟨0, 0, 4, 4⟩ .none).layer,
              sampleProtected 2 ⟨1, 1, 3, 3⟩]))))) = .ok (true, some (true, 2, false)) :=
    Runs.exists_of_run ⟨sampleOpen false .default, rfl⟩ sampleIdle (by decide +kernel)
  obtain ⟨⟨dev', list'⟩, hok, hv⟩ := exists_of_map_eq_ok hprep
  obtain ⟨hblit, hset⟩ := Prod.mk.inj hv
  obtain ⟨post, hpost, hp⟩ := Option.map_eq_some_iff.mp hset
  simp only [Prod.mk.injEq] at hp
  obtain ⟨hflip, hlen, hno⟩ := hp
  have hset' : hwcSet ⟨true, true⟩ ⟨true, [], true, true⟩ dev' =
      ((hwcSet ⟨true, true⟩ ⟨true, [], true, true⟩ dev').1, some post) := Prod.ext rfl hpost
  have hflip' : processFlip ⟨true, true⟩ post s.kernel =
      ((processFlip ⟨true, true⟩ post s.kernel).1, true) := Prod.ext rfl hflip
  exact ⟨s, dev', list', _, post, _, hr, hok, hblit, hset', hflip', hlen,
    (posted_frame_resolved hr hok hblit hset' hflip').mpr
      (Or.inr (Or.inl (of_decide_eq_false hno)))⟩

/-- Forced to use SGX for one protected layer, the composer plans to clear the framebuffer below
its overlay.  There is nothing to blit from, so the buffer left from an earlier frame is posted,
and the overlay shows that. -/
theorem protected_overlay_misresolved :
    ∃ s env list dev' list' senv slist dev'' post fenv kernel', System.Reachable s ∧
      hwcPrepare env list s.dev = .ok (dev', list') ∧ dev'.blitUseFb = true ∧
      hwcSet senv slist dev' = (dev'', some post) ∧
      processFlip fenv post s.kernel = (kernel', true) ∧
      ¬ Resolved dev' (listLayers list') post := by
  obtain ⟨s, hr, hprep⟩ : ∃ s, System.Reachable s ∧
      (hwcPrepare sampleEnv (sampleList [sampleProtected 3 ⟨0, 0, 4, 4⟩]) s.dev).map
        (fun r => (r.1.blitUseFb,
          decide ((shownLayers (listLayers r.2)).map handle =
            [.native ⟨3, 4, 4, .rgba8888, true, false⟩]),
          (hwcSet ⟨true, true⟩ ⟨true, [], true, true⟩ r.1).2.map fun post =>
            ((processFlip ⟨true, true⟩ post s.kernel).2,
              decide (post.dsscomp.ovls[1]?.map post.ovlSurface =
                some (some (.buffer (.native ⟨1, 4, 4, .rgba8888, false, false⟩))))))) =
      .ok (true, true, some (true, true)) :=
    Runs.exists_of_run ⟨sampleOpen false .default, rfl⟩ sampleIdle (by decide +kernel)
  obtain ⟨⟨dev', list'⟩, hok, hv⟩ := exists_of_map_eq_ok hprep
  simp only [Prod.mk.injEq] at hv
  obtain ⟨hblit, hshown, hset⟩ := hv
  obtain ⟨post, hpost, hp⟩ := Option.map_eq_some_iff.mp hset
  obtain ⟨hflip, hsurf⟩ := Prod.mk.inj hp
  have hsurf := of_decide_eq_true hsurf
  refine ⟨s, _, _, dev', list', ⟨true, true⟩, ⟨true, [], true, true⟩, _, post, ⟨true, true⟩, _, hr,
    hok, hblit, Prod.ext rfl hpost, Prod.ext rfl hflip, fun hres => ?_⟩
  obtain ⟨l, rest, hl, hhandle, -⟩ := map_eq_cons_iff.mp (of_decide_eq_true hshown)
  obtain ⟨o, ho, hfound, -⟩ := hres.overlays 0 l (by rw [hl]; rfl)
  rw [ho, Option.map_some, hfound, hhandle] at hsurf
  exact absurd hsurf (by decide)

end Solana
