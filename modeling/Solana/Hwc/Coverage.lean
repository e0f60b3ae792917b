import Solana.Hwc.Overlays
import Mathlib.Data.List.Infix

/-!
# Frames without a framebuffer

When `can_dss_render_all` holds, SGX is not used and a layer without an overlay is not shown at
all.  The test looks at the statistics of the list, the scan at one layer after the other
(`can_dss_render_layer`), and the two do not agree everywhere:

* on a turned external display that is docked to, the test is content with one NV12 layer, but no
  other dockable layer is taken;
* without `flags_rgb_order`, the test does not look for BGR layers on a TV, but none is taken;
* the memory of the layers is added up in 32 bits, so the sum may fit although a part of it does
  not.

`every_layer_overlaid_iff` says that these, and frames that are blitted as a whole, are the only
exceptions.
-/

namespace Solana

open PixelFormat HwcLayer Counts List

/-! ## The statistics of a list -/

/-- Does the buffer of a layer have one of some formats? -/
def HwcLayer.hasFormat (p : PixelFormat → Bool) (l : HwcLayer) : Bool :=
  (l.handle.deref.map fun h => p h.iFormat).getD false

/-- `mem1d` of the buffer of a layer. -/
def HwcLayer.mem1d (l : HwcLayer) : Nat := (l.handle.deref.map NativeHandle.mem1d).getD 0

/-- `is_valid_layer`. -/
def HwcLayer.valid (dev : HwcDev) (l : HwcLayer) : Bool :=
  (l.handle.deref.map (isValidLayer dev l)).getD false

section Statistics

variable {dev : HwcDev} {layers : List HwcLayer}

lemma foldl_gatherLayer_count {f : Counts → Nat} {p : HwcLayer → Bool} :
    ∀ {layers : List HwcLayer} {num : Counts},
      (∀ num, ∀ l ∈ layers, f (gatherLayer dev num l) = f num + if p l then 1 else 0) →
      f (layers.foldl (gatherLayer dev) num) = f num + layers.countP p
  | [], _, _ => rfl
  | l :: ls, num, hstep => by
    have hls : ∀ num, ∀ l ∈ ls, f (gatherLayer dev num l) = f num + if p l then 1 else 0 :=
      fun num l hl => hstep num l (mem_cons_of_mem _ hl)
    rw [foldl_cons, foldl_gatherLayer_count hls, hstep num l mem_cons_self, countP_cons]
    omega

lemma valid_of_possible
    (h : (gatherLayerStatistics dev layers).possibleOverlayLayers = layers.length) :
    ∀ l ∈ layers, l.valid dev = true := by
  have hcount : (gatherLayerStatistics dev layers).possibleOverlayLayers =
      0 + layers.countP (HwcLayer.valid dev) := by
    refine foldl_gatherLayer_count (f := possibleOverlayLayers) fun num l _ => ?_
    unfold gatherLayer HwcLayer.valid
    cases l.handle.deref with
    | none => rfl
    | some handle => by_cases hv : isValidLayer dev l handle = true <;> simp [hv]
  rw [h, Nat.zero_add] at hcount
  exact countP_eq_length.mp hcount.symm

lemma gatherLayer_of_valid {l : HwcLayer} (h : l.valid dev = true) (num : Counts) :
    (gatherLayer dev num l).bgr = num.bgr + (if l.hasFormat isBgr then 1 else 0) ∧
    (gatherLayer dev num l).rgb = num.rgb + (if l.hasFormat isRgb then 1 else 0) ∧
    (gatherLayer dev num l).nv12 =
      num.nv12 + (if l.hasFormat isTiNv12 then 1 else 0) := by
  unfold HwcLayer.valid at h
  unfold gatherLayer hasFormat
  cases hh : l.handle.deref with
  | none => rw [hh] at h; cases h
  | some handle =>
    rw [hh] at h
    have hv : isValidLayer dev l handle = true := h
    cases hf : handle.iFormat <;>
      simp [hv, hf, isBgr, isRgb, isTiNv12]

/-- What the statistics say about the layers of a list that are all valid. -/
lemma gatherLayerStatistics_of_valid (h : ∀ l ∈ layers, l.valid dev = true) :
    (gatherLayerStatistics dev layers).bgr = layers.countP (hasFormat isBgr) ∧
    (gatherLayerStatistics dev layers).rgb = layers.countP (hasFormat isRgb) ∧
    (gatherLayerStatistics dev layers).nv12 = layers.countP (hasFormat isTiNv12) := by
  have hcount : ∀ {f : Counts → Nat} {p : HwcLayer → Bool},
      (∀ num, ∀ l ∈ layers, f (gatherLayer dev num l) = f num + if p l then 1 else 0) →
      f { compositedLayers := layers.length } = 0 →
      f (gatherLayerStatistics dev layers) = layers.countP p := by
    intro f p hstep h0
    rw [gatherLayerStatistics, foldl_gatherLayer_count hstep, h0, Nat.zero_add]
  exact ⟨hcount (f := bgr) (fun num l hl => (gatherLayer_of_valid (h l hl) num).1) rfl,
    hcount (f := rgb) (fun num l hl => (gatherLayer_of_valid (h l hl) num).2.1) rfl,
    hcount (f := nv12) (fun num l hl => (gatherLayer_of_valid (h l hl) num).2.2) rfl⟩

end Statistics

/-! ## The scan

Without SGX, a scan that has given an overlay to every layer so far gives one to the next layer
exactly if the display subsystem can render it, a pipe is left, and its memory still fits. -/

/-- The state of a scan that has given an overlay to each of some layers. -/
structure Taken (d : HwcDev) (layers : List HwcLayer) (s : Scan) : Prop where
  count : s.ovls.length = layers.length
  overlaid : s.layers = layers.map (overlaidLayer d)
  buffers : ∀ (k : Nat) (l : HwcLayer), layers[k]? = some l → s.buffers k = l.handle
  memUsed : s.memUsed = u32 (layers.map HwcLayer.mem1d).sum
  fbZ : s.fbZ = none

/-- What the scan asks of the layer `l` behind the layers `pre`. -/
def Admitted (d : HwcDev) (pre : List HwcLayer) (l : HwcLayer) : Prop :=
  ∃ handle, l.handle = .native handle ∧ pre.length < d.counts.maxHwOverlays ∧
    canDssRenderLayer d l handle = true ∧
    u32 ((pre ++ [l]).map HwcLayer.mem1d).sum ≤ d.limits.tiler1dSlotSize

section Scan

variable {d : HwcDev} {layers pre : List HwcLayer} {l : HwcLayer} {s : Scan}

lemma u32_add_u32 (a b : Nat) : u32 ((u32 a : Int) + b) = u32 ((a : Int) + b) := by
  unfold u32
  omega

lemma sum_mem1d_concat {handle : NativeHandle} (hh : l.handle = .native handle) :
    (((pre ++ [l]).map mem1d).sum : Int) = (pre.map mem1d).sum + (handle.mem1d : Int) := by
  have hl : l.mem1d = handle.mem1d := by
    unfold mem1d
    rw [hh]
    rfl
  simp [hl]

lemma Taken.takesOverlay_iff (h : Taken d pre s) (hforce : d.forceSgx = 0)
    {handle : NativeHandle} (hh : l.handle = .native handle) :
    takesOverlay d s l handle = true ↔ Admitted d pre l := by
  have hmem : u32 ((s.memUsed : Int) + handle.mem1d) = u32 ((pre ++ [l]).map mem1d).sum := by
    rw [h.memUsed, u32_add_u32, sum_mem1d_concat hh]
  unfold takesOverlay overlayEligible Admitted
  rw [hmem, h.count, h.fbZ, hforce]
  simp only [decide_true, Bool.true_or, Bool.and_true, Option.isSome_none, Bool.and_false,
    Bool.not_false, Bool.and_eq_true, decide_eq_true_eq]
  constructor
  · rintro ⟨⟨hlt, hrender⟩, hfits⟩
    exact ⟨handle, hh, hlt, hrender, hfits⟩
  · rintro ⟨handle', hh', hlt, hrender, hfits⟩
    obtain rfl : handle = handle' := BufferHandle.native.inj (hh.symm.trans hh')
    exact ⟨⟨hlt, hrender⟩, hfits⟩

lemma Taken.concat (h : Taken d pre s) (hforce : d.forceSgx = 0) (hl : Admitted d pre l) :
    Taken d (pre ++ [l]) (scanLayer d s l) := by
  obtain ⟨handle, hh, -⟩ := id hl
  have htake := (h.takesOverlay_iff hforce hh).mpr hl
  have hscan : scanLayer d s l = overlayLayer d s l handle := by
    unfold scanLayer
    rw [hh]
    exact if_pos htake
  rw [hscan]
  refine ⟨?_, ?_, fun k l' hk => ?_, ?_, h.fbZ⟩
  · rw [length_overlayLayer_ovls, h.count, length_append, length_singleton]
  · rw [map_append, ← h.overlaid]
    rfl
  · show Function.update s.buffers s.ovls.length l.handle k = l'.handle
    rw [h.count]
    rcases getElem?_concat_cases hk with hk | ⟨rfl, rfl⟩
    · rw [Function.update_of_ne (Nat.ne_of_lt (List.getElem?_eq_some_iff.mp hk).1)]
      exact h.buffers k l' hk
    · rw [Function.update_self]
  · show u32 ((s.memUsed : Int) + handle.mem1d) = _
    rw [h.memUsed, u32_add_u32, sum_mem1d_concat hh]

lemma taken_start (d : HwcDev) : Taken d [] (.start d false) :=
  ⟨rfl, rfl, fun k l h => absurd h (by simp), rfl, rfl⟩

lemma scanLayers_concat (d : HwcDev) (pre : List HwcLayer) (l : HwcLayer) :
    scanLayers d false (pre ++ [l]) = scanLayer d (scanLayers d false pre) l := by
  rw [scanLayers, foldl_append]
  rfl

lemma taken_of_admitted (hforce : d.forceSgx = 0)
    (h : ∀ pre l, pre ++ [l] <+: layers → Admitted d pre l) :
    Taken d layers (scanLayers d false layers) := by
  induction layers using reverseRecOn with
  | nil => exact taken_start d
  | append_singleton ls l ih =>
    rw [scanLayers_concat]
    refine (ih fun pre l' hp => h pre l' (hp.trans (prefix_append _ _))).concat hforce ?_
    exact h ls l (prefix_refl _)

lemma length_scanLayer_le (hsgx : d.useSgx = false) (s : Scan) (l : HwcLayer) :
    (scanLayer d s l).ovls.length = s.ovls.length ∨
      ((scanLayer d s l).ovls.length = s.ovls.length + 1 ∧
        ∃ handle, l.handle = .native handle ∧ takesOverlay d s l handle = true) := by
  rcases scanLayer_cases d s l with ⟨handle, hh, ht, he⟩ | ⟨hyes, -⟩ | ⟨-, he⟩
  · exact Or.inr ⟨by rw [he, length_overlayLayer_ovls], handle, hh, ht⟩
  · rw [hsgx] at hyes
    cases hyes
  · exact Or.inl (by rw [he])

lemma length_scanLayers_le (hsgx : d.useSgx = false) (layers : List HwcLayer) :
    (scanLayers d false layers).ovls.length ≤ layers.length := by
  induction layers using reverseRecOn with
  | nil => exact Nat.le_refl 0
  | append_singleton ls l ih =>
    rw [scanLayers_concat, length_append, length_singleton]
    rcases length_scanLayer_le hsgx (scanLayers d false ls) l with h | ⟨h, -⟩ <;> omega

lemma admitted_of_count (hsgx : d.useSgx = false) (hforce : d.forceSgx = 0)
    (h : (scanLayers d false layers).ovls.length = layers.length) :
    ∀ pre l, pre ++ [l] <+: layers → Admitted d pre l := by
  induction layers using reverseRecOn with
  | nil => exact fun pre l hp => absurd (prefix_nil.mp hp) (by simp)
  | append_singleton ls l ih =>
    rw [scanLayers_concat, length_append, length_singleton] at h
    have hle := length_scanLayers_le hsgx ls
    -- the last layer must have added an overlay, and so must every earlier one
    rcases length_scanLayer_le hsgx (scanLayers d false ls) l with hsame | ⟨hone, hl⟩
    · omega
    · have hls := ih (by omega)
      obtain ⟨handle, hh, ht⟩ := hl
      have hlast := ((taken_of_admitted hforce hls).takesOverlay_iff hforce hh).mp ht
      intro pre l' hp
      rcases prefix_concat_iff.mp hp with heq | hp
      · obtain ⟨rfl, hl⟩ := append_inj' heq rfl
        obtain rfl := singleton_inj.mp hl
        exact hlast
      · exact hls pre l' hp

end Scan

/-! ## Test and scan -/

/-- The overlay assignment loop of `hwc_prepare`, with the blit of the policy `BLTPOLICY_ALL`
before it: a frame that is blitted as a whole has no layers left for the loop. -/
def overlayLoop (env : PrepareEnv) (list : Option LayerList) (dev : HwcDev) :
    Except OutFault Scan :=
  (blitAllStage env dev list).map fun r =>
    scanLayers r.1 (dev.useSgx || r.2) (if r.2 then [] else listLayers list)

/-- The loop is the one `hwc_prepare` runs: its overlays and its layers are what the rest of the
function goes on with. -/
lemma composeFrame_overlayLoop {env : PrepareEnv} {list list' : Option LayerList}
    {dev dev' : HwcDev} (h : composeFrame env list dev = .ok (dev', list')) :
    ∃ s, overlayLoop env list dev = .ok s ∧
      ∃ d blitAll, dev' = prepareEnd env d (dev.useSgx || blitAll) s := by
  obtain ⟨⟨dev₂, blitAll⟩, h₁, h⟩ := Fallible.exists_of_bind_eq_ok h
  obtain ⟨⟨dev₃, blitRest⟩, h₂, h⟩ := Fallible.exists_of_bind_eq_ok h
  obtain ⟨rfl, rfl⟩ := Prod.mk.inj (Except.ok.inj h)
  refine ⟨scanLayers dev₂ (dev.useSgx || blitAll) (if blitAll then [] else listLayers list), ?_,
    dev₃, blitAll, rfl⟩
  rw [overlayLoop, h₁]
  rfl

/-- The scan has given an overlay to every layer of the list: the `k`-th entry shows the buffer
of the `k`-th layer, and every layer is marked. -/
structure EveryOverlaid (layers : List HwcLayer) (s : Scan) : Prop where
  count : s.ovls.length = layers.length
  buffers : ∀ (k : Nat) (l : HwcLayer), layers[k]? = some l → s.buffers k = l.handle
  marked : s.layers.map HwcLayer.compositionType = layers.map fun _ => .overlay

/-- The frame is blitted as a whole. -/
def BlitsAll (env : PrepareEnv) (list : Option LayerList) (dev : HwcDev) : Prop :=
  dev.bltPolicy = .all ∧ ∃ d, blitLayers env dev list 0 = .ok (d, true)

/-- The layers that `can_dss_render_all` does not look at closely enough. -/
structure Renderable (d : HwcDev) (layers : List HwcLayer) : Prop where
  /-- On a turned external display that is docked to, dockable layers are NV12. -/
  turned : ∀ l ∈ layers, d.ext.current.enabled = true → d.ext.current.docking = true →
    (d.ext.current.rotation ≠ 0 ∨ d.ext.current.hflip = true) → l.dockable = true →
    l.hasFormat PixelFormat.isTiNv12 = true
  /-- No BGR layer is shown on a TV. -/
  tv : ∀ l ∈ layers, l.hasFormat PixelFormat.isBgr = true → d.onTv = false ∧
    (d.ext.onTv = true → d.ext.current.enabled = true →
      d.ext.current.docking = true ∧ l.dockable = false)
  /-- The memory of the layers up to any one fits. -/
  mem : ∀ pre, pre <+: layers →
    u32 (pre.map HwcLayer.mem1d).sum ≤ d.limits.tiler1dSlotSize

section Test

variable {dev : HwcDev} {list : Option LayerList}

/-- What `can_dss_render_all` knows about the layers of a frame. -/
structure AllCounted (d : HwcDev) (layers : List HwcLayer) : Prop where
  nonempty : layers ≠ []
  useSgx : d.useSgx = false
  forceSgx : d.forceSgx = 0
  length : layers.length ≤ d.counts.maxHwOverlays
  valid : ∀ l ∈ layers, l.valid d = true
  tform : d.ext.current.enabled = true →
    (d.ext.current.rotation ≠ 0 ∨ d.ext.current.hflip = true) →
    (∀ l ∈ layers, l.hasFormat PixelFormat.isTiNv12 = true) ∨ d.ext.current.docking = true
  order : d.flagsRgbOrder = true → ∀ l ∈ layers,
    l.hasFormat (if d.swapRb then PixelFormat.isRgb else PixelFormat.isBgr) = false

lemma allCounted (h : canDssRenderAll (startDev dev list) = true) :
    AllCounted (startDev dev list) (frameLayers list) := by
  have hsgx : (startDev dev list).useSgx = !canDssRenderAll (startDev dev list) := rfl
  have hswap : (startDev dev list).swapRb = if canDssRenderAll (startDev dev list) then
      decide ((startDev dev list).counts.bgr ≠ 0) else dev.fbDev.format.isBgr := rfl
  rw [h] at hsgx hswap
  have hcomp : (startDev dev list).counts.compositedLayers = (frameLayers list).length :=
    (foldl_gatherLayer dev (frameLayers list) { compositedLayers := (frameLayers list).length }).1
  simp only [canDssRenderAll, Bool.and_eq_true, decide_eq_true_eq] at h
  obtain ⟨⟨⟨⟨⟨⟨⟨⟨⟨hforce, hpos⟩, hmax⟩, hposs⟩, -⟩, -⟩, -⟩, htform⟩, hbgr⟩, -⟩ := h
  have hvalid : ∀ l ∈ frameLayers list, l.valid dev = true :=
    valid_of_possible (hposs.trans hcomp)
  obtain ⟨hB, hR, hN⟩ := gatherLayerStatistics_of_valid hvalid
  have hne : frameLayers list ≠ [] := by
    rintro h0
    rw [h0] at hcomp
    exact hpos (hposs.trans hcomp)
  refine ⟨hne, hsgx, hforce, (hposs.trans hcomp) ▸ hmax, hvalid, fun hen hturn => ?_,
    fun horder => ?_⟩
  · -- a turned display: every layer is NV12, or it is docked to
    have hturn' : (decide ((startDev dev list).ext.current.rotation ≠ 0) ||
        (startDev dev list).ext.current.hflip) = true := by
      rw [Bool.or_eq_true, decide_eq_true_eq]
      exact hturn
    rw [hen, hturn'] at htform
    simp only [Bool.and_self, Bool.not_true, Bool.false_or, Bool.or_eq_true, Bool.and_eq_true,
      decide_eq_true_eq] at htform
    rcases htform with hnv | ⟨-, hdock⟩
    · refine Or.inl (countP_eq_length.mp ?_)
      exact hN.symm.trans (hnv.trans (hposs.trans hcomp))
    · exact Or.inr hdock
  · -- the layers are ordered one way
    rw [horder] at hbgr
    simp only [Bool.not_true, Bool.or_false, Bool.or_eq_true, Bool.and_eq_true,
      decide_eq_true_eq] at hbgr
    have hzero : ∀ {p : HwcLayer → Bool}, (frameLayers list).countP p = 0 →
        ∀ l ∈ frameLayers list, p l = false := by
      intro p hp l hl
      exact Bool.eq_false_iff.mpr (countP_eq_zero.mp hp l hl)
    by_cases h0 : (startDev dev list).counts.bgr = 0
    · rw [hswap, h0]
      exact hzero (hB.symm.trans h0)
    · rcases hbgr with hbgr | ⟨hrgb, -⟩
      · exact absurd hbgr h0
      · rw [hswap, if_pos rfl, decide_eq_true h0]
        exact hzero (hR.symm.trans hrgb)

end Test

section Layer

variable {d : HwcDev} {layers : List HwcLayer} {l : HwcLayer}

/-- **Test against scan.** -/
lemma AllCounted.canDssRenderLayer_iff (h : AllCounted d layers) (hl : l ∈ layers)
    {handle : NativeHandle} (hh : l.handle = .native handle) : canDssRenderLayer d l handle = true ↔
      (d.ext.current.enabled = true → d.ext.current.docking = true →
        (d.ext.current.rotation ≠ 0 ∨ d.ext.current.hflip = true) → l.dockable = true →
        l.hasFormat isTiNv12 = true) ∧ (l.hasFormat isBgr = true → d.onTv = false ∧
        (d.ext.onTv = true → d.ext.current.enabled = true →
          d.ext.current.docking = true ∧ l.dockable = false)) := by
  have hformat : ∀ p, l.hasFormat p = p handle.iFormat := by
    intro p
    unfold hasFormat
    rw [hh]
    rfl
  have hvalid : isValidLayer d l handle = true := by
    have := h.valid l hl
    unfold HwcLayer.valid at this
    rw [hh] at this
    exact this
  have horder : (!(if d.swapRb then handle.iFormat.isRgb else handle.iFormat.isBgr) ||
      !d.flagsRgbOrder) = true := by
    cases hflag : d.flagsRgbOrder with
    | false => exact Bool.or_true _
    | true =>
      have hother := h.order hflag l hl
      rw [hformat] at hother
      cases hswap : d.swapRb <;> simp [hswap] at hother ⊢ <;> exact hother
  have htform := h.tform
  have hturn : (d.ext.current.rotation ≠ 0 ∨ d.ext.current.hflip = true) ↔
      (decide (d.ext.current.rotation ≠ 0) || d.ext.current.hflip) = true := by
    rw [Bool.or_eq_true, decide_eq_true_eq]
  unfold canDssRenderLayer
  simp only [hvalid, horder, h.useSgx, Bool.not_false, Bool.or_true, Bool.true_or, Bool.true_and,
    Bool.and_true]
  rw [hformat, hformat, Bool.and_eq_true]
  refine and_congr ?_ ?_
  · rw [hturn] at htform ⊢
    have hnv : (∀ l ∈ layers, l.hasFormat isTiNv12 = true) →
        handle.iFormat.isTiNv12 = true := fun hall => (hformat _).symm.trans (hall l hl)
    generalize (decide (d.ext.current.rotation ≠ 0) || d.ext.current.hflip) = turned at htform ⊢
    generalize d.ext.current.enabled = enabled at htform ⊢
    generalize d.ext.current.docking = docking at htform ⊢
    cases enabled <;> cases docking <;> cases l.dockable <;> cases turned <;>
      simp at htform ⊢ <;> exact hnv htform
  · cases d.onTv <;> cases d.ext.onTv <;> cases d.ext.current.enabled <;>
      cases d.ext.current.docking <;> cases l.dockable <;> simp

/-- The condition on the list is the scan's condition on each layer. -/
lemma AllCounted.admitted_iff (h : AllCounted d layers) :
    (∀ pre l, pre ++ [l] <+: layers → Admitted d pre l) ↔ Renderable d layers := by
  constructor
  · intro hadm
    have hlayer : ∀ l ∈ layers, ∃ handle, l.handle = .native handle ∧
        canDssRenderLayer d l handle = true := by
      intro l hl
      obtain ⟨pre, post, rfl⟩ := append_of_mem hl
      obtain ⟨handle, hh, -, hrender, -⟩ := hadm pre l ⟨post, by simp⟩
      exact ⟨handle, hh, hrender⟩
    refine ⟨fun l hl => ?_, fun l hl => ?_, fun pre hp => ?_⟩
    · obtain ⟨handle, hh, hrender⟩ := hlayer l hl
      exact ((h.canDssRenderLayer_iff hl hh).mp hrender).1
    · obtain ⟨handle, hh, hrender⟩ := hlayer l hl
      exact ((h.canDssRenderLayer_iff hl hh).mp hrender).2
    · rcases eq_nil_or_concat' pre with rfl | ⟨pre, l, rfl⟩
      · exact Nat.zero_le _
      · obtain ⟨-, -, -, -, hmem⟩ := hadm pre l hp
        exact hmem
  · intro hr pre l hp
    have hl : l ∈ layers := hp.subset (mem_append_right pre mem_cons_self)
    obtain ⟨handle, hh⟩ : ∃ handle, l.handle = .native handle := by
      have hvalid := h.valid l hl
      unfold HwcLayer.valid at hvalid
      cases hh : l.handle.deref with
      | none => rw [hh] at hvalid; cases hvalid
      | some handle => exact ⟨handle, deref_eq_some hh⟩
    refine ⟨handle, hh, ?_, ?_, hr.mem _ hp⟩
    · have hlen := hp.length_le
      rw [length_append, length_singleton] at hlen
      exact Nat.lt_of_lt_of_le hlen h.length
    · exact (h.canDssRenderLayer_iff hl hh).mpr ⟨hr.turned l hl, hr.tv l hl⟩

lemma AllCounted.everyOverlaid_iff (h : AllCounted d layers) :
    EveryOverlaid layers (scanLayers d false layers) ↔ Renderable d layers := by
  rw [← h.admitted_iff]
  constructor
  · exact fun ho => admitted_of_count h.useSgx h.forceSgx ho.count
  · intro ha
    have ht := taken_of_admitted h.forceSgx ha
    refine ⟨ht.count, ht.buffers, ?_⟩
    rw [ht.overlaid, map_map]
    rfl

end Layer

lemma AllCounted.withGrgz {d : HwcDev} {layers : List HwcLayer} (h : AllCounted d layers)
    (g : Rgz) : AllCounted { d with grgz := g } layers :=
  ⟨h.nonempty, h.useSgx, h.forceSgx, h.length, h.valid, h.tform, h.order⟩

lemma renderable_withGrgz {d : HwcDev} {layers : List HwcLayer} (g : Rgz) :
    Renderable { d with grgz := g } layers ↔ Renderable d layers :=
  ⟨fun h => ⟨h.turned, h.tv, h.mem⟩, fun h => ⟨h.turned, h.tv, h.mem⟩⟩

lemma blitsAll_iff {env : PrepareEnv} {list : Option LayerList} {dev d : HwcDev} {all : Bool}
    (h : blitAllStage env dev list = .ok (d, all)) : BlitsAll env list dev ↔ all = true := by
  unfold blitAllStage at h
  unfold BlitsAll
  by_cases hpol : dev.bltPolicy = .all
  · rw [if_pos hpol] at h
    obtain ⟨⟨d', all'⟩, hblit, he⟩ := Fallible.exists_of_map_eq_ok h
    obtain rfl : all' = all := congrArg Prod.snd he
    constructor
    · rintro ⟨-, d'', hd''⟩
      exact congrArg Prod.snd (Except.ok.inj (hblit.symm.trans hd''))
    · rintro rfl
      exact ⟨hpol, d', hblit⟩
  · rw [if_neg hpol] at h
    obtain rfl : false = all := congrArg Prod.snd (Except.ok.inj h)
    exact ⟨fun hb => absurd hb.1 hpol, fun hb => absurd hb (by simp)⟩

/-- **Every layer gets an overlay** in a frame without a framebuffer, exactly if the frame is not
blitted as a whole and its layers are `Renderable`. -/
theorem every_layer_overlaid_iff {env : PrepareEnv} {list : Option LayerList} {dev : HwcDev}
    {s : Scan} (hall : canDssRenderAll (startDev dev list) = true)
    (hloop : overlayLoop env (list.map LayerList.marked) (startDev dev list) = .ok s) :
    EveryOverlaid (frameLayers list) s ↔
      ¬BlitsAll env (list.map LayerList.marked) (startDev dev list) ∧
        Renderable (startDev dev list) (frameLayers list) := by
  have hc := allCounted hall
  obtain ⟨⟨d, blitAll⟩, hstage, hs⟩ := Fallible.exists_of_map_eq_ok hloop
  cases blitAll with
  | true =>
    -- no layer is left for the loop, and the list is not empty
    refine ⟨fun h => ?_, fun h => absurd ?_ h.1⟩
    · have hmarked := h.marked
      rw [← hs] at hmarked
      exact absurd (map_eq_nil_iff.mp hmarked.symm) hc.nonempty
    · exact (blitsAll_iff hstage).mpr rfl
  | false =>
    have hno : ¬BlitsAll env (list.map LayerList.marked) (startDev dev list) :=
      fun h => absurd ((blitsAll_iff hstage).mp h) (by simp)
    rcases blitAllStage_ok hstage with ⟨-, hd⟩ | ⟨hyes, -⟩
    · have hc' : AllCounted d (frameLayers list) := by
        rw [hd]
        exact hc.withGrgz _
      have hscan : scanLayers d false (frameLayers list) = s := by
        rw [← hs, hc.useSgx]
        rfl
      rw [and_iff_right hno, ← hscan, hc'.everyOverlaid_iff, hd, renderable_withGrgz]
    · cases hyes

/-- Two layers for the sample screen. -/
def samplePair : Option LayerList :=
  sampleList [(sampleLayer 1 ⟨0, 0, 4, 4⟩ .none).layer, (sampleLayer 2 ⟨0, 0, 2, 2⟩ .none).layer]

/-- The sample device shows both layers through overlays. -/
theorem plain_frame_overlaid : ∃ s, overlayLoop sampleEnv (samplePair.map LayerList.marked)
        (startDev (hwcDeviceOpen (sampleOpen false .disabled)) samplePair) = .ok s ∧
      EveryOverlaid (frameLayers samplePair) s := by
  refine ⟨_, rfl, ?_⟩
  refine (@every_layer_overlaid_iff sampleEnv samplePair
    (hwcDeviceOpen (sampleOpen false .disabled)) _ (by decide +kernel) rfl).mpr
    ⟨fun h => absurd h.1 (by decide), fun l _ h => ?_, fun l hl hbgr => ?_, fun pre hp => ?_⟩
  · exact absurd h (by decide +kernel)
  · revert l
    decide +kernel
  · rw [← mem_inits] at hp
    revert pre
    decide +kernel

/-- The sample device, docked to an external display that is turned by a quarter. -/
def dockedOpen : OpenEnv :=
  { sampleOpen true .disabled with
    hotplug := { sampleHotplug with
      dockingEnabled := true
      mirroringEnabled := false
      dockingRotation := 1 } }

/-- A video and, above it, an image that may be shown on the external display too. -/
def videoAndImage : Option LayerList :=
  sampleList [{ (sampleLayer 1 ⟨0, 0, 4, 4⟩ .none).layer with
      handle := .native ⟨1, 4, 4, .tiNv12, false, true⟩ },
    { (sampleLayer 2 ⟨0, 0, 2, 2⟩ .none).layer with
      handle := .native ⟨2, 4, 4, .bgra8888, false, true⟩ }]

/-- The device is docked to a turned display, and the list holds one NV12 layer, so that
`can_dss_render_all` is content.  The scan gives an overlay to the video only, and SGX does not
draw the image. -/
theorem turned_dock_drops_layer :
    canDssRenderAll (startDev (hwcDeviceOpen dockedOpen) videoAndImage) = true ∧
      (frameLayers videoAndImage).length = 2 ∧
      (overlayLoop sampleEnv (videoAndImage.map LayerList.marked)
        (startDev (hwcDeviceOpen dockedOpen) videoAndImage)).toOption.map
          (fun s => (s.ovls.length, s.layers.map HwcLayer.compositionType)) =
        some (1, [.overlay, .framebuffer]) ∧
      (hwcPrepare sampleEnv videoAndImage (hwcDeviceOpen dockedOpen)).toOption.map
        (fun r => r.1.useSgx) = some false := by
  decide +kernel

end Solana
