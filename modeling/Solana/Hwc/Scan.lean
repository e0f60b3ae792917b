import Solana.Hwc.Prepare

/-!
# What the scan over the layers assigns

The scan gives overlays z-orders and pipe indices while it walks the list, and corrects both on
the way: every framebuffer layer moves the framebuffer above the overlays seen so far, and a
scaled layer on the graphics pipe changes places with the first unscaled one.

`SgxScan` and `DssScan` are the loop invariants for the two kinds of frames, with and without a
framebuffer.  `PrimaryPlan` is what both give for the overlays of the primary display.
-/

namespace Solana

open HwcLayer Scan OvlInfo BufferHandle List

/-! ## One step -/

variable {dev : HwcDev} {handle : NativeHandle} {layer : HwcLayer}

lemma isValid_of_canDssRenderLayer (h : canDssRenderLayer dev layer handle = true) :
    isValidLayer dev layer handle = true := by
  simp only [canDssRenderLayer, Bool.and_eq_true] at h
  exact h.1.1.1.1

variable {s : Scan}

lemma takesOverlay_spec (h : takesOverlay dev s layer handle = true) :
    s.ovls.length < dev.counts.maxHwOverlays ∧ overlayEligible dev layer handle = true ∧
      isValidLayer dev layer handle = true ∧ (s.fbZ.isSome = true → layer.isBlended = false) := by
  simp only [takesOverlay, Bool.and_eq_true, decide_eq_true_eq, Bool.not_eq_true',
    Bool.and_eq_false_iff] at h
  obtain ⟨⟨⟨h1, h2⟩, -⟩, h3⟩ := h
  have h4 := h2
  simp only [overlayEligible, Bool.and_eq_true] at h4
  refine ⟨h1, h2, isValid_of_canDssRenderLayer h4.1, fun hf => ?_⟩
  rcases h3 with h3 | h3
  · exact h3
  · rw [hf] at h3; exact absurd h3 (by decide)

lemma scanLayer_cases (dev : HwcDev) (s : Scan) (layer : HwcLayer) :
    (∃ handle, layer.handle = .native handle ∧ takesOverlay dev s layer handle = true ∧
      scanLayer dev s layer = overlayLayer dev s layer handle) ∨
    (dev.useSgx = true ∧ scanLayer dev s layer = framebufferLayer s layer) ∨
    (dev.useSgx = false ∧ scanLayer dev s layer = { s with layers := s.layers ++ [layer] }) := by
  unfold scanLayer
  cases hh : layer.handle with
  | native handle =>
    simp only [deref]
    by_cases ht : takesOverlay dev s layer handle = true
    · exact Or.inl ⟨handle, rfl, ht, by rw [if_pos ht]⟩
    · rw [if_neg ht]
      cases hs : dev.useSgx <;> simp
  | null => cases hs : dev.useSgx <;> simp [deref]
  | dummy => cases hs : dev.useSgx <;> simp [deref]

lemma scanLayers_invariant {needsFb : Bool} (Inv : Scan → Prop) (h0 : Inv (.start dev needsFb))
    (hstep : ∀ s layer, Inv s → Inv (scanLayer dev s layer)) (layers : List HwcLayer) :
    Inv (scanLayers dev needsFb layers) := by
  unfold scanLayers
  generalize Scan.start dev needsFb = s at h0
  induction layers generalizing s with
  | nil => exact h0
  | cons l ls ih => exact ih _ (hstep _ _ h0)

/-! ## The entries -/

lemma dssColorMode_isSome {format : PixelFormat} (h : format.isValid = true) (blended : Bool) :
    ∃ mode, dssColorMode format blended = some mode := by
  cases format <;> simp_all [PixelFormat.isValid, dssColorMode]

lemma setupLayerBase_zorder {format : PixelFormat} (h : format.isValid = true) (oc : OvlCfg)
    (z : Nat) (blended : Bool) (width height : Int) :
    (setupLayerBase oc z format blended width height).zorder = z := by
  obtain ⟨mode, hm⟩ := dssColorMode_isSome h blended
  simp [setupLayerBase, hm]

lemma setupLayerBase_mgrIx (oc : OvlCfg) (z : Nat) (format : PixelFormat) (blended : Bool)
    (width height : Int) : (setupLayerBase oc z format blended width height).mgrIx = oc.mgrIx := by
  unfold setupLayerBase
  split <;> rfl

/-- An entry of the primary display that shows the `n`-th buffer. -/
structure PrimaryEntry (o : OvlInfo) (n : Nat) : Prop where
  mgrIx : o.cfg.mgrIx = 0
  addressing : o.addressing = .layerIx
  ba : o.ba = n

lemma layerOvl_entry (dev : HwcDev) (n z : Nat) (layer : HwcLayer) (handle : NativeHandle) :
    PrimaryEntry (layerOvl dev n z layer handle) n :=
  ⟨setupLayerBase_mgrIx _ _ _ _ _ _, rfl, rfl⟩

lemma layerOvl_zorder {n z : Nat} (h : isValidLayer dev layer handle = true) :
    (layerOvl dev n z layer handle).cfg.zorder = z := by
  have hv : handle.iFormat.isValid = true := by
    simp only [isValidLayer, Bool.and_eq_true] at h
    exact h.1.1.2
  exact setupLayerBase_zorder hv _ _ _ _ _

lemma fbOvl_entry (dev : HwcDev) (z : Nat) : PrimaryEntry (fbOvl dev z) 0 :=
  ⟨setupLayerBase_mgrIx _ _ _ _ _ _, rfl, rfl⟩

lemma lowerOvls_getElem? : ∀ (k i : Nat) (ovls : List OvlInfo) (j : Nat),
    (lowerOvls k i ovls)[j]? = ovls[j]?.map fun o =>
      if i ≤ j ∧ j < i + k then o.setZorder (o.cfg.zorder - 1) else o
  | 0, i, ovls, j => by
    have : ∀ o : OvlInfo, (if i ≤ j ∧ j < i + 0 then o.setZorder (o.cfg.zorder - 1) else o) = o :=
      fun o => if_neg (by omega)
    simp only [lowerOvls, this, Option.map_id']
  | k + 1, i, ovls, j => by
    rw [lowerOvls, lowerOvls_getElem? k, List.getElem?_modify]
    cases ovls[j]? with
    | none => rfl
    | some o =>
      by_cases hij : i = j
      · subst hij
        simp [show ¬ (i + 1 ≤ i) by omega]
      · have hrange : (i + 1 ≤ j ∧ j < i + 1 + k) ↔ (i ≤ j ∧ j < i + (k + 1)) := by omega
        simp only [Option.map_some, Option.map_eq_map, if_neg hij, hrange]

lemma length_lowerOvls : ∀ (k i : Nat) (ovls : List OvlInfo),
    (lowerOvls k i ovls).length = ovls.length
  | 0, _, _ => rfl
  | k + 1, i, ovls => by rw [lowerOvls, length_lowerOvls k, length_modify]

lemma getElem?_concat_cases {α : Type*} {xs : List α} {x y : α} {j : Nat}
    (h : (xs ++ [x])[j]? = some y) : xs[j]? = some y ∨ (j = xs.length ∧ y = x) := by
  rcases lt_trichotomy j xs.length with hj | hj | hj
  · rw [List.getElem?_append_left hj] at h
    exact Or.inl h
  · rw [hj, List.getElem?_concat_length] at h
    exact Or.inr ⟨hj, (Option.some.inj h).symm⟩
  · rw [List.getElem?_eq_none (by simp; omega)] at h
    cases h

/-! ## Frames with a framebuffer -/

/-- The z-order of the `k`-th overlay above the framebuffer entry. -/
def zAt (fbZ : Option Nat) (k : Nat) : Nat :=
  match fbZ with
  | some f => if k < f then k else k + 1
  | none => k

/-- The invariant of the scan when SGX draws the framebuffer. -/
structure SgxScan (dev : HwcDev) (s : Scan) : Prop where
  pos : 0 < s.ovls.length
  bound : s.ovls.length ≤ max 1 dev.counts.maxHwOverlays
  z : s.z + 1 = s.ovls.length + if s.fbZ.isSome then 1 else 0
  fbZ : ∀ f ∈ s.fbZ, f < s.ovls.length
  zorder : ∀ k o, s.ovls[k + 1]? = some o → o.cfg.zorder = zAt s.fbZ k
  ix : ∀ k o, s.ovls[k + 1]? = some o → o.cfg.ix = k + 1 + dev.primaryTransform
  entry : ∀ k o, s.ovls[k + 1]? = some o → PrimaryEntry o (k + 1)
  gfx : s.scaledGfx = false

lemma SgxScan.start (dev dev' : HwcDev) : SgxScan dev (.start dev' true) where
  pos := by simp [Scan.start]
  bound := by simp [Scan.start]
  z := by simp [Scan.start]
  fbZ := by simp [Scan.start]
  zorder k o h := by simp [Scan.start] at h
  ix k o h := by simp [Scan.start] at h
  entry k o h := by simp [Scan.start] at h
  gfx := rfl

section

variable (h : SgxScan dev s)
include h

lemma SgxScan.appendOvl_eq (layer : HwcLayer) (handle : NativeHandle) :
    appendOvl dev s layer handle =
      (s.ovls ++ [layerOvl dev s.ovls.length s.z layer handle], false) := by
  have := h.pos
  unfold appendOvl
  simp [h.gfx, show s.ovls.length ≠ 0 by omega]

lemma SgxScan.overlay (ht : takesOverlay dev s layer handle = true) :
    SgxScan dev (overlayLayer dev s layer handle) := by
  obtain ⟨hlt, -, hvalid, -⟩ := takesOverlay_spec ht
  have hpos := h.pos
  have hz := h.z
  set o := layerOvl dev s.ovls.length s.z layer handle with ho
  have happ := h.appendOvl_eq layer handle
  have hnew : o.cfg.zorder = s.z := layerOvl_zorder hvalid
  constructor
  · simp [overlayLayer, happ]
  · simp only [overlayLayer, happ, length_append, length_singleton]
    omega
  · simp only [overlayLayer, happ, length_append, length_singleton]
    omega
  · intro f hf
    have := h.fbZ f hf
    simp only [overlayLayer, happ, length_append, length_singleton]
    omega
  · intro k p hp
    simp only [overlayLayer, happ] at hp ⊢
    rcases getElem?_concat_cases hp with hp | ⟨hk, rfl⟩
    · exact h.zorder k p hp
    · rw [hnew]
      cases hf : s.fbZ with
      | none => simp only [hf, Option.isSome_none, Bool.false_eq_true, if_false] at hz
                simp only [zAt]; omega
      | some f =>
        have := h.fbZ f hf
        simp only [hf, Option.isSome_some, if_true] at hz
        simp only [zAt]
        rw [if_neg (by omega)]
        omega
  · intro k p hp
    simp only [overlayLayer, happ] at hp
    rcases getElem?_concat_cases hp with hp | ⟨hk, rfl⟩
    · exact h.ix k p hp
    · simp [layerOvl, hk]
  · intro k p hp
    simp only [overlayLayer, happ] at hp
    rcases getElem?_concat_cases hp with hp | ⟨hk, rfl⟩
    · exact h.entry k p hp
    · rw [hk]; exact layerOvl_entry _ _ _ _ _
  · simp [overlayLayer, happ]

/-- **What a framebuffer layer does.** -/
lemma SgxScan.framebufferLayer_eq (layer : HwcLayer) : ∃ ovls, framebufferLayer s layer =
        { s with
          layers := s.layers ++ [layer]
          ovls := ovls
          fbZ := some (s.ovls.length - 1)
          z := s.ovls.length } ∧
      ovls.length = s.ovls.length ∧
      ∀ k o, ovls[k + 1]? = some o → ∃ p, s.ovls[k + 1]? = some p ∧ o = p.setZorder k := by
  have hz := h.z
  unfold framebufferLayer
  cases hf : s.fbZ with
  | none =>
    simp only [hf, Option.isSome_none, Bool.false_eq_true, if_false, add_zero] at hz
    refine ⟨s.ovls, by rw [← hz, Nat.add_sub_cancel], rfl, fun k o ho => ⟨o, ho, ?_⟩⟩
    have hk := h.zorder k o ho
    rw [hf] at hk
    rw [setZorder, ← show o.cfg.zorder = k from hk]
  | some f =>
    have hfl := h.fbZ f hf
    simp only [hf, Option.isSome_some, if_true, Nat.add_right_cancel_iff] at hz
    have hmax : max f (s.z - 1) = s.z - 1 := max_eq_right (by omega)
    refine ⟨lowerOvls (s.z - 1 - f) (1 + f) s.ovls, by simp only [← hz, hmax],
      length_lowerOvls _ _ _, fun k o ho => ?_⟩
    rw [lowerOvls_getElem?] at ho
    obtain ⟨p, hp, rfl⟩ := Option.map_eq_some_iff.mp ho
    refine ⟨p, hp, ?_⟩
    have hk := (List.getElem?_eq_some_iff.mp hp).1
    have hpz := h.zorder k p hp
    simp only [hf, zAt] at hpz
    -- exactly the overlays above the old place of the framebuffer are lowered
    by_cases hlow : 1 + f ≤ k + 1 ∧ k + 1 < 1 + f + (s.z - 1 - f)
    · rw [if_neg (by omega)] at hpz
      rw [if_pos hlow, hpz, Nat.add_sub_cancel]
    · rw [if_pos (by omega)] at hpz
      rw [if_neg hlow, setZorder, ← hpz]

lemma SgxScan.framebuffer (layer : HwcLayer) : SgxScan dev (framebufferLayer s layer) := by
  have hpos := h.pos
  obtain ⟨ovls, he, hlen, hget⟩ := h.framebufferLayer_eq layer
  rw [he]
  constructor
  · rwa [hlen]
  · rw [hlen]
    exact h.bound
  · simp [hlen]
  · intro f hf
    obtain rfl := Option.some.inj hf
    simp only [hlen]
    omega
  · intro k o ho
    obtain ⟨p, hp, rfl⟩ := hget k o ho
    have hk := (List.getElem?_eq_some_iff.mp hp).1
    exact (if_pos (by omega)).symm
  · intro k o ho
    obtain ⟨p, hp, rfl⟩ := hget k o ho
    exact h.ix k p hp
  · intro k o ho
    obtain ⟨p, hp, rfl⟩ := hget k o ho
    obtain ⟨hmgr, haddr, hba⟩ := h.entry k p hp
    exact ⟨hmgr, haddr, hba⟩
  · exact h.gfx

end

lemma sgxScan (hsgx : dev.useSgx = true) (layers : List HwcLayer) :
    SgxScan dev (scanLayers dev true layers) := by
  refine scanLayers_invariant (SgxScan dev) (.start dev dev) (fun s layer h => ?_) layers
  rcases scanLayer_cases dev s layer with ⟨handle, -, ht, he⟩ | ⟨-, he⟩ | ⟨hno, -⟩
  · rw [he]; exact h.overlay ht
  · rw [he]; exact h.framebuffer layer
  · rw [hsgx] at hno; cases hno

/-! ## Frames without a framebuffer -/

/-- The pipe indices of some overlays. -/
def ixs (ovls : List OvlInfo) : List Nat := ovls.map fun o => o.cfg.ix

/-- A valid layer that needs a scaling pipe. -/
def needsPipe (dev : HwcDev) (layer : HwcLayer) : Bool :=
  match layer.handle.deref with
  | some handle => isValidLayer dev layer handle && needsScaling layer handle
  | none => false

/-- The invariant of the scan when every layer has to get an overlay.  The last three fields
say which pipes are used: shifted ones on a transformed display, the first ones in order while
the graphics pipe still holds a scaled layer, and the first ones in some order otherwise. -/
structure DssScan (dev : HwcDev) (s : Scan) : Prop where
  bound : s.ovls.length ≤ dev.counts.maxHwOverlays
  z : s.z = s.ovls.length
  fbZ : s.fbZ = none
  zorder : ∀ (j : Nat) (o : OvlInfo), s.ovls[j]? = some o → o.cfg.zorder = j
  entry : ∀ (j : Nat) (o : OvlInfo), s.ovls[j]? = some o → PrimaryEntry o j
  transformed : dev.primaryTransform ≠ 0 → s.scaledGfx = false ∧
    ixs s.ovls = (List.range s.ovls.length).map (· + dev.primaryTransform)
  scaled : dev.primaryTransform = 0 → s.scaledGfx = true → 0 < s.ovls.length ∧
    ixs s.ovls = List.range s.ovls.length ∧ s.ovls.length ≤ s.layers.countP (needsPipe dev)
  plain : dev.primaryTransform = 0 → s.scaledGfx = false →
    (ixs s.ovls).Perm (List.range s.ovls.length)

lemma DssScan.start (dev : HwcDev) : DssScan dev (.start dev false) where
  bound := by simp [Scan.start]
  z := rfl
  fbZ := rfl
  zorder j o h := by simp [Scan.start] at h
  entry j o h := by simp [Scan.start] at h
  transformed _ := ⟨rfl, rfl⟩
  scaled _ h := by simp [Scan.start] at h
  plain _ _ := List.Perm.refl _

lemma DssScan.skip (h : DssScan dev s) (layer : HwcLayer) :
    DssScan dev { s with layers := s.layers ++ [layer] } := by
  refine { h with scaled := fun h0 hs => ?_ }
  obtain ⟨h1, h2, h3⟩ := h.scaled h0 hs
  refine ⟨h1, h2, h3.trans ?_⟩
  rw [countP_append]
  omega

variable {ovls : List OvlInfo}

lemma getElem?_modify_setIx {n j : Nat} {o : OvlInfo} (h : (ovls.modify 0 (setIx n))[j]? = some o) :
    ∃ p, ovls[j]? = some p ∧ o.cfg.zorder = p.cfg.zorder ∧
      ∀ m, PrimaryEntry p m → PrimaryEntry o m := by
  rw [List.getElem?_modify] at h
  obtain ⟨p, hp, rfl⟩ := Option.map_eq_some_iff.mp h
  refine ⟨p, hp, ?_, fun m hm => ?_⟩
  · split_ifs <;> rfl
  · split_ifs
    · exact ⟨hm.mgrIx, hm.addressing, hm.ba⟩
    · exact hm

lemma perm_of_swap {o : OvlInfo} (hpos : 0 < ovls.length) (h : ixs ovls = range ovls.length) :
    (ixs (ovls.modify 0 (setIx ovls.length) ++ [o.setIx 0])).Perm (range (ovls.length + 1)) := by
  cases ovls with
  | nil => simp at hpos
  | cons p ps =>
    simp only [ixs, length_cons, range_succ_eq_map, map_cons, cons.injEq] at h
    have hl : ixs ((p :: ps).modify 0 (setIx (p :: ps).length) ++ [o.setIx 0]) =
        (ps.length + 1) :: (range ps.length).map Nat.succ ++ [0] := by
      simp [ixs, setIx, h.2]
    have hr : range ((p :: ps).length + 1) =
        0 :: (range ps.length).map Nat.succ ++ [ps.length + 1] := by
      rw [length_cons, range_succ, range_succ_eq_map]
    rw [hl, hr]
    exact (perm_append_singleton _ _).trans (List.Perm.cons 0 (perm_append_singleton _ _).symm)

lemma appendOvl_of_keeps (dev : HwcDev) (h1 : ¬ (s.ovls.length = 0 ∧ dev.primaryTransform = 0))
    (h2 : ¬ (s.scaledGfx = true ∧ (!needsScaling layer handle) = true)) :
    appendOvl dev s layer handle =
      (s.ovls ++ [layerOvl dev s.ovls.length s.z layer handle], s.scaledGfx) := by
  simp only [appendOvl, if_neg h1, if_neg h2]

lemma exists_appendOvl_eq (dev : HwcDev) (s : Scan) (layer : HwcLayer) (handle : NativeHandle) :
    ∃ first last, (appendOvl dev s layer handle).1 = first ++ [last] ∧
      first.length = s.ovls.length ∧ (∀ (j : Nat) p, first[j]? = some p → ∃ q, s.ovls[j]? = some q ∧
        p.cfg.zorder = q.cfg.zorder ∧ ∀ m, PrimaryEntry q m → PrimaryEntry p m) ∧
      last.cfg.zorder = (layerOvl dev s.ovls.length s.z layer handle).cfg.zorder ∧
      PrimaryEntry last s.ovls.length := by
  have hnew : PrimaryEntry (layerOvl dev s.ovls.length s.z layer handle) s.ovls.length :=
    layerOvl_entry _ _ _ _ _
  have hold : ∀ (j : Nat) p, s.ovls[j]? = some p → ∃ q, s.ovls[j]? = some q ∧
      p.cfg.zorder = q.cfg.zorder ∧ ∀ m, PrimaryEntry q m → PrimaryEntry p m :=
    fun j p hp => ⟨p, hp, rfl, fun _ hm => hm⟩
  unfold appendOvl
  simp only
  split_ifs
  · exact ⟨_, _, rfl, rfl, hold, rfl, hnew⟩
  · exact ⟨_, _, rfl, by simp, fun j p hp => getElem?_modify_setIx hp, rfl,
      ⟨hnew.mgrIx, hnew.addressing, hnew.ba⟩⟩
  · exact ⟨_, _, rfl, rfl, hold, rfl, hnew⟩

section
variable {dev : HwcDev} {s : Scan} {layer : HwcLayer} {handle : NativeHandle}

lemma length_overlayLayer_ovls (dev : HwcDev) (s : Scan) (layer : HwcLayer)
    (handle : NativeHandle) :
    (overlayLayer dev s layer handle).ovls.length = s.ovls.length + 1 := by
  obtain ⟨first, last, happ, hlen, -⟩ := exists_appendOvl_eq dev s layer handle
  simp [overlayLayer, happ, hlen]

lemma ixs_overlayLayer_of_keeps (h1 : ¬ (s.ovls.length = 0 ∧ dev.primaryTransform = 0))
    (h2 : ¬ (s.scaledGfx = true ∧ (!needsScaling layer handle) = true)) :
    ixs (overlayLayer dev s layer handle).ovls =
        ixs s.ovls ++ [s.ovls.length + dev.primaryTransform] ∧
      (overlayLayer dev s layer handle).scaledGfx = s.scaledGfx := by
  have happ := appendOvl_of_keeps dev h1 h2
  constructor
  · simp [overlayLayer, happ, ixs, layerOvl]
  · simp [overlayLayer, happ]

lemma ixs_overlayLayer_of_first (hn : s.ovls.length = 0) (h0 : dev.primaryTransform = 0) :
    ixs (overlayLayer dev s layer handle).ovls = [0] := by
  have hnil := length_eq_zero_iff.mp hn
  simp [overlayLayer, appendOvl, hnil, h0, ixs, layerOvl]

lemma needsScaling_of_scaledGfx (hg : (overlayLayer dev s layer handle).scaledGfx = true) :
    needsScaling layer handle = true := by
  have hg' : (appendOvl dev s layer handle).2 = true := hg
  unfold appendOvl at hg'
  simp only at hg'
  split_ifs at hg' with h1 h2
  · exact hg'
  · have hup : s.scaledGfx = true := hg'
    simpa [hup] using h2

lemma countP_needsPipe_overlayLayer (hh : layer.handle = .native handle)
    (hvalid : isValidLayer dev layer handle = true) (hns : needsScaling layer handle = true) :
    (overlayLayer dev s layer handle).layers.countP (needsPipe dev) =
      s.layers.countP (needsPipe dev) + 1 := by
  have hpipe : needsPipe dev (overlaidLayer dev layer) = true := by
    simp only [needsPipe, overlaidLayer, hh, deref, Bool.and_eq_true]
    exact ⟨hvalid, hns⟩
  simp [overlayLayer, hpipe]

section

variable (h : DssScan dev s)
include h

lemma DssScan.overlay_transformed (hpt : dev.primaryTransform ≠ 0) :
    (overlayLayer dev s layer handle).scaledGfx = false ∧
      ixs (overlayLayer dev s layer handle).ovls =
        (range (s.ovls.length + 1)).map (· + dev.primaryTransform) := by
  obtain ⟨hg, hix⟩ := h.transformed hpt
  have hkeep : ¬ (s.scaledGfx = true ∧ (!needsScaling layer handle) = true) := by simp [hg]
  obtain ⟨hixs, hgfx⟩ := ixs_overlayLayer_of_keeps (fun h' => hpt h'.2) hkeep
  exact ⟨hgfx.trans hg, by rw [hixs, hix, range_succ, map_append]; rfl⟩

lemma DssScan.overlay_scaled (h0 : dev.primaryTransform = 0)
    (hg : (overlayLayer dev s layer handle).scaledGfx = true) :
    ixs (overlayLayer dev s layer handle).ovls = range (s.ovls.length + 1) ∧
      s.ovls.length ≤ s.layers.countP (needsPipe dev) := by
  by_cases hn : s.ovls.length = 0
  · exact ⟨by rw [ixs_overlayLayer_of_first hn h0, hn]; rfl, by omega⟩
  · have hsw : ¬ (s.scaledGfx = true ∧ (!needsScaling layer handle) = true) := by
      simp [needsScaling_of_scaledGfx hg]
    obtain ⟨hixs, hgfx⟩ := ixs_overlayLayer_of_keeps (fun h' => hn h'.1) hsw
    obtain ⟨-, h2, h3⟩ := h.scaled h0 (hgfx ▸ hg)
    exact ⟨by rw [hixs, h2, h0, range_succ, Nat.add_zero], h3⟩

lemma DssScan.overlay_plain (h0 : dev.primaryTransform = 0)
    (hg : (overlayLayer dev s layer handle).scaledGfx = false) :
    (ixs (overlayLayer dev s layer handle).ovls).Perm (range (s.ovls.length + 1)) := by
  by_cases hn : s.ovls.length = 0
  · rw [ixs_overlayLayer_of_first hn h0, hn]
    rfl
  · by_cases hsw : s.scaledGfx = true ∧ (!needsScaling layer handle) = true
    · obtain ⟨h1, h2, -⟩ := h.scaled h0 hsw.1
      simp only [overlayLayer, appendOvl, hn, false_and, if_false, if_pos hsw]
      exact perm_of_swap h1 h2
    · obtain ⟨hixs, hgfx⟩ := ixs_overlayLayer_of_keeps (fun h' => hn h'.1) hsw
      rw [hixs, h0, range_succ]
      exact (h.plain h0 (hgfx ▸ hg)).append_right _

lemma DssScan.overlay (hh : layer.handle = .native handle)
    (ht : takesOverlay dev s layer handle = true) :
    DssScan dev (overlayLayer dev s layer handle) := by
  obtain ⟨hlt, -, hvalid, -⟩ := takesOverlay_spec ht
  have hlen' := length_overlayLayer_ovls dev s layer handle
  obtain ⟨first, last, happ, hlen, hfirst, hlast⟩ := exists_appendOvl_eq dev s layer handle
  refine ⟨by rw [hlen']; omega, by rw [hlen']; exact congrArg (· + 1) h.z, h.fbZ, ?_, ?_, ?_, ?_,
    ?_⟩
  · intro j p hp
    simp only [overlayLayer, happ] at hp
    rcases getElem?_concat_cases hp with hp | ⟨rfl, rfl⟩
    · obtain ⟨q, hq, hz, -⟩ := hfirst j p hp
      rw [hz, h.zorder j q hq]
    · rw [hlast.1, layerOvl_zorder hvalid, h.z, hlen]
  · intro j p hp
    simp only [overlayLayer, happ] at hp
    rcases getElem?_concat_cases hp with hp | ⟨rfl, rfl⟩
    · obtain ⟨q, hq, -, hm⟩ := hfirst j p hp
      exact hm j (h.entry j q hq)
    · rw [hlen]
      exact hlast.2
  · rw [hlen']
    exact h.overlay_transformed
  · intro h0 hg
    obtain ⟨hix, hle⟩ := h.overlay_scaled h0 hg
    rw [hlen', countP_needsPipe_overlayLayer hh hvalid (needsScaling_of_scaledGfx hg)]
    exact ⟨by omega, hix, by omega⟩
  · rw [hlen']
    exact h.overlay_plain

end

end

lemma dssScan (hsgx : dev.useSgx = false) (layers : List HwcLayer) :
    DssScan dev (scanLayers dev false layers) := by
  refine scanLayers_invariant (DssScan dev) (.start dev) (fun s layer h => ?_) layers
  rcases scanLayer_cases dev s layer with ⟨handle, hh, ht, he⟩ | ⟨hyes, -⟩ | ⟨-, he⟩
  · rw [he]; exact h.overlay hh ht
  · rw [hsgx] at hyes; cases hyes
  · rw [he]; exact h.skip layer

/-! ## The layers -/

/-- A layer without what `hwc_prepare` writes to it. -/
def HwcLayer.bare (l : HwcLayer) : HwcLayer :=
  { l with compositionType := .framebuffer, hints := {} }

/-- The scan visits every layer and changes only composition types and hints. -/
lemma scanLayers_bare (dev : HwcDev) (needsFb : Bool) (layers : List HwcLayer) :
    (scanLayers dev needsFb layers).layers.map bare = layers.map bare := by
  have hstep : ∀ s layer, (scanLayer dev s layer).layers.map bare =
      s.layers.map bare ++ [layer.bare] := by
    intro s layer
    rcases scanLayer_cases dev s layer with ⟨handle, -, -, he⟩ | ⟨-, he⟩ | ⟨-, he⟩
    · rw [he]
      simp [overlayLayer, overlaidLayer, bare]
    · rw [he]
      unfold framebufferLayer
      split <;> simp
    · rw [he]
      simp
  have hall : ∀ (layers : List HwcLayer) (s : Scan),
      (layers.foldl (scanLayer dev) s).layers.map bare =
        s.layers.map bare ++ layers.map bare := by
    intro layers
    induction layers with
    | nil => simp
    | cons l ls ih =>
      intro s
      rw [foldl_cons, ih, hstep]
      simp
  simpa [scanLayers, Scan.start] using hall layers (.start dev needsFb)

lemma countP_needsPipe_scan (dev : HwcDev) (needsFb : Bool) (layers : List HwcLayer) :
    (scanLayers dev needsFb layers).layers.countP (needsPipe dev) =
      layers.countP (needsPipe dev) := by
  have hbare : ∀ ls : List HwcLayer,
      ls.countP (needsPipe dev) = (ls.map bare).countP (needsPipe dev) := by
    intro ls
    rw [countP_map]
    rfl
  rw [hbare, scanLayers_bare, ← hbare]

/-! ## The overlays of the primary display -/

/-- The z-orders of some overlays. -/
def zorders (ovls : List OvlInfo) : List Nat := ovls.map fun o => o.cfg.zorder

/-- How the pipes of the primary display are used: the lowest ones, or, on a transformed
display or with only scaled layers, the ones from the second on. -/
inductive Pipes (dev : HwcDev) (layers : List HwcLayer) (ovls : List OvlInfo) : Prop
  | lowest (h : ∀ i ∈ ixs ovls, i < ovls.length)
  | transformed (h0 : dev.primaryTransform ≠ 0)
      (h : ∀ i ∈ ixs ovls, i < ovls.length + dev.primaryTransform)
  | shifted (h0 : dev.primaryTransform = 0) (hsgx : dev.useSgx = false)
      (hall : ovls.length ≤ layers.countP (needsPipe dev))
      (h : ∀ i ∈ ixs ovls, 0 < i ∧ i ≤ ovls.length)

/-- What the scan and the framebuffer's overlay give for the primary display; `z` is the next
z-order. -/
structure PrimaryPlan (dev : HwcDev) (layers : List HwcLayer) (ovls : List OvlInfo) (z : Nat) :
    Prop where
  z : z = ovls.length
  zorders : (zorders ovls).Perm (List.range ovls.length)
  ixs : (ixs ovls).Nodup
  entry : ∀ (j : Nat) (o : OvlInfo), ovls[j]? = some o → PrimaryEntry o j
  pipes : Pipes dev layers ovls

/-- Inserting the framebuffer's z-order between those of the overlays. -/
lemma perm_cons_zAt {f n : Nat} (hf : f ≤ n) :
    (f :: (range n).map (zAt (some f))).Perm (range (n + 1)) := by
  induction n with
  | zero => simp [Nat.le_zero.mp hf]
  | succ n ih =>
    rw [range_succ, map_append, range_succ]
    rcases Nat.lt_or_ge n f with hlt | hge
    · -- the framebuffer comes on top: the overlays keep their places
      obtain rfl : f = n + 1 := by omega
      have hid : (range n).map (zAt (some (n + 1))) = range n := by
        conv_rhs => rw [← map_id (range n)]
        refine map_congr_left fun k hk => ?_
        have := mem_range.mp hk
        simp only [zAt, id]
        rw [if_pos (by omega)]
      have hlast : zAt (some (n + 1)) n = n := by simp [zAt]
      rw [hid, map_singleton, hlast, ← range_succ]
      exact (perm_append_singleton _ _).symm
    · have hlast : zAt (some f) n = n + 1 := by
        simp only [zAt]
        rw [if_neg (by omega)]
      rw [map_singleton, hlast, ← cons_append]
      exact (ih hge).append_right _

lemma map_eq_range_map {f : OvlInfo → Nat} {g : Nat → Nat}
    (h : ∀ (j : Nat) (o : OvlInfo), ovls[j]? = some o → f o = g j) :
    ovls.map f = (range ovls.length).map g := by
  refine ext_getElem (by simp) fun j hj _ => ?_
  have hj' : j < ovls.length := by simpa using hj
  simp [h j ovls[j] (List.getElem?_eq_getElem hj')]

lemma fbOvl_zorder (hfmt : dev.fbDev.format.isValid = true) (z : Nat) :
    (fbOvl dev z).cfg.zorder = z := setupLayerBase_zorder hfmt _ _ _ _ _

/-- The z-order of the framebuffer: where the scan put it, or on top. -/
def Scan.fbZorder (s : Scan) : Nat := s.fbZ.getD s.z

section
variable {dev : HwcDev} {s : Scan} (h : SgxScan dev s)
include h

lemma SgxScan.placeFb_eq :
    ∃ p rest, s.ovls = p :: rest ∧ (placeFb dev true s).1 = fbOvl dev s.fbZorder :: rest := by
  obtain ⟨p, rest, hovls⟩ := exists_cons_of_length_pos h.pos
  have hshift : s.shiftGfx = s.ovls := by simp [shiftGfx, h.gfx]
  exact ⟨p, rest, hovls, by simp [placeFb, hshift, hovls, fbZorder]⟩

lemma SgxScan.fbZorder_le : s.fbZorder + 1 ≤ s.ovls.length ∧
      ∀ k, k + 1 < s.ovls.length → zAt s.fbZ k = zAt (some s.fbZorder) k := by
  have hz := h.z
  unfold fbZorder
  cases hfz : s.fbZ with
  | none =>
    simp only [hfz, Option.isSome_none, Bool.false_eq_true, if_false] at hz
    simp only [Option.getD_none]
    refine ⟨by omega, fun k hk => ?_⟩
    simp only [zAt]
    rw [if_pos (by omega)]
  | some g =>
    have := h.fbZ g hfz
    simp only [Option.getD_some]
    exact ⟨by omega, fun _ _ => trivial⟩

/-- The z-orders of a frame with a framebuffer, in the order of the entries. -/
lemma SgxScan.zorders_placeFb (hfmt : dev.fbDev.format.isValid = true) :
    zorders (placeFb dev true s).1 =
      s.fbZorder :: (range (s.ovls.length - 1)).map (zAt (some s.fbZorder)) := by
  obtain ⟨p, rest, hovls, hplaced⟩ := h.placeFb_eq
  have hrest : ∀ (k : Nat) o, rest[k]? = some o → o.cfg.zorder = zAt s.fbZ k := by
    intro k o ho
    exact h.zorder k o (by rw [hovls]; exact ho)
  have hlen : s.ovls.length - 1 = rest.length := by rw [hovls]; rfl
  rw [hplaced, zorders, map_cons, fbOvl_zorder hfmt, map_eq_range_map hrest, hlen]
  refine congrArg (s.fbZorder :: ·) (map_congr_left fun k hk => h.fbZorder_le.2 k ?_)
  have := mem_range.mp hk
  omega

/-- The plan of a frame with a framebuffer, from the entries behind it. -/
lemma primaryPlan_of_sgx {layers : List HwcLayer} (hfmt : dev.fbDev.format.isValid = true) :
    PrimaryPlan dev layers (placeFb dev true s).1 (placeFb dev true s).2 := by
  have hzs := h.zorders_placeFb hfmt
  obtain ⟨p, rest, hovls, hplaced⟩ := h.placeFb_eq
  have hz := h.z
  have hlen : s.ovls.length = rest.length + 1 := by rw [hovls]; rfl
  have hixs : ixs (fbOvl dev s.fbZorder :: rest) =
      (range (rest.length + 1)).map (· + dev.primaryTransform) := by
    have hrest : ixs rest = (range rest.length).map (· + 1 + dev.primaryTransform) :=
      map_eq_range_map fun k o ho => h.ix k o (by rw [hovls]; exact ho)
    rw [range_succ_eq_map, map_cons, map_map, Nat.zero_add]
    show dev.primaryTransform :: ixs rest = _
    rw [hrest]
    rfl
  rw [hplaced] at hzs ⊢
  constructor
  · simp only [placeFb, if_true, length_cons]
    cases hfz : s.fbZ with
    | none => simp [hfz] at hz ⊢; omega
    | some g => simp [hfz] at hz ⊢; omega
  · rw [hzs, length_cons, hlen, Nat.add_sub_cancel]
    exact perm_cons_zAt (by have := h.fbZorder_le.1; omega)
  · rw [hixs]
    exact nodup_range.map fun a b hab => by simpa using hab
  · intro j o ho
    cases j with
    | zero =>
      obtain rfl : fbOvl dev s.fbZorder = o := by simpa using ho
      exact fbOvl_entry dev s.fbZorder
    | succ k => exact h.entry k o (by rw [hovls]; simpa using ho)
  · by_cases hpt : dev.primaryTransform = 0
    · refine .lowest fun i hi => ?_
      rw [hixs] at hi
      simpa [hpt] using hi
    · refine .transformed hpt fun i hi => ?_
      rw [hixs] at hi
      obtain ⟨j, hj, rfl⟩ := mem_map.mp hi
      have := mem_range.mp hj
      simp only [length_cons]
      omega

end

lemma primaryPlan_of_dss {layers : List HwcLayer} (h : DssScan dev s) (hsgx : dev.useSgx = false)
    (hcount : s.layers.countP (needsPipe dev) = layers.countP (needsPipe dev)) :
    PrimaryPlan dev layers (placeFb dev false s).1 (placeFb dev false s).2 := by
  show PrimaryPlan dev layers s.shiftGfx s.z
  have hlen : s.shiftGfx.length = s.ovls.length := by
    unfold shiftGfx
    split_ifs <;> simp
  have hget : ∀ (j : Nat) o, s.shiftGfx[j]? = some o → o.cfg.zorder = j ∧ PrimaryEntry o j := by
    intro j o ho
    unfold shiftGfx at ho
    split_ifs at ho
    · obtain ⟨p, hp, hz, hm⟩ := getElem?_modify_setIx ho
      exact ⟨by rw [hz, h.zorder j p hp], hm j (h.entry j p hp)⟩
    · exact ⟨h.zorder j o ho, h.entry j o ho⟩
  have hzs : zorders s.shiftGfx = range s.shiftGfx.length := by
    rw [zorders, map_eq_range_map (g := id) fun j o ho => (hget j o ho).1, map_id]
  have hpipes : (ixs s.shiftGfx).Nodup ∧ Pipes dev layers s.shiftGfx := by
    by_cases hpt : dev.primaryTransform = 0
    · by_cases hg : s.scaledGfx = true
      · obtain ⟨hpos, hix, hn⟩ := h.scaled hpt hg
        obtain ⟨p, rest, hovls⟩ := exists_cons_of_length_pos hpos
        -- the first overlay goes to the pipe behind the others
        have hshift : ixs s.shiftGfx = (rest.length + 1) :: (range rest.length).map Nat.succ := by
          rw [hovls] at hix
          simp only [ixs, length_cons, range_succ_eq_map, map_cons, cons.injEq] at hix
          simp [shiftGfx, hg, ixs, hovls, setIx, hix.2]
        have hl : s.shiftGfx.length = rest.length + 1 := by rw [hlen, hovls]; rfl
        refine ⟨?_, .shifted hpt hsgx (by rw [hlen, ← hcount]; exact hn) fun i hi => ?_⟩
        · rw [hshift, nodup_cons]
          refine ⟨by simp, nodup_range.map Nat.succ_injective⟩
        · rw [hshift] at hi
          rw [hl]
          rcases mem_cons.mp hi with rfl | hi
          · exact ⟨by omega, le_rfl⟩
          · obtain ⟨j, hj, rfl⟩ := mem_map.mp hi
            have := mem_range.mp hj
            exact ⟨Nat.succ_pos j, by omega⟩
      · have hperm := h.plain hpt (by simpa using hg)
        have hshift : s.shiftGfx = s.ovls := by simp [shiftGfx, hg]
        rw [hshift]
        exact ⟨hperm.nodup_iff.mpr nodup_range,
          .lowest fun i hi => mem_range.mp (hperm.mem_iff.mp hi)⟩
    · obtain ⟨hg, hix⟩ := h.transformed hpt
      have hshift : s.shiftGfx = s.ovls := by simp [shiftGfx, hg]
      rw [hshift, hix]
      refine ⟨nodup_range.map fun a b hab => by simpa using hab,
        .transformed hpt fun i hi => ?_⟩
      rw [hix] at hi
      obtain ⟨j, hj, rfl⟩ := mem_map.mp hi
      have := mem_range.mp hj
      omega
  refine ⟨by rw [hlen, h.z], ?_, hpipes.1, fun j o ho => (hget j o ho).2, hpipes.2⟩
  rw [hzs]

end Solana
