import Solana.Hwc.System

/-!
# Distinct overlays

The overlays of a frame must not collide: at most four, on different pipes of the four there
are, and at different z-orders.  `overlays_distinct` proves this for every frame prepared in a
reachable state, unless the frame mirrors two layers that both need a scaling pipe on a display
that is not transformed itself.  In that case the primary display is moved off the graphics pipe
onto the second and third one, and the third one also shows the second clone
(`mirrored_scaled_overlays_collide`).
-/

namespace Solana

open List

/-! ## Statistics of a list -/

lemma foldl_gatherLayer (dev : HwcDev) (layers : List HwcLayer) (num : Counts) :
    (layers.foldl (gatherLayer dev) num).compositedLayers = num.compositedLayers ∧
      num.scaledLayers + layers.countP (needsPipe dev) ≤
        (layers.foldl (gatherLayer dev) num).scaledLayers := by
  induction layers generalizing num with
  | nil => simp
  | cons l ls ih =>
    obtain ⟨ih1, ih2⟩ := ih (gatherLayer dev num l)
    have hstep : (gatherLayer dev num l).compositedLayers = num.compositedLayers ∧
        num.scaledLayers + (if needsPipe dev l then 1 else 0) ≤
          (gatherLayer dev num l).scaledLayers := by
      unfold gatherLayer needsPipe
      cases hd : l.handle.deref with
      | none => simp
      | some handle =>
        cases hv : isValidLayer dev l handle with
        | false => simp [hv]
        | true => cases hn : needsScaling l handle <;> simp [hv, hn]
    rw [foldl_cons, countP_cons]
    exact ⟨ih1.trans hstep.1, by omega⟩

/-- A layer that needs a scaling pipe: it is scaled, or in a format only those pipes can read. -/
def HwcLayer.usesScaler (l : HwcLayer) : Bool := (l.handle.deref.map (needsScaling l)).getD false

/-- The list has exactly two layers, and both need a scaling pipe. -/
def TwoScaled (list : Option LayerList) : Prop :=
  (listLayers list).length = 2 ∧ ∀ l ∈ listLayers list, l.usesScaler = true

instance (list : Option LayerList) : Decidable (TwoScaled list) :=
  inferInstanceAs (Decidable (_ ∧ _))

lemma usesScaler_of_needsPipe {dev : HwcDev} {l : HwcLayer} (h : needsPipe dev l = true) :
    l.usesScaler = true := by
  unfold needsPipe at h
  unfold HwcLayer.usesScaler
  cases hd : l.handle.deref with
  | none => simp [hd] at h
  | some handle =>
    simp only [hd, Bool.and_eq_true] at h
    simpa using h.2

lemma frameLayers_eq (list : Option LayerList) : frameLayers list =
      (listLayers list).map fun l => { l with compositionType := .framebuffer } := by
  cases list <;> rfl

lemma canDssRenderAll_counts {dev : HwcDev} (h : canDssRenderAll dev = true) :
    dev.counts.compositedLayers ≤ dev.counts.maxHwOverlays ∧
      dev.counts.scaledLayers ≤ dev.counts.maxScalingOverlays := by
  simp only [canDssRenderAll, Bool.and_eq_true, decide_eq_true_eq] at h
  obtain ⟨⟨⟨⟨⟨⟨⟨⟨-, hmax⟩, heq⟩, hscaled⟩, -⟩, -⟩, -⟩, -⟩, -⟩ := h
  exact ⟨heq ▸ hmax, hscaled⟩

lemma startDev_of_dss {dev : HwcDev} {list : Option LayerList}
    (h : (startDev dev list).useSgx = false) :
    (frameLayers list).length ≤ (startDev dev list).counts.maxHwOverlays ∧
      (frameLayers list).countP (needsPipe (startDev dev list)) ≤
        (startDev dev list).counts.maxScalingOverlays := by
  have hsgx : (startDev dev list).useSgx = !canDssRenderAll (startDev dev list) := rfl
  have hall : canDssRenderAll (startDev dev list) = true := by
    rw [h] at hsgx
    simpa using hsgx.symm
  obtain ⟨hmax, hscaled⟩ := canDssRenderAll_counts hall
  obtain ⟨hcomp, hpipes⟩ := foldl_gatherLayer dev (frameLayers list)
    { compositedLayers := (frameLayers list).length }
  have hc : (startDev dev list).counts.compositedLayers = (frameLayers list).length := hcomp
  have hs : (frameLayers list).countP (needsPipe dev) ≤ (startDev dev list).counts.scaledLayers :=
    (Nat.le_of_eq (Nat.zero_add _).symm).trans hpipes
  exact ⟨hc ▸ hmax, hs.trans hscaled⟩

/-! ## The overlays of a frame -/

/-- At most four overlays, at different z-orders and on different ones of the four pipes. -/
structure Distinct (ovls : List OvlInfo) : Prop where
  length : ovls.length ≤ maxHwOverlays
  nodupZorders : (zorders ovls).Nodup
  nodupIxs : (ixs ovls).Nodup
  bound : ∀ i ∈ ixs ovls, i < maxHwOverlays

section

variable {ovls ovls' : List OvlInfo} (h : ovls.map OvlInfo.placement = ovls'.map OvlInfo.placement)
include h

lemma ixs_eq_of_placement : ixs ovls = ixs ovls' := by
  have := congrArg (map Prod.fst) h
  simpa [ixs, OvlInfo.placement, Function.comp_def] using this

lemma zorders_eq_of_placement : zorders ovls = zorders ovls' := by
  have := congrArg (map fun p => p.2.1) h
  simpa [zorders, OvlInfo.placement, Function.comp_def] using this

end

namespace Frame

variable {dev dev' : HwcDev} {list : Option LayerList} {prim cs : List OvlInfo}

lemma distinct (hf : Frame dev list dev' prim cs)
    (hlow : ∀ i ∈ Solana.ixs prim, i + cs.length < maxHwOverlays)
    (hlen : prim.length + cs.length ≤ maxHwOverlays) : Distinct dev'.dsscomp.ovls := by
  have hix := ixs_eq_of_placement hf.placement
  have hsplit : Solana.ixs (prim ++ cs) = Solana.ixs prim ++ (range cs.length).map (3 - ·) := by
    rw [← hf.clones.ixs, Solana.ixs, map_append]
    rfl
  simp only [maxHwOverlays] at hlow hlen
  constructor
  · have := congrArg length hf.placement
    simp only [length_map, length_append] at this
    rw [this]
    exact hlen
  · rw [zorders_eq_of_placement hf.placement]
    exact hf.clones.zorders
  · rw [hix, hsplit, nodup_append]
    refine ⟨hf.primary.ixs, ?_, ?_⟩
    · refine List.Nodup.map_on (fun a ha b hb hab => ?_) nodup_range
      have := mem_range.mp ha
      have := mem_range.mp hb
      omega
    · intro a ha b hb hab
      obtain ⟨k, hk, rfl⟩ := mem_map.mp hb
      have := mem_range.mp hk
      have := hlow a ha
      omega
  · intro i hi
    rw [hix, hsplit, mem_append] at hi
    simp only [maxHwOverlays]
    rcases hi with hi | hi
    · have := hlow i hi
      omega
    · obtain ⟨k, -, rfl⟩ := mem_map.mp hi
      omega

/-- The shares of the two displays leave room for the clones. -/
lemma clones_cases (hf : Frame dev list dev' prim cs) (hok : DevOk dev) : cs.length = 0 ∨
    (cs.length ≤ 1 ∧ prim.length + dev.primaryTransform ≤ 3 ∧
      (startDev dev list).counts.maxHwOverlays ≤ 3 ∧
      (startDev dev list).ext.current.docking = true) ∨ (cs.length ≤ prim.length ∧ prim.length ≤ 2 ∧
      (dev.primaryTransform = 1 → prim.length ≤ 1) ∧
      (startDev dev list).counts.maxHwOverlays ≤ 2) := by
  have hprim := hf.prim_le hok
  have hbound := hf.bound
  have hpt := hok.transform
  have hE := hf.shares.external
  have hptEq : (startDev dev list).primaryTransform = dev.primaryTransform := rfl
  rcases eq_or_ne cs [] with rfl | hne
  · exact Or.inl rfl
  · have hc := hf.clones.allowed hne
    cases hd : (startDev dev list).ext.current.docking with
    | true =>
      have h1 := hf.clones.docked hd
      have h2 := hf.shares.docked hc hd
      exact Or.inr (Or.inl ⟨h1, by omega, by omega, rfl⟩)
    | false =>
      have h1 := hf.clones.mirrored hd
      have h2 := hf.shares.mirrored hc hd
      exact Or.inr (Or.inr ⟨h1, by omega, by omega, by omega⟩)

lemma twoScaled_of_needsPipe (dev : HwcDev) (hlen : (frameLayers list).length = 2)
    (hall : (frameLayers list).countP (needsPipe (startDev dev list)) =
      (frameLayers list).length) : TwoScaled list := by
  refine ⟨?_, fun l hl => ?_⟩
  · rwa [frameLayers_eq, length_map] at hlen
  · have hmem : { l with compositionType := .framebuffer } ∈ frameLayers list := by
      rw [frameLayers_eq]
      exact mem_map.mpr ⟨l, hl, rfl⟩
    have hscaler := usesScaler_of_needsPipe (countP_eq_length.mp hall _ hmem)
    exact hscaler

lemma low (hf : Frame dev list dev' prim cs) (hok : DevOk dev)
    (hcond : ¬ (dev.primaryTransform = 0 ∧ dev.ext.mirror.enabled = true ∧ TwoScaled list)) :
    ∀ i ∈ Solana.ixs prim, i + cs.length < maxHwOverlays := by
  intro i hi
  have hprim := hf.prim_le hok
  have hbound := hf.bound
  have hle := hok.lastExtOvls
  have hpt := hok.transform
  have hM := hf.shares.primary
  have hptEq : (startDev dev list).primaryTransform = dev.primaryTransform := rfl
  have hclones := hf.clones_cases hok
  simp only [maxHwOverlays]
  rcases hf.primary.pipes with hp | ⟨h0, hp⟩ | ⟨h0, hsgx, hall, hp⟩
  · have hlt := hp i hi
    rcases hclones with h | h | h <;> omega
  · have hlt := hp i hi
    rw [hptEq] at h0 hlt
    rcases hclones with h | h | h <;> omega
  · -- every overlay shows a layer that needs a scaling pipe
    obtain ⟨-, hle'⟩ := hp i hi
    obtain ⟨hlen, hscal⟩ := startDev_of_dss hsgx
    rcases hf.shares.scaling h0 with hS | ⟨hm, hd, hS, hM2⟩
    · rcases hclones with h | h | h <;> omega
    · rcases hclones with h | h | h
      · omega
      · rw [hd] at h
        exact absurd h.2.2.2 (by decide)
      · -- two mirrored overlays would be the excluded frame
        have hone : prim.length ≤ 1 := by
          by_contra htwo
          have hcle : (frameLayers list).countP (needsPipe (startDev dev list)) ≤
              (frameLayers list).length := countP_le_length
          exact hcond ⟨h0, hm, twoScaled_of_needsPipe dev (by omega) (by omega)⟩
        omega

end Frame

/-- **Overlays do not collide**: whatever happened before, a frame that does not mirror two
layers on scaling pipes gets at most four overlays, on different pipes of the four and at
different z-orders. -/
theorem overlays_distinct {s s' : System} {env : PrepareEnv} {list : Option LayerList}
    (hr : System.Reachable s) (h : s.next (.prepare env list) = some s')
    (hcond : ¬ (s.dev.primaryTransform = 0 ∧ s.dev.ext.mirror.enabled = true ∧
      TwoScaled list)) : Distinct s'.dev.dsscomp.ovls := by
  have hok := devOk_of_reachable hr
  obtain ⟨dev', list', hp, rfl⟩ := System.next_prepare h
  obtain ⟨prim, cs, hf, -⟩ := hwcPrepare_frame hp hok
  refine hf.distinct (hf.low hok hcond) ?_
  rcases eq_or_ne cs [] with rfl | hne
  · have h1 := hf.prim_le hok
    have h2 := hok.lastExtOvls
    simp only [length_nil, maxHwOverlays]
    omega
  · exact hf.clones.room hne

/-! ## A frame that collides -/

/-- A layer of the sample screen whose buffer is enlarged to twice its size. -/
def sampleScaled (id : Nat) (frame : Rect) : HwcLayer :=
  { (sampleLayer id frame .none).layer with sourceCrop := ⟨0, 0, 2, 2⟩ }

/-- Mirroring two scaled layers puts the first overlay and the second clone on one pipe. -/
theorem mirrored_scaled_overlays_collide :
    ∃ s env list s', System.Reachable s ∧ s.next (.prepare env list) = some s' ∧
      ¬ Distinct s'.dev.dsscomp.ovls := by
  obtain ⟨s', hs, hix⟩ : ∃ s', (System.start (sampleOpen true .default)).next (.prepare sampleEnv
      (sampleList [sampleScaled 1 ⟨0, 0, 4, 4⟩, sampleScaled 2 ⟨0, 0, 4, 4⟩])) = some s' ∧
      ixs s'.dev.dsscomp.ovls = [2, 1, 3, 2] := by decide +kernel
  refine ⟨_, _, _, s', .start ⟨_, rfl⟩, hs, fun hd => ?_⟩
  have := hd.nodupIxs
  rw [hix] at this
  exact absurd this (by decide)

/-- Mirroring one scaled layer. -/
theorem mirrored_scaled_layer_distinct :
    ∃ s', (System.start (sampleOpen true .default)).next (.prepare sampleEnv
      (sampleList [sampleScaled 1 ⟨0, 0, 4, 4⟩])) = some s' ∧
      s'.dev.dsscomp.ovls.length = 2 ∧ Distinct s'.dev.dsscomp.ovls := by
  obtain ⟨s', hs, hlen⟩ : ∃ s', (System.start (sampleOpen true .default)).next (.prepare sampleEnv
      (sampleList [sampleScaled 1 ⟨0, 0, 4, 4⟩])) = some s' ∧ s'.dev.dsscomp.ovls.length = 2 := by
    decide +kernel
  exact ⟨s', hs, hlen, overlays_distinct (.start ⟨_, rfl⟩) hs fun h => absurd h.2.2 (by decide)⟩

end Solana
