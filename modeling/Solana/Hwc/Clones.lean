import Solana.Hwc.Plan

/-!
# Sharing the overlays between the displays

The four overlays are shared between the primary and the external display.  The primary display
takes them from the lowest pipe on, clones from the highest one down, and
`decide_supported_cloning` bounds both by counts carried over from the frames before.

`DevOk` is what those counts and the external settings satisfy in every reachable device,
`Shares` is what the decision guarantees for such a device, and `Clones` is what the clones of a
frame look like.  `hwcPrepare_frame` puts the three together: it is all that later modules use
about the overlays of a frame.
-/

namespace Solana

open OvlInfo HwcDev List

/-! ## The invariant of the device -/

/-- What `hwc_prepare` relies on in a device. -/
structure DevOk (dev : HwcDev) : Prop where
  fbFormat : dev.fbDev.format.isValid = true
  transform : dev.primaryTransform ≤ 1
  dock : dev.ext.dock.enabled = true → dev.ext.dock.docking = true
  mirror : dev.ext.mirror.enabled = true → dev.ext.mirror.docking = false
  extOvls : 0 ≤ dev.extOvls ∧ dev.extOvls ≤ 2
  lastExtOvls : 0 ≤ dev.lastExtOvls ∧ dev.lastExtOvls ≤ 2
  post2Layers : dev.post2Layers ≤ maxHwOverlays
  lastIntOvls : 0 ≤ dev.lastIntOvls ∧ dev.lastIntOvls ≤ maxHwOverlays

/-! ## The shares -/

/-- What the first part of `decide_supported_cloning` yields. -/
structure ShareSpec (dev : HwcDev) (share wanted : Int) (current : ExtTransform)
    (nonscaling : Nat) : Prop where
  shareBounds : 2 ≤ share ∧ share ≤ 4 - dev.lastExtOvls
  wantedBounds : 0 ≤ wanted ∧ wanted ≤ 2
  docked : current.enabled = true → current.docking = true → wanted ≠ 0 → share ≤ 3
  mirrored : current.enabled = true → current.docking = false → share = 2 ∧ wanted = 2
  scaling : nonscaling = 1 ∨ (nonscaling = 0 ∧ dev.ext.mirror.enabled = true ∧
    current.docking = false ∧ share = 2)

variable {dev : HwcDev}

lemma decideShares_spec (h : DevOk dev) (num : Counts) {share wanted : Int} {current : ExtTransform}
    {nonscaling : Nat} (he : decideShares dev num = (share, wanted, current, nonscaling)) :
    ShareSpec dev share wanted current nonscaling := by
  have hle := h.lastExtOvls
  unfold decideShares at he
  by_cases hd : docks dev.ext num = true
  · -- docking: one overlay is reserved for the docked layer
    rw [if_pos hd] at he
    simp only [Prod.mk.injEq] at he
    obtain ⟨rfl, rfl, rfl, rfl⟩ := he
    have hdock : (if dev.ext.mirror.enabled = true then { dev.ext.mirror with docking := true }
        else dev.ext.dock).docking = true := by
      by_cases hm : dev.ext.mirror.enabled = true
      · rw [if_pos hm]
      · rw [if_neg hm]
        simp only [docks, Bool.and_eq_true] at hd
        exact h.dock hd.1
    have h01 : (if num.dockable ≠ 0 ∨ dev.ext.forceDock = true then (1 : Int) else 0) = 0 ∨
        (if num.dockable ≠ 0 ∨ dev.ext.forceDock = true then (1 : Int) else 0) = 1 := by
      split_ifs <;> simp
    generalize (if num.dockable ≠ 0 ∨ dev.ext.forceDock = true then (1 : Int) else 0) = w at h01
    refine ⟨?_, ?_, fun _ _ hw => ?_, fun _ hno => ?_, Or.inl rfl⟩
    · simp only [maxHwOverlays]
      omega
    · omega
    · simp only [maxHwOverlays]
      omega
    · rw [hdock] at hno
      cases hno
  · rw [if_neg hd] at he
    by_cases hm : dev.ext.mirror.enabled = true
    · rw [if_pos hm] at he
      simp only [Prod.mk.injEq] at he
      obtain ⟨rfl, rfl, rfl, rfl⟩ := he
      have hno := h.mirror hm
      refine ⟨?_, ?_, fun _ hyes => ?_, fun _ _ => ?_, Or.inr ⟨rfl, hm, hno, ?_⟩⟩
      · simp only [maxHwOverlays]
        omega
      · simp only [maxHwOverlays]
        omega
      · rw [hno] at hyes
        cases hyes
      · simp only [maxHwOverlays]
        omega
      · simp only [maxHwOverlays]
        omega
    · rw [if_neg hm] at he
      simp only [Prod.mk.injEq] at he
      obtain ⟨rfl, rfl, rfl, rfl⟩ := he
      refine ⟨?_, by omega, fun hen => ?_, fun hen => ?_, Or.inl rfl⟩
      · simp only [maxHwOverlays]
        omega
      · cases hen
      · cases hen

/-- What `decide_supported_cloning` guarantees for the overlays of the two displays, when it
turns `dev` into `d`. -/
structure Shares (dev d : HwcDev) : Prop where
  primary : (d.counts.maxHwOverlays : Int) + dev.primaryTransform ≤ 4 - dev.lastExtOvls
  external : 0 ≤ d.extOvls ∧ d.extOvls ≤ 4 - dev.lastIntOvls ∧ d.extOvls ≤ 2
  cloned : clones d = true → 1 ≤ d.extOvls
  docked : clones d = true → d.ext.current.docking = true →
    d.counts.maxHwOverlays + dev.primaryTransform ≤ 3
  mirrored : clones d = true → d.ext.current.docking = false →
    (d.counts.maxHwOverlays : Int) + dev.primaryTransform = d.extOvls
  scaling : dev.primaryTransform = 0 →
    d.counts.maxScalingOverlays + 1 = d.counts.maxHwOverlays ∨
      (dev.ext.mirror.enabled = true ∧ d.ext.current.docking = false ∧
        d.counts.maxScalingOverlays = d.counts.maxHwOverlays ∧ d.counts.maxHwOverlays ≤ 2)

lemma u32_of_range {i : Int} (h0 : 0 ≤ i) (h1 : i < 2 ^ 32) : (u32 i : Int) = i := by
  unfold u32
  omega

/-- The external overlays of a frame that wants some. -/
def externalShare (dev : HwcDev) (wanted : Int) : Int :=
  min ((maxHwOverlays : Int) - dev.lastIntOvls) wanted

/-- The share of the primary display after the second limit, that of a mirrored frame. -/
def primaryShare (dev : HwcDev) (share wanted : Int) (current : ExtTransform) : Int :=
  if dev.counts.protected_ = 0 ∧ externalShare dev wanted ≠ 0 ∧ current.enabled = true ∧
    (!current.docking) = true then externalShare dev wanted
  else share

lemma decideSupportedCloning_eq {share wanted : Int} {current : ExtTransform} {nonscaling : Nat}
    (he : decideShares dev dev.counts = (share, wanted, current, nonscaling)) :
    decideSupportedCloning dev =
      { dev with
        ext := { dev.ext with current := current }
        extOvls := externalShare dev wanted
        extOvlsWanted := wanted
        counts := { dev.counts with
          maxHwOverlays := u32 (if dev.primaryTransform ≠ 0 then
            primaryShare dev share wanted current - 1 else primaryShare dev share wanted current)
          maxScalingOverlays := u32 (if dev.primaryTransform ≠ 0 then
            primaryShare dev share wanted current - 1
            else primaryShare dev share wanted current - nonscaling) } } := by
  simp only [decideSupportedCloning, he]
  by_cases hp : dev.primaryTransform ≠ 0
  · simp only [if_pos hp]
    rfl
  · simp only [if_neg hp]
    rfl

section
variable {dev : HwcDev} {share wanted : Int} {current : ExtTransform} {nonscaling : Nat}

section

variable (hs : ShareSpec dev share wanted current nonscaling)
include hs

lemma ShareSpec.external_bounds (h : DevOk dev) : 0 ≤ externalShare dev wanted ∧
      externalShare dev wanted ≤ 4 - dev.lastIntOvls ∧ externalShare dev wanted ≤ wanted := by
  have hwanted := hs.wantedBounds
  have hli := h.lastIntOvls
  simp only [externalShare, maxHwOverlays] at hli ⊢
  omega

lemma ShareSpec.primary_bounds (h : DevOk dev) : 1 ≤ primaryShare dev share wanted current ∧
      primaryShare dev share wanted current ≤ 4 - dev.lastExtOvls := by
  have hshare := hs.shareBounds
  have hwanted := hs.wantedBounds
  have hext := hs.external_bounds h
  have hle := h.lastExtOvls
  unfold primaryShare
  split_ifs <;> omega

lemma ShareSpec.of_clones
    (he : decideShares dev dev.counts = (share, wanted, current, nonscaling)) (h : DevOk dev)
    (hc : clones (decideSupportedCloning dev) = true) : current.enabled = true ∧
      externalShare dev wanted ≠ 0 ∧ wanted ≠ 0 ∧
      (dev.counts.protected_ = 0 ∨ wanted ≤ externalShare dev wanted) := by
  have hwanted := hs.wantedBounds
  have hext := hs.external_bounds h
  rw [decideSupportedCloning_eq he] at hc
  simp only [clones, Bool.and_eq_true, Bool.or_eq_true, decide_eq_true_eq] at hc
  obtain ⟨hen, ⟨hp, he'⟩ | ⟨hw, hge⟩⟩ := hc
  · exact ⟨hen, he', by omega, Or.inl hp⟩
  · exact ⟨hen, by omega, hw, Or.inr hge⟩

end

end

lemma decideSupportedCloning_shares (h : DevOk dev) : Shares dev (decideSupportedCloning dev) := by
  obtain ⟨share, wanted, current, nonscaling, he⟩ : ∃ share wanted current nonscaling,
      decideShares dev dev.counts = (share, wanted, current, nonscaling) := ⟨_, _, _, _, rfl⟩
  have hs := decideShares_spec h dev.counts he
  have hd := decideSupportedCloning_eq he
  have hclones := hs.of_clones he h
  have hwanted := hs.wantedBounds
  have hext := hs.external_bounds h
  have hb := hs.primary_bounds h
  have hle := h.lastExtOvls
  have hpt := h.transform
  have hM : (u32 (if dev.primaryTransform ≠ 0 then primaryShare dev share wanted current - 1
      else primaryShare dev share wanted current) : Int) + dev.primaryTransform =
        primaryShare dev share wanted current := by
    rw [u32_of_range (by split_ifs <;> omega) (by split_ifs <;> omega)]
    split_ifs <;> omega
  constructor
  · rw [hd]
    exact hM.trans_le hb.2
  · rw [hd]
    exact ⟨hext.1, hext.2.1, hext.2.2.trans hwanted.2⟩
  · intro hc
    obtain ⟨-, hne, -⟩ := hclones hc
    rw [hd]
    show 1 ≤ externalShare dev wanted
    omega
  · intro hc hdock
    obtain ⟨hen, -, hw, -⟩ := hclones hc
    rw [hd] at hdock ⊢
    have hdock : current.docking = true := hdock
    have h3 := hs.docked hen hdock hw
    have hsame : primaryShare dev share wanted current = share := by
      rw [primaryShare, if_neg]
      simp [hdock]
    refine Int.ofNat_le.mp ?_
    rw [Nat.cast_add]
    exact hM.trans_le (hsame.trans_le h3)
  · intro hc hdock
    obtain ⟨hen, hne, -, hp⟩ := hclones hc
    rw [hd] at hdock ⊢
    have hdock : current.docking = false := hdock
    obtain ⟨h2, hw2⟩ := hs.mirrored hen hdock
    refine hM.trans ?_
    by_cases hprot : dev.counts.protected_ = 0
    · rw [primaryShare, if_pos ⟨hprot, hne, hen, by simp [hdock]⟩]
    · rw [primaryShare, if_neg fun hall => hprot hall.1]
      show share = externalShare dev wanted
      omega
  · intro h0
    rw [hd]
    have hp : ¬ dev.primaryTransform ≠ 0 := by omega
    simp only [if_neg hp] at hM ⊢
    have hS : nonscaling ≤ 1 → (u32 (primaryShare dev share wanted current - nonscaling) : Int) =
        primaryShare dev share wanted current - nonscaling :=
      fun _ => u32_of_range (by omega) (by omega)
    rcases hs.scaling with h1 | ⟨hn0, hm, hdock, hsh⟩
    · have := hS (by omega)
      left
      omega
    · have := hS (by omega)
      refine Or.inr ⟨hm, hdock, by omega, ?_⟩
      have : primaryShare dev share wanted current ≤ 2 := by
        unfold primaryShare
        split_ifs <;> omega
      omega

/-! ## The clones -/

/-- The clones `cs` of a frame with the overlays `prim` on the primary display, for the device
`d` that decides about them. -/
structure Clones (d : HwcDev) (prim cs : List OvlInfo) : Prop where
  mgrIx : ∀ c ∈ cs, c.cfg.mgrIx = 1
  ixs : ixs cs = (List.range cs.length).map (3 - ·)
  zorders : (zorders (prim ++ cs)).Nodup
  room : cs ≠ [] → prim.length + cs.length ≤ maxHwOverlays
  allowed : cs ≠ [] → clones d = true
  docked : d.ext.current.docking = true → cs.length ≤ 1
  mirrored : d.ext.current.docking = false → cs.length ≤ prim.length

lemma cloneEntry_placement (dev : HwcDev) (n : Nat) (src : OvlInfo) (ix : Nat) :
    (cloneEntry dev n src ix).cfg.ix = 3 - (n - dev.post2Layers) ∧
      (cloneEntry dev n src ix).cfg.mgrIx = 1 ∧
      (cloneEntry dev n src ix).cfg.zorder = src.cfg.zorder + dev.post2Layers := by
  have h : (cloneEntry dev n src ix).placement = _ := adjustExtLayer_placement _ _
  simp only [placement, Prod.mk.injEq] at h
  exact ⟨h.1, h.2.2.1, h.2.1⟩

/-- The invariant of the loop that mirrors all overlays. -/
structure Mirrored (prim cs : List OvlInfo) : Prop where
  mgrIx : ∀ c ∈ cs, c.cfg.mgrIx = 1
  ixs : ixs cs = (List.range cs.length).map (3 - ·)
  zorders : zorders cs = ((zorders prim).take cs.length).map (· + prim.length)
  room : cs ≠ [] → prim.length + cs.length ≤ maxHwOverlays
  le : cs.length ≤ prim.length

lemma Mirrored.nil (prim : List OvlInfo) : Mirrored prim [] :=
  ⟨by simp, rfl, rfl, fun h => absurd rfl h, Nat.zero_le _⟩

variable {prim cs : List OvlInfo}

lemma Mirrored.snoc (h : Mirrored prim cs) (hpost : dev.post2Layers = prim.length)
    (hlt : cs.length < prim.length) (hroom : prim.length + cs.length < maxHwOverlays) :
    Mirrored prim (cs ++ [cloneEntry dev (prim ++ cs).length
      ((prim ++ cs).getD cs.length .zero) cs.length]) := by
  have hsrc : (prim ++ cs).getD cs.length .zero = prim[cs.length] := by
    rw [getD_eq_getElem?_getD, getElem?_append_left hlt, getElem?_eq_getElem hlt]
    rfl
  rw [hsrc]
  obtain ⟨hix, hmgr, hz⟩ := cloneEntry_placement dev (prim ++ cs).length prim[cs.length] cs.length
  generalize cloneEntry dev (prim ++ cs).length prim[cs.length] cs.length = c at hix hmgr hz ⊢
  constructor
  · intro x hx
    rcases mem_append.mp hx with hx | hx
    · exact h.mgrIx x hx
    · rw [mem_singleton.mp hx, hmgr]
  · rw [length_append, length_singleton, range_succ, map_append, ← h.ixs]
    simp [Solana.ixs, hix, hpost]
  · have htake : (Solana.zorders prim).take (cs.length + 1) =
        (Solana.zorders prim).take cs.length ++ [prim[cs.length].cfg.zorder] := by
      have hl : cs.length < (Solana.zorders prim).length := by simpa [Solana.zorders] using hlt
      rw [take_succ_eq_append_getElem hl]
      simp [Solana.zorders]
    rw [length_append, length_singleton, htake, map_append, ← h.zorders]
    simp [Solana.zorders, hz, hpost]
  · intro _
    simp only [length_append, length_singleton]
    omega
  · simp only [length_append, length_singleton]
    omega

lemma mirrorOvls_mirrored {prim : List OvlInfo} (hpost : dev.post2Layers = prim.length) :
    ∀ (k ix : Nat) (cs : List OvlInfo), Mirrored prim cs → ix = cs.length → ix + k = prim.length →
      ∃ cs', mirrorOvls dev k ix (prim ++ cs) = prim ++ cs' ∧ Mirrored prim cs'
  | 0, _, cs, h, _, _ => ⟨cs, rfl, h⟩
  | k + 1, ix, cs, h, hix, hk => by
    by_cases hfull : (prim ++ cs).length ≥ maxHwOverlays
    · refine ⟨cs, ?_, h⟩
      simp only [mirrorOvls, cloneLayer, if_pos hfull]
    · have hroom : prim.length + cs.length < maxHwOverlays := by
        simpa using hfull
      obtain ⟨cs', he, hm⟩ := mirrorOvls_mirrored hpost k (ix + 1) _
        (h.snoc hpost (by omega) hroom) (by simp [hix]) (by omega)
      refine ⟨cs', ?_, hm⟩
      rw [← he, ← append_assoc]
      simp only [mirrorOvls, cloneLayer, if_neg hfull, hix]

/-- What cloning leaves of the external state. -/
structure ExtKept (ext ext' : HwcExt) : Prop where
  mirror : ext'.mirror = ext.mirror
  dock : ext'.dock = ext.dock

lemma setBestHdmiMode_kept {mode : HdmiMode} {ext ext' : HwcExt}
    (h : setBestHdmiMode mode ext = some ext') : ExtKept ext ext' ∧ ext'.current = ext.current := by
  unfold setBestHdmiMode at h
  cases mode with
  | failed => cases h
  | picked best digit =>
    obtain rfl := Option.some.inj h
    exact ⟨⟨rfl, rfl⟩, rfl⟩

lemma cloneExternalLayer_cases (env : PrepareEnv) (dev : HwcDev) (ovls : List OvlInfo)
    (src : OvlInfo) (ix : Nat) : ExtKept dev.ext (cloneExternalLayer env dev ovls src ix).1 ∧
      ((cloneExternalLayer env dev ovls src ix).2 = none ∨ (ovls.length < maxHwOverlays ∧
          (cloneExternalLayer env dev ovls src ix).1.current = dev.ext.current ∧
          ∃ dev' : HwcDev, dev'.post2Layers = dev.post2Layers ∧
            (cloneExternalLayer env dev ovls src ix).2 =
              some (ovls ++ [cloneEntry dev' ovls.length src ix]))) := by
  unfold cloneExternalLayer
  split
  · exact ⟨⟨rfl, rfl⟩, Or.inl rfl⟩
  · rename_i ext hext
    have hkept : ExtKept dev.ext ext ∧ ext.current = dev.ext.current := by
      by_cases hm : env.modeNeeded = true
      · rw [if_pos hm] at hext
        exact setBestHdmiMode_kept hext
      · rw [if_neg hm] at hext
        obtain rfl := Option.some.inj hext
        exact ⟨⟨rfl, rfl⟩, rfl⟩
    refine ⟨⟨hkept.1.mirror, hkept.1.dock⟩, ?_⟩
    by_cases hfull : ovls.length ≥ maxHwOverlays
    · exact Or.inl (if_pos hfull)
    · exact Or.inr ⟨by omega, hkept.2, { dev with ext := { ext with m := env.extMatrix } }, rfl,
        if_neg hfull⟩

lemma enabled_of_clones {dev : HwcDev} (hc : clones dev = true) :
    dev.ext.current.enabled = true := by
  simp only [clones, Bool.and_eq_true] at hc
  exact hc.1

lemma modify_length_append {α : Type} (f : α → α) : ∀ (l : List α) (a : α),
    (l ++ [a]).modify l.length f = l ++ [f a]
  | [], _ => rfl
  | x :: l, a => congrArg (x :: ·) (modify_length_append f l a)

section
variable {dev : HwcDev} {prim : List OvlInfo} (hpost : dev.post2Layers = prim.length)
  (hz : (Solana.zorders prim).Perm (List.range prim.length))
include hz

lemma zorders_nodup_append {cs : List OvlInfo} (hcs : (zorders cs).Nodup)
    (habove : ∀ z ∈ zorders cs, prim.length ≤ z) : (zorders (prim ++ cs)).Nodup := by
  rw [zorders, map_append]
  refine nodup_append.mpr ⟨hz.nodup_iff.mpr nodup_range, hcs, fun a ha b hb hab => ?_⟩
  have hlt := mem_range.mp (hz.mem_iff.mp ha)
  have hge := habove b hb
  omega

lemma Clones.nil : Clones dev prim [] where
  mgrIx := by simp
  ixs := rfl
  zorders := zorders_nodup_append hz nodup_nil (by simp [Solana.zorders])
  room h := absurd rfl h
  allowed h := absurd rfl h
  docked _ := Nat.zero_le _
  mirrored _ := Nat.zero_le _

lemma Clones.single {c : OvlInfo} (hc : clones dev = true)
    (hdock : dev.ext.current.docking = true) (hroom : prim.length < maxHwOverlays)
    (hix : c.cfg.ix = 3) (hmgr : c.cfg.mgrIx = 1) (hzc : c.cfg.zorder = prim.length) :
    Clones dev prim [c] where
  mgrIx := by simp [hmgr]
  ixs := by simp [Solana.ixs, hix]
  zorders := zorders_nodup_append hz (by simp [Solana.zorders]) (by simp [Solana.zorders, hzc])
  room _ := hroom
  allowed _ := hc
  docked _ := le_rfl
  mirrored hno := by rw [hdock] at hno; cases hno

lemma Clones.ofMirrored {cs : List OvlInfo} (h : Mirrored prim cs) (hc : clones dev = true)
    (hdock : dev.ext.current.docking = false) : Clones dev prim cs where
  mgrIx := h.mgrIx
  ixs := h.ixs
  zorders := by
    have hnodup : (Solana.zorders prim).Nodup := hz.nodup_iff.mpr nodup_range
    refine zorders_nodup_append hz ?_ ?_
    · rw [h.zorders]
      exact ((take_sublist _ _).nodup hnodup).map fun a b hab => by simpa using hab
    · intro z hmem
      rw [h.zorders] at hmem
      obtain ⟨w, -, rfl⟩ := mem_map.mp hmem
      exact Nat.le_add_left _ _
  room := h.room
  allowed _ := hc
  docked hyes := by rw [hdock] at hyes; cases hyes
  mirrored _ := h.le

include hpost

/-- The docked layer is cloned and then placed by `place`, which keeps its pipe. -/
lemma exists_dockedClone (env : PrepareEnv) (hc : clones dev = true)
    (hdock : dev.ext.current.docking = true) (src : OvlInfo) (ix : Nat) (f : OvlInfo → OvlInfo)
    (place : List OvlInfo → List OvlInfo) (hplace : ∀ c, place (prim ++ [c]) = prim ++ [f c])
    (hf : ∀ c, (f c).cfg.ix = c.cfg.ix ∧ (f c).cfg.mgrIx = c.cfg.mgrIx ∧
      (c.cfg.zorder = src.cfg.zorder + prim.length → (f c).cfg.zorder = prim.length)) :
    ∃ ext cs, (match cloneExternalLayer env dev prim src ix with
        | (ext, some ovls') => (ext, place ovls')
        | (ext, none) => (ext, prim)) = (ext, prim ++ cs) ∧
      ExtKept dev.ext ext ∧ Clones dev prim cs ∧ (cs ≠ [] → ext.current.enabled = true) := by
  obtain ⟨hk, hcase⟩ := cloneExternalLayer_cases env dev prim src ix
  generalize cloneExternalLayer env dev prim src ix = res at hk hcase ⊢
  obtain ⟨ext, out⟩ := res
  rcases hcase with rfl | ⟨hroom, hcur, dev', hpost', rfl⟩
  · exact ⟨ext, [], by simp, hk, .nil hz, fun h => absurd rfl h⟩
  · obtain ⟨hix, hmgr, hzo⟩ := cloneEntry_placement dev' prim.length src ix
    rw [hpost', hpost] at hzo
    obtain ⟨fix, fmgr, fz⟩ := hf (cloneEntry dev' prim.length src ix)
    refine ⟨ext, [f (cloneEntry dev' prim.length src ix)], ?_, hk, ?_, fun _ => ?_⟩
    · exact congrArg (Prod.mk ext) (hplace _)
    · refine .single hz hc hdock hroom ?_ (fmgr.trans hmgr) (fz hzo)
      rw [fix, hix, hpost', hpost, Nat.sub_self]
    · rw [show ext.current = dev.ext.current from hcur]
      exact enabled_of_clones hc

/-- **The clones of a frame.** -/
theorem cloneOverlays_clones (env : PrepareEnv) (ixDocking : Option Nat) :
    ∃ ext cs, cloneOverlays env dev prim ixDocking prim.length = (ext, prim ++ cs) ∧
      ExtKept dev.ext ext ∧ Clones dev prim cs ∧ (cs ≠ [] → ext.current.enabled = true) := by
  have hnone : ∀ ext, ExtKept dev.ext ext → ∃ ext' cs, (ext, prim) = (ext', prim ++ cs) ∧
      ExtKept dev.ext ext' ∧ Clones dev prim cs ∧ (cs ≠ [] → ext'.current.enabled = true) :=
    fun ext hk => ⟨ext, [], by simp, hk, .nil hz, fun h => absurd rfl h⟩
  unfold cloneOverlays
  cases hc : clones dev with
  | false => exact hnone _ ⟨rfl, rfl⟩
  | true =>
    simp only [Bool.not_true, Bool.false_eq_true, if_false]
    cases hdock : dev.ext.current.docking with
    | true =>
      simp only [if_true]
      cases ixDocking with
      | some ix =>
        refine exists_dockedClone hpost hz env hc hdock _ ix (setZorder prim.length)
          (fun ovls => ovls.modify (ovls.length - 1) (setZorder prim.length))
          (fun c => ?_) fun c => ⟨rfl, rfl, fun _ => rfl⟩
        rw [length_append, length_singleton, Nat.add_sub_cancel]
        exact modify_length_append _ _ _
      | none =>
        by_cases hforce : dev.ext.forceDock = true
        · simp only [if_pos hforce]
          -- the dock image starts at z-order 0
          have h0 : (dockOvl env).cfg.zorder = 0 := setupLayerBase_zorder rfl _ _ _ _ _
          exact exists_dockedClone hpost hz env hc hdock _ _
            (fun o => { o with addressing := .fb, ba := 0 }) _
            (fun c => modify_length_append _ _ _)
            fun c => ⟨rfl, rfl, fun h => by rw [h0, Nat.zero_add] at h; exact h⟩
        · simp only [if_neg hforce]
          exact hnone _ ⟨rfl, rfl⟩
    | false =>
      simp only [Bool.false_eq_true, if_false]
      split
      · exact hnone _ ⟨rfl, rfl⟩
      · rename_i ext hext
        have hkept : ExtKept dev.ext ext ∧ ext.current = dev.ext.current := by
          by_cases hl : dev.ext.last.docking = true
          · rw [if_pos hl] at hext
            obtain ⟨ext₁, h₁, rfl⟩ := Option.map_eq_some_iff.mp hext
            obtain ⟨hk, hcur⟩ := setBestHdmiMode_kept h₁
            exact ⟨⟨hk.mirror, hk.dock⟩, hcur⟩
          · rw [if_neg hl] at hext
            obtain rfl := Option.some.inj hext
            exact ⟨⟨rfl, rfl⟩, rfl⟩
        obtain ⟨cs, he, hm⟩ := mirrorOvls_mirrored
          (show { dev with ext := ext }.post2Layers = prim.length from hpost)
          dev.post2Layers 0 [] (.nil prim) rfl (by omega)
        rw [append_nil] at he
        exact ⟨ext, cs, by rw [he], hkept.1, .ofMirrored hz hm hc hdock,
          fun _ => by rw [hkept.2]; exact enabled_of_clones hc⟩

end

lemma adjustPrimary_placement (dev : HwcDev) (ovls : List OvlInfo) :
    (adjustPrimary dev ovls).map placement = ovls.map placement := by
  unfold adjustPrimary
  split_ifs
  · rw [map_map]
    refine map_congr_left fun o _ => ?_
    simp only [Function.comp]
    split_ifs
    · exact adjustPrimaryDisplayLayer_placement _ _ _ o
    · rfl
  · rfl

lemma length_adjustPrimary (dev : HwcDev) (ovls : List OvlInfo) :
    (adjustPrimary dev ovls).length = ovls.length := by
  unfold adjustPrimary
  split_ifs <;> simp

/-- The overlays `prim` of the primary display with their clones `cs`, as `dev'` holds them. -/
structure Cloned (d : HwcDev) (prim cs : List OvlInfo) (dev' : HwcDev) : Prop where
  clones : Clones d prim cs
  ovls : dev'.dsscomp.ovls = adjustPrimary d (prim ++ cs)
  numOvls : dev'.dsscomp.numOvls = 0 ∨ dev'.dsscomp.numOvls = dev'.dsscomp.ovls.length
  post2Layers : dev'.post2Layers = prim.length
  extOvls : dev'.extOvls = cs.length ∨ (cs = [] ∧ dev'.extOvls = d.extOvls)
  ext : ExtKept d.ext dev'.ext

lemma Cloned.placement {d dev' : HwcDev} (h : Cloned d prim cs dev') :
    dev'.dsscomp.ovls.map placement = (prim ++ cs).map placement := by
  rw [h.ovls, adjustPrimary_placement]

/-- **What the end of `hwc_prepare` makes of the primary display's overlays.** -/
lemma setupDsscomp_cloned {d : HwcDev} {prim : List OvlInfo}
    (hz : (zorders prim).Perm (range prim.length)) (env : PrepareEnv) (ixDocking : Option Nat) :
    ∃ cs, Cloned d prim cs (setupDsscomp env d prim prim.length ixDocking) := by
  obtain ⟨ext, cs, he, hkept, hcs, hen⟩ := cloneOverlays_clones
    (show ({ d with post2Layers := prim.length } : HwcDev).post2Layers = prim.length from rfl)
    hz env ixDocking
  generalize hdev' : setupDsscomp env d prim prim.length ixDocking = dev'
  have hovls : dev'.dsscomp.ovls = adjustPrimary d (prim ++ cs) := by
    rw [← hdev']
    simp only [setupDsscomp, he]
    rfl
  have hexts : dev'.extOvls = if ext.current.enabled || decide (d.lastExtOvls ≠ 0) then
      (dev'.dsscomp.ovls.length : Int) - prim.length else d.extOvls := by
    rw [← hdev']
    simp only [setupDsscomp, he]
  refine ⟨cs, ⟨hcs.mgrIx, hcs.ixs, hcs.zorders, hcs.room, hcs.allowed, hcs.docked, hcs.mirrored⟩,
    hovls, ?_, ?_, ?_, ?_⟩
  · rw [← hdev']
    simp only [setupDsscomp]
    split_ifs <;> simp
  · rw [← hdev']
    rfl
  · have hlen : dev'.dsscomp.ovls.length = prim.length + cs.length := by
      rw [hovls, length_adjustPrimary, length_append]
    rw [hexts, hlen]
    split_ifs with hx
    · left
      push_cast
      omega
    · refine Or.inr ⟨?_, rfl⟩
      by_contra hne
      simp [hen hne] at hx
  · rw [← hdev']
    simp only [setupDsscomp, he]
    exact ⟨hkept.mirror, hkept.dock⟩

/-! ## The frame -/

/-- The overlays of a frame that `hwc_prepare` plans for `list` in the device `dev`, leaving
`dev'`: those of the primary display, `prim`, and the clones, `cs`. -/
structure Frame (dev : HwcDev) (list : Option LayerList) (dev' : HwcDev) (prim cs : List OvlInfo) :
    Prop extends Cloned (startDev dev list) prim cs dev' where
  shares : Shares dev (startDev dev list)
  primary : PrimaryPlan (startDev dev list) (frameLayers list) prim prim.length
  bound : prim.length ≤ max 1 (startDev dev list).counts.maxHwOverlays
  lastExtOvls : dev'.lastExtOvls = dev.lastExtOvls
  lastIntOvls : dev'.lastIntOvls = dev.lastIntOvls

lemma startDev_shares (h : DevOk dev) (list : Option LayerList) :
    Shares dev (startDev dev list) := by
  set layers := listLayers (list.map LayerList.marked) with hlayers
  have h0 : DevOk { dev with
      dsscomp := ⟨dev.syncId, 0, [], 0, false⟩
      syncId := dev.syncId + 1
      counts := gatherLayerStatistics dev layers } :=
    ⟨h.fbFormat, h.transform, h.dock, h.mirror, h.extOvls, h.lastExtOvls, h.post2Layers,
      h.lastIntOvls⟩
  have hs := decideSupportedCloning_shares h0
  exact ⟨hs.primary, hs.external, hs.cloned, hs.docked, hs.mirrored, hs.scaling⟩

namespace Frame

variable {dev dev' : HwcDev} {list : Option LayerList} {prim cs : List OvlInfo}

lemma prim_le (hf : Frame dev list dev' prim cs) (h : DevOk dev) :
    (prim.length : Int) + dev.primaryTransform ≤ 4 - dev.lastExtOvls := by
  have h1 := hf.shares.primary
  have h2 := hf.bound
  have h3 := h.lastExtOvls
  have h4 := h.transform
  omega

lemma clones_le (hf : Frame dev list dev' prim cs) :
    (cs.length : Int) ≤ (startDev dev list).extOvls := by
  rcases eq_or_ne cs [] with rfl | hne
  · simpa using hf.shares.external.1
  · have hc := hf.clones.allowed hne
    have h1 := hf.shares.cloned hc
    have h2 := hf.bound
    cases hd : (startDev dev list).ext.current.docking with
    | true =>
      have := hf.clones.docked hd
      omega
    | false =>
      have h3 := hf.clones.mirrored hd
      have h4 := hf.shares.mirrored hc hd
      omega

end Frame

lemma Cloned.congr {d d' dev' : HwcDev} (h : Cloned d prim cs dev') (hcore : d.core = d'.core) :
    Cloned d' prim cs dev' := by
  have hf {α : Type} (f : HwcDev → α) : f d.core = f d'.core := congrArg f hcore
  have hext : d.ext = d'.ext := hf HwcDev.ext
  have hcl : Solana.clones d = Solana.clones d' := hf Solana.clones
  have hov : d.extOvls = d'.extOvls := hf HwcDev.extOvls
  have hadj : adjustPrimary d = adjustPrimary d' := hf adjustPrimary
  obtain ⟨hcs, hovls, hnum, hpost, hexts, hkept⟩ := h
  refine ⟨⟨hcs.mgrIx, hcs.ixs, hcs.zorders, hcs.room, ?_, ?_, ?_⟩, by rw [← hadj]; exact hovls,
    hnum, hpost, ?_, ?_⟩
  · rw [← hcl]; exact hcs.allowed
  · rw [← hext]; exact hcs.docked
  · rw [← hext]; exact hcs.mirrored
  · rw [← hov]; exact hexts
  · rw [← hext]; exact hkept

lemma setupDsscomp_frame {env : PrepareEnv} {dev d : HwcDev} {list : Option LayerList}
    {prim : List OvlInfo} {z : Nat} {ixDocking : Option Nat} (h : DevOk dev)
    (hplan : FramePlan (startDev dev list) d (frameLayers list) prim z) :
    ∃ cs, Frame dev list (setupDsscomp env d prim z ixDocking) prim cs ∧
      DevOk (setupDsscomp env d prim z ixDocking) := by
  obtain rfl := hplan.primary.z
  obtain ⟨cs, hcloned⟩ := setupDsscomp_cloned hplan.primary.zorders env ixDocking
  have hcore {α : Type} (f : HwcDev → α) : f d.core = f (startDev dev list).core :=
    congrArg f hplan.core
  -- what neither the start of `hwc_prepare` nor its end writes
  have hkeep : (setupDsscomp env d prim prim.length ixDocking).fbDev = dev.fbDev ∧
      (setupDsscomp env d prim prim.length ixDocking).primaryTransform = dev.primaryTransform ∧
      (setupDsscomp env d prim prim.length ixDocking).lastExtOvls = dev.lastExtOvls ∧
      (setupDsscomp env d prim prim.length ixDocking).lastIntOvls = dev.lastIntOvls := by
    exact ⟨hcore fbDev, hcore primaryTransform, hcore lastExtOvls, hcore lastIntOvls⟩
  generalize setupDsscomp env d prim prim.length ixDocking = dev' at hcloned hkeep ⊢
  obtain ⟨h1, h2, h3, h4⟩ := hkeep
  have hframe : Frame dev list dev' prim cs :=
    ⟨hcloned.congr hplan.core, startDev_shares h list, hplan.primary, hplan.bound, h3, h4⟩
  refine ⟨cs, hframe, ?_⟩
  have hcle := hframe.clones_le
  have hple := hframe.prim_le h
  have hext2 := hframe.shares.external
  have hmirror : dev'.ext.mirror = dev.ext.mirror := hframe.ext.mirror
  have hdock : dev'.ext.dock = dev.ext.dock := hframe.ext.dock
  constructor
  · rw [h1]; exact h.fbFormat
  · rw [h2]; exact h.transform
  · rw [hdock]; exact h.dock
  · rw [hmirror]; exact h.mirror
  · rcases hframe.extOvls with hx | ⟨-, hx⟩
    · rw [hx]; omega
    · rw [hx]; exact ⟨hext2.1, hext2.2.2⟩
  · rw [h3]; exact h.lastExtOvls
  · rw [hframe.post2Layers]
    have hle := h.lastExtOvls
    simp only [maxHwOverlays]
    omega
  · rw [h4]; exact h.lastIntOvls

/-- **The overlays of a frame**, and the invariant of the device. -/
theorem hwcPrepare_frame {env : PrepareEnv} {list list' : Option LayerList} {dev dev' : HwcDev}
    (h : hwcPrepare env list dev = .ok (dev', list')) (hok : DevOk dev) :
    ∃ prim cs, Frame dev list dev' prim cs ∧ DevOk dev' := by
  obtain ⟨d, prim, z, ixDocking, hplan, rfl⟩ := hwcPrepare_plan h hok.fbFormat
  obtain ⟨cs, hframe, hdev⟩ := setupDsscomp_frame hok hplan
  exact ⟨prim, cs, hframe, hdev⟩

end Solana
