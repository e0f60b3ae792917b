import Solana.Hwc.Overlays
import Mathlib.Data.List.Chain

/-!
# Handing overlays over between the displays

An overlay cannot move from one display to the other in one frame: it has to be left out of a
frame first.  `hwc_prepare` enforces this by counts alone.  It keeps as many overlays free for
each display as the other one used in the last frame, and relies on the primary display taking
the lowest pipes and the clones the highest ones.

The counts speak about the last call of `hwc_set`, not about the last frame that was posted, and
the primary display does not always take the lowest pipes.  `pipes_handed_over` is the rule for
the runs in which both assumptions hold; `scaled_pipe_not_handed_over` is a run in which a frame
of two scaled layers breaks it.
-/

namespace Solana

open Runs Dsscomp List

/-! ## Frames on the display -/

/-- The pipes a frame assigns to a manager. -/
def Dsscomp.pipes (d : Dsscomp) (mgr : Nat) : List Nat := ixs (d.managed mgr)

/-- No pipe of one display in the frame `old` belongs to the other one in the frame `new`. -/
def Dsscomp.HandsOver (old new : Dsscomp) : Prop :=
  (∀ i ∈ old.pipes 0, i ∉ new.pipes 1) ∧ ∀ i ∈ old.pipes 1, i ∉ new.pipes 0

/-- The frames posted, newest first, hand all pipes over. -/
def HandedOver (posted : List Post) : Prop :=
  List.IsChain (fun new old => old.dsscomp.HandsOver new.dsscomp) posted

lemma mem_pipes_iff {d : Dsscomp} {mgr i : Nat} :
    i ∈ d.pipes mgr ↔ ∃ o ∈ d.ovls.take d.numOvls, o.cfg.mgrIx = mgr ∧ o.cfg.ix = i := by
  simp [pipes, managed, ixs, and_assoc]

lemma Frame.mem_pipes {dev dev' : HwcDev} {list : Option LayerList} {prim cs : List OvlInfo}
    (hf : Frame dev list dev' prim cs) {mgr i : Nat} (h : i ∈ dev'.dsscomp.pipes mgr) :
    (mgr = 0 ∧ i ∈ Solana.ixs prim) ∨ (mgr = 1 ∧ i ∈ Solana.ixs cs) := by
  obtain ⟨o, ho, hmgr, hix⟩ := mem_pipes_iff.mp h
  have hmem : o.placement ∈ (prim ++ cs).map OvlInfo.placement := by
    rw [← hf.placement]
    exact mem_map_of_mem (mem_of_mem_take ho)
  obtain ⟨p, hp, hpe⟩ := mem_map.mp hmem
  simp only [OvlInfo.placement, Prod.mk.injEq] at hpe
  obtain ⟨hpix, -, hpmgr, -⟩ := hpe
  rcases mem_append.mp hp with hp | hp
  · obtain ⟨j, hj⟩ := getElem?_of_mem hp
    have hentry := hf.primary.entry j p hj
    exact Or.inl ⟨by rw [← hmgr, ← hpmgr, hentry.mgrIx],
      mem_map.mpr ⟨p, hp, by rw [hpix, hix]⟩⟩
  · exact Or.inr ⟨by rw [← hmgr, ← hpmgr, hf.clones.mgrIx p hp],
      mem_map.mpr ⟨p, hp, by rw [hpix, hix]⟩⟩

/-! ## Where the pipes are -/

/-- The pipes of a frame lie where the counts of overlays say: the primary display on the lowest
`int` ones (or the lowest two), the clones on the highest `ext` ones (and not the lowest two). -/
structure Dsscomp.Within (d : Dsscomp) (int ext : Int) : Prop where
  primary : ∀ i ∈ d.pipes 0, (i : Int) < int ∨ i ≤ 1
  external : ∀ i ∈ d.pipes 1, 4 - ext ≤ (i : Int) ∧ 2 ≤ i

/-- At most one layer of the list needs a scaling pipe. -/
def AtMostOneScaled (list : Option LayerList) : Prop :=
  (listLayers list).countP HwcLayer.usesScaler ≤ 1

instance (list : Option LayerList) : Decidable (AtMostOneScaled list) :=
  inferInstanceAs (Decidable (_ ≤ _))

section
variable {dev dev' : HwcDev} {list : Option LayerList} {prim cs : List OvlInfo}

section

variable (hf : Frame dev list dev' prim cs)
include hf

/-- The pipes of the primary display, when it is not transformed and at most one layer needs a
scaling pipe. -/
lemma Frame.prim_low (hpt : dev.primaryTransform = 0) (hone : AtMostOneScaled list) :
    ∀ i ∈ Solana.ixs prim, i < prim.length ∨ i ≤ 1 := by
  intro i hi
  rcases hf.primary.pipes with hp | ⟨h0, -⟩ | ⟨-, -, hall, hp⟩
  · exact Or.inl (hp i hi)
  · exact absurd hpt h0
  · have hcount : (frameLayers list).countP (needsPipe (startDev dev list)) ≤
        (listLayers list).countP HwcLayer.usesScaler := by
      rw [frameLayers_eq, countP_map]
      refine countP_mono_left fun l _ hl => ?_
      have hscaler := usesScaler_of_needsPipe hl
      exact hscaler
    have := hp i hi
    have : prim.length ≤ 1 := hall.trans (hcount.trans hone)
    omega

lemma Frame.mem_clones {i : Nat} (hi : i ∈ Solana.ixs cs) :
    4 - (cs.length : Int) ≤ (i : Int) ∧ cs.length ≤ 2 ∧ 2 ≤ i := by
  have hle := hf.clones_le
  have hE := hf.shares.external
  rw [hf.clones.ixs] at hi
  obtain ⟨k, hk, rfl⟩ := mem_map.mp hi
  have := mem_range.mp hk
  omega

lemma Frame.within (hpt : dev.primaryTransform = 0) (hone : AtMostOneScaled list) :
    dev'.dsscomp.Within dev'.post2Layers dev'.extOvls := by
  constructor
  · intro i hi
    rcases hf.mem_pipes hi with ⟨-, hi⟩ | ⟨h, -⟩
    · have := hf.prim_low hpt hone i hi
      rw [hf.post2Layers]
      omega
    · cases h
  · intro i hi
    rcases hf.mem_pipes hi with ⟨h, -⟩ | ⟨-, hi⟩
    · cases h
    · have hmem := hf.mem_clones hi
      rcases hf.extOvls with hx | ⟨rfl, -⟩
      · rw [hx]
        exact ⟨hmem.1, hmem.2.2⟩
      · simp [Solana.ixs] at hi

/-- A planned frame hands over the pipes of a frame that lies within the last counts. -/
lemma Frame.handsOver (hok : DevOk dev) (hpt : dev.primaryTransform = 0)
    (hone : AtMostOneScaled list) {old : Dsscomp}
    (hold : old.Within dev.lastIntOvls dev.lastExtOvls) : old.HandsOver dev'.dsscomp := by
  constructor
  · intro i hi hnew
    rcases hf.mem_pipes hnew with ⟨h, -⟩ | ⟨-, hnew⟩
    · cases h
    · -- clones stay above what the primary display used
      have h1 := hold.primary i hi
      have h2 := hf.mem_clones hnew
      have h3 := hf.clones_le
      have h4 := hf.shares.external
      omega
  · intro i hi hnew
    rcases hf.mem_pipes hnew with ⟨-, hnew⟩ | ⟨h, -⟩
    · -- and the primary display below what the clones used
      have h1 := hold.external i hi
      have h2 := hf.prim_low hpt hone i hnew
      have h3 := hf.prim_le hok
      omega
    · cases h

end

end

/-! ## Runs -/

/-- Calls come in pairs: `hwc_prepare`, then `hwc_set`. -/
def Paired (s : System) : Event → Bool
  | .prepare _ _ => !s.planned
  | .set _ _ _ => s.planned
  | _ => true

/-- The steps the counts are right for: the primary display is not transformed and at most one
layer needs a scaling pipe, and a frame that is set is posted, unless SGX fails to draw it. -/
def KeepsCounts (s : System) : Event → Prop
  | .prepare _ list => s.dev.primaryTransform = 0 ∧ AtMostOneScaled list
  | .set env _ list => list.any LayerList.onScreen = true ∧
      (s.dev.useSgx && !env.swapOk || env.post2Ok) = true
  | _ => True

instance (s : System) : (e : Event) → Decidable (KeepsCounts s e)
  | .prepare _ _ => inferInstanceAs (Decidable (_ ∧ _))
  | .set _ _ _ => inferInstanceAs (Decidable (_ ∧ _))
  | .switch _ | .hotplug _ | .idle => inferInstanceAs (Decidable True)

/-- The invariant of such runs. -/
structure HandoverInv (s : System) : Prop where
  devOk : DevOk s.dev
  handedOver : HandedOver s.posted
  last : ∀ p ∈ s.posted.head?, p.dsscomp.Within s.dev.lastIntOvls s.dev.lastExtOvls
  plan : s.planned = true → s.dev.dsscomp.Within s.dev.post2Layers s.dev.extOvls
  planned : s.planned = true → ∀ p ∈ s.posted.head?, p.dsscomp.HandsOver s.dev.dsscomp

/-- The managers and pipes of some overlays. -/
def mgrPipes (ovls : List OvlInfo) : List (Nat × Nat) := ovls.map fun o => (o.cfg.mgrIx, o.cfg.ix)

lemma pipes_eq (d : Dsscomp) (mgr : Nat) :
    d.pipes mgr = (((mgrPipes d.ovls).take d.numOvls).filter fun p => p.1 = mgr).map Prod.snd := by
  simp [pipes, managed, ixs, mgrPipes, ← map_take, filter_map, Function.comp_def]

lemma mgrPipes_renumberOvls (n : Nat) (ovls : List OvlInfo) :
    mgrPipes (renumberOvls n ovls) = mgrPipes ovls := by
  refine ext_getElem? fun j => ?_
  simp only [mgrPipes, renumberOvls, getElem?_map, getElem?_mapIdx, Option.map_map]
  refine congrArg (fun f => ovls[j]?.map f) (funext fun o => ?_)
  simp only [Function.comp]
  split_ifs <;> rfl

lemma beforePost_pipes (dev : HwcDev) (mgr : Nat) :
    (beforePost dev).dsscomp.pipes mgr = dev.dsscomp.pipes mgr := by
  rw [beforePost_eq, pipes_eq, pipes_eq]
  split_ifs
  · rw [mgrPipes_renumberOvls]
  · rfl

lemma beforePost_within {dev : HwcDev} {int ext : Int} (h : dev.dsscomp.Within int ext) :
    (beforePost dev).dsscomp.Within int ext := by
  obtain ⟨h1, h2⟩ := h
  refine ⟨?_, ?_⟩
  · rwa [beforePost_pipes]
  · rwa [beforePost_pipes]

lemma beforePost_handsOver {dev : HwcDev} {old : Dsscomp} (h : old.HandsOver dev.dsscomp) :
    old.HandsOver (beforePost dev).dsscomp := by
  unfold Dsscomp.HandsOver at h ⊢
  rwa [beforePost_pipes, beforePost_pipes]

lemma HandoverInv.prepare {s : System} (h : HandoverInv s) {env : PrepareEnv}
    {list list' : Option LayerList} {dev' : HwcDev}
    (hp : hwcPrepare env list s.dev = .ok (dev', list')) (hpt : s.dev.primaryTransform = 0)
    (hone : AtMostOneScaled list) : HandoverInv { s with dev := dev', planned := true } := by
  obtain ⟨prim, cs, hf, hdev⟩ := hwcPrepare_frame hp h.devOk
  refine ⟨hdev, h.handedOver, fun p hmem => ?_, fun _ => hf.within hpt hone, fun _ p hmem => ?_⟩
  · show p.dsscomp.Within dev'.lastIntOvls dev'.lastExtOvls
    rw [hf.lastIntOvls, hf.lastExtOvls]
    exact h.last p hmem
  · exact hf.handsOver h.devOk hpt hone (h.last p hmem)

lemma HandoverInv.set {s : System} (h : HandoverInv s) (hplanned : s.planned = true) {env : SetEnv}
    {list : LayerList} (flip : FlipEnv) (hon : list.onScreen = true)
    (hpost : (s.dev.useSgx && !env.swapOk || env.post2Ok) = true) :
    HandoverInv (s.set env flip list) := by
  have hdev := hwcSet_ok h.devOk env list
  have hno : (s.set env flip list).planned ≠ true := by simp
  rcases hwcSet_cases env list s.dev with ⟨hoff, -⟩ | ⟨-, -, hres⟩ | ⟨-, hswap, hres⟩
  · rw [hon] at hoff
    cases hoff
  · -- SGX failed: nothing is posted, and the counts stay
    refine ⟨by rwa [System.set_dev], ?_, ?_, fun hp => absurd hp hno, fun hp => absurd hp hno⟩
    · rw [System.set_posted, hres]
      exact h.handedOver
    · rw [System.set_posted, System.set_dev, hres]
      exact h.last
  · have hok : env.post2Ok = true := by simpa [hswap] using hpost
    rw [if_pos hok] at hres
    refine ⟨by rwa [System.set_dev], ?_, ?_, fun hp => absurd hp hno, fun hp => absurd hp hno⟩
    · rw [System.set_posted, hres]
      refine isChain_cons.mpr ⟨fun p hmem => ?_, h.handedOver⟩
      exact beforePost_handsOver (h.planned hplanned p hmem)
    · rw [System.set_posted, System.set_dev, hres]
      intro p hmem
      obtain rfl : (beforePost s.dev).post = p := by simpa using hmem
      show (beforePost s.dev).dsscomp.Within ((beforePost s.dev).post2Layers : Int)
        (beforePost s.dev).extOvls
      have hplan := beforePost_within (h.plan hplanned)
      rw [beforePost_eq] at hplan ⊢
      exact hplan

lemma HandoverInv.next {s s' : System} {e : Event} (h : HandoverInv s) (hpair : Paired s e = true)
    (hc : KeepsCounts s e) (hn : s.next e = some s') : HandoverInv s' := by
  rcases System.next_cases hn with ⟨env, list, dev', list', rfl, hp, rfl⟩ |
    ⟨env, flip, list, rfl, rfl⟩ | ⟨sw, rfl, -, rfl⟩ | ⟨env, rfl, -, rfl⟩ | ⟨rfl, rfl⟩
  · exact h.prepare hp hc.1 hc.2
  · exact h.set hpair flip hc.1 hc.2
  · have hdev := Switch.write_ok h.devOk sw
    obtain ⟨_, he⟩ := sw.write_eq s.dev
    rw [he] at hdev ⊢
    exact ⟨hdev, h.handedOver, h.last, h.plan, h.planned⟩
  · have hdev := handleHotplug_ok h.devOk env
    obtain ⟨_, _, _, _, _, _, _, he⟩ := handleHotplug_eq env s.dev
    rw [he] at hdev ⊢
    exact ⟨hdev, h.handedOver, h.last, h.plan, h.planned⟩
  · have hdev := handleIdle_ok h.devOk
    obtain ⟨_, he⟩ := handleIdle_eq s.dev
    rw [he] at hdev ⊢
    exact ⟨hdev, h.handedOver, h.last, h.plan, h.planned⟩

/-- **Overlays are handed over**: in a run of prepare/set pairs that keeps the counts right, no
pipe changes displays between two frames posted one after the other. -/
theorem pipes_handed_over {s : System}
    (h : System.ReachableWith (fun s e => Paired s e = true ∧ KeepsCounts s e) s) :
    HandedOver s.posted := by
  have hinv : HandoverInv s := by
    refine Reachable.invariant HandoverInv ?_ ?_ h
    · rintro s ⟨env, rfl⟩
      exact ⟨hwcDeviceOpen_ok env, isChain_nil, nofun, nofun, nofun⟩
    · rintro s e s' hs ⟨⟨hpair, hc⟩, hn⟩
      exact hs.next hpair hc hn
  exact hinv.handedOver

/-! ## A run that breaks the rule -/

/-- Two unscaled layers, first on the primary display alone and then mirrored. -/
theorem mirrored_pipes_handed_over :
    ∃ s : System, s.posted.map (fun p => (p.dsscomp.pipes 0, p.dsscomp.pipes 1)) =
      [([0, 1], [3, 2]), ([0, 1], [])] ∧ HandedOver s.posted := by
  obtain ⟨s, hr, hpipes⟩ : ∃ s,
      System.ReachableWith (fun s e => Paired s e = true ∧ KeepsCounts s e) s ∧
        s.posted.map (fun p => (p.dsscomp.pipes 0, p.dsscomp.pipes 1)) =
          [([0, 1], [3, 2]), ([0, 1], [])] :=
    exists_of_run ⟨sampleOpen false .default, rfl⟩
      (sampleFrame [(sampleLayer 1 ⟨0, 0, 4, 4⟩ .none).layer,
          (sampleLayer 2 ⟨0, 0, 4, 4⟩ .none).layer] ++
        [.switch (.hdmi true), .hotplug sampleHotplug] ++
        sampleFrame [(sampleLayer 1 ⟨0, 0, 4, 4⟩ .none).layer,
          (sampleLayer 2 ⟨0, 0, 4, 4⟩ .none).layer]) (by decide +kernel)
  exact ⟨s, hpipes, pipes_handed_over hr⟩

/-- Two scaled layers use the second and the third pipe.  When a display is connected, the next
frame already clones to the third one. -/
theorem scaled_pipe_not_handed_over :
    ∃ s, System.ReachableWith (fun s e => Paired s e = true) s ∧ ¬ HandedOver s.posted := by
  obtain ⟨s, hr, hpipes⟩ : ∃ s, System.ReachableWith (fun s e => Paired s e = true) s ∧
      s.posted.map (fun p => (p.dsscomp.pipes 0, p.dsscomp.pipes 1)) =
        [([0, 1], [3, 2]), ([2, 1], [])] :=
    exists_of_run ⟨sampleOpen false .default, rfl⟩
      (sampleFrame [sampleScaled 1 ⟨0, 0, 4, 4⟩, sampleScaled 2 ⟨0, 0, 4, 4⟩] ++
        [.switch (.hdmi true), .hotplug sampleHotplug] ++
        sampleFrame [(sampleLayer 1 ⟨0, 0, 4, 4⟩ .none).layer,
          (sampleLayer 2 ⟨0, 0, 4, 4⟩ .none).layer]) (by decide +kernel)
  refine ⟨s, hr, fun hchain => ?_⟩
  obtain ⟨new, rest, hposted, hnew, hrest⟩ := map_eq_cons_iff.mp hpipes
  obtain ⟨old, rest, rfl, hold, -⟩ := map_eq_cons_iff.mp hrest
  rw [HandedOver, hposted] at hchain
  have hpair := (isChain_cons_cons.mp hchain).1.1 2
  rw [(Prod.mk.inj hnew).2, (Prod.mk.inj hold).1] at hpair
  exact absurd hpair (by decide)

end Solana
