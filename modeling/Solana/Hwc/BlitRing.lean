import Solana.Hwc.System

/-!
# The rings of blit framebuffers

The regionizer remembers the layers of the last two frames, one for each blit framebuffer, and
draws only what changed since the frame it believes to be in the framebuffer it draws into.  Its
ring advances when a frame is planned.  The driver has a ring of its own, which advances when it
processes a frame that uses the blit framebuffer.

The two stay in phase as long as every plan with blits is posted and processed exactly once
(`InPhase`): `planned_over_framebuffer` says that the regionizer then knows what it draws over.
A plan that is never posted puts its layers into the regionizer's ring all the same, and the
regionizer later takes them for the contents of a framebuffer (`unposted_plan_believed`).
-/

namespace Solana

open Runs Rgz

/-! ## The regionizer's ring -/

/-- The state an operation of `rgz_in` starts from: the check alone forgets all frames. -/
def RgzInOp.base : RgzInOp → Rgz → Rgz
  | .hwcchk, _ => Rgz.zero
  | _, rgz => rgz

lemma ring_index (k : Fin 2) : k + 1 + 1 = k ∧ k ≠ k + 1 := by
  revert k
  decide

lemma rgzAdvance_ring (g : SurfGeom) (cur : List RgzLayer) (r : Rgz) :
    (rgzAdvance g cur r).prevFbState = (rgzAdvance g cur r).curFbState ∧
      (rgzAdvance g cur r).targetFbState = r.prevFbState := by
  refine ⟨by simp [prevFbState, rgzAdvance], ?_⟩
  simp only [targetFbState, prevFbState, rgzAdvance]
  rw [(ring_index r.fbStateIdx).1, Function.update_of_ne (ring_index r.fbStateIdx).2]

/-- An accepted frame becomes the previous one, and the one before it the next target. -/
lemma rgzIn_ring {op : RgzInOp} {p : RgzInParams} {r r' : Rgz} (h : rgzIn op p r = (rgzAll, r')) :
    r'.prevFbState = r'.curFbState ∧ r'.targetFbState = (op.base r).prevFbState := by
  cases op with
  | hwc =>
    obtain ⟨layers, a, -, -, ha, rfl⟩ := rgzIn_hwc_eq_all h
    have hring := rgzAdvance_ring p.dstgeom (rgzCurLayers p layers) { r with stateInit := false }
    rw [← ha] at hring
    exact hring
  | hwcchk =>
    obtain ⟨layers, -, -, rfl⟩ := rgzInHwccheck_eq_all h
    exact rgzAdvance_ring _ _ { zero with stateInit := false }
  | other code => simp [rgzIn, rgzAll] at h

/-- **The regionizer after `hwc_prepare`**: it has taken in the frame, or it has been reset. -/
lemma hwcPrepare_rgz {env : PrepareEnv} {list list' : Option LayerList} {dev dev' : HwcDev}
    (h : hwcPrepare env list dev = .ok (dev', list')) :
    (dev'.blitUseFb = true ∧ dev'.useSgx = false ∧ 0 < dev'.post2Layers ∧
      ∃ q, rgzIn dev.bltMode.ops.1 q dev.grgz = (rgzAll, dev'.grgz)) ∨
    (dev'.blitUseFb = false ∧ dev'.grgz = idleRgz dev) := by
  cases composeFrame_ok h with
  | blitAll q out _ hblit hdev _ =>
    refine Or.inl ⟨by rw [hdev]; rfl, by rw [hdev]; rfl, ?_, q, ?_⟩
    · rw [hdev]
      exact (SgxScan.start dev _).pos.trans_eq (length_placeFb _ _ _).symm
    · rw [hdev]
      exact Prod.ext hblit.accepted rfl
  | blitRest s q out _ hsgx hs hblit hdev _ =>
    refine Or.inl ⟨by rw [hdev]; rfl, by rw [hdev]; rfl, ?_, q, ?_⟩
    · have hpos : 0 < s.ovls.length := by
        rw [hs, hsgx]
        exact (sgxScan hsgx _).pos
      rw [hdev]
      exact hpos.trans_eq (length_placeFb _ _ _).symm
    · rw [hdev]
      exact Prod.ext hblit.accepted rfl
  | noBlit s _ hdev _ => exact Or.inr ⟨by rw [hdev]; rfl, by rw [hdev]; rfl⟩

/-! ## Staying in phase -/

/-- The layers the regionizer takes for the contents of the framebuffer that the next frame is
drawn into. -/
def System.plannedOver (s : System) : List RgzLayer :=
  (s.dev.bltMode.ops.1.base s.dev.grgz).targetFbState

/-- The regionizer believes nothing about a framebuffer, or what is true. -/
def Believes (believed held : List RgzLayer) : Prop := believed = [] ∨ held = believed

/-- A frame planned with the blit framebuffer waits to be posted. -/
def System.waiting (s : System) : Bool := s.planned && s.dev.blitUseFb

/-- What keeps the rings in phase: no frame is planned while another one waits, and a plan with
the blit framebuffer is posted once, to a display that is on and a driver that processes it. -/
def InPhase (s : System) : Event → Bool
  | .prepare _ _ => !s.waiting
  | .set env flip list =>
    !s.dev.blitUseFb ||
      (s.planned && list.any LayerList.onScreen && env.post2Ok &&
        (s.kernel.bltReady || flip.initOk) && decide (s.dev.dsscomp.numOvls ≠ 0) &&
        (flip.bvPresent || decide (s.dev.blitNum = 0)))
  | _ => true

/-- Both rings, before and after a waiting frame is posted. -/
structure PhaseInv (s : System) : Prop where
  settled : s.waiting = false →
    Believes s.dev.grgz.prevFbState (s.bltFbs s.kernel.bltIdx) ∧
      Believes s.dev.grgz.targetFbState (s.bltFbs (s.kernel.bltIdx + 1))
  waiting : s.waiting = true →
    s.dev.grgz.prevFbState = s.dev.grgz.curFbState ∧
      Believes s.dev.grgz.targetFbState (s.bltFbs s.kernel.bltIdx) ∧
      s.dev.useSgx = false ∧ 0 < s.dev.post2Layers

lemma believes_zero (held : List RgzLayer) :
    Believes zero.prevFbState held ∧ Believes zero.targetFbState held :=
  ⟨Or.inl rfl, Or.inl rfl⟩

lemma PhaseInv.plannedOver {s : System} (h : PhaseInv s) (hs : s.waiting = false) :
    Believes s.plannedOver (s.bltFbs (s.kernel.bltIdx + 1)) := by
  unfold System.plannedOver
  cases s.dev.bltMode with
  | paint => exact (believes_zero _).2
  | region => exact (h.settled hs).2

lemma PhaseInv.prepare {s : System} (h : PhaseInv s) (hs : s.waiting = false) {env : PrepareEnv}
    {list list' : Option LayerList} {dev' : HwcDev}
    (hp : hwcPrepare env list s.dev = .ok (dev', list')) :
    PhaseInv { s with dev := dev', planned := true } := by
  obtain ⟨hprev, htarget⟩ := h.settled hs
  rcases hwcPrepare_rgz hp with ⟨hfb, hsgx, hpos, q, hin⟩ | ⟨hfb, hidle⟩
  · refine ⟨fun hw => absurd hw (by simp [System.waiting, hfb]), fun _ => ?_⟩
    obtain ⟨hcur, hnext⟩ := rgzIn_ring hin
    refine ⟨hcur, ?_, hsgx, hpos⟩
    show Believes dev'.grgz.targetFbState _
    rw [hnext]
    cases s.dev.bltMode with
    | paint => exact (believes_zero _).1
    | region => exact hprev
  · refine ⟨fun _ => ?_, fun hw => absurd hw (by simp [System.waiting, hfb])⟩
    show Believes dev'.grgz.prevFbState _ ∧ Believes dev'.grgz.targetFbState _
    rw [hidle, idleRgz]
    split_ifs
    · exact ⟨hprev, htarget⟩
    · exact ⟨(believes_zero _).1, (believes_zero _).2⟩

/-! ## Posting -/

lemma processFlip_of_not_useFb (env : FlipEnv) {post : Post} (kernel : Kernel)
    (h : post.blit.useFb = false) : (processFlip env post kernel).1 = kernel := by
  unfold processFlip
  simp only [h, Bool.or_false, Bool.false_and, Bool.false_eq_true, if_false]
  split_ifs <;> rfl

lemma processFlip_of_useFb {env : FlipEnv} {post : Post} (kernel : Kernel)
    (h : post.blit.useFb = true) (hready : (kernel.bltReady || env.initOk) = true)
    (hovls : post.dsscomp.numOvls ≠ 0) (hbufs : post.buffers ≠ []) :
    processFlip env post kernel = (⟨true, kernel.bltIdx + 1⟩, true) := by
  have hinit : (post.blit.useFb && !kernel.bltReady && !env.initOk) = false := by
    rw [h, Bool.true_and, ← Bool.not_or, hready, Bool.not_true]
  unfold processFlip
  rw [hinit]
  simp [h, hovls, hbufs]

lemma beforePost_blit (dev : HwcDev) : (beforePost dev).blitData.useFb = dev.blitUseFb ∧
    (beforePost dev).blitData.rgzItems = dev.blitNum ∧
    (beforePost dev).dsscomp.numOvls = dev.dsscomp.numOvls ∧
    (beforePost dev).nbufs = dev.nbufs := by
  rw [beforePost_eq]
  exact ⟨rfl, rfl, rfl, rfl⟩

lemma hwcSet_rgz (env : SetEnv) (list : LayerList) (dev : HwcDev) :
    (hwcSet env list dev).1.grgz = dev.grgz ∧
      (hwcSet env list dev).1.blitUseFb = dev.blitUseFb := by
  rcases hwcSet_cases env list dev with ⟨-, he⟩ | ⟨-, -, he⟩ | ⟨-, -, he⟩
  · rw [he]
    exact ⟨rfl, rfl⟩
  · rw [he]
    exact ⟨rfl, rfl⟩
  · rw [he, beforePost_eq]
    exact ⟨rfl, rfl⟩

lemma System.set_ring_of_not_useFb {s : System} (h : s.dev.blitUseFb = false) (env : SetEnv)
    (flip : FlipEnv) (list : LayerList) :
    (s.set env flip list).kernel = s.kernel ∧ (s.set env flip list).bltFbs = s.bltFbs := by
  have hfb : ∀ post ∈ (hwcSet env list s.dev).2, post.blit.useFb = false := by
    intro post hpost
    rcases hwcSet_cases env list s.dev with ⟨-, he⟩ | ⟨-, -, he⟩ | ⟨-, -, he⟩
    · simp [he] at hpost
    · simp [he] at hpost
    · rw [he, Option.mem_def] at hpost
      obtain rfl := Option.some.inj (Option.ite_none_right_eq_some.mp hpost).2
      exact (beforePost_blit s.dev).1.trans h
  unfold System.set
  simp only
  cases hpost : (hwcSet env list s.dev).2 with
  | none => exact ⟨rfl, rfl⟩
  | some post =>
    have hfb := hfb post hpost
    exact ⟨processFlip_of_not_useFb flip s.kernel hfb, by simp [System.flip, hfb]⟩

lemma System.set_ring_of_useFb {s : System} (h : s.dev.blitUseFb = true)
    (hsgx : s.dev.useSgx = false) (hpos : 0 < s.dev.post2Layers) {env : SetEnv}
    {flip : FlipEnv} {list : LayerList} (hin : InPhase s (.set env flip list) = true) :
    (s.set env flip list).kernel.bltIdx = s.kernel.bltIdx + 1 ∧ (s.set env flip list).bltFbs =
        Function.update s.bltFbs (s.kernel.bltIdx + 1) s.dev.grgz.curFbState := by
  simp only [InPhase, h, Bool.not_true, Bool.false_or, Bool.and_eq_true, decide_eq_true_eq,
    ne_eq] at hin
  obtain ⟨⟨⟨⟨⟨-, hon⟩, hpost2⟩, hready⟩, hovls⟩, hbv⟩ := hin
  have hbv : flip.bvPresent = true ∨ s.dev.blitNum = 0 := by simpa using hbv
  obtain ⟨huse, hitems, hnum, hnbufs⟩ := beforePost_blit s.dev
  have hpost : (hwcSet env list s.dev).2 = some (beforePost s.dev).post := by
    rcases hwcSet_cases env list s.dev with ⟨hoff, -⟩ | ⟨-, hswap, -⟩ | ⟨-, -, he⟩
    · cases hoff.symm.trans hon
    · simp [hsgx] at hswap
    · rw [he, if_pos hpost2]
  have hbufs : (beforePost s.dev).post.buffers ≠ [] := by
    have hne : s.dev.nbufs ≠ 0 := by
      unfold HwcDev.nbufs
      split_ifs <;> omega
    simpa [HwcDev.post, hnbufs] using hne
  have hflip := processFlip_of_useFb s.kernel (huse.trans h) hready
    (hnum.trans_ne hovls) hbufs
  have hdrawn : (beforePost s.dev).post.blit.useFb = true ∧
      (flip.bvPresent = true ∨ (beforePost s.dev).post.blit.rgzItems = 0) :=
    ⟨huse.trans h, hbv.imp_right hitems.trans⟩
  unfold System.set
  simp only [hpost, System.flip, hflip]
  exact ⟨trivial, if_pos ⟨trivial, hdrawn⟩⟩

lemma PhaseInv.set {s : System} (h : PhaseInv s) {env : SetEnv} {flip : FlipEnv}
    {list : LayerList} (hin : InPhase s (.set env flip list) = true) :
    PhaseInv (s.set env flip list) := by
  have hidle : (s.set env flip list).waiting = false := by simp [System.waiting]
  refine ⟨fun _ => ?_, fun hw => absurd hw (by simp [hidle])⟩
  rw [System.set_dev, (hwcSet_rgz env list s.dev).1]
  cases hfb : s.dev.blitUseFb with
  | false =>
    obtain ⟨hk, hb⟩ := System.set_ring_of_not_useFb hfb env flip list
    rw [hk, hb]
    exact h.settled (by simp [System.waiting, hfb])
  | true =>
    have hplanned : s.planned = true := by
      simp only [InPhase, hfb, Bool.not_true, Bool.false_or, Bool.and_eq_true] at hin
      exact hin.1.1.1.1.1
    obtain ⟨hcur, htarget, hsgx, hpos⟩ := h.waiting (by simp [System.waiting, hfb, hplanned])
    obtain ⟨hk, hb⟩ := System.set_ring_of_useFb hfb hsgx hpos hin
    rw [hk, hb, Function.update_self, (ring_index _).1, Function.update_of_ne (ring_index _).2]
    exact ⟨Or.inr hcur.symm, htarget⟩

lemma PhaseInv.next {s s' : System} {e : Event} (h : PhaseInv s) (hin : InPhase s e = true)
    (hn : s.next e = some s') : PhaseInv s' := by
  rcases System.next_cases hn with ⟨env, list, dev', list', rfl, hp, rfl⟩ |
    ⟨env, flip, list, rfl, rfl⟩ | ⟨sw, rfl, -, rfl⟩ | ⟨env, rfl, -, rfl⟩ | ⟨rfl, rfl⟩
  · exact h.prepare (by simpa [InPhase] using hin) hp
  · exact h.set hin
  · obtain ⟨ext, he⟩ := sw.write_eq s.dev
    rw [he]
    exact ⟨h.settled, h.waiting⟩
  · obtain ⟨ext, ion, fbDis, region, rotation, transform, m, he⟩ := handleHotplug_eq env s.dev
    rw [he]
    exact ⟨h.settled, h.waiting⟩
  · obtain ⟨n, he⟩ := handleIdle_eq s.dev
    rw [he]
    exact ⟨h.settled, h.waiting⟩

lemma phaseInv_start (env : OpenEnv) : PhaseInv (System.start env) := by
  obtain ⟨ext, ion, fbDis, region, rotation, transform, m, he⟩ :=
    handleHotplug_eq env.hotplug (setPrimaryDisplayTransformMatrix env.hotplug env.zeroed)
  refine ⟨fun _ => ?_, fun hw => absurd hw (by simp [System.waiting, System.start])⟩
  have hrgz : (System.start env).dev.grgz = zero := by
    simp only [System.start, hwcDeviceOpen]
    rw [he]
    rfl
  rw [hrgz]
  exact ⟨(believes_zero _).1, (believes_zero _).2⟩

/-- **The regionizer knows what it draws over** in every run that keeps the rings in phase: when
a frame is planned with the blit framebuffer, the layers it compares the frame with are those of
the frame in the framebuffer the driver will use, unless it was reset and compares it with
none; the frame then takes their place in the ring. -/
theorem planned_over_framebuffer {s s' : System} {env : PrepareEnv} {list : Option LayerList}
    (hr : System.ReachableWith (fun s e => InPhase s e = true) s)
    (hin : InPhase s (.prepare env list) = true) (hn : s.next (.prepare env list) = some s')
    (hfb : s'.dev.blitUseFb = true) : s'.dev.grgz.prevFbState = s'.dev.grgz.curFbState ∧
      Believes s.plannedOver (s.bltFbs (s.kernel.bltIdx + 1)) := by
  have hinv : PhaseInv s := by
    refine Reachable.invariant PhaseInv ?_ ?_ hr
    · rintro s ⟨env, rfl⟩
      exact phaseInv_start env
    · rintro s e s' hs ⟨hin, hn⟩
      exact hs.next hin hn
  refine ⟨?_, hinv.plannedOver (by simpa [InPhase] using hin)⟩
  obtain ⟨dev', list', hp, rfl⟩ := System.next_prepare hn
  rcases hwcPrepare_rgz hp with ⟨-, -, -, q, hq⟩ | ⟨hno, -⟩
  · exact (rgzIn_ring hq).1
  · exact absurd (hno.symm.trans hfb) (by decide)

/-- A frame of the sample device with one blitted layer. -/
def sampleBlit (id : Nat) : Option LayerList :=
  sampleList [(sampleLayer id ⟨0, 0, 4, 4⟩ .none).layer]

/-- Two frames posted, and a third one planned over the first. -/
theorem third_frame_planned_over_first :
    ∃ s s' : System, s.next (.prepare sampleEnv (sampleBlit 3)) = some s' ∧
      s'.dev.blitUseFb = true ∧ s.plannedOver ≠ [] ∧
      s.bltFbs (s.kernel.bltIdx + 1) = s.plannedOver := by
  obtain ⟨s, hr, hin, hne, s', hs', hfb⟩ : ∃ s,
      System.ReachableWith (fun s e => InPhase s e = true) s ∧
        InPhase s (.prepare sampleEnv (sampleBlit 3)) = true ∧ s.plannedOver ≠ [] ∧
        ∃ s', s.next (.prepare sampleEnv (sampleBlit 3)) = some s' ∧ s'.dev.blitUseFb = true :=
    exists_of_run ⟨sampleOpen false .all, rfl⟩
      [.prepare sampleEnv (sampleBlit 1), .set ⟨true, true⟩ ⟨true, true⟩ (sampleBlit 1),
        .prepare sampleEnv (sampleBlit 2), .set ⟨true, true⟩ ⟨true, true⟩ (sampleBlit 2)]
      (by decide +kernel)
  exact ⟨s, s', hs', hfb, hne, (planned_over_framebuffer hr hin hs' hfb).2.resolve_left hne⟩

/-- The screen is turned off between the two calls of the first frame, so only the second frame is
posted.  The third frame is planned over the first one, which no framebuffer holds. -/
theorem unposted_plan_believed : ∃ s s' : System, System.Reachable s ∧
      s.next (.prepare sampleEnv (sampleBlit 3)) = some s' ∧ s'.dev.blitUseFb = true ∧
      ¬ Believes s.plannedOver (s.bltFbs (s.kernel.bltIdx + 1)) := by
  obtain ⟨s, hr, hlen, hheld, s', hs', hfb⟩ : ∃ s, System.Reachable s ∧
      s.plannedOver.length = 2 ∧ (s.bltFbs (s.kernel.bltIdx + 1)).length = 0 ∧
      ∃ s', s.next (.prepare sampleEnv (sampleBlit 3)) = some s' ∧ s'.dev.blitUseFb = true :=
    exists_of_run ⟨sampleOpen false .all, rfl⟩
      [.prepare sampleEnv (sampleBlit 1), .set ⟨true, true⟩ ⟨true, true⟩ (sampleOff []),
        .prepare sampleEnv (sampleBlit 2), .set ⟨true, true⟩ ⟨true, true⟩ (sampleBlit 2)]
      (by decide +kernel)
  refine ⟨s, s', hr, hs', hfb, ?_⟩
  rintro (h | h)
  · simp [h] at hlen
  · rw [h, hlen] at hheld
    cases hheld

end Solana
