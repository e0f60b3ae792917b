import Solana.Rgz.Damage
import Solana.Rgz.Batches

/-!
# A frame that stays

When the same list comes again and again, the regionizer stops drawing.  A counter that starts
at two and a layer that is compared with a frame two steps back need a while for it: the third
of four equal frames is the first whose previous and target frame both show the same list, and
from there on each frame takes one off every counter and damages nothing.

What went before does not matter beyond the bound on the counters, which every call keeps,
also one that rejects its list and one whose identities are not distinct (`ringBounded_of_calls`).
-/

namespace Solana

open Runs Cells RgzLayer Rect List Option

/-! ## Any calls -/

/-- The states reached by calls of `rgz_in(RGZ_IN_HWC)`, accepted or not. -/
def RgzCalls : Rgz → Prop := Reachable (· = Rgz.zero) fun r p r' => (rgzIn .hwc p r).2 = r'

lemma rgzInHwc_fbStates (p : RgzInParams) (r : Rgz) : (rgzInHwc p r).2.fbStates = r.fbStates := by
  unfold rgzInHwc
  split_ifs <;> rfl

/-- **The induction rule of the stored frames**, over calls of any outcome: only an accepted list
stores a frame. -/
lemma stored_of_calls {P : List RgzLayer → Prop} (h0 : P [])
    (hnew : ∀ (p : RgzInParams) (layers : List ExtLayer) (r : Rgz),
      (rgzCheckScan layers).Accepted → (∀ i, P (r.fbStates i)) →
      P (rgzHandleDirtyRegion p.dstgeom (rgzCurLayers p layers) r.prevFbState r.targetFbState).1)
    {r : Rgz} (h : RgzCalls r) : ∀ i, P (r.fbStates i) := by
  refine Reachable.invariant (fun r => ∀ i, P (r.fbStates i)) ?_ ?_ h
  · rintro _ rfl i
    exact h0
  · rintro r p _ hr rfl
    have hchk : ∀ i, P ((rgzInHwccheck p r).2.fbStates i) := by
      intro i
      unfold rgzInHwccheck
      cases p.layers with
      | none => exact hr i
      | some layers =>
        simp only
        split_ifs with hacc
        · have hframe := hnew p layers { r with stateInit := false } hacc hr
          rcases eq_or_ne i (r.fbStateIdx + 1) with rfl | hi
          · simpa [rgzAdvance] using hframe
          · simpa [rgzAdvance, Function.update_of_ne hi] using hr i
        · exact hr i
    simp only [rgzIn]
    by_cases hall : (rgzInHwccheck p r).1 = rgzAll
    · rw [if_pos hall]
      intro i
      show P ((rgzInHwc p (rgzInHwccheck p r).2).2.fbStates i)
      rw [rgzInHwc_fbStates]
      exact hchk i
    · rw [if_neg hall]
      exact hchk

/-- The counters of both stored frames are bounded. -/
def RingBounded (r : Rgz) : Prop := ∀ i, DirtyBounded (r.fbStates i)

lemma ringBounded_of_calls {r : Rgz} (h : RgzCalls r) : RingBounded r := by
  refine stored_of_calls (by simp [DirtyBounded]) (fun p layers r _ hr => ?_) h
  exact rgzDirtyLoop_bounded p.dstgeom (hr r.fbStateIdx) r.targetFbState 0 _ _

/-! ## The same list again -/

/-- The frame holds the layers of the list behind a background. -/
structure Shows (layers : List ExtLayer) (fb : List RgzLayer) : Prop where
  ok : FbStateOk fb
  ne_nil : fb ≠ []
  same : fb.tail.map RgzLayer.core = (rgzCheckScan layers).rgzLayers.map RgzLayer.core

variable {layers : List ExtLayer}

lemma Shows.find {fb : List RgzLayer} (h : Shows layers fb) {c : RgzLayer}
    (hc : c ∈ (rgzCheckScan layers).rgzLayers) :
    ∃ q ∈ fb.tail, q.core = c.core ∧ rgzFindLayer fb c.identity = some q := by
  have hmem : c.core ∈ fb.tail.map core := h.same ▸ mem_map_of_mem hc
  obtain ⟨q, hq, hcore⟩ := mem_map.mp hmem
  refine ⟨q, hq, hcore, ?_⟩
  rw [← (core_eq_iff.mp hcore).2.1]
  exact h.ok.find_of_mem hq

variable {p : RgzInParams}

lemma FrameStep.shows {r r' : Rgz} (h : FrameStep r p layers r') (hr : RingBounded r) :
    Shows layers r'.curFbState := by
  have hcore := rgzHandleDirtyRegion_core p.dstgeom (rgzCurLayers p layers) r.prevFbState
    r.targetFbState
  rw [← h.cur] at hcore
  have hbounded : DirtyBounded r'.curFbState := by
    rw [h.cur]
    exact rgzDirtyLoop_bounded _ (hr _) _ 0 _ _
  refine ⟨(rgzCurLayers_ok p h.accepted h.distinct).congr hcore hbounded, ?_, ?_⟩
  · intro hnil
    rw [hnil] at hcore
    simp [rgzCurLayers] at hcore
  · rw [map_tail, hcore, ← map_tail]
    rfl

lemma rgzHasLayerContentChanged_of_core {c q : RgzLayer} (h : q.core = c.core) :
    rgzHasLayerContentChanged c q = false := by
  obtain ⟨h1, h2, -⟩ := core_eq_iff.mp h
  have hptr : c.hwcLayer.handle.samePtr c.hwcLayer.handle = true := by
    cases c.hwcLayer.handle <;> simp [BufferHandle.samePtr]
  simp [rgzHasLayerContentChanged, h1, h2, hptr]

lemma rgzHasLayerFrameMoved_of_core {c t : RgzLayer} (n : Nat) (h : t.core = c.core) :
    rgzHasLayerFrameMoved { c with dirtyCount := n } t = false := by
  have hid := (core_eq_iff.mp h).2.1
  have hframe : frame { c with dirtyCount := n } = t.frame :=
    (frame_eq_of_core h).symm
  simp [rgzHasLayerFrameMoved, hid, hframe]

variable {g : SurfGeom}

lemma rgzDirtyCount_unchanged {q c : RgzLayer} (h : rgzHasLayerContentChanged c q = false) :
    rgzDirtyCount (some q) c = q.dirtyCount - 1 := by
  simp only [rgzDirtyCount, h, Bool.not_false, if_true]
  split_ifs with h0
  · rw [h0]
  · rfl

/-- An unchanged layer that is where the target has it takes one off its counter and damages
nothing. -/
lemma rgzDirtyLayer_unchanged {prevFb targetFb : List RgzLayer} {i : Nat} {c q t : RgzLayer}
    (hi : i ≠ 0) (hq : rgzFindLayer prevFb c.identity = some q) (hqc : q.core = c.core)
    (ht : rgzFindLayer targetFb c.identity = some t) (htc : t.core = c.core) (d : Rect) :
    rgzDirtyLayer g prevFb targetFb i c d = ({ c with dirtyCount := q.dirtyCount - 1 }, d) := by
  have hcount := rgzDirtyCount_unchanged (rgzHasLayerContentChanged_of_core hqc)
  unfold rgzDirtyLayer
  simp only [rgzPrevLayer, if_neg hi, hq, hcount, ht, rgzHasLayerFrameMoved_of_core _ htc,
    Bool.false_eq_true, if_false]

/-- The background is never compared by position, and its contents never change. -/
lemma rgzDirtyLayer_background (g : SurfGeom) {prevFb : List RgzLayer} (targetFb : List RgzLayer)
    {b q : RgzLayer} (hb : b.buffidx = rgzBackgroundBuffidx) (hq : prevFb.head? = some q)
    (hqb : q.buffidx = rgzBackgroundBuffidx) (d : Rect) :
    rgzDirtyLayer g prevFb targetFb 0 b d = ({ b with dirtyCount := q.dirtyCount - 1 }, d) := by
  have hcount : rgzDirtyCount (some q) b = q.dirtyCount - 1 :=
    rgzDirtyCount_unchanged (if_pos ⟨hb, hqb⟩)
  unfold rgzDirtyLayer
  simp only [rgzPrevLayer, if_true, hq, hcount]

/-- All counters of the frame are at most `n`. -/
def CountsAtMost (n : Nat) (fb : List RgzLayer) : Prop := ∀ l ∈ fb, l.dirtyCount ≤ n

lemma rgzDirtyLoop_settles (g : SurfGeom) (prevFb targetFb : List RgzLayer) {n : Nat} :
    ∀ {i : Nat} {cur : List RgzLayer} (d : Rect), i ≠ 0 →
    (∀ c ∈ cur, ∃ q, q.dirtyCount ≤ n + 1 ∧ q.core = c.core ∧
      rgzFindLayer prevFb c.identity = some q) →
    (∀ c ∈ cur, ∃ t : RgzLayer, t.core = c.core ∧ rgzFindLayer targetFb c.identity = some t) →
    CountsAtMost n (rgzDirtyLoop g prevFb targetFb i cur d).1 ∧
      (rgzDirtyLoop g prevFb targetFb i cur d).2 = d
  | _, [], d, _, _, _ => ⟨by simp [rgzDirtyLoop, CountsAtMost], rfl⟩
  | i, c :: cur, d, hi, hprev, htarget => by
    obtain ⟨q, hqn, hqc, hq⟩ := hprev c mem_cons_self
    obtain ⟨t, htc, ht⟩ := htarget c mem_cons_self
    have hrest := rgzDirtyLoop_settles g prevFb targetFb (i := i + 1) d (Nat.succ_ne_zero i)
      (fun c hc => hprev c (mem_cons_of_mem _ hc))
      (fun c hc => htarget c (mem_cons_of_mem _ hc))
    simp only [rgzDirtyLoop, rgzDirtyLayer_unchanged hi hq hqc ht htc]
    refine ⟨fun l hl => ?_, hrest.2⟩
    rcases mem_cons.mp hl with rfl | hl
    · show q.dirtyCount - 1 ≤ n
      omega
    · exact hrest.1 l hl

lemma rgzDamageMissing_none {curFb : List RgzLayer} (d : Rect) :
    ∀ {target : List RgzLayer}, (∀ t ∈ target, rgzFindLayer curFb t.identity ≠ none) →
    rgzDamageMissing g curFb target d = d
  | [], _ => rfl
  | t :: target, h => by
    unfold rgzDamageMissing
    have ht := h t mem_cons_self
    split
    · exact rgzDamageMissing_none d fun t ht => h t (mem_cons_of_mem _ ht)
    · contradiction

/-- **One more equal frame** damages nothing and takes one off every counter. -/
lemma FrameStep.settles {r r' : Rgz} {n : Nat} (h : FrameStep r p layers r') (hr : RingBounded r)
    (hprev : Shows layers r.prevFbState) (htarget : Shows layers r.targetFbState)
    (hn : CountsAtMost (n + 1) r.prevFbState) :
    CountsAtMost n r'.curFbState ∧ r'.damagedArea = zero := by
  obtain ⟨b, hb⟩ := isSome_iff_exists.mp (isSome_head?.mpr hprev.ne_nil)
  have hbg := rgzDirtyLayer_background p.dstgeom r.targetFbState
    (b := rgzAddBackgroundLayer p.bgLayer) rfl hb (hprev.ok.background b hb) zero
  have hloop := rgzDirtyLoop_settles p.dstgeom r.prevFbState r.targetFbState (n := n) (i := 1)
    zero Nat.one_ne_zero
    (fun c hc => by
      obtain ⟨q, hq, hqc, hfind⟩ := hprev.find hc
      exact ⟨q, hn q (mem_of_mem_tail hq), hqc, hfind⟩)
    (fun c hc => by
      obtain ⟨t, -, htc, hfind⟩ := htarget.find hc
      exact ⟨t, htc, hfind⟩)
  have hshows := h.shows hr
  refine ⟨?_, ?_⟩
  · rw [h.cur]
    simp only [rgzHandleDirtyRegion, rgzCurLayers, rgzDirtyLoop, hbg]
    intro l hl
    rcases mem_cons.mp hl with rfl | hl
    · have hcount := hn b (mem_of_mem_head? hb)
      show b.dirtyCount - 1 ≤ n
      omega
    · exact hloop.1 l hl
  · have hcur := h.cur
    rw [h.damage]
    simp only [rgzHandleDirtyRegion] at hcur ⊢
    rw [← hcur]
    have hzero : (rgzDirtyLoop p.dstgeom r.prevFbState r.targetFbState 0
        (rgzCurLayers p layers) zero).2 = zero := by
      simp only [rgzCurLayers, rgzDirtyLoop, hbg, hloop.2]
    rw [hzero]
    refine rgzDamageMissing_none _ fun t ht => ?_
    -- a layer of the target is one of the list, and so is in the new frame
    have hmem : t.core ∈ (rgzCheckScan layers).rgzLayers.map core :=
      htarget.same ▸ mem_map_of_mem ht
    obtain ⟨c, hc, hcore⟩ := mem_map.mp hmem
    obtain ⟨q, -, -, hfind⟩ := hshows.find hc
    rw [← (core_eq_iff.mp hcore).2.1, hfind]
    exact some_ne_none q

/-! ## Nothing to draw -/

lemma anyLayerDirty_of_counts {h : Hregion} (hclean : CountsAtMost 0 h.rgzLayers) (s : Nat) :
    ∀ fuel lix : Nat, anyLayerDirty h s fuel lix = false
  | 0, _ => rfl
  | fuel + 1, lix => by
    have hcount : (h.layer lix).dirtyCount = 0 := by
      by_cases hk : lix < h.rgzLayers.length
      · have := hclean _ (Hregion.layer_mem hk)
        omega
      · simp [Hregion.layer, getD_eq_getElem?_getD, getElem?_eq_none (not_lt.mp hk)]
    unfold anyLayerDirty
    simp only [hcount, ne_eq, not_true_eq_false, decide_false, Bool.false_or]
    split
    · exact anyLayerDirty_of_counts hclean s fuel _
    · rfl

/-- An entry of a band is the zero rectangle or a cell of the columns by the band's rows. -/
lemma blitrect_rows {d rect : Rect} {ls : List RgzLayer} {w : Int} (l s : Nat) :
    (rgzGenBlitregions d rect ls w).blitrect l s = zero ∨
      ((rgzGenBlitregions d rect ls w).blitrect l s).top = rect.top ∧
        ((rgzGenBlitregions d rect ls w).blitrect l s).bottom = rect.bottom := by
  simp only [Hregion.blitrect, rgzGenBlitregions, getD_eq_getElem?_getD, getElem?_map]
  cases ls[l]? with
  | none => exact Or.inl rfl
  | some lay =>
    simp only [map_some, getD_some, getElem?_map]
    cases (cells (cutPoints (blitOffsets d ls w)))[s]? with
    | none => exact Or.inl rfl
    | some c =>
      simp only [map_some, getD_some, blitRectOf]
      split_ifs
      · exact Or.inr ⟨rfl, rfl⟩
      · exact Or.inl rfl

/-- Without damage no subregion is damaged. -/
lemma not_damaged_of_zero {cur : List RgzLayer} {h : Hregion} (hh : h ∈ hregionsOf g zero cur)
    (l s : Nat) : rectIntersects zero (h.blitrect l s) = false := by
  obtain ⟨c, hc, rfl⟩ := mem_map.mp hh
  have hcut : (0 : Int) ∈ cutPoints (yEntries zero cur g.height) :=
    (mem_cutPoints (cons_ne_nil _ _)).mpr mem_cons_self
  have hedge := cut_not_inside (clampedEnds_strict _ _ _ _ _ _) hc hcut
  rw [Bool.eq_false_iff]
  intro hmeet
  obtain ⟨h1, h2, -, -⟩ := rectIntersects_iff.mp hmeet
  dsimp only at h1 h2
  rcases blitrect_rows l s with hz | ⟨htop, hbot⟩
  · rw [hz] at h1
    exact lt_irrefl _ h1
  · rw [hbot] at h2
    rw [htop] at h1
    simp only [hregionRect, zero] at h1 h2
    omega

lemma subregionBlit_clean {h : Hregion} {d : Rect} {s : Nat}
    (hclean : ∀ lix, subregionDirty h s lix d = false) (params : OutParams) {b b' : Blts}
    (hr : rgzHwcSubregionBlit params h d b s = .ok b') : b' = b := by
  obtain ⟨⟨ops, bottom⟩, -, hr⟩ := Fallible.exists_of_bind_eq_ok hr
  cases bottom with
  | none => cases hr
  | some lix =>
    simp only [hclean lix, Bool.not_false, if_true] at hr
    exact (Except.ok.inj hr).symm

/-- No subregion of a frame without damage and without dirty layers adds a blit. -/
lemma FrameStep.steps_clean {r r' : Rgz} (h : FrameStep r p layers r')
    (hcounts : CountsAtMost 0 r'.curFbState) (hdamage : r'.damagedArea = zero)
    (params : OutParams) :
    ∀ step ∈ rgzSteps .bvcmdRegion r' params, ∀ b b', step b = .ok b' → b' = b := by
  intro step hmem b b' hb
  obtain ⟨⟨hr, s⟩, hhs, rfl⟩ := mem_map.mp hmem
  obtain ⟨hr', hh, hs⟩ := mem_flatMap.mp hhs
  obtain ⟨s', -, heq⟩ := mem_map.mp hs
  obtain ⟨rfl, rfl⟩ := Prod.mk.inj heq
  rw [h.regions, hdamage] at hh
  refine subregionBlit_clean (fun lix => ?_) params hb
  rw [subregionDirty, hdamage, not_damaged_of_zero hh, Bool.false_or]
  exact anyLayerDirty_of_counts (fun l hl => hcounts l (mem_of_mem_hregion hh hl)) _ _ _

lemma rgzOut_of_clean_steps {r : Rgz} {params : OutParams}
    (hclean : ∀ step ∈ rgzSteps .bvcmdRegion r params, ∀ b b', step b = .ok b' → b' = b)
    {out : OutData} (hout : rgzOut .bvcmdRegion r params = .ok out) :
    out.cmds = [] ∧ out.outBlits = 0 := by
  obtain ⟨b, hb, hf⟩ := rgzOut_steps hout
  have hinit : b = .init := Fallible.foldlM_invariant (· = Blts.init)
    (fun step hstep b b' hb hs => (hclean step hstep b b' hs).trans hb) rfl hb
  subst hinit
  obtain rfl := Except.ok.inj hf
  exact ⟨rfl, rfl⟩

/-- **The fourth of four equal frames draws nothing**, after any calls before them: no subregion
adds a blit, and an output that returns 0 is empty. -/
theorem fourth_equal_frame_no_blit {r r₁ r₂ r₃ r₄ : Rgz} {p₁ p₂ p₃ p₄ : RgzInParams}
    {layers : List ExtLayer} (hr : RgzCalls r) (hids : (layers.map ExtLayer.identity).Nodup)
    (hp₁ : p₁.layers = some layers) (h₁ : rgzIn .hwc p₁ r = (rgzAll, r₁))
    (hp₂ : p₂.layers = some layers) (h₂ : rgzIn .hwc p₂ r₁ = (rgzAll, r₂))
    (hp₃ : p₃.layers = some layers) (h₃ : rgzIn .hwc p₃ r₂ = (rgzAll, r₃))
    (hp₄ : p₄.layers = some layers) (h₄ : rgzIn .hwc p₄ r₃ = (rgzAll, r₄)) (params : OutParams) :
    (∀ step ∈ rgzSteps .bvcmdRegion r₄ params, ∀ b b', step b = .ok b' → b' = b) ∧
      ∀ out, rgzOut .bvcmdRegion r₄ params = .ok out → out.cmds = [] ∧ out.outBlits = 0 := by
  have hdistinct : ∀ p : RgzInParams, p.layers = some layers → DistinctIds p := by
    intro p hp layers' hl
    obtain rfl : layers = layers' := some.inj (hp.symm.trans hl)
    exact hids
  have hstep : ∀ {p : RgzInParams} {r r' : Rgz}, p.layers = some layers →
      rgzIn .hwc p r = (rgzAll, r') → FrameStep r p layers r' := by
    intro p r r' hp h
    obtain ⟨layers', hs⟩ := AcceptedFrame.step ⟨hdistinct p hp, h⟩
    obtain rfl : layers' = layers := some.inj (hs.input.symm.trans hp)
    exact hs
  have s₁ := hstep hp₁ h₁
  have s₂ := hstep hp₂ h₂
  have s₃ := hstep hp₃ h₃
  have s₄ := hstep hp₄ h₄
  have hr₁ : RgzCalls r₁ := .next hr (congrArg Prod.snd h₁)
  have hr₂ : RgzCalls r₂ := .next hr₁ (congrArg Prod.snd h₂)
  have hr₃ : RgzCalls r₃ := .next hr₂ (congrArg Prod.snd h₃)
  have f₁ := s₁.shows (ringBounded_of_calls hr)
  have f₂ := s₂.shows (ringBounded_of_calls hr₁)
  have f₃ := s₃.shows (ringBounded_of_calls hr₂)
  -- the second frame may still differ from its target; from the third on nothing does
  have c₂ : CountsAtMost 2 r₂.prevFbState := ringBounded_of_calls hr₂ _
  have c₃ := (s₃.settles (n := 1) (ringBounded_of_calls hr₂) (s₂.prev ▸ f₂)
    (by rw [s₂.target, s₁.prev]; exact f₁) c₂).1
  obtain ⟨c₄, hdamage⟩ := s₄.settles (n := 0) (ringBounded_of_calls hr₃) (s₃.prev ▸ f₃)
    (by rw [s₃.target, s₂.prev]; exact f₂) (by rw [s₃.prev]; exact c₃)
  have hclean := s₄.steps_clean c₄ hdamage params
  exact ⟨hclean, fun out hout => rgzOut_of_clean_steps hclean hout⟩

/-- The state after one more sample frame. -/
def afterSample (r : Rgz) : Rgz := (rgzIn .hwc sampleOverlap r).2

theorem sampleOverlap_settles :
    ∃ out, rgzOut .bvcmdRegion (afterSample (afterSample (afterSample (afterSample Rgz.zero))))
        ⟨sampleOverlap.dstgeom, false⟩ = .ok out ∧ out.cmds = [] := by
  obtain ⟨out, hout⟩ := Fallible.exists_ok (x := rgzOut .bvcmdRegion
    (afterSample (afterSample (afterSample (afterSample Rgz.zero))))
    ⟨sampleOverlap.dstgeom, false⟩) (by decide +kernel)
  have hframe : ∀ r, (rgzIn .hwc sampleOverlap r).1 = rgzAll →
      rgzIn .hwc sampleOverlap r = (rgzAll, afterSample r) := fun r h => Prod.ext h rfl
  have hlayers : sampleOverlap.layers = some
    [sampleLayer 1 ⟨0, 0, 3, 3⟩ .none, sampleLayer 2 ⟨1, 1, 6, 4⟩ .premult] := rfl
  have hall := fourth_equal_frame_no_blit (.start rfl) (by decide)
    hlayers (hframe _ (by decide +kernel)) hlayers (hframe _ (by decide +kernel))
    hlayers (hframe _ (by decide +kernel)) hlayers (hframe _ (by decide +kernel))
    ⟨sampleOverlap.dstgeom, false⟩
  exact ⟨out, hout, (hall.2 out hout).1⟩

end Solana
