import Solana.Lib.Runs
import Solana.Rgz.Regions
import Mathlib.Data.List.Induction

/-!
# Damage over a run of frames

A frame is drawn over the framebuffer that holds the frame two steps earlier (the target).
For the blits to be right, everything that differs between the two must be redrawn: positions
through the damaged area, contents through the dirty counters.

Positions are compared with the target directly, contents only with the previous frame; the
link to the target is the run invariant `CountsBehind`: a layer of the previous frame whose
contents differ from the target's still carries a full counter, so the decrement of this frame
leaves it dirty.

The positions have a gap.  A layer that is absent from the previous frame only adds its new
rectangle, also when the target holds it elsewhere (`returning_layer_not_covered`).
`frame_changes_redrawn` is the coverage for the frames without such a layer.
-/

namespace Solana

open Runs BufferHandle RgzLayer List

/-! ## Runs -/

/-- One accepted call of `rgz_in(RGZ_IN_HWC)` with distinct identities. -/
def AcceptedFrame (r : Rgz) (p : RgzInParams) (r' : Rgz) : Prop :=
  DistinctIds p ∧ rgzIn .hwc p r = (rgzAll, r')

/-- The states reached by runs of accepted lists from a zeroed regionizer. -/
def RgzReachable : Rgz → Prop := Reachable (· = Rgz.zero) AcceptedFrame

/-- What an accepted call stores, in terms of the state before it. -/
structure FrameStep (r : Rgz) (p : RgzInParams) (layers : List ExtLayer) (r' : Rgz) : Prop where
  input : p.layers = some layers
  accepted : (rgzCheckScan layers).Accepted
  distinct : (layers.map ExtLayer.identity).Nodup
  cur : r'.curFbState = (rgzHandleDirtyRegion p.dstgeom (rgzCurLayers p layers)
    r.prevFbState r.targetFbState).1
  damage : r'.damagedArea = (rgzHandleDirtyRegion p.dstgeom (rgzCurLayers p layers)
    r.prevFbState r.targetFbState).2
  regions : r'.hregions = hregionsOf p.dstgeom r'.damagedArea r'.curFbState
  prev : r'.prevFbState = r'.curFbState
  target : r'.targetFbState = r.prevFbState

variable {p : RgzInParams} {r r' : Rgz}

lemma AcceptedFrame.step (h : AcceptedFrame r p r') : ∃ layers, FrameStep r p layers r' := by
  obtain ⟨layers, a, hl, hacc, ha, hr'⟩ := rgzIn_hwc_eq_all h.2
  have htwo : r.fbStateIdx + 1 + 1 ≠ r.fbStateIdx + 1 := by
    generalize r.fbStateIdx = k; revert k; decide
  have hback : r.fbStateIdx + 1 + 1 = r.fbStateIdx := by
    generalize r.fbStateIdx = k; revert k; decide
  subst hr' ha
  refine ⟨layers, hl, hacc, h.1 layers hl, rfl, rfl, rfl, ?_, ?_⟩
  · simp [Rgz.prevFbState, rgzAdvance]
  · simp only [Rgz.targetFbState, rgzAdvance]
    rw [Function.update_of_ne htwo, hback]
    rfl

lemma ringOk_of_reachable {r : Rgz} (h : RgzReachable r) : RingOk r := by
  refine Reachable.invariant RingOk ?_ ?_ h
  · rintro _ rfl; exact RingOk.zero
  · intro r p r' hr hstep
    obtain ⟨layers, a, hl, hacc, ha, hr'⟩ := rgzIn_hwc_eq_all hstep.2
    have hring := rgzAdvance_ringOk p hacc (hstep.1 layers hl)
      (r := { r with stateInit := false }) hr
    rw [← ha] at hring
    subst hr'
    intro i
    exact hring i

variable {layers : List ExtLayer}

lemma FrameStep.cur_ok (h : FrameStep r p layers r') (hr : RingOk r) : FbStateOk r'.curFbState := by
  rw [h.cur]
  exact rgzAdvance_ok p h.accepted h.distinct hr

/-! ## Contents -/

/-- Without a change, two layers have the same contents in every respect the counters track. -/
lemma rgzHasLayerContentChanged_eq_false {c q : RgzLayer} (hc : c.buffidx ≠ rgzBackgroundBuffidx) :
    rgzHasLayerContentChanged c q = false ↔ c.identity = q.identity ∧
        ((c.buffidx = rgzClearhintBuffidx ∧ q.buffidx = rgzClearhintBuffidx) ∨
          (c.hwcLayer.handle.samePtr q.hwcLayer.handle = true ∧
            c.hwcLayer.transform = q.hwcLayer.transform ∧
            c.hwcLayer.sourceCrop = q.hwcLayer.sourceCrop)) := by
  unfold rgzHasLayerContentChanged
  rw [if_neg (fun h => hc h.1)]
  split_ifs with h1 h2
  · simp only [false_iff]
    exact fun h => h1 h.1
  · simp only [true_iff]
    exact ⟨not_not.mp h1, Or.inl h2⟩
  · have hid := not_not.mp h1
    simp [hid, h2, and_assoc]

/-- Contents that are unchanged from frame to frame are unchanged. -/
lemma content_unchanged_trans {cs ps ts : List RgzLayer} (hcs : FbStateOk cs) (hps : FbStateOk ps)
    (hts : FbStateOk ts) {c q t : RgzLayer} (hc : c ∈ cs.tail) (hq : q ∈ ps.tail)
    (ht : t ∈ ts.tail) (hcq : rgzHasLayerContentChanged c q = false)
    (hqt : rgzHasLayerContentChanged q t = false) : rgzHasLayerContentChanged c t = false := by
  rw [rgzHasLayerContentChanged_eq_false (hcs.notBackground c hc)] at hcq ⊢
  rw [rgzHasLayerContentChanged_eq_false (hps.notBackground q hq)] at hqt
  refine ⟨hcq.1.trans hqt.1, ?_⟩
  -- the dummy handle is what makes a clear-hint layer recognisable by its contents
  rcases hcq.2 with ⟨hc1, hq1⟩ | ⟨hc1, hc2, hc3⟩
  · rcases hqt.2 with ⟨-, ht1⟩ | ⟨hq2, -, -⟩
    · exact Or.inl ⟨hc1, ht1⟩
    · rw [(hps.clearhint q hq).mp hq1, samePtr_comm, samePtr_dummy_iff] at hq2
      exact Or.inl ⟨hc1, (hts.clearhint t ht).mpr hq2⟩
  · rcases hqt.2 with ⟨hq1, ht1⟩ | ⟨hq1, hq2, hq3⟩
    · rw [(hps.clearhint q hq).mp hq1, samePtr_dummy_iff] at hc1
      exact Or.inl ⟨(hcs.clearhint c hc).mpr hc1, ht1⟩
    · exact Or.inr ⟨samePtr_trans hc1 hq1, hc2.trans hq2, hc3.trans hq3⟩

/-- A layer of the frame `cur` whose contents differ from those in the frame `old` before it
has a full counter. -/
def CountsChanges (old cur : List RgzLayer) : Prop :=
  ∀ c ∈ cur.tail, ∀ q ∈ old.tail, q.identity = c.identity →
    rgzHasLayerContentChanged c q = true → c.dirtyCount = rgzNumFb

variable {c : RgzLayer}

lemma FrameStep.tracks (h : FrameStep r p layers r') (hr : RingOk r) (hc : c ∈ r'.curFbState.tail) :
    DirtyTracks (rgzFindLayer r.prevFbState c.identity) c := by
  rw [h.cur] at hc
  exact rgzDirtyLoop_tracks hr.prev.bounded (i := 1) Nat.one_ne_zero hc

lemma FrameStep.countsChanges (h : FrameStep r p layers r') (hr : RingOk r) :
    CountsChanges r.prevFbState r'.curFbState := by
  intro c hc q hq hid hch
  have ht := h.tracks hr hc
  rw [← hid, hr.prev.find_of_mem hq] at ht
  exact ht.1 hch

/-- **The run invariant of the counters.**  The previous frame records its differences to the
target in its counters. -/
def CountsBehind (r : Rgz) : Prop := CountsChanges r.targetFbState r.prevFbState

lemma countsBehind_of_reachable {r : Rgz} (h : RgzReachable r) : CountsBehind r := by
  cases h with
  | start h =>
    subst h
    intro c hc
    simp [Rgz.prevFbState, Rgz.zero] at hc
  | next hr hstep =>
    obtain ⟨layers, hs⟩ := hstep.step
    rw [CountsBehind, hs.prev, hs.target]
    exact hs.countsChanges (ringOk_of_reachable hr)

/-! ## What has to be redrawn -/

/-- The part of `frame` on the screen is damaged. -/
def Covered (g : SurfGeom) (damagedArea frame : Rect) : Prop :=
  ∀ px, g.rect.Contains px → frame.Contains px → damagedArea.Contains px

/-- The damaged area covers every difference in position between the target frame and the
current one. -/
structure DamageCovers (g : SurfGeom) (target cur : List RgzLayer) (damagedArea : Rect) :
    Prop where
  gone : ∀ t ∈ target.tail, (∀ c ∈ cur.tail, c.identity ≠ t.identity) →
    Covered g damagedArea t.frame
  new : ∀ c ∈ cur.tail, (∀ t ∈ target.tail, t.identity ≠ c.identity) →
    Covered g damagedArea c.frame
  moved : ∀ t ∈ target.tail, ∀ c ∈ cur.tail, t.identity = c.identity → t.frame ≠ c.frame →
    Covered g damagedArea t.frame ∧ Covered g damagedArea c.frame

/-- Every layer of both frames whose contents differ is dirty, unless only its rectangle
counts in both. -/
def ContentDirty (target cur : List RgzLayer) : Prop :=
  ∀ t ∈ target.tail, ∀ c ∈ cur.tail, t.identity = c.identity →
    (t.hwcLayer.handle.samePtr c.hwcLayer.handle = false ∨
      t.hwcLayer.transform ≠ c.hwcLayer.transform ∨
      t.hwcLayer.sourceCrop ≠ c.hwcLayer.sourceCrop) →
    ¬ (t.buffidx = rgzClearhintBuffidx ∧ c.buffidx = rgzClearhintBuffidx) →
    0 < c.dirtyCount

/-- No layer comes back at another place: a layer the previous frame does not have is where
the target has it, if the target has it. -/
def ReturnsInPlace (r : Rgz) (p : RgzInParams) : Prop :=
  ∀ layers ∈ p.layers, ∀ e ∈ layers, e.isCandidate = true →
    (∀ q ∈ r.prevFbState.tail, q.identity ≠ e.identity) →
    ∀ t ∈ r.targetFbState.tail, t.identity = e.identity → t.frame = e.layer.displayFrame

section Step

variable {r r' : Rgz} {p : RgzInParams} {layers : List ExtLayer}

section

variable (h : FrameStep r p layers r')
include h

namespace FrameStep

/-- What one of the collected layers adds is part of the damaged area. -/
lemma covered_of_damagedBy {f : Rect} (hc : c ∈ (rgzCurLayers p layers).tail)
    (hd : DamagedBy r.prevFbState r.targetFbState c f) : Covered p.dstgeom r'.damagedArea f := by
  intro px hs hf
  rw [h.damage]
  exact rgzDamageMissing_keeps (P := fun d => d.Contains px)
    (fun l _ => rgzAddToDamagedArea_mono _ l) _ _
    (rgzDirtyLoop_covers (i := 1) hs hf Nat.one_ne_zero hc hd)

/-- A layer of the new frame is one of the collected layers, up to its counter. -/
lemma exists_collected (hc : c ∈ r'.curFbState.tail) :
    ∃ c₀ ∈ (rgzCurLayers p layers).tail, c₀.core = c.core := by
  rw [h.cur] at hc
  exact exists_core_mem_tail (rgzHandleDirtyRegion_core _ _ _ _) hc

/-- The candidate of the list a layer of the new frame stands for. -/
lemma exists_candidate (hc : c ∈ r'.curFbState.tail) :
    ∃ e ∈ layers, ∃ k, e.isCandidate = true ∧ c.core = (rgzEntry k e).core := by
  obtain ⟨c₀, hc₀, hcore⟩ := h.exists_collected hc
  obtain ⟨hcol, -, -⟩ := rgzCheckScan_accepted h.accepted
  rw [show (rgzCurLayers p layers).tail = rgzCollect (overlayCount layers) layers from hcol] at hc₀
  obtain ⟨e, he, k, -, hcand, rfl⟩ := mem_rgzCollect hc₀
  exact ⟨e, he, k, hcand, hcore.symm⟩

lemma damageCovers (hr : RingOk r) (hret : ReturnsInPlace r p) :
    DamageCovers p.dstgeom r.targetFbState r'.curFbState r'.damagedArea where
  gone t ht hne px hs hf := by
    rw [h.damage]
    refine rgzDamageMissing_covers hs ht ?_ hf
    have hok := h.cur_ok hr
    rw [h.cur] at hok hne
    exact hok.find_none hne
  new c hc hne := by
    obtain ⟨c₀, hc₀, hcore⟩ := h.exists_collected hc
    have hid := (core_eq_iff.mp hcore).2.1
    rw [← frame_eq_of_core hcore]
    exact h.covered_of_damagedBy hc₀ (.absent (hr.target.find_none (by rwa [hid])))
  moved t ht c hc hid hne := by
    obtain ⟨c₀, hc₀, hcore⟩ := h.exists_collected hc
    have hfr := frame_eq_of_core hcore
    have hid₀ : t.identity = c₀.identity := by rw [(core_eq_iff.mp hcore).2.1, hid]
    have htf : rgzFindLayer r.targetFbState c₀.identity = some t := by
      rw [← hid₀]; exact hr.target.find_of_mem ht
    have hmv : c₀.frame ≠ t.frame := by rw [hfr]; exact hne.symm
    refine ⟨?_, by rw [← hfr]; exact h.covered_of_damagedBy hc₀ (.here htf hmv)⟩
    cases hpf : rgzFindLayer r.prevFbState c₀.identity with
    | some q => exact h.covered_of_damagedBy hc₀ (.there hpf htf hmv)
    | none =>
      -- a layer that comes back does so in place
      obtain ⟨e, he, k, hcand, hce⟩ := h.exists_candidate hc
      have hide : c.identity = e.identity := by
        rw [(core_eq_iff.mp hce).2.1, rgzEntry_identity]
      have hfre : c.frame = e.layer.displayFrame := by
        rw [frame_eq_of_core hce, rgzEntry_frame]
      refine absurd ?_ hne
      rw [hfre]
      refine hret layers h.input e he hcand (fun q hq => ?_) t ht (hid.trans hide)
      rw [← hide, ← hid, hid₀]
      exact rgzFindLayer_none hpf (mem_of_mem_tail hq) (hr.prev.notBackground q hq)

lemma contentDirty (hr : RingOk r) (hb : CountsBehind r) :
    ContentDirty r.targetFbState r'.curFbState := by
  intro t ht c hc hid hdiff hclear
  have hok := h.cur_ok hr
  have hchanged : rgzHasLayerContentChanged c t = true := by
    rw [← Bool.not_eq_false, rgzHasLayerContentChanged_eq_false (hok.notBackground c hc)]
    rintro ⟨-, ⟨h1, h2⟩ | ⟨h1, h2, h3⟩⟩
    · exact hclear ⟨h2, h1⟩
    · rcases hdiff with hd | hd | hd
      · rw [samePtr_comm, h1] at hd; exact absurd hd (by decide)
      · exact hd h2.symm
      · exact hd h3.symm
  have htr := h.tracks hr hc
  cases hpf : rgzFindLayer r.prevFbState c.identity with
  | none =>
    rw [hpf] at htr
    rw [show c.dirtyCount = rgzNumFb from htr]
    decide
  | some q =>
    rw [hpf] at htr
    obtain ⟨hq, hqid⟩ := hr.prev.mem_tail_of_find hpf
    by_cases hcq : rgzHasLayerContentChanged c q = true
    · rw [htr.1 hcq]; decide
    · -- the change happened in the previous frame, whose counter was full
      have hqt : rgzHasLayerContentChanged q t = true := by
        by_contra hqt
        rw [content_unchanged_trans hok hr.prev hr.target hc hq ht (by simpa using hcq)
          (by simpa using hqt)] at hchanged
        exact absurd hchanged (by decide)
      have hfull := hb q hq t ht (hid.trans hqid.symm) hqt
      have := htr.2
      rw [hfull] at this
      simp only [rgzNumFb] at this
      omega

end FrameStep

end

end Step

/-- **Everything that changed is redrawn**, in every frame of every run in which no layer comes
back at another place: the damaged area covers all differences in position to the target
frame, and every layer with other contents is dirty. -/
theorem frame_changes_redrawn {r r' : Rgz} {p : RgzInParams} (hr : RgzReachable r)
    (hstep : AcceptedFrame r p r') (hret : ReturnsInPlace r p) :
    DamageCovers p.dstgeom r.targetFbState r'.curFbState r'.damagedArea ∧
      ContentDirty r.targetFbState r'.curFbState := by
  obtain ⟨layers, h⟩ := hstep.step
  have hok := ringOk_of_reachable hr
  exact ⟨h.damageCovers hok hret, h.contentDirty hok (countsBehind_of_reachable hr)⟩

/-- The state after a run of lists from a zeroed regionizer. -/
def rgzRun (ps : List RgzInParams) : Rgz :=
  ps.foldl (fun r p => (rgzIn .hwc p r).2) Rgz.zero

/-- The run of `rgzRun`, when every list of it is accepted; `Q` is what else is known of the
lists. -/
lemma rgzRun_reachable_with {Q : RgzInParams → Prop} (ps : List RgzInParams)
    (hd : ∀ p ∈ ps, DistinctIds p ∧ Q p)
    (hacc : ∀ k < ps.length, ∀ p ∈ ps[k]?, (rgzIn .hwc p (rgzRun (ps.take k))).1 = rgzAll) :
    Reachable (· = Rgz.zero) (fun r p r' => AcceptedFrame r p r' ∧ Q p) (rgzRun ps) := by
  induction ps using reverseRecOn with
  | nil => exact .start rfl
  | append_singleton ps p ih =>
    have hlast := hacc ps.length (by simp) p (by simp)
    rw [take_left' rfl] at hlast
    obtain ⟨hdp, hq⟩ := hd p (by simp)
    have hprev := ih (fun q hq => hd q (by simp [hq])) fun k hk q hq => by
      have := hacc k (by simp; omega) q (by rwa [getElem?_append_left hk])
      rwa [take_append_of_le_length hk.le] at this
    refine .next hprev (i := p) ⟨⟨hdp, ?_⟩, hq⟩
    have hrun : rgzRun (ps ++ [p]) = (rgzIn .hwc p (rgzRun ps)).2 := by simp [rgzRun]
    rw [hrun]
    exact Prod.ext hlast rfl

lemma rgzRun_reachable (ps : List RgzInParams) (hd : ∀ p ∈ ps, DistinctIds p)
    (hacc : ∀ k < ps.length, ∀ p ∈ ps[k]?, (rgzIn .hwc p (rgzRun (ps.take k))).1 = rgzAll) :
    RgzReachable (rgzRun ps) :=
  Reachable.mono (fun _ h => h) (fun _ _ _ h => h.1)
    (rgzRun_reachable_with (Q := fun _ => True) ps (fun p hp => ⟨hd p hp, trivial⟩) hacc)

/-- A layer at the top left and one at the bottom right. -/
def sampleApart : RgzInParams :=
  sampleParams [sampleLayer 1 ⟨0, 0, 1, 1⟩ .none, sampleLayer 2 ⟨3, 3, 4, 4⟩ .none]

/-- The second layer alone. -/
def sampleAlone : RgzInParams := sampleParams [sampleLayer 2 ⟨3, 3, 4, 4⟩ .none]

/-- The first layer again, two pixels to the right. -/
def sampleShifted : RgzInParams :=
  sampleParams [sampleLayer 1 ⟨2, 0, 3, 1⟩ .none, sampleLayer 2 ⟨3, 3, 4, 4⟩ .none]

/-- When the first layer is gone for one frame and then back at another place, its old
rectangle is still on the framebuffer drawn over but not in the damaged area. -/
theorem returning_layer_not_covered : RgzReachable (rgzRun [sampleApart, sampleAlone]) ∧
      AcceptedFrame (rgzRun [sampleApart, sampleAlone]) sampleShifted
        (rgzRun [sampleApart, sampleAlone, sampleShifted]) ∧
      ¬ DamageCovers sampleShifted.dstgeom (rgzRun [sampleApart, sampleAlone]).targetFbState
        (rgzRun [sampleApart, sampleAlone, sampleShifted]).curFbState
        (rgzRun [sampleApart, sampleAlone, sampleShifted]).damagedArea := by
  refine ⟨rgzRun_reachable _ ?_ ?_, ⟨?_, Prod.ext ?_ rfl⟩, fun h => ?_⟩
  · intro p hp layers hl
    simp only [mem_cons, not_mem_nil, or_false] at hp
    rcases hp with rfl | rfl <;> cases hl <;> decide
  · decide
  · intro layers hl
    cases hl
    decide
  · decide
  · have hold := (h.moved { rgzEntry 0 (sampleLayer 1 ⟨0, 0, 1, 1⟩ .none) with dirtyCount := 2 }
      (by decide) { rgzEntry 0 (sampleLayer 1 ⟨2, 0, 3, 1⟩ .none) with dirtyCount := 2 }
      (by decide) rfl (by decide)).1 ⟨0, 0⟩ (by decide) (by decide)
    exact absurd hold (by decide)

theorem moved_layer_redrawn :
    (rgzRun [sampleApart, sampleApart, sampleShifted]).damagedArea.Contains ⟨0, 0⟩ := by
  have hreach : RgzReachable (rgzRun [sampleApart, sampleApart]) := by
    refine rgzRun_reachable _ ?_ (by decide)
    intro p hp layers hl
    simp only [mem_cons, not_mem_nil, or_false, or_self] at hp
    subst hp
    cases hl
    decide
  have hstep : AcceptedFrame (rgzRun [sampleApart, sampleApart]) sampleShifted
      (rgzRun [sampleApart, sampleApart, sampleShifted]) := by
    refine ⟨?_, Prod.ext (by decide) rfl⟩
    intro layers hl
    cases hl
    decide
  refine ((frame_changes_redrawn hreach hstep ?_).1.moved
    { rgzEntry 0 (sampleLayer 1 ⟨0, 0, 1, 1⟩ .none) with dirtyCount := 2 } (by decide)
    { rgzEntry 0 (sampleLayer 1 ⟨2, 0, 3, 1⟩ .none) with dirtyCount := 2 } (by decide)
    rfl (by decide)).1 ⟨0, 0⟩ (by decide) (by decide)
  intro layers hl
  cases hl
  decide

end Solana
