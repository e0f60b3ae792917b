import Solana.Rgz.Picture

/-!
# Skipped subregions

The region output draws nothing in a subregion that is not dirty, and relies on the framebuffer
already showing the right thing there.  What it shows is the target frame, so a skipped
subregion must have the same visible stack in both frames: the layers from the topmost opaque
one up, with their blending and with which of them are holes.

When layers keep their place and their buffer, additions and removals are damage, and a layer
that turns into a hole or back is dirty.  Two changes leave no trace: the order of the list and
the blending of a layer.  `reordered_frame_skipped` is a run in which the framebuffer keeps the
old order; `skipped_subregion_current` is the result for frames that keep both with respect to
the target.
-/

namespace Solana

open Runs Cells RgzLayer BufferHandle List

/-! ## The visible end of a stack -/

section Topmost

variable {α β : Type*}

/-- The end of a list from its last element with `p` on; the whole list if there is none. -/
def fromTopmost (p : α → Bool) : List α → List α
  | [] => []
  | x :: xs => if xs.any p then fromTopmost p xs else x :: xs

lemma fromTopmost_append {p : α → Bool} {x : α} {rest : List α} (hx : p x = true)
    (hrest : ∀ y ∈ rest, p y = false) : ∀ pre : List α, fromTopmost p (pre ++ x :: rest) = x :: rest
  | [] => by
    rw [nil_append, fromTopmost, if_neg]
    simp only [any_eq_true, not_exists, not_and, Bool.not_eq_true]
    exact hrest
  | y :: pre => by
    rw [cons_append, fromTopmost, if_pos (by simp [hx])]
    exact fromTopmost_append hx hrest pre

lemma map_fromTopmost (p : β → Bool) (f : α → β) : ∀ xs : List α,
    (fromTopmost (fun x => p (f x)) xs).map f = fromTopmost p (xs.map f)
  | [] => rfl
  | x :: xs => by
    have hany : (xs.map f).any p = xs.any fun x => p (f x) := any_map
    rw [map_cons, fromTopmost, fromTopmost, hany]
    split_ifs
    · exact map_fromTopmost p f xs
    · rfl

end Topmost

/-- A layer that shows nothing of what is below it: it is not blended, or its format has no
alpha. -/
def RgzLayer.hidesBelow (l : RgzLayer) : Bool :=
  decide (l.hwcLayer.blending ≠ .premult) ||
    match l.hwcLayer.handle.deref with
    | some handle => handle.iFormat.isOpaque
    | none => false

lemma hidesBelow_of_stopsDescent {l : RgzLayer} {b : Bool} (h : stopsDescent l = .ok b) :
    l.hidesBelow = b := by
  unfold stopsDescent at h
  unfold hidesBelow
  split_ifs at h with hb
  · simpa [hb] using h
  · cases hd : l.hwcLayer.handle.deref with
    | none => simp [hd] at h
    | some n => simpa [hd, hb] using h

/-- What the framebuffer shows of a layer, apart from its contents. -/
def RgzLayer.shown (l : RgzLayer) : Nat × Blending × Bool :=
  (l.identity, l.hwcLayer.blending, decide (l.buffidx = rgzClearhintBuffidx))

/-- The layers of a frame, without the background, whose rectangle contains the pixel. -/
def coveringLayers (px : Pixel) (fb : List RgzLayer) : List RgzLayer :=
  fb.tail.filter fun l => l.frame.Contains px

/-- The visible stack of a frame at a pixel, bottom to top. -/
def visibleStack (px : Pixel) (fb : List RgzLayer) : List (Nat × Blending × Bool) :=
  (fromTopmost RgzLayer.hidesBelow (coveringLayers px fb)).map RgzLayer.shown

/-- Two frames have the same visible stack when the visible layers of one are matched by the
end of the other's covering layers. -/
lemma visibleStack_eq {px : Pixel} {fb fb' pre pre' vis vis' : List RgzLayer}
    (h : coveringLayers px fb = pre ++ vis) (h' : coveringLayers px fb' = pre' ++ vis')
    (hmatch : vis.map (fun l => (l.shown, l.hidesBelow)) =
      vis'.map fun l => (l.shown, l.hidesBelow)) (hlen : pre.length = pre'.length)
    (htop : (pre' = [] ∧ ∀ l ∈ vis', l.hidesBelow = false) ∨
      ∃ x xs, vis' = x :: xs ∧ x.hidesBelow = true ∧ ∀ l ∈ xs, l.hidesBelow = false) :
    visibleStack px fb = visibleStack px fb' := by
  -- both are functions of what is shown and what is hidden
  have key : ∀ {fb pre vis : List RgzLayer}, coveringLayers px fb = pre ++ vis →
      visibleStack px fb = (fromTopmost Prod.snd (pre.map (fun l => (l.shown, l.hidesBelow)) ++
        vis.map fun l => (l.shown, l.hidesBelow))).map Prod.fst := by
    intro fb pre vis hfb
    rw [visibleStack, hfb, ← map_append, ← map_fromTopmost, map_map]
    rfl
  rw [key h, key h', hmatch]
  rcases htop with ⟨rfl, hnone⟩ | ⟨x, xs, rfl, hx, hxs⟩
  · rw [length_eq_zero_iff.mp hlen]
  · have hrest : ∀ y ∈ xs.map (fun l => (l.shown, l.hidesBelow)), y.2 = false := by
      intro y hy
      obtain ⟨l, hl, rfl⟩ := mem_map.mp hy
      exact hxs l hl
    have htop' := fromTopmost_append (p := Prod.snd) (x := (x.shown, x.hidesBelow)) hx hrest
    rw [map_cons, htop', htop']

/-! ## A dirty subregion is drawn -/

section Dirty

variable {params : OutParams} {rect : Rect} {h : Hregion} {s : Nat}

/-- **Only a clean subregion is skipped**, and its descent succeeded. -/
lemma clean_of_skipped {damagedArea : Rect}
    (hr : rgzHwcSubregionBlit params h damagedArea .init s = .ok .init) :
    ∃ ops lix, getLayerOps h s = .ok (ops, some lix) ∧
      subregionDirty h s lix damagedArea = false := by
  have hnone : (rgzHwcSubregionBlit params h damagedArea .init s).map Blts.bvcmds = .ok [] := by
    rw [hr]
    rfl
  obtain ⟨fills, hplan, hnil⟩ :=
    (subregionBlit_oblivious params h damagedArea s).part hnone (by decide)
  cases hplan with
  | @clean ops lix hops hclean => exact ⟨ops, lix, hops, hclean⟩
  | clear _ _ _ _ => cases hnil
  | drawn _ _ hp => exact absurd hnil.symm (mt map_eq_nil_iff.mp hp.ne_nil)

/-- The dirty test looks at every layer from the one it starts with up. -/
lemma anyLayerDirty_eq_false : ∀ {fuel lix : Nat} {rest : List Nat},
    h.stackFrom s (lix + 1) = rest → rest.length < fuel → anyLayerDirty h s fuel lix = false →
    ∀ k ∈ lix :: rest, (h.layer k).dirtyCount = 0
  | fuel + 1, lix, rest, hst, hlen, hc => by
    rw [anyLayerDirty, Bool.or_eq_false_iff, getLayerOpsNext_eq, hst] at hc
    have hlix : (h.layer lix).dirtyCount = 0 := by simpa using hc.1
    intro k hk
    rcases mem_cons.mp hk with rfl | hk
    · exact hlix
    · cases rest with
      | nil => simp at hk
      | cons y rest =>
        exact anyLayerDirty_eq_false (stackFrom_cons hst).2.2.1 (by simpa using hlen)
          (by simpa using hc.2) k hk

end Dirty

/-- What the descent of a subregion says about the layers covering a pixel. -/
lemma Descent.visible {h : Hregion} {s ops lix : Nat} {rest : List Nat} {bg : RgzLayer}
    {covering : List RgzLayer} (hdesc : Descent h s ops lix rest)
    (hlayers : h.layersAt s = bg :: covering) (hbg : bg.hwcLayer.blending ≠ .premult) :
    ∃ pre vis, covering = pre ++ vis ∧ (∀ l ∈ vis, ∃ k ∈ lix :: rest, h.layer k = l) ∧
      ((pre = [] ∧ ∀ l ∈ vis, l.hidesBelow = false) ∨
        ∃ x xs, vis = x :: xs ∧ x.hidesBelow = true ∧ ∀ l ∈ xs, l.hidesBelow = false) := by
  obtain ⟨below, hbelow⟩ := stackFrom_split (s := s) (stackFrom_cons hdesc.stack).1.le
  rw [Hregion.layersAt, hbelow, hdesc.stack, map_append, map_cons] at hlayers
  have hrest : ∀ l ∈ rest.map h.layer, l.hidesBelow = false := by
    intro l hl
    obtain ⟨k, hk, rfl⟩ := mem_map.mp hl
    exact hidesBelow_of_stopsDescent (hdesc.blended k hk)
  have hmem : ∀ l ∈ rest.map h.layer, ∃ k ∈ lix :: rest, h.layer k = l := by
    intro l hl
    obtain ⟨k, hk, rfl⟩ := mem_map.mp hl
    exact ⟨k, mem_cons_of_mem _ hk, rfl⟩
  cases below with
  | nil =>
    -- the descent went down to the background
    obtain ⟨-, rfl⟩ := cons.inj hlayers
    exact ⟨[], _, rfl, hmem, Or.inl ⟨rfl, hrest⟩⟩
  | cons y below =>
    obtain ⟨hy, rfl⟩ := cons.inj hlayers
    have hstop : stopsDescent (h.layer lix) = .ok true := by
      refine hdesc.bottom.elim id fun hst => ?_
      rw [hbelow, hdesc.stack, cons_append] at hst
      obtain ⟨rfl, -⟩ := cons.inj hst
      rw [hy, stopsDescent, if_pos hbg]
    refine ⟨below.map h.layer, h.layer lix :: rest.map h.layer, rfl, fun l hl => ?_,
      Or.inr ⟨_, _, rfl, hidesBelow_of_stopsDescent hstop, hrest⟩⟩
    rcases mem_cons.mp hl with rfl | hl
    · exact ⟨lix, mem_cons_self, rfl⟩
    · exact hmem l hl

/-! ## Frames whose layers stay in place -/

section Steady

variable (frameOf : Nat → Rect) (bufOf : Nat → BufferHandle)

/-- Every layer of the list is at the place of its identity and shows the buffer of its
identity. -/
def StaysInPlace (p : RgzInParams) : Prop :=
  ∀ layers ∈ p.layers, ∀ e ∈ layers, e.isCandidate = true →
    e.layer.displayFrame = frameOf e.identity ∧ e.layer.handle = bufOf e.identity

/-- An accepted frame whose layers stay in place. -/
def SteadyFrame (r : Rgz) (p : RgzInParams) (r' : Rgz) : Prop :=
  AcceptedFrame r p r' ∧ StaysInPlace frameOf bufOf p

/-- What is left of that in a stored frame, where a hole has lost its buffer. -/
structure Steady (fb : List RgzLayer) : Prop where
  frame : ∀ l ∈ fb.tail, l.frame = frameOf l.identity
  buffer : ∀ l ∈ fb.tail, l.hwcLayer.handle = .dummy ∨ l.hwcLayer.handle = bufOf l.identity

variable {frameOf bufOf} {r r' : Rgz} {p : RgzInParams}

lemma SteadyFrame.steady (h : SteadyFrame frameOf bufOf r p r') :
    Steady frameOf bufOf r'.curFbState := by
  obtain ⟨layers, hs⟩ := h.1.step
  have hcand : ∀ l ∈ r'.curFbState.tail, l.frame = frameOf l.identity ∧
      (l.hwcLayer.handle = .dummy ∨ l.hwcLayer.handle = bufOf l.identity) := by
    intro l hl
    obtain ⟨e, he, k, hc, hcore⟩ := hs.exists_candidate hl
    obtain ⟨hframe, hbuf⟩ := h.2 layers hs.input e he hc
    obtain ⟨h1, h2, -⟩ := core_eq_iff.mp hcore
    rw [frame_eq_of_core hcore, h2, h1, rgzEntry_frame, rgzEntry_identity]
    refine ⟨hframe, ?_⟩
    unfold rgzEntry
    split_ifs
    · exact Or.inr hbuf
    · exact Or.inl rfl
  exact ⟨fun l hl => (hcand l hl).1, fun l hl => (hcand l hl).2⟩

lemma steady_of_reachable (h : Reachable (· = Rgz.zero) (SteadyFrame frameOf bufOf) r) :
    Steady frameOf bufOf r.prevFbState ∧ Steady frameOf bufOf r.targetFbState := by
  refine Reachable.invariant (fun r => Steady frameOf bufOf r.prevFbState ∧
    Steady frameOf bufOf r.targetFbState) ?_ ?_ h
  · have hnil : Steady frameOf bufOf [] := ⟨by simp, by simp⟩
    rintro _ rfl
    exact ⟨hnil, hnil⟩
  · intro r p r' hr hstep
    obtain ⟨layers, hs⟩ := hstep.1.step
    rw [hs.prev, hs.target]
    exact ⟨hstep.steady, hr.1⟩

/-- The list keeps, with respect to the target frame, the blending of every layer and the order
of the layers both have. -/
def KeepsStacking (r : Rgz) (p : RgzInParams) : Prop :=
  ∀ layers ∈ p.layers,
    (∀ e ∈ layers, e.isCandidate = true → ∀ t ∈ r.targetFbState.tail, t.identity = e.identity →
      t.hwcLayer.blending = e.layer.blending) ∧
    (r.targetFbState.tail.map RgzLayer.identity).filter
        (fun id => id ∈ (layers.filter ExtLayer.isCandidate).map ExtLayer.identity) =
      ((layers.filter ExtLayer.isCandidate).map ExtLayer.identity).filter
        (fun id => id ∈ r.targetFbState.tail.map RgzLayer.identity)

lemma FrameStep.cur_ids {layers : List ExtLayer} (h : FrameStep r p layers r') :
    r'.curFbState.tail.map identity =
      (layers.filter ExtLayer.isCandidate).map ExtLayer.identity := by
  have hmap := rgzAdvance_cur_map (p := p) r h.accepted
  have hcur : (rgzAdvance p.dstgeom (rgzCurLayers p layers) r).curFbState = r'.curFbState :=
    h.cur.symm
  rw [hcur] at hmap
  have hids := congrArg (fun xs => (xs.map Prod.fst).tail) hmap
  simpa [Function.comp_def, map_tail] using hids

/-- In a steady frame the identities of the layers covering a pixel are picked by identity. -/
lemma Steady.covering_ids {fb : List RgzLayer} (h : Steady frameOf bufOf fb) (px : Pixel) :
    (coveringLayers px fb).map identity =
      (fb.tail.map identity).filter fun id => (frameOf id).Contains px := by
  rw [coveringLayers, filter_map]
  congr 1
  refine filter_congr fun l hl => ?_
  rw [Function.comp_apply, h.frame l hl]

/-- Two lists whose common elements come in the same order agree on any selection of common
elements. -/
lemma filter_eq_of_common {as bs : List Nat} {Q : Nat → Bool}
    (horder : as.filter (fun x => x ∈ bs) = bs.filter fun x => x ∈ as)
    (ha : ∀ x ∈ as, Q x = true → x ∈ bs) (hb : ∀ x ∈ bs, Q x = true → x ∈ as) :
    as.filter Q = bs.filter Q := by
  have hsel : ∀ {xs ys : List Nat}, (∀ x ∈ xs, Q x = true → x ∈ ys) →
      xs.filter Q = (xs.filter fun x => x ∈ ys).filter Q := by
    intro xs ys hx
    rw [filter_filter]
    refine filter_congr fun x hm => ?_
    cases hq : Q x with
    | false => simp
    | true => simp [hx x hm hq]
  rw [hsel ha, hsel hb, horder]

section Skipped

variable {layers : List ExtLayer} {px : Pixel}

/-- Outside the damaged area the target frame and the current one have the same layers in the
same order. -/
lemma FrameStep.covering_ids_eq (h : FrameStep r p layers r') (hT : Steady frameOf bufOf
      r.targetFbState) (hC : Steady frameOf bufOf r'.curFbState)
    (hdmg : DamageCovers p.dstgeom r.targetFbState r'.curFbState r'.damagedArea)
    (hkeep : KeepsStacking r p) (hpx : p.dstgeom.rect.Contains px)
    (hout : ¬ r'.damagedArea.Contains px) : (coveringLayers px r.targetFbState).map identity =
      (coveringLayers px r'.curFbState).map identity := by
  rw [hT.covering_ids, hC.covering_ids, h.cur_ids]
  refine filter_eq_of_common (hkeep layers h.input).2 ?_ ?_
  · intro id hid hin
    obtain ⟨t, ht, rfl⟩ := mem_map.mp hid
    rw [← h.cur_ids]
    by_contra hno
    refine hout (hdmg.gone t ht (fun c hc he => hno ?_) px hpx ?_)
    · exact mem_map.mpr ⟨c, hc, he⟩
    · rw [hT.frame t ht]; exact of_decide_eq_true hin
  · intro id hid hin
    rw [← h.cur_ids] at hid
    obtain ⟨c, hc, rfl⟩ := mem_map.mp hid
    by_contra hno
    refine hout (hdmg.new c hc (fun t ht he => hno ?_) px hpx ?_)
    · exact mem_map.mpr ⟨t, ht, he⟩
    · rw [hC.frame c hc]; exact of_decide_eq_true hin

section

variable (h : FrameStep r p layers r') (hr : RingOk r) (hT : Steady frameOf bufOf r.targetFbState)
  (hC : Steady frameOf bufOf r'.curFbState) (hcd : ContentDirty r.targetFbState r'.curFbState)
  (hkeep : KeepsStacking r p)
include h hr hT hC hcd hkeep

lemma FrameStep.shown_eq {t c : RgzLayer} (ht : t ∈ r.targetFbState.tail)
    (hc : c ∈ r'.curFbState.tail) (hid : t.identity = c.identity) (hclean : c.dirtyCount = 0) :
    t.shown = c.shown ∧ t.hidesBelow = c.hidesBelow := by
  have hct := hr.target.clearhint t ht
  have hcc := (h.cur_ok hr).clearhint c hc
  have hblend : t.hwcLayer.blending = c.hwcLayer.blending := by
    obtain ⟨e, he, k, hcand, hcore⟩ := h.exists_candidate hc
    obtain ⟨h1, h2, -⟩ := core_eq_iff.mp hcore
    have hide : c.identity = e.identity := by rw [h2, rgzEntry_identity]
    rw [(hkeep layers h.input).1 e he hcand t ht (hid.trans hide), h1]
    unfold rgzEntry
    split_ifs <;> rfl
  have hhandle : t.hwcLayer.handle = c.hwcLayer.handle := by
    by_cases hboth : t.buffidx = rgzClearhintBuffidx ∧ c.buffidx = rgzClearhintBuffidx
    · rw [hct.mp hboth.1, hcc.mp hboth.2]
    · -- a clean layer that is not a hole in both frames has kept its handle
      have hsame : t.hwcLayer.handle.samePtr c.hwcLayer.handle = true := by
        by_contra hne
        have := hcd t ht c hc hid (Or.inl (by simpa using hne)) hboth
        omega
      rcases hT.buffer t ht with htd | htb
      · rw [htd, samePtr_comm, samePtr_dummy_iff] at hsame
        rw [htd, hsame]
      · rcases hC.buffer c hc with hcd' | hcb
        · rw [hcd', samePtr_dummy_iff] at hsame
          rw [hsame, hcd']
        · rw [htb, hcb, hid]
  refine ⟨?_, ?_⟩
  · simp only [shown, hid, hblend, hct, hcc, hhandle]
  · simp only [hidesBelow, hblend, hhandle]

lemma FrameStep.map_shown_eq {ts cs : List RgzLayer} (ht : ∀ t ∈ ts, t ∈ r.targetFbState.tail)
    (hc : ∀ c ∈ cs, c ∈ r'.curFbState.tail) (hclean : ∀ c ∈ cs, c.dirtyCount = 0)
    (hids : ts.map identity = cs.map identity) :
    ts.map (fun l => (l.shown, l.hidesBelow)) = cs.map fun l => (l.shown, l.hidesBelow) := by
  induction cs generalizing ts with
  | nil => rw [map_eq_nil_iff.mp hids]
  | cons c cs ih =>
    obtain ⟨t, ts', rfl, hid, hrest⟩ := map_eq_cons_iff.mp hids
    rw [forall_mem_cons] at ht hc hclean
    obtain ⟨hshown, hhides⟩ := h.shown_eq hr hT hC hcd hkeep ht.1 hc.1 hid hclean.1
    rw [map_cons, map_cons, hshown, hhides, ih ht.2 hc.2 hclean.2 hrest]

end

/-- Around a pixel of a skipped subregion nothing is damaged, and the layers that are visible at
the pixel are clean. -/
lemma visible_clean_of_skipped {params : OutParams} (hstep : rgzIn .hwc p r = (rgzAll, r'))
    (hbg : p.bgLayer = screenBgLayer p.dstgeom.width p.dstgeom.height)
    (hpx : p.dstgeom.rect.Contains px) {i s : Nat} {h : Hregion}
    (hin : r'.InSubregion i s px) (hi : r'.hregions[i]? = some h)
    (hskip : rgzHwcSubregionBlit params h r'.damagedArea .init s = .ok .init) :
    ¬ r'.damagedArea.Contains px ∧
    ∃ pre vis, coveringLayers px r'.curFbState = pre ++ vis ∧ (∀ l ∈ vis, l.dirtyCount = 0) ∧
      ((pre = [] ∧ ∀ l ∈ vis, l.hidesBelow = false) ∨
        ∃ x xs, vis = x :: xs ∧ x.hidesBelow = true ∧ ∀ l ∈ xs, l.hidesBelow = false) := by
  -- the subregion around the pixel
  obtain ⟨_, bg, tail, -, hframe⟩ := exists_regionizedFrame hstep hbg
  have hbm : bg ∈ bg :: tail := mem_cons_self
  obtain ⟨c, e, hcell⟩ := (inSubregion_iff hframe.regions hbm hframe.screen hpx).mp hin
  rw [hframe.regions, hregionsOf_getElem? hbm hframe.screen, hcell.row] at hi
  have hlayers := hcell.layersAt_eq hbm hframe.screen hpx
  rw [filter_cons_of_pos (by rw [hframe.screen]; exact decide_eq_true hpx)] at hlayers
  have hR : UniformRect (rgzGenBlitregions r'.damagedArea ⟨0, c.1, p.dstgeom.width, c.2⟩
      (bandLayers p.dstgeom (bg :: tail) c) p.dstgeom.width) s ⟨e.1, c.1, e.2, c.2⟩ :=
    gen_uniformRect hcell.column
  rw [Option.map_some, Option.some.injEq] at hi
  rw [hi] at hlayers hR
  have htail : r'.curFbState.tail = tail := by rw [hframe.cur]; rfl
  -- it is clean
  obtain ⟨ops, lix, hops, hclean⟩ := clean_of_skipped hskip
  obtain ⟨rest, hdesc⟩ := getLayerOps_spec hops
  rw [subregionDirty, Bool.or_eq_false_iff] at hclean
  obtain ⟨hlt, hne, habove, -⟩ := stackFrom_cons hdesc.stack
  have hfuel : rest.length < h.rgzLayers.length := by
    have := length_stackFrom_le (h := h) (s := s) lix
    rw [hdesc.stack] at this
    exact this
  have hdirty := anyLayerDirty_eq_false habove hfuel hclean.2
  obtain ⟨pre, vis, hcov, hvis, htop⟩ := hdesc.visible hlayers hframe.backgroundOpaque
  refine ⟨fun hd => ?_, pre, vis, by rw [← hcov, coveringLayers, htail], fun l hl => ?_, htop⟩
  · have hcont : (h.blitrect lix s).Contains px := by
      rw [hR lix hne]
      exact ⟨hcell.inColumn.1, hcell.inColumn.2, hcell.inRow.1, hcell.inRow.2⟩
    rw [rectIntersects_of_contains hd hcont] at hclean
    exact absurd hclean.1 (by decide)
  · obtain ⟨m, hm, rfl⟩ := hvis l hl
    exact hdirty m hm

end Skipped

end Steady

/-- **A skipped subregion is current.**  In every run of lists whose layers keep their place
and their buffer, take a frame that keeps the blending and the order of the layers it shares
with its target, and a screen pixel in a subregion for which the region output generates no
blit.  Then the visible stack at the pixel is the same in the target frame as in the new one. -/
theorem skipped_subregion_current {frameOf : Nat → Rect} {bufOf : Nat → BufferHandle}
    {r r' : Rgz} {p : RgzInParams} {params : OutParams}
    (hr : Reachable (· = Rgz.zero) (SteadyFrame frameOf bufOf) r)
    (hstep : SteadyFrame frameOf bufOf r p r')
    (hbg : p.bgLayer = screenBgLayer p.dstgeom.width p.dstgeom.height)
    (hkeep : KeepsStacking r p) {px : Pixel} (hpx : p.dstgeom.rect.Contains px)
    {i s : Nat} {h : Hregion} (hin : r'.InSubregion i s px) (hi : r'.hregions[i]? = some h)
    (hskip : rgzHwcSubregionBlit params h r'.damagedArea .init s = .ok .init) :
    visibleStack px r.targetFbState = visibleStack px r'.curFbState := by
  have hreach : RgzReachable r := Reachable.mono (fun _ h => h) (fun _ _ _ h => h.1) hr
  have hring := ringOk_of_reachable hreach
  have hT := (steady_of_reachable hr).2
  have hC := hstep.steady
  obtain ⟨layers, hs⟩ := hstep.1.step
  have hret : ReturnsInPlace r p := by
    intro layers' hl e he hc _ t ht hid
    rw [hT.frame t ht, (hstep.2 layers' hl e he hc).1, hid]
  have hdmg := hs.damageCovers hring hret
  have hcd := hs.contentDirty hring (countsBehind_of_reachable hreach)
  obtain ⟨hout, pre, vis, hcov, hclean, htop⟩ :=
    visible_clean_of_skipped hstep.1.2 hbg hpx hin hi hskip
  -- the layers of the target frame, split below the visible ones too
  have hids := hs.covering_ids_eq hT hC hdmg hkeep hpx hout
  rw [hcov, map_append] at hids
  obtain ⟨preT, visT, hcovT, hpre, hvisT⟩ := map_eq_append_iff.mp hids
  have hmemT : ∀ t ∈ visT, t ∈ r.targetFbState.tail := by
    intro t ht
    have : t ∈ coveringLayers px r.targetFbState := by
      rw [hcovT]; exact mem_append_right _ ht
    exact mem_of_mem_filter this
  have hmemC : ∀ l ∈ vis, l ∈ r'.curFbState.tail := by
    intro l hl
    have : l ∈ coveringLayers px r'.curFbState := by
      rw [hcov]; exact mem_append_right _ hl
    exact mem_of_mem_filter this
  have hmatch := hs.map_shown_eq hring hT hC hcd hkeep hmemT hmemC hclean hvisT
  exact visibleStack_eq hcovT hcov hmatch (by simpa using congrArg length hpre) htop

/-! ### Two opaque layers that change places -/

/-- Two overlapping opaque layers. -/
def sampleStacked : RgzInParams :=
  sampleParams [sampleLayer 1 ⟨0, 0, 3, 3⟩ .none, sampleLayer 2 ⟨1, 1, 4, 4⟩ .none]

/-- The same layers in the other order. -/
def sampleSwapped : RgzInParams :=
  sampleParams [sampleLayer 2 ⟨1, 1, 4, 4⟩ .none, sampleLayer 1 ⟨0, 0, 3, 3⟩ .none]

/-- The places of the two layers. -/
def sampleFrameOf (id : Nat) : Rect := if id = 1 then ⟨0, 0, 3, 3⟩ else ⟨1, 1, 4, 4⟩

/-- The buffers of the sample layers. -/
def sampleBufOf (id : Nat) : BufferHandle := .native ⟨id, 4, 4, .rgba8888, false, false⟩

lemma sampleStacked_steady : DistinctIds sampleStacked ∧
    StaysInPlace sampleFrameOf sampleBufOf sampleStacked := by
  constructor <;> (intro layers hl; cases hl; decide)

lemma sampleSwapped_steady : DistinctIds sampleSwapped ∧
    StaysInPlace sampleFrameOf sampleBufOf sampleSwapped := by
  constructor <;> (intro layers hl; cases hl; decide)

lemma sampleStacked_reachable : Reachable (· = Rgz.zero) (SteadyFrame sampleFrameOf sampleBufOf)
    (rgzRun [sampleStacked, sampleStacked]) := by
  refine rgzRun_reachable_with _ (fun p hp => ?_) (by decide)
  simp only [mem_cons, not_mem_nil, or_false, or_self] at hp
  rw [hp]
  exact sampleStacked_steady

lemma exists_of_any {α : Type} {P : α → Prop} [DecidablePred P] {o : Option α}
    (h : o.any (fun x => decide (P x)) = true) : ∃ x, o = some x ∧ P x := by
  obtain ⟨x, hx, hp⟩ := (Option.any_eq_true _ _).mp h
  exact ⟨x, hx, of_decide_eq_true hp⟩

/-- After the two layers have been shown twice and then change places, the subregion of their
overlap is skipped, with the other layer on top of the framebuffer. -/
theorem reordered_frame_skipped : Reachable (· = Rgz.zero) (SteadyFrame sampleFrameOf sampleBufOf)
      (rgzRun [sampleStacked, sampleStacked]) ∧
    SteadyFrame sampleFrameOf sampleBufOf (rgzRun [sampleStacked, sampleStacked]) sampleSwapped
      (rgzRun [sampleStacked, sampleStacked, sampleSwapped]) ∧
    (rgzRun [sampleStacked, sampleStacked, sampleSwapped]).InSubregion 1 1 ⟨2, 2⟩ ∧
    (∃ h, (rgzRun [sampleStacked, sampleStacked, sampleSwapped]).hregions[1]? = some h ∧
      rgzHwcSubregionBlit ⟨sampleSwapped.dstgeom, false⟩ h
        (rgzRun [sampleStacked, sampleStacked, sampleSwapped]).damagedArea .init 1 = .ok .init) ∧
    visibleStack ⟨2, 2⟩ (rgzRun [sampleStacked, sampleStacked]).targetFbState ≠
      visibleStack ⟨2, 2⟩ (rgzRun [sampleStacked, sampleStacked, sampleSwapped]).curFbState := by
  refine ⟨sampleStacked_reachable, ⟨⟨sampleSwapped_steady.1, Prod.ext (by decide) rfl⟩,
    sampleSwapped_steady.2⟩, ?_, ?_, by decide⟩
  · obtain ⟨h, hh, hs, hc⟩ := exists_of_any (by decide +kernel : (rgzRun
      [sampleStacked, sampleStacked, sampleSwapped]).hregions[1]?.any (fun h =>
        1 < h.nsubregions ∧ 0 < h.rgzLayers.length ∧ (h.blitrect 0 1).Contains ⟨2, 2⟩) = true)
    exact ⟨h, hh, hs, 0, hc⟩
  · exact exists_of_any (by decide +kernel)

theorem unchanged_frame_current :
    visibleStack ⟨2, 2⟩ (rgzRun [sampleStacked, sampleStacked]).targetFbState =
      visibleStack ⟨2, 2⟩ (rgzRun [sampleStacked, sampleStacked, sampleStacked]).curFbState := by
  have hstep : SteadyFrame sampleFrameOf sampleBufOf (rgzRun [sampleStacked, sampleStacked])
      sampleStacked (rgzRun [sampleStacked, sampleStacked, sampleStacked]) :=
    ⟨⟨sampleStacked_steady.1, Prod.ext (by decide) rfl⟩, sampleStacked_steady.2⟩
  have hkeep : KeepsStacking (rgzRun [sampleStacked, sampleStacked]) sampleStacked := by
    intro layers hl
    cases hl
    decide
  obtain ⟨h, hh, hskip, hs, hc⟩ := exists_of_any (by decide +kernel : (rgzRun
    [sampleStacked, sampleStacked, sampleStacked]).hregions[1]?.any (fun h =>
      rgzHwcSubregionBlit ⟨sampleStacked.dstgeom, false⟩ h
        (rgzRun [sampleStacked, sampleStacked, sampleStacked]).damagedArea .init 1 = .ok .init ∧
      1 < h.nsubregions ∧ 0 < h.rgzLayers.length ∧ (h.blitrect 0 1).Contains ⟨2, 2⟩) = true)
  exact skipped_subregion_current sampleStacked_reachable hstep rfl hkeep (by decide)
    ⟨h, hh, hs, 0, hc⟩ hh hskip

end Solana
