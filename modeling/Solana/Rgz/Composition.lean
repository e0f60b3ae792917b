import Solana.Rgz.Execution
import Solana.Rgz.Damage

/-!
# What a subregion draws

`rgz_out_bvcmd_paint` is the plain meaning of a layer list: clear the screen, then draw every
layer in order.  `rgz_out_region` reaches the same picture with fewer blits: per subregion it
starts at the topmost layer that hides what is below, drops a background or clear-hint layer
at the bottom, turns the lowest drawn layer into a copy, and fuses the two lowest layers into
one blit.

Both are compared with `paint` of the layers that contain the pixel.  `layerDraw` is the step
of one layer, and `SubregionPlan.exec` says what the blits of a subregion draw.
-/

namespace Solana

open Compositing List

/-! ## The step of one layer -/

section Draws

variable {α : Type*} [Monoid α] (sample : Int → Pixel → α) (px : Pixel)

/-- What drawing a layer does at a pixel it covers: the background and clear-hint layers make
it transparent, a blended layer goes over what is there, another replaces it. -/
def layerDraw (noblend : Bool) (l : RgzLayer) : Draw α :=
  if l.buffidx = rgzBackgroundBuffidx ∨ l.buffidx = rgzClearhintBuffidx then .put 1
  else if !noblend ∧ l.hwcLayer.blending = .premult then .over (layerValue sample px l)
  else .put (layerValue sample px l)

/-- What is assumed of a layer: the background and clear-hint layers carry the dummy handle,
and a layer of an opaque format hides what is below it. -/
structure LayerOk (l : RgzLayer) : Prop where
  dummy : l.buffidx = rgzBackgroundBuffidx ∨ l.buffidx = rgzClearhintBuffidx →
    l.hwcLayer.handle = .dummy
  opaque_absorbs : ∀ n, l.hwcLayer.handle = .native n → n.iFormat.isOpaque = true →
    Absorbs (layerValue sample px l)

variable {sample px}

section

variable {l : RgzLayer} (hok : LayerOk sample px l) (h : stopsDescent l = .ok false)
include hok h

/-- A layer the descent passed is a blended one with a buffer. -/
lemma blended_of_descent : l.hwcLayer.blending = .premult ∧
      ¬ (l.buffidx = rgzBackgroundBuffidx ∨ l.buffidx = rgzClearhintBuffidx) := by
  unfold stopsDescent at h
  split_ifs at h with hb
  · simp at h
  · refine ⟨not_not.mp hb, fun hs => ?_⟩
    simp [hok.dummy hs, BufferHandle.deref] at h

lemma layerDraw_of_blended (noblend : Bool) : layerDraw sample px noblend l =
      if noblend then .put (layerValue sample px l) else .over (layerValue sample px l) := by
  obtain ⟨hp, hns⟩ := blended_of_descent hok h
  cases noblend <;> simp [layerDraw, hns, hp]

lemma layerDraw_apply_one (noblend : Bool) :
    (layerDraw sample px noblend l).apply 1 = layerValue sample px l := by
  rw [layerDraw_of_blended hok h]
  cases noblend <;> simp

end

section

variable {l : RgzLayer} (hok : LayerOk sample px l) (h : stopsDescent l = .ok true)
include hok h

/-- The layer the descent stopped at makes what is below it irrelevant. -/
lemma layerDraw_resets (noblend : Bool) : Resets (layerDraw sample px noblend l) := by
  unfold layerDraw
  split_ifs with hs hb
  · exact resets_put _
  · -- a blended layer stops the descent only if its format is opaque
    refine resets_over ?_
    unfold stopsDescent at h
    rw [if_neg (by simp [hb.2])] at h
    cases hd : l.hwcLayer.handle.deref with
    | none => simp [hd] at h
    | some n => exact hok.opaque_absorbs n (deref_eq_some hd) (by simpa [hd] using h)
  · exact resets_put _

/-- A layer with a buffer at which the descent stopped shows its own value. -/
lemma layerDraw_apply_of_stops
    (hs : ¬ (l.buffidx = rgzBackgroundBuffidx ∨ l.buffidx = rgzClearhintBuffidx)) (noblend : Bool)
    (d : α) : (layerDraw sample px noblend l).apply d = layerValue sample px l := by
  rw [layerDraw_resets hok h noblend d 1, layerDraw, if_neg hs]
  split_ifs <;> simp

end

/-! ## What the slots draw -/

variable {params : OutParams} {rect : Rect} (hrect : (clipToScreen params.dstgeom rect).Ordered)

include hrect in
lemma restFills_exec {ls : List RgzLayer} {st : BlendState} (hls : ∀ l ∈ ls, l.Readable) (d : α) :
    execAll sample px (freshEntries (restFills params rect st ls)) d =
      if (clipToScreen params.dstgeom rect).Contains px then
        paint (ls.map fun l => .over (layerValue sample px l)) d else d := by
  induction ls generalizing st d with
  | nil => exact (ite_self d).symm
  | cons l ls ih =>
    obtain ⟨⟨handle, hh⟩, hls⟩ := forall_mem_cons.mp hls
    have hnext : (nextFill params rect st l .zero).exec sample px d =
        if (clipToScreen params.dstgeom rect).Contains px then layerValue sample px l * d
        else d := by
      rw [nextFill, hh]
      exact rgzBlendDst_exec sample px hrect l handle .zero d
    refine (ih hls _).trans ?_
    simp only [hnext]
    split_ifs <;> rfl

lemma batchFills_exec (first : BltEntry → BltEntry) (rest : List (BltEntry → BltEntry)) (d : α) :
    execAll sample px (freshEntries (batchFills first rest)) d =
      execAll sample px (freshEntries rest) ((first .zero).exec sample px d) := by
  rw [batchFills, freshEntries_modifyLast, execAll_modifyLast]
  · rfl
  · intro e d
    unfold closeBatch
    split_ifs <;> rfl

variable {h : Hregion} {s : Nat}

variable (sample px) in
/-- The value that a stack of layers gives to a pixel: the lowest one is copied, and the others are
drawn over it. -/
def stackValue (noblend : Bool) (h : Hregion) : List Nat → α
  | [] => 1
  | k :: ks => paint (ks.map fun k => layerDraw sample px noblend (h.layer k))
      (layerValue sample px (h.layer k))

/-- All non-empty entries of the subregion are the same rectangle. -/
def UniformRect (h : Hregion) (s : Nat) (rect : Rect) : Prop :=
  ∀ k, emptyRect (h.blitrect k s) = false → h.blitrect k s = rect

include hrect in
lemma StackPlan.exec {ks : List Nat} {fills : List (BltEntry → BltEntry)}
    (hp : StackPlan params h s ks fills) (hR : UniformRect h s rect)
    (hne : ∀ k ∈ ks, emptyRect (h.blitrect k s) = false)
    (hbl : ∀ k ∈ ks.tail, LayerOk sample px (h.layer k) ∧ stopsDescent (h.layer k) = .ok false)
    (d : α) : execAll sample px (freshEntries fills) d =
      if (clipToScreen params.dstgeom rect).Contains px then
        stackValue sample px params.noblend h ks else d := by
  have hmap : ks.tail.map (fun k => layerDraw sample px params.noblend (h.layer k)) =
      ks.tail.map fun k => if params.noblend then .put (layerValue sample px (h.layer k))
        else .over (layerValue sample px (h.layer k)) :=
    map_congr_left fun k hk => layerDraw_of_blended (hbl k hk).1 (hbl k hk).2 _
  cases hp with
  | @copy _ top handle hcopy htop hh =>
    rw [hR top (hne top (mem_of_getLast? htop))]
    refine (rgzCopyEntry_exec sample px hrect _ handle .zero d).trans ?_
    cases ks with
    | nil => cases htop
    | cons k ks =>
      rw [stackValue, ← @List.tail_cons _ k ks, hmap]
      rcases hcopy with hno | hone
      · simp only [hno, if_true, tail_cons]
        rw [paint_put_getLast (fun k => layerValue sample px (h.layer k)) htop]
      · obtain rfl := length_eq_zero_iff.mp (Nat.succ.inj hone)
        obtain rfl := Option.some.inj htop
        rfl
  | @fused m l _ handle handle' hblend _ _ _ hread =>
    rw [hR m (hne m mem_cons_self), batchFills_exec, rgzBlendTwo_exec _ _ hrect,
      restFills_exec hrect hread, stackValue]
    simp only [tail_cons, hblend, Bool.false_eq_true, if_false] at hmap
    rw [hblend, hmap, map_cons, paint_cons, Draw.apply_over, map_map]
    split_ifs <;> rfl
  | @copied m l _ handle hblend _ _ hread =>
    rw [hR m (hne m mem_cons_self), batchFills_exec, rgzCopyEntry_exec _ _ hrect,
      restFills_exec hrect hread, stackValue]
    simp only [tail_cons, hblend, Bool.false_eq_true, if_false] at hmap
    rw [hblend, hmap, map_map]
    split_ifs <;> rfl

/-- The subregion will be redrawn. -/
def SubregionDirty (h : Hregion) (s : Nat) (damagedArea : Rect) : Prop :=
  ∀ ops lix, getLayerOps h s = .ok (ops, some lix) → subregionDirty h s lix damagedArea = true

/-- The descent found a layer that hides everything below, so only the layers from there up
count. -/
lemma Descent.paint_eq {ops lix : Nat} {rest : List Nat} (hdesc : Descent h s ops lix rest)
    (hok : LayerOk sample px (h.layer lix)) (hstop : stopsDescent (h.layer lix) = .ok true)
    (noblend : Bool) (d : α) : paint ((h.layersAt s).map (layerDraw sample px noblend)) d =
      paint (rest.map fun k => layerDraw sample px noblend (h.layer k))
        ((layerDraw sample px noblend (h.layer lix)).apply 1) := by
  obtain ⟨pre, hpre⟩ := stackFrom_split (s := s) (stackFrom_cons hdesc.stack).1.le
  have hmap : (h.layersAt s).map (layerDraw sample px noblend) =
      pre.map (fun k => layerDraw sample px noblend (h.layer k)) ++
        layerDraw sample px noblend (h.layer lix) ::
          rest.map fun k => layerDraw sample px noblend (h.layer k) := by
    simp [Hregion.layersAt, hpre, hdesc.stack, Function.comp_def]
  rw [hmap, paint_eq_of_resets (layerDraw_resets hok hstop noblend) _ _ d 1, paint_cons]

/-- What the stack of a subregion shows is what is left of it to be drawn. -/
lemma Descent.stackValue_eq {ops lix : Nat} {rest : List Nat} (hdesc : Descent h s ops lix rest)
    (hops : getLayerOps h s = .ok (ops, some lix))
    (hok : ∀ k ∈ lix :: rest, LayerOk sample px (h.layer k)) :
    (drawnStack h s = rest ∨ drawnStack h s = lix :: rest) ∧
      (stopsDescent (h.layer lix) = .ok true → ∀ noblend (d : α),
        paint ((h.layersAt s).map (layerDraw sample px noblend)) d =
          stackValue sample px noblend h (drawnStack h s)) := by
  have hblended : ∀ k ∈ rest, ¬((h.layer k).buffidx = rgzBackgroundBuffidx ∨
      (h.layer k).buffidx = rgzClearhintBuffidx) := fun k hk =>
    (blended_of_descent (hok k (mem_cons_of_mem _ hk)) (hdesc.blended k hk)).2
  have hskip : skipBottom h rgzClearhintBuffidx rest = rest := by
    cases rest with
    | nil => rfl
    | cons y rest => exact if_neg fun hc => hblended y mem_cons_self (.inr hc)
  have hstack : drawnStack h s = skipBottom h rgzClearhintBuffidx
      (skipBottom h rgzBackgroundBuffidx (lix :: rest)) := by
    rw [drawnStack, hops, ← hdesc.stack]
  by_cases hs : (h.layer lix).buffidx = rgzBackgroundBuffidx ∨
      (h.layer lix).buffidx = rgzClearhintBuffidx
  · have hdrawn : drawnStack h s = rest := by
      rw [hstack, skipBottom]
      split_ifs with hback
      · exact hskip
      · exact if_pos (hs.resolve_left hback)
    refine ⟨.inl hdrawn, fun hstop noblend d => ?_⟩
    rw [hdrawn, hdesc.paint_eq (hok lix mem_cons_self) hstop, layerDraw, if_pos hs]
    cases rest with
    | nil => rfl
    | cons y rest =>
      rw [map_cons, paint_cons, Draw.apply_put, layerDraw_apply_one
        (hok y (mem_cons_of_mem _ mem_cons_self))
        (hdesc.blended y mem_cons_self)]
      rfl
  · obtain ⟨hback, hclear⟩ := not_or.mp hs
    have hdrawn : drawnStack h s = lix :: rest := by
      rw [hstack, skipBottom, if_neg hback, skipBottom, if_neg hclear]
    refine ⟨.inr hdrawn, fun hstop noblend d => ?_⟩
    have hlix := hok lix mem_cons_self
    rw [hdrawn, hdesc.paint_eq hlix hstop, layerDraw_apply_of_stops hlix hstop hs]
    rfl

include hrect in
/-- **What a dirty subregion draws**: all its layers, bottom to top. -/
lemma SubregionPlan.exec {damagedArea : Rect} {fills : List (BltEntry → BltEntry)}
    (hp : SubregionPlan params h damagedArea s fills) (hR : UniformRect h s rect)
    (hok : ∀ k ∈ h.stackFrom s 0, LayerOk sample px (h.layer k))
    (hbg : (clipToScreen params.dstgeom rect).Contains px →
      ∀ k ∈ (h.stackFrom s 0).head?, (h.layer k).hwcLayer.blending ≠ .premult)
    (hd : SubregionDirty h s damagedArea) (d : α) : execAll sample px (freshEntries fills) d =
      if (clipToScreen params.dstgeom rect).Contains px then
        paint ((h.layersAt s).map (layerDraw sample px params.noblend)) d
      else d := by
  obtain ⟨ops, lix, hops⟩ := hp.found
  obtain ⟨rest, hdesc⟩ := getLayerOps_spec hops
  obtain ⟨pre, hpre⟩ := stackFrom_split (s := s) (stackFrom_cons hdesc.stack).1.le
  rw [hdesc.stack] at hpre
  have hok' : ∀ k ∈ lix :: rest, LayerOk sample px (h.layer k) := fun k hk =>
    hok k (hpre ▸ mem_append_right _ hk)
  have hne : ∀ k ∈ lix :: rest, emptyRect (h.blitrect k s) = false := by
    intro k hk
    rw [← hdesc.stack] at hk
    simpa using (mem_filter.mp hk).2
  obtain ⟨hdrawn, hvalue⟩ := hdesc.stackValue_eq hops hok'
  -- at the latest the background stops the descent
  have hstop : (clipToScreen params.dstgeom rect).Contains px →
      stopsDescent (h.layer lix) = .ok true := fun hc =>
    hdesc.bottom.elim id fun h1 => by simp [stopsDescent, hbg hc lix (by simp [h1])]
  have hdraw : execAll sample px (freshEntries fills) d =
      if (clipToScreen params.dstgeom rect).Contains px then
        stackValue sample px params.noblend h (drawnStack h s) else d := by
    cases hp with
    | clean hops hclean => exact absurd (hd _ _ hops) (by simp [hclean])
    | @clear _ _ k hops' _ hk hnone =>
      obtain ⟨-, hlix⟩ := Prod.mk.inj (Except.ok.inj (hops.symm.trans hops'))
      obtain rfl := Option.some.inj hlix
      rw [hnone, hR k (hne k (hdesc.stack ▸ hk))]
      exact rgzClearEntry_exec sample px hrect .zero d
    | drawn _ _ hp =>
      refine hp.exec hrect hR (fun k hk => hne k ?_) (fun k hk => ?_) d
      · rcases hdrawn with hdrawn | hdrawn
        · exact mem_cons_of_mem _ (hdrawn ▸ hk)
        · exact hdrawn ▸ hk
      · have hk : k ∈ rest := by
          rcases hdrawn with hdrawn | hdrawn
          · exact mem_of_mem_tail (hdrawn ▸ hk)
          · exact (hdrawn ▸ hk : k ∈ (lix :: rest).tail)
        exact ⟨hok' k (mem_cons_of_mem _ hk), hdesc.blended k hk⟩
  rw [hdraw]
  split_ifs with hc
  · exact (hvalue (hstop hc) _ d).symm
  · rfl

end Draws

end Solana
