import Solana.Rgz.Batches
import Solana.Rgz.Composition
import Mathlib.Data.List.Chain

/-!
# What the entries of a batch tell the blitter

The blitter may keep the parameters of one entry of a batch for the next one, and
`bp.batchflags` says which groups of them have changed.  `rgz_hwc_subregion_blit` does not
compare the entries: it sets the bits from what it knows about the two layers, whether one of
them is scaled or NV12.

That is enough for every group but two.  The copy of an opaque layer writes to a destination of
another format than the blends behind it, and the flip flags of a layer are not covered by any bit
that is set.  `batch_changes_marked_iff` says that these are the only gaps.
-/

namespace Solana

open Fallible BltEntry PixelFormat List

/-! ## Groups of parameters -/

/-- The parameters of a blit, in the groups that have a bit of their own.  The flip flags are
those of the two sources, horizontal and vertical. -/
structure BltGroups where
  op : BltOp
  src1 : BuffDesc × SurfGeom
  src1rect : BvRect
  src2 : BuffDesc × SurfGeom
  src2rect : BvRect
  dst : SurfGeom
  dstrect : BvRect
  cliprect : BvRect
  scalemode : ScaleMode
  flips : (Bool × Bool) × (Bool × Bool)

/-- The groups of an entry. -/
def BltEntry.groups (e : BltEntry) : BltGroups where
  op := e.op
  src1 := (e.src1desc, e.src1geom)
  src1rect := e.src1rect
  src2 := (e.src2desc, e.src2geom)
  src2rect := e.src2rect
  dst := e.dstgeom
  dstrect := e.dstrect
  cliprect := e.cliprect
  scalemode := e.scalemode
  flips := ((e.flags.horzFlipSrc1, e.flags.vertFlipSrc1),
    (e.flags.horzFlipSrc2, e.flags.vertFlipSrc2))

/-- `BVBATCH_MISCFLAGS`, the bit for changes of `bp.flags`.  No code sets it. -/
def BatchFlags.miscflags (_ : BatchFlags) : Bool := false

/-- The upper left corner of a rectangle. -/
def BvRect.origin (r : BvRect) : Int × Int := (r.left, r.top)

/-- The extent of a rectangle. -/
def BvRect.size (r : BvRect) : Int × Int := (r.width, r.height)

/-- Every group in which an entry differs from the one before it has its bit set. -/
structure ChangesMarked (g g' : BltGroups) (bits : BatchFlags) : Prop where
  op : g.op ≠ g'.op → bits.op = true
  src1 : g.src1 ≠ g'.src1 → bits.src1 = true
  src1rectOrigin : g.src1rect.origin ≠ g'.src1rect.origin → bits.src1rectOrigin = true
  src1rectSize : g.src1rect.size ≠ g'.src1rect.size → bits.src1rectSize = true
  src2 : g.src2 ≠ g'.src2 → bits.src2 = true
  src2rectOrigin : g.src2rect.origin ≠ g'.src2rect.origin → bits.src2rectOrigin = true
  src2rectSize : g.src2rect.size ≠ g'.src2rect.size → bits.src2rectSize = true
  dst : g.dst ≠ g'.dst → bits.dst = true
  dstrectOrigin : g.dstrect.origin ≠ g'.dstrect.origin → bits.dstrectOrigin = true
  dstrectSize : g.dstrect.size ≠ g'.dstrect.size → bits.dstrectSize = true
  cliprect : g.cliprect ≠ g'.cliprect → bits.cliprect = true
  scalemode : g.scalemode ≠ g'.scalemode → bits.scale = true
  flips : g.flips ≠ g'.flips → bits.miscflags = true

/-- An entry says what has changed since the one before it. -/
def BltEntry.Announces (e e' : BltEntry) : Prop := ChangesMarked e.groups e'.groups e'.batchflags

section View

variable {f : BltEntry → BltEntry} {es : List BltEntry}

lemma BatchFlags.union_empty (a : BatchFlags) : a.union {} = a := by
  cases a
  simp [BatchFlags.union]

/-- What a change of an entry has to keep, so that the entry says the same. -/
def KeepsGroups (f : BltEntry → BltEntry) : Prop :=
  ∀ e, (f e).groups = e.groups ∧ (f e).batchflags = e.batchflags

lemma keepsGroups_setAsync (async : Bool) : KeepsGroups (rgzSetAsync async) :=
  fun _ => ⟨rfl, rfl⟩

lemma keepsGroups_batchEntry (flag : BatchState) : KeepsGroups (rgzBatchEntry flag {}) :=
  fun e => ⟨rfl, BatchFlags.union_empty e.batchflags⟩

lemma keepsGroups_closeBatch : KeepsGroups closeBatch := by
  intro e
  unfold closeBatch
  split_ifs
  · exact keepsGroups_batchEntry .single e
  · exact keepsGroups_batchEntry .batchEnd e

lemma KeepsGroups.announces_iff (hf : KeepsGroups f) {g : BltEntry → BltEntry}
    (hg : KeepsGroups g) (e e' : BltEntry) : (f e).Announces (g e') ↔ e.Announces e' := by
  unfold BltEntry.Announces
  rw [(hf e).1, (hg e').1, (hg e').2]

lemma KeepsGroups.isChain_map (hf : KeepsGroups f) :
    (es.map f).IsChain BltEntry.Announces ↔ es.IsChain BltEntry.Announces := by
  rw [List.isChain_map]
  exact List.IsChain.iff fun e e' => hf.announces_iff hf e e'

lemma KeepsGroups.isChain_modifyLast (hf : KeepsGroups f) : ∀ es : List BltEntry,
    (modifyLast f es).IsChain BltEntry.Announces ↔ es.IsChain BltEntry.Announces
  | [] => Iff.rfl
  | [e] => by simp [modifyLast]
  | [e, e'] => by
    rw [modifyLast, modifyLast, isChain_pair, isChain_pair]
    exact KeepsGroups.announces_iff (f := id) (fun _ => ⟨rfl, rfl⟩) hf e e'
  | e :: e' :: e'' :: es => by
    have ih := hf.isChain_modifyLast (e' :: e'' :: es)
    rw [modifyLast] at ih
    rw [modifyLast, modifyLast, isChain_cons_cons, isChain_cons_cons, ih]

end View

/-! ## The entries of a batch -/

/-- The buffer of a layer has no alpha: RGB565, RGBX or BGRX. -/
def RgzLayer.opaqueFormat (l : RgzLayer) : Bool :=
  (l.hwcLayer.handle.deref.map fun h => h.iFormat.isOpaque).getD false

/-- The flip flags of a layer. -/
def RgzLayer.flips (l : RgzLayer) : Bool × Bool := rgzGetFlipFlags l.hwcLayer.transform

/-- The destination of a blit that is not turned. -/
def OutParams.plainDst (params : OutParams) : SurfGeom := { params.dstgeom with orientation := 0 }

/-- What the set-up of source 1 leaves in an entry, as far as it does not depend on how the layer
is scaled or turned. -/
structure SetUp (params : OutParams) (rect : Rect) (l : RgzLayer) (g : BltGroups) : Prop where
  scalemode : l.hwcLayer.scaled = false → g.scalemode = .unset
  cliprect : l.nv12 = false → g.cliprect = (clipToScreen params.dstgeom rect).toBv
  dstrect : l.nv12 = false → l.hwcLayer.scaled = false → g.dstrect = rect.toBv
  flips : g.flips.1 = l.flips

variable {e : BltEntry}

section SetUp

variable (params : OutParams) (rect : Rect) {l : RgzLayer} {handle : NativeHandle}

lemma rgzSrcData_format (o : Int) :
    (rgzSrcData l handle rect o).2.1.format = halToOcd handle.iFormat := by
  unfold rgzSrcData SurfGeom.turned
  simp only
  split_ifs <;> rfl

lemma rgzSetupSrc1_of_not_nv12 (h : handle.iFormat.isNv12 = false) (e : BltEntry) :
    (rgzSetupSrc1 params rect l handle e).dstgeom = params.plainDst ∧
      (rgzSetupSrc1 params rect l handle e).dstrect = (rgzTmpRect l.hwcLayer rect).toBv ∧
      (rgzSetupSrc1 params rect l handle e).cliprect = (clipToScreen params.dstgeom rect).toBv := by
  have ho : rgzDstOrientation l.hwcLayer handle = 0 := by
    rw [rgzDstOrientation, h]
    rfl
  unfold rgzSetupSrc1
  simp only
  rw [ho]
  exact ⟨rfl, rfl, rfl⟩

lemma rgzSetupSrc1_eq (e : BltEntry) : ∃ desc geom srect g r c,
    geom.format = halToOcd handle.iFormat ∧ rgzSetupSrc1 params rect l handle e =
      { e with
        flags := { e.flags with
          horzFlipSrc1 := l.flips.1
          vertFlipSrc1 := l.flips.2
          async := true }
        scalemode := rgzCfgScaleMode l.hwcLayer handle e.scalemode
        src1desc := desc
        src1geom := geom
        src1rect := srect
        dstgeom := g
        dstrect := r
        cliprect := c } := by
  exact ⟨_, _, _, _, _, _, rgzSrcData_format _ _, rgzSetDstData_eq ..⟩

/-- The set-up of source 1, for an entry without a scale mode. -/
lemma rgzSetupSrc1_setUp (hh : l.hwcLayer.handle.deref = some handle) (he : e.scalemode = .unset) :
    SetUp params rect l (rgzSetupSrc1 params rect l handle e).groups := by
  have hnv := nv12_eq hh
  obtain ⟨_, _, _, _, _, _, -, heq⟩ := @rgzSetupSrc1_eq params rect l handle e
  refine ⟨fun hs => ?_, fun hn => ?_, fun hn hs => ?_, ?_⟩
  · rw [heq]
    show rgzCfgScaleMode l.hwcLayer handle e.scalemode = .unset
    rw [rgzCfgScaleMode, hs, he]
    rfl
  · exact (rgzSetupSrc1_of_not_nv12 params rect (hnv ▸ hn) e).2.2
  · have hrect := (@rgzSetupSrc1_of_not_nv12 params rect l handle (hnv ▸ hn) e).2.1
    rwa [rgzTmpRect, hs] at hrect
  · rw [heq]
    rfl

/-- A blend with the framebuffer has the destination as its second source. -/
structure OverDst (params : OutParams) (rect : Rect) (l : RgzLayer) (g : BltGroups) : Prop
    extends SetUp params rect l g where
  op : g.op = .src1Over
  src2 : g.src2 = (⟨0, .descFb 0⟩, g.dst)
  src2rect : g.src2rect = g.dstrect
  dst : l.nv12 = false → g.dst = params.plainDst
  flips2 : g.flips.2 = (false, false)

lemma blendDstEntry_overDst (hh : l.hwcLayer.handle.deref = some handle) :
    OverDst params rect l (blendDstEntry params rect l handle .zero).groups := by
  have hset := rgzSetupSrc1_setUp params rect hh
    (e := { zero with op := .src1Over, flags := { clip := true, blend := true } }) rfl
  obtain ⟨_, _, _, _, _, _, -, heq⟩ := @rgzSetupSrc1_eq params rect l handle
    { zero with op := .src1Over, flags := { clip := true, blend := true } }
  refine ⟨⟨hset.scalemode, hset.cliprect, hset.dstrect, hset.flips⟩, ?_, ?_, rfl, fun hn => ?_, ?_⟩
  · exact (congrArg op heq).trans rfl
  · unfold blendDstEntry rgzBlendEntry
    rw [heq]
    rfl
  · exact (rgzSetupSrc1_of_not_nv12 params rect (nv12_eq hh ▸ hn) _).1
  · unfold blendDstEntry rgzBlendEntry
    rw [heq]
    rfl

/-- The copy of a layer; for an opaque one the destination's format is changed. -/
structure CopyOf (params : OutParams) (rect : Rect) (l : RgzLayer) (g : BltGroups) : Prop
    extends SetUp params rect l g where
  op : g.op = .srcCopy
  dst : l.nv12 = false → g.dst = if l.opaqueFormat then { params.plainDst with format := .bgr124 }
    else params.plainDst
  flips2 : g.flips.2 = (false, false)

/-- The formats whose copies change the destination are the opaque ones. -/
lemma halToOcd_opaque_iff (f : PixelFormat) :
    (halToOcd f = .bgr124 ∨ halToOcd f = .rgb124 ∨ halToOcd f = .rgb16) ↔ f.isOpaque = true := by
  cases f <;> simp [halToOcd, isOpaque]

lemma rgzCopyEntry_copyOf (hh : l.hwcLayer.handle.deref = some handle) :
    CopyOf params rect l (rgzCopyEntry params rect l handle .zero).groups := by
  have hset := rgzSetupSrc1_setUp params rect hh
    (e := { zero with op := .srcCopy, flags := { clip := true, rop := true } }) rfl
  have hdst := @rgzSetupSrc1_of_not_nv12 params rect l handle
  have hkind : l.opaqueFormat = handle.iFormat.isOpaque := by
    rw [RgzLayer.opaqueFormat, hh]
    rfl
  obtain ⟨_, geom, _, _, _, _, hformat, heq⟩ := @rgzSetupSrc1_eq params rect l handle
    { zero with op := .srcCopy, flags := { clip := true, rop := true } }
  have hgeom : (rgzSetupSrc1 params rect l handle { zero with
      op := .srcCopy, flags := { clip := true, rop := true } }).src1geom.format =
        halToOcd handle.iFormat := by rw [heq]; exact hformat
  have hop : (rgzSetupSrc1 params rect l handle { zero with
      op := .srcCopy, flags := { clip := true, rop := true } }).groups.op = .srcCopy := by
    rw [heq]
    rfl
  have hflips : (rgzSetupSrc1 params rect l handle { zero with
      op := .srcCopy, flags := { clip := true, rop := true } }).groups.flips.2 =
        (false, false) := by
    rw [heq]
    rfl
  unfold rgzCopyEntry
  simp only [hgeom, halToOcd_opaque_iff]
  by_cases ho : handle.iFormat.isOpaque = true
  · rw [if_pos ho]
    refine ⟨⟨hset.scalemode, hset.cliprect, hset.dstrect, hset.flips⟩, hop, fun hn => ?_, hflips⟩
    rw [hkind, if_pos ho, ← (hdst (nv12_eq hh ▸ hn) _).1]
    rfl
  · rw [if_neg ho]
    refine ⟨hset, hop, fun hn => ?_, hflips⟩
    rw [hkind, if_neg ho]
    exact (hdst (nv12_eq hh ▸ hn) _).1

/-- A blend of two layers that are neither scaled nor NV12. -/
structure OverLayer (params : OutParams) (rect : Rect) (l m : RgzLayer) (g : BltGroups) : Prop
    extends SetUp params rect l g where
  op : g.op = .src1Over
  dst : l.nv12 = false → g.dst = params.plainDst
  flips2 : g.flips.2 = m.flips

lemma rgzSetSrc2_overLayer (hh : l.hwcLayer.handle.deref = some handle) (m : RgzLayer)
    (handle' : NativeHandle) : OverLayer params rect l m
      (rgzSetSrc2 rect m handle' (rgzBlendEntry params rect l handle .zero)).groups := by
  have hdst := blendDstEntry_overDst params rect hh
  exact ⟨⟨hdst.scalemode, hdst.cliprect, hdst.dstrect, hdst.flips⟩, hdst.op, hdst.dst, rfl⟩

end SetUp

/-! ## Two entries -/

section Pair

variable {params : OutParams} {rect : Rect} {p l : RgzLayer} {g g' : BltGroups}

/-- The bits that are set for a further layer. -/
structure NextBits (first : BatchFlags) (scaled nv12 : Bool) (bits : BatchFlags) : Prop where
  src1 : bits.src1 = true ∧ bits.src1rectOrigin = true ∧ bits.src1rectSize = true
  op : first.op = true → bits.op = true
  src2 : first.src2 = true ∨ nv12 = true → bits.src2 = true
  src2rect : first.src2rectOrigin = true ∧ first.src2rectSize = true ∨ scaled = true ∨ nv12 = true →
    bits.src2rectOrigin = true ∧ bits.src2rectSize = true
  dstrect : scaled = true ∨ nv12 = true → bits.dstrectOrigin = true ∧ bits.dstrectSize = true
  scale : scaled = true → bits.scale = true
  cliprect : nv12 = true → bits.cliprect = true
  dst : bits.dst = (first.dst || nv12)

lemma blendNextFlags_bits (st : BlendState) (scaled nv12 : Bool) :
    NextBits st.firstBatchflags (scaled || st.prevLayerScaled) (nv12 || st.prevLayerNv12)
      (blendNextFlags st scaled nv12) := by
  constructor <;> cases hs : (scaled || st.prevLayerScaled) <;>
    cases hn : (nv12 || st.prevLayerNv12) <;>
    simp +contextual [blendNextFlags, BatchFlags.union, hs, hn]

/-- A bit that is set under a condition announces what can only differ under it. -/
lemma bit_of_ne {α : Type} {a b : α} {c : Prop} {bit : Bool} (hab : ¬c → a = b)
    (hbit : c → bit = true) (hne : a ≠ b) : bit = true := by
  by_contra hb
  exact hne (hab fun hc => hb (hbit hc))

variable {first bits : BatchFlags}

/-- What has no bit for a further layer has to agree. -/
lemma ChangesMarked.agree (hg' : OverDst params rect l g')
    (hbits : NextBits first (l.hwcLayer.scaled || p.hwcLayer.scaled) (l.nv12 || p.nv12) bits)
    (hdst : first.dst = false) (h : ChangesMarked g g' bits) :
    g.flips = g'.flips ∧ (p.nv12 = false → l.nv12 = false → g.dst = params.plainDst) := by
  refine ⟨?_, fun hp hl => ?_⟩
  · by_contra hne
    exact absurd (h.flips hne) (by simp [BatchFlags.miscflags])
  · rw [← hg'.dst hl]
    by_contra hne
    have hbit := h.dst hne
    rw [hbits.dst, hdst, hp, hl] at hbit
    cases hbit

/-- Everything else has a bit whenever it can differ. -/
lemma changesMarked_of_agree (hg : SetUp params rect p g) (hg' : OverDst params rect l g')
    (hbits : NextBits first (l.hwcLayer.scaled || p.hwcLayer.scaled) (l.nv12 || p.nv12) bits)
    (hop : first.op = true ∨ g.op = .src1Over)
    (hsrc2 : (first.src2 = true ∧ first.src2rectOrigin = true ∧ first.src2rectSize = true) ∨
      OverDst params rect p g) (hflips : g.flips = g'.flips)
    (hdst : p.nv12 = false → l.nv12 = false → g.dst = params.plainDst) :
    ChangesMarked g g' bits := by
  -- what is equal unless a layer is scaled or NV12
  have hnot : ∀ {a b : Bool}, ¬(a || b) = true → a = false ∧ b = false := by decide
  have hrect : ¬((l.hwcLayer.scaled || p.hwcLayer.scaled) = true ∨ (l.nv12 || p.nv12) = true) →
      g.dstrect = g'.dstrect := by
    intro h
    obtain ⟨hs, hn⟩ := not_or.mp h
    rw [hg.dstrect (hnot hn).2 (hnot hs).2, hg'.dstrect (hnot hn).1 (hnot hs).1]
  have hgeom : ¬(l.nv12 || p.nv12) = true → g.dst = g'.dst := fun h => by
    rw [hdst (hnot h).2 (hnot h).1, hg'.dst (hnot h).1]
  have hsrc2rect : ¬((first.src2rectOrigin = true ∧ first.src2rectSize = true) ∨
      (l.hwcLayer.scaled || p.hwcLayer.scaled) = true ∨ (l.nv12 || p.nv12) = true) →
      g.src2rect = g'.src2rect := by
    intro h
    obtain ⟨h1, h2⟩ := not_or.mp h
    have hover := hsrc2.resolve_left fun h => h1 h.2
    rw [hover.src2rect, hg'.src2rect, hrect h2]
  constructor
  case op =>
    exact bit_of_ne (c := first.op = true) (fun h => (hop.resolve_left h).trans hg'.op.symm)
      hbits.op
  case src1 => exact fun _ => hbits.src1.1
  case src1rectOrigin => exact fun _ => hbits.src1.2.1
  case src1rectSize => exact fun _ => hbits.src1.2.2
  case src2 =>
    refine bit_of_ne (fun h => ?_) hbits.src2
    obtain ⟨h1, h2⟩ := not_or.mp h
    have hover := hsrc2.resolve_left fun h => h1 h.1
    rw [hover.src2, hg'.src2, hgeom h2]
  case src2rectOrigin =>
    exact bit_of_ne (fun h => congrArg BvRect.origin (hsrc2rect h)) fun h => (hbits.src2rect h).1
  case src2rectSize =>
    exact bit_of_ne (fun h => congrArg BvRect.size (hsrc2rect h)) fun h => (hbits.src2rect h).2
  case dst =>
    refine bit_of_ne hgeom fun h => ?_
    rw [hbits.dst, h, Bool.or_true]
  case dstrectOrigin =>
    exact bit_of_ne (fun h => congrArg BvRect.origin (hrect h)) fun h => (hbits.dstrect h).1
  case dstrectSize =>
    exact bit_of_ne (fun h => congrArg BvRect.size (hrect h)) fun h => (hbits.dstrect h).2
  case cliprect =>
    refine bit_of_ne (fun h => ?_) hbits.cliprect
    rw [hg.cliprect (hnot h).2, hg'.cliprect (hnot h).1]
  case scalemode =>
    refine bit_of_ne (fun h => ?_) hbits.scale
    rw [hg.scalemode (hnot h).2, hg'.scalemode (hnot h).1]
  case flips => exact fun hne => absurd hflips hne

/-- **When the bits of a further layer are right.** -/
lemma changesMarked_iff (hg : SetUp params rect p g) (hg' : OverDst params rect l g')
    (hbits : NextBits first (l.hwcLayer.scaled || p.hwcLayer.scaled) (l.nv12 || p.nv12) bits)
    (hdst : first.dst = false) (hop : first.op = true ∨ g.op = .src1Over)
    (hsrc2 : (first.src2 = true ∧ first.src2rectOrigin = true ∧ first.src2rectSize = true) ∨
      OverDst params rect p g) : ChangesMarked g g' bits ↔ g.flips = (l.flips, (false, false)) ∧
      (p.nv12 = false → l.nv12 = false → g.dst = params.plainDst) := by
  have hflips : g'.flips = (l.flips, (false, false)) := Prod.ext hg'.flips hg'.flips2
  rw [← hflips]
  exact ⟨fun h => h.agree hg' hbits hdst,
    fun ⟨hf, hd⟩ => changesMarked_of_agree hg hg' hbits hop hsrc2 hf hd⟩

end Pair

/-! ## The entries of a batch -/

/-- The flip flags of two layers agree. -/
def SameFlips (l l' : RgzLayer) : Prop := l.flips = l'.flips

/-- When the entries for a stack of layers, from the bottom up, announce all changes. -/
def StackAnnounced (params : OutParams) : List RgzLayer → Prop
  | m :: l :: ls =>
    if fused l m then ls = [] ∨ (m.flips = (false, false) ∧ (l :: ls).IsChain SameFlips)
    else (m :: l :: ls).IsChain SameFlips ∧
      (m.opaqueFormat = true → l.nv12 = false → params.dstgeom.format = .bgr124)
  | _ => True

section Batch

variable {params : OutParams} {rect : Rect} {h : Hregion} {s : Nat} {l : RgzLayer}

lemma nextFill_overDst (hl : l.Readable) (st : BlendState) :
    OverDst params rect l (nextFill params rect st l .zero).groups ∧
      (nextFill params rect st l .zero).batchflags =
        blendNextFlags st l.hwcLayer.scaled l.nv12 := by
  obtain ⟨handle, hh⟩ := hl
  rw [nextFill, hh]
  have hplain := rgzBlendEntry_plain params rect l handle
  refine ⟨blendDstEntry_overDst params rect hh, ?_⟩
  show (rgzBlendEntry params rect l handle .zero).batchflags.union _ = _
  rw [hplain.batchflags]
  simp [BatchFlags.union]

/-- The entries behind a blend with the framebuffer: only the flip flags matter. -/
lemma isChain_restFills : ∀ {ls : List RgzLayer} {p : RgzLayer} {e : BltEntry},
    OverDst params rect p e.groups → (∀ l ∈ ls, l.Readable) →
    ((e :: freshEntries (restFills params rect (.behind p) ls)).IsChain BltEntry.Announces ↔
      (p :: ls).IsChain SameFlips)
  | [], p, e, _, _ => by simp [restFills, freshEntries]
  | l :: ls, p, e, he, hls => by
    obtain ⟨hover, hflags⟩ := @nextFill_overDst params rect l (hls l mem_cons_self)
      (.behind p)
    have ih := isChain_restFills hover fun l hl => hls l (mem_cons_of_mem _ hl)
    have hpair : e.Announces (nextFill params rect (.behind p) l .zero) ↔ SameFlips p l := by
      unfold BltEntry.Announces
      rw [changesMarked_iff he.toSetUp hover (hflags ▸ blendNextFlags_bits (.behind p) _ _) rfl
        (Or.inr he.op) (Or.inr he), and_iff_left fun hp _ => he.dst hp]
      rw [show e.groups.flips = (p.flips, (false, false)) from Prod.ext he.flips he.flips2]
      simp [SameFlips]
    rw [restFills, freshEntries, map_cons, isChain_cons_cons, isChain_cons_cons, hpair]
    exact and_congr_right fun _ => ih

lemma announces_of_overLayer {m l l' : RgzLayer} (he : OverLayer params rect l m e.groups)
    (hl' : l'.Readable) (b : Blts) :
    e.Announces (nextFill params rect ⟨b, l.hwcLayer.scaled, l.nv12, secondFlags false⟩ l' .zero) ↔
      m.flips = (false, false) ∧ SameFlips l l' := by
  obtain ⟨hover, hflags⟩ := @nextFill_overDst params rect l' hl'
    ⟨b, l.hwcLayer.scaled, l.nv12, secondFlags false⟩
  unfold BltEntry.Announces
  rw [changesMarked_iff he.toSetUp hover (hflags ▸ blendNextFlags_bits _ _ _) rfl (Or.inr he.op)
    (Or.inl ⟨rfl, rfl, rfl⟩), and_iff_left fun hl _ => he.dst hl,
    show e.groups.flips = (l.flips, m.flips) from Prod.ext he.flips he.flips2, Prod.mk.injEq]
  exact and_comm

lemma nv12_of_opaqueFormat {m : RgzLayer} (h : m.opaqueFormat = true) : m.nv12 = false := by
  cases hh : m.hwcLayer.handle.deref with
  | none =>
    rw [RgzLayer.nv12, hh]
    rfl
  | some handle =>
    rw [RgzLayer.opaqueFormat, hh] at h
    rw [nv12_eq hh]
    revert h
    cases hf : handle.iFormat <;> simp [hf, isOpaque, isNv12]

lemma announces_of_copyOf {m l' : RgzLayer} (he : CopyOf params rect m e.groups) (hl' : l'.Readable)
    (b : Blts) :
    e.Announces (nextFill params rect ⟨b, m.hwcLayer.scaled, m.nv12, secondFlags true⟩ l' .zero) ↔
      SameFlips m l' ∧
        (m.opaqueFormat = true → l'.nv12 = false → params.dstgeom.format = .bgr124) := by
  obtain ⟨hover, hflags⟩ := @nextFill_overDst params rect l' hl'
    ⟨b, m.hwcLayer.scaled, m.nv12, secondFlags true⟩
  unfold BltEntry.Announces
  rw [changesMarked_iff he.toSetUp hover (hflags ▸ blendNextFlags_bits _ _ _) rfl (Or.inl rfl)
    (Or.inl ⟨rfl, rfl, rfl⟩),
    show e.groups.flips = (m.flips, (false, false)) from Prod.ext he.flips he.flips2]
  refine and_congr (by simp [SameFlips]) ⟨fun hd ho hl => ?_, fun hd hm hl => ?_⟩
  · have hdst := hd (nv12_of_opaqueFormat ho) hl
    rw [he.dst (nv12_of_opaqueFormat ho), if_pos ho] at hdst
    exact (congrArg SurfGeom.format hdst).symm
  · rw [he.dst hm]
    split_ifs with ho
    · rw [← hd ho hl]
      rfl
    · rfl

lemma isChain_overLayer {m l : RgzLayer} {ls : List RgzLayer} {b : Blts}
    (he : OverLayer params rect l m e.groups) (hls : ∀ l ∈ ls, l.Readable) :
    (e :: freshEntries (restFills params rect ⟨b, l.hwcLayer.scaled, l.nv12, secondFlags false⟩
        ls)).IsChain BltEntry.Announces ↔
      ls = [] ∨ (m.flips = (false, false) ∧ (l :: ls).IsChain SameFlips) := by
  cases ls with
  | nil => simp [restFills, freshEntries]
  | cons l' ls =>
    have hl' := hls l' mem_cons_self
    rw [restFills, freshEntries, map_cons, isChain_cons_cons,
      announces_of_overLayer he hl', isChain_cons_cons, and_assoc]
    simp only [reduceCtorEq, false_or]
    exact and_congr_right fun _ => and_congr_right fun _ => isChain_restFills
      (nextFill_overDst hl' _).1 fun l hl => hls l (mem_cons_of_mem _ hl)

lemma isChain_copyOf {m l : RgzLayer} {ls : List RgzLayer} {b : Blts}
    (he : CopyOf params rect m e.groups) (hls : ∀ x ∈ l :: ls, x.Readable) :
    (e :: freshEntries (restFills params rect ⟨b, m.hwcLayer.scaled, m.nv12, secondFlags true⟩
        (l :: ls))).IsChain BltEntry.Announces ↔ (m :: l :: ls).IsChain SameFlips ∧
        (m.opaqueFormat = true → l.nv12 = false → params.dstgeom.format = .bgr124) := by
  have hl := hls l mem_cons_self
  rw [restFills, freshEntries, map_cons, isChain_cons_cons, announces_of_copyOf he hl,
    isChain_cons_cons, and_right_comm]
  exact and_congr_left fun _ => and_congr_right fun _ => isChain_restFills
    (nextFill_overDst hl _).1 fun l hl => hls l (mem_cons_of_mem _ hl)

/-- Closing a batch changes none of the groups. -/
lemma isChain_batchFills (first : BltEntry → BltEntry) (rest : List (BltEntry → BltEntry)) :
    (freshEntries (batchFills first rest)).IsChain BltEntry.Announces ↔
      (first .zero :: freshEntries rest).IsChain BltEntry.Announces := by
  rw [batchFills, freshEntries_modifyLast, keepsGroups_closeBatch.isChain_modifyLast]
  cases rest with
  | nil => simp [freshEntries]
  | cons fill rest =>
    simp only [freshEntries, map_cons, isChain_cons_cons]
    exact and_congr_left fun _ => (keepsGroups_batchEntry .batchBegin).announces_iff
      (g := id) (fun _ => ⟨rfl, rfl⟩) _ _

lemma StackPlan.isChain {ks : List Nat} {fills : List (BltEntry → BltEntry)}
    (hp : StackPlan params h s ks fills) : (freshEntries fills).IsChain BltEntry.Announces ↔
      (params.noblend = false → StackAnnounced params (ks.map h.layer)) := by
  cases hp with
  | @copy ks _ _ hcopy _ _ =>
    refine iff_of_true (isChain_singleton _) fun hno => ?_
    rcases hcopy with hno' | hone
    · exact absurd (hno.symm.trans hno') Bool.false_ne_true
    · obtain ⟨k, rfl⟩ := length_eq_one_iff.mp hone
      trivial
  | fused hblend hfused hl _ hread =>
    rw [isChain_batchFills, forall_prop_of_true hblend]
    simp only [map_cons, StackAnnounced, hfused, if_true]
    exact isChain_overLayer (rgzSetSrc2_overLayer params _ hl _ _) hread
  | copied hblend hfused hm hread =>
    rw [isChain_batchFills, forall_prop_of_true hblend]
    simp only [map_cons, StackAnnounced, hfused, Bool.false_eq_true, if_false]
    exact isChain_copyOf (rgzCopyEntry_copyOf params _ hm) hread

end Batch

/-! ## The entries of a subregion -/

/-- When the entries of a subregion announce all changes: it is not drawn, or not blended, or the
layers it is drawn from are as they have to be. -/
def SubregionAnnounced (params : OutParams) (damagedArea : Rect) (h : Hregion) (s : Nat) : Prop :=
  SubregionDirty h s damagedArea → params.noblend = false →
    StackAnnounced params ((drawnStack h s).map h.layer)

lemma SubregionPlan.isChain {params : OutParams} {h : Hregion} {damagedArea : Rect} {s : Nat}
    {fills : List (BltEntry → BltEntry)} (hp : SubregionPlan params h damagedArea s fills) :
    (freshEntries fills).IsChain BltEntry.Announces ↔
      SubregionAnnounced params damagedArea h s := by
  unfold SubregionAnnounced
  cases hp with
  | clean hops hclean =>
    refine iff_of_true isChain_nil fun hd => ?_
    exact absurd (hclean.symm.trans (hd _ _ hops)) Bool.false_ne_true
  | clear _ _ _ hnone =>
    rw [hnone]
    exact iff_of_true (isChain_singleton _) fun _ _ => trivial
  | drawn hops hdirty hp =>
    have hd : SubregionDirty h s damagedArea := by
      intro ops' lix' hops'
      obtain ⟨-, hlix⟩ := Prod.mk.inj (Except.ok.inj (hops.symm.trans hops'))
      exact Option.some.inj hlix ▸ hdirty
    rw [forall_prop_of_true hd]
    exact hp.isChain

/-- **The batches that announce all changes.**  The list handed back is the output of one
subregion after the other; the entries of a subregion's batch announce every change of a group
exactly if the layers it is drawn from are as `SubregionAnnounced` says. -/
theorem batch_changes_marked_iff {rgz : Rgz} {params : OutParams} {out : OutData}
    (hr : rgzOut .bvcmdRegion rgz params = .ok out) :
    ∃ parts : List (List BltEntry), out.cmds = parts.flatten ∧
      List.Forall₂ (fun hs part => SubregionBlits part ∧
        (rgzHwcSubregionBlit params hs.1 rgz.damagedArea .init hs.2).map Blts.bvcmds =
          .ok (part.map (rgzSetAsync true)) ∧ (part.IsChain BltEntry.Announces ↔
          SubregionAnnounced params rgz.damagedArea hs.1 hs.2)) (rgzSubregions rgz) parts := by
  obtain ⟨parts, hflat, hparts⟩ := region_parts hr
  refine ⟨parts, hflat, hparts.imp ?_⟩
  rintro ⟨h, s⟩ part ⟨hblits, hgen, fills, hplan, hfills⟩
  refine ⟨hblits, hgen, ?_⟩
  rw [← (keepsGroups_setAsync true).isChain_map, hfills, hplan.isChain]

/-- Three translucent layers are drawn by a batch of two blits. -/
theorem sampleStack_announced : ∃ out, rgzOut .bvcmdRegion (rgzIn .hwc sampleStack Rgz.zero).2
        ⟨sampleStack.dstgeom, false⟩ = .ok out ∧ out.cmds.length = 2 ∧
      ∃ parts : List (List BltEntry), out.cmds = parts.flatten ∧
        List.Forall₂ (fun hs part => part.IsChain BltEntry.Announces ↔
          SubregionAnnounced ⟨sampleStack.dstgeom, false⟩
            (rgzIn .hwc sampleStack Rgz.zero).2.damagedArea hs.1 hs.2)
          (rgzSubregions (rgzIn .hwc sampleStack Rgz.zero).2) parts := by
  obtain ⟨out, hout, hlen⟩ := exists_of_map_eq_ok
    (x := rgzOut .bvcmdRegion (rgzIn .hwc sampleStack Rgz.zero).2 ⟨sampleStack.dstgeom, false⟩)
    (f := fun out => out.cmds.length) (b := 2) (by decide +kernel)
  obtain ⟨parts, hflat, hparts⟩ := batch_changes_marked_iff hout
  exact ⟨out, hout, hlen, parts, hflat, hparts.imp fun _ _ h => h.2.2⟩

/-- A scaled RGB565 layer below a translucent one. -/
def scaledBelow : RgzInParams :=
  sampleParams [⟨{ (sampleLayer 1 ⟨0, 0, 4, 4⟩ .none).layer with
      handle := .native ⟨1, 4, 4, .rgb565, false, false⟩
      sourceCrop := ⟨0, 0, 2, 2⟩ }, 1⟩,
    sampleLayer 2 ⟨0, 0, 4, 4⟩ .premult]

/-- The copy of the lower layer is told that the framebuffer holds BGRX pixels, and the blend
behind it that it holds BGRA pixels, but the bit for the destination is not set. -/
theorem copied_destination_unmarked : ∃ out, rgzOut .bvcmdRegion (rgzIn .hwc scaledBelow Rgz.zero).2
        ⟨scaledBelow.dstgeom, false⟩ = .ok out ∧
      out.cmds.map (·.flags.batch) = [.batchBegin, .batchEnd] ∧
      ¬out.cmds.IsChain BltEntry.Announces := by
  obtain ⟨out, hout, hmap⟩ := exists_of_map_eq_ok
    (x := rgzOut .bvcmdRegion (rgzIn .hwc scaledBelow Rgz.zero).2 ⟨scaledBelow.dstgeom, false⟩)
    (f := fun out => out.cmds.map fun e => (e.flags.batch, e.dstgeom.format, e.batchflags.dst))
    (b := [(.batchBegin, .bgr124, false), (.batchEnd, .bgra24, false)]) (by decide +kernel)
  obtain ⟨copy, cmds, hcmds, hcopy, hmap⟩ := map_eq_cons_iff.mp hmap
  obtain ⟨blend, rest, rfl, hblend, hrest⟩ := map_eq_cons_iff.mp hmap
  obtain rfl := map_eq_nil_iff.mp hrest
  simp only [Prod.mk.injEq] at hcopy hblend
  refine ⟨out, hout, by simp [hcmds, hcopy, hblend], fun hchain => ?_⟩
  rw [hcmds, isChain_pair] at hchain
  have hdst : copy.dstgeom ≠ blend.dstgeom := by
    intro h
    have hformat := congrArg (·.format) h
    simp only [hcopy, hblend, reduceCtorEq] at hformat
  exact Bool.false_ne_true (hblend.2.2.symm.trans (hchain.dst hdst))

end Solana
