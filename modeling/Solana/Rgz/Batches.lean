import Solana.Rgz.Plans

/-!
# The blits that are generated, and their batches

An output that returns 0 has handed out one slot of the array for each blit it generates, so none
is overwritten (`rgzOut_no_blit_overwritten`).  The flags that mark a batch are part of what is
written to the slots: what a subregion draws is nothing, a blit outside any batch, or one whole
batch (`SubregionBlits`).
-/

namespace Solana

open Fallible List

/-! ## Plain blits -/

/-- A blit as the copy, the blend and the clear set it up: in no batch, and asynchronous. -/
structure BltEntry.Plain (e : BltEntry) : Prop where
  batch : e.flags.batch = .single
  batchflags : e.batchflags = {}
  async : e.flags.async = true

/-- An asynchronous blit with the given batch bits. -/
structure BltEntry.Marked (batch : BatchState) (e : BltEntry) : Prop where
  batch : e.flags.batch = batch
  async : e.flags.async = true

section

variable (params : OutParams) (r : Rect) (l : RgzLayer) (handle : NativeHandle)
include params r l handle

lemma rgzSetupSrc1_plain {e : BltEntry} (hb : e.flags.batch = .single) (hf : e.batchflags = {}) :
    (rgzSetupSrc1 params r l handle e).Plain := by
  unfold rgzSetupSrc1
  constructor <;> simp [rgzSetClipRect, hb, hf]

lemma rgzCopyEntry_plain : (rgzCopyEntry params r l handle .zero).Plain := by
  have h := rgzSetupSrc1_plain params r l handle
    (e := { BltEntry.zero with op := .srcCopy, flags := { clip := true, rop := true } }) rfl rfl
  unfold rgzCopyEntry
  simp only
  split_ifs
  · exact ⟨h.batch, h.batchflags, h.async⟩
  · exact h

lemma rgzBlendEntry_plain : (rgzBlendEntry params r l handle .zero).Plain :=
  rgzSetupSrc1_plain params r l handle rfl rfl

end

lemma rgzClearEntry_plain (params : OutParams) (r : Rect) :
    (rgzClearEntry params r .zero).Plain := by
  unfold rgzClearEntry
  constructor <;> simp [rgzSetClipRect, BltEntry.zero]

/-! ## Batches -/

/-- What the output of one subregion may be: nothing, one blit outside any batch, or one batch
with its beginning and its end. -/
inductive SubregionBlits : List BltEntry → Prop
  | clean : SubregionBlits []
  | single (e : BltEntry) (hbatch : e.flags.batch = .single) (hflags : e.batchflags = {}) :
      SubregionBlits [e]
  | batch (first last : BltEntry) (mid : List BltEntry) (hfirst : first.flags.batch = .batchBegin)
      (hmid : ∀ e ∈ mid, e.flags.batch = .batchContinue) (hlast : last.flags.batch = .batchEnd) :
      SubregionBlits (first :: mid ++ [last])

/-- The slots of one subregion: as they may be, and all asynchronous. -/
def SubregionFills (fills : List (BltEntry → BltEntry)) : Prop :=
  SubregionBlits (freshEntries fills) ∧ ∀ e ∈ freshEntries fills, e.flags.async = true

lemma subregionFills_singleton {fill : BltEntry → BltEntry} (h : (fill .zero).Plain) :
    SubregionFills [fill] :=
  ⟨.single _ h.batch h.batchflags, by simp [freshEntries, h.async]⟩

/-- A batch is begun in its first slot and ended in its last. -/
lemma subregionFills_batch {first : BltEntry → BltEntry} (hfirst : (first .zero).Plain)
    {rest : List (BltEntry → BltEntry)}
    (hrest : ∀ fill ∈ rest, (fill .zero).Marked .batchContinue) :
    SubregionFills (batchFills first rest) := by
  have hmid : ∀ e ∈ freshEntries rest, e.Marked .batchContinue := forall_mem_map.mpr hrest
  unfold SubregionFills batchFills
  rw [freshEntries_modifyLast, freshEntries, map_cons, ← freshEntries]
  rcases eq_nil_or_concat (freshEntries rest) with hnil | ⟨mid, last, hconcat⟩
  · rw [hnil, modifyLast]
    refine ⟨.single _ rfl ?_, ?_⟩
    · simp [closeBatch, rgzBatchEntry, BatchState.hasBeginBit, hfirst.batchflags, BatchFlags.union]
    · exact forall_mem_singleton.mpr hfirst.async
  · rw [hconcat, concat_eq_append] at hmid ⊢
    have hlast := hmid last (by simp)
    have hclose : closeBatch last = rgzBatchEntry .batchEnd {} last := by
      simp [closeBatch, hlast.batch, BatchState.hasBeginBit]
    rw [← cons_append, modifyLast_append_singleton, hclose]
    refine ⟨.batch _ _ mid rfl (fun e he => (hmid e (by simp [he])).batch) rfl, fun e he => ?_⟩
    simp only [cons_append, mem_cons, mem_append, not_mem_nil, or_false] at he
    rcases he with rfl | he | rfl
    · exact hfirst.async
    · exact (hmid e (by simp [he])).async
    · exact hlast.async

lemma restFills_marked {params : OutParams} {rect : Rect} {ls : List RgzLayer} {st : BlendState}
    (hls : ∀ l ∈ ls, l.Readable) :
    ∀ fill ∈ restFills params rect st ls, (fill .zero).Marked .batchContinue := by
  induction ls generalizing st with
  | nil => exact nofun
  | cons l ls ih =>
    obtain ⟨⟨handle, hh⟩, hls⟩ := forall_mem_cons.mp hls
    refine forall_mem_cons.mpr ⟨?_, ih hls⟩
    rw [nextFill, hh]
    exact ⟨rfl, (rgzBlendEntry_plain params rect l handle).async⟩

lemma StackPlan.subregionFills {params : OutParams} {h : Hregion} {s : Nat} {ks : List Nat}
    {fills : List (BltEntry → BltEntry)} (hp : StackPlan params h s ks fills) :
    SubregionFills fills := by
  cases hp with
  | copy _ _ _ => exact subregionFills_singleton (rgzCopyEntry_plain params _ _ _)
  | @fused m l _ handle _ _ _ _ _ hread =>
    have hplain := rgzBlendEntry_plain params (h.blitrect m s) (h.layer l) handle
    refine subregionFills_batch ?_ (restFills_marked hread)
    exact ⟨hplain.batch, hplain.batchflags, hplain.async⟩
  | copied _ _ _ hread =>
    exact subregionFills_batch (rgzCopyEntry_plain params _ _ _) (restFills_marked hread)

/-- **A subregion asks for the slots of at most one batch.** -/
lemma SubregionPlan.subregionFills {params : OutParams} {h : Hregion} {damagedArea : Rect} {s : Nat}
    {fills : List (BltEntry → BltEntry)} (hp : SubregionPlan params h damagedArea s fills) :
    SubregionFills fills := by
  cases hp with
  | clean _ _ => exact ⟨.clean, by simp [freshEntries]⟩
  | clear _ _ _ _ => exact subregionFills_singleton (rgzClearEntry_plain params _)
  | drawn _ _ hp => exact hp.subregionFills

/-! ## The blits of an output -/

/-- **No blit of a successful output is lost**: the list handed back has one entry for each blit
that was generated, in order, and they are fewer than the array has slots. -/
theorem rgzOut_no_blit_overwritten {op : RgzOutOp} {rgz : Rgz} {params : OutParams} {out : OutData}
    (hr : rgzOut op rgz params = .ok out) : ∃ parts, rgzBlits op rgz params = .ok parts ∧
      out.cmds = modifyLast (rgzSetAsync false) parts.flatten ∧
      out.cmds.length = parts.flatten.length ∧ out.outBlits = parts.flatten.length ∧
      parts.flatten.length < rgzMaxBlits := by
  obtain ⟨parts, hparts, hcmds, hout, hlt⟩ := rgzOut_eq_blits hr
  exact ⟨parts, hparts, hcmds, by rw [hcmds, length_modifyLast], hout, hlt⟩

theorem sampleOverlap_no_blit_overwritten :
    ∃ out parts, rgzOut .bvcmdPaint (rgzIn .hwc sampleOverlap Rgz.zero).2
        ⟨sampleOverlap.dstgeom, false⟩ = .ok out ∧
      rgzBlits .bvcmdPaint (rgzIn .hwc sampleOverlap Rgz.zero).2
        ⟨sampleOverlap.dstgeom, false⟩ = .ok parts ∧
      out.cmds.length = parts.flatten.length ∧ out.outBlits = parts.flatten.length ∧
      parts.flatten.length < rgzMaxBlits := by
  obtain ⟨out, hout⟩ := exists_ok (x := rgzOut .bvcmdPaint
    (rgzIn .hwc sampleOverlap Rgz.zero).2 ⟨sampleOverlap.dstgeom, false⟩) (by decide +kernel)
  obtain ⟨parts, hparts, -, hlen, hcount, hlt⟩ := rgzOut_no_blit_overwritten hout
  exact ⟨out, parts, hout, hparts, hlen, hcount, hlt⟩

/-- The parts of a list whose last element is changed: one part changes at its end, or none. -/
lemma exists_flatten_modifyLast {α β : Type} (f : α → α) {R : β → List α → Prop} {xs : List β}
    {parts : List (List α)} (h : List.Forall₂ R xs parts) :
    ∃ parts' : List (List α), parts'.flatten = modifyLast f parts.flatten ∧
      List.Forall₂ (fun x part' => ∃ part, R x part ∧ (part' = part ∨ part' = modifyLast f part))
        xs parts' := by
  induction h with
  | nil => exact ⟨[], rfl, .nil⟩
  | @cons x part xs parts hx hxs ih =>
    rcases eq_nil_or_concat parts.flatten with hnil | ⟨front, last, hlast⟩
    · exact ⟨modifyLast f part :: parts, by simp [hnil],
        .cons ⟨part, hx, .inr rfl⟩ (hxs.imp fun _ part h => ⟨part, h, .inl rfl⟩)⟩
    · obtain ⟨parts', hflat, hparts⟩ := ih
      refine ⟨part :: parts', ?_, .cons ⟨part, hx, .inl rfl⟩ hparts⟩
      rw [flatten_cons, flatten_cons, hflat, hlast, concat_eq_append,
        ← append_assoc, modifyLast_append_singleton, modifyLast_append_singleton, append_assoc]

lemma SubregionBlits.setAsync {part : List BltEntry} (h : SubregionBlits part) :
    SubregionBlits (modifyLast (rgzSetAsync false) part) := by
  cases h with
  | clean => exact .clean
  | single e hbatch hflags => exact .single _ hbatch hflags
  | batch first last mid hfirst hmid hlast =>
    rw [modifyLast_append_singleton]
    exact .batch first _ mid hfirst hmid hlast

lemma map_rgzSetAsync {part : List BltEntry} (h : ∀ e ∈ part, e.flags.async = true) :
    part.map (rgzSetAsync true) = part := by
  refine (map_congr_left fun e he => ?_).trans (map_id part)
  have hasync := h e he
  obtain ⟨op, flags, _⟩ := e
  cases flags
  simp_all [rgzSetAsync]

/-- A part of the list, with the last blit made synchronous or not, is the part generated but for
that. -/
lemma part_generated {part part' : List BltEntry} (h : ∀ e ∈ part, e.flags.async = true)
    (hpart : part' = part ∨ part' = modifyLast (rgzSetAsync false) part) :
    part'.map (rgzSetAsync true) = part := by
  rcases hpart with rfl | rfl
  · exact map_rgzSetAsync h
  · rcases eq_nil_or_concat part with rfl | ⟨front, last, rfl⟩
    · rfl
    · rw [concat_eq_append] at h ⊢
      rw [modifyLast_append_singleton, map_append]
      conv_rhs => rw [← map_rgzSetAsync h, map_append]
      rfl

/-- **The parts of the region output.** -/
lemma region_parts {rgz : Rgz} {params : OutParams} {out : OutData}
    (hr : rgzOut .bvcmdRegion rgz params = .ok out) :
    ∃ parts : List (List BltEntry), out.cmds = parts.flatten ∧
      List.Forall₂ (fun hs part => SubregionBlits part ∧
        (rgzHwcSubregionBlit params hs.1 rgz.damagedArea .init hs.2).map Blts.bvcmds =
          .ok (part.map (rgzSetAsync true)) ∧
        ∃ fills, SubregionPlan params hs.1 rgz.damagedArea hs.2 fills ∧
          part.map (rgzSetAsync true) = freshEntries fills) (rgzSubregions rgz) parts := by
  obtain ⟨parts, hparts, hcmds, -, hlt⟩ := rgzOut_eq_blits hr
  obtain ⟨parts', hflat, hall⟩ := exists_flatten_modifyLast (rgzSetAsync false)
    (forall₂_map_left_iff.mp (parts_of_rgzBlits hparts hlt))
  refine ⟨parts', by rw [hcmds, hflat], hall.imp ?_⟩
  rintro ⟨h, s⟩ part' ⟨part, ⟨hgen, hfills⟩, hend⟩
  obtain ⟨fills, hplan, rfl⟩ := hfills _ (subregionBlit_oblivious params h rgz.damagedArea s)
  obtain ⟨hblits, hasync⟩ := hplan.subregionFills
  rw [part_generated hasync hend]
  refine ⟨?_, hgen, fills, hplan, rfl⟩
  rcases hend with rfl | rfl
  · exact hblits
  · exact hblits.setAsync

/-- The blits of the list handed back are asynchronous but for the last. -/
lemma async_of_modifyLast {es : List BltEntry} (h : ∀ e ∈ es, e.flags.async = true) :
    modifyLast (rgzSetAsync false) es = [] ∨
      ∃ front last, modifyLast (rgzSetAsync false) es = front ++ [last] ∧
        last.flags.async = false ∧ ∀ e ∈ front, e.flags.async = true := by
  rcases eq_nil_or_concat es with rfl | ⟨front, last, rfl⟩
  · exact Or.inl rfl
  · rw [concat_eq_append] at h ⊢
    exact Or.inr ⟨front, rgzSetAsync false last, modifyLast_append_singleton _ _ _, rfl,
      fun e he => h e (mem_append_left _ he)⟩

/-- **The region output is a list of single blits and whole batches**, each the output of one
subregion, with the last blit synchronous and all others asynchronous. -/
theorem region_output_batched {rgz : Rgz} {params : OutParams} {out : OutData}
    (hr : rgzOut .bvcmdRegion rgz params = .ok out) :
    (∃ parts : List (List BltEntry), out.cmds = parts.flatten ∧
      List.Forall₂ (fun hs part => SubregionBlits part ∧
        (rgzHwcSubregionBlit params hs.1 rgz.damagedArea .init hs.2).map Blts.bvcmds =
          .ok (part.map (rgzSetAsync true))) (rgzSubregions rgz) parts) ∧
    (out.cmds = [] ∨ ∃ front last, out.cmds = front ++ [last] ∧ last.flags.async = false ∧
      ∀ e ∈ front, e.flags.async = true) := by
  obtain ⟨parts, hflat, hall⟩ := region_parts hr
  refine ⟨⟨parts, hflat, hall.imp fun _ _ h => ⟨h.1, h.2.1⟩⟩, ?_⟩
  obtain ⟨gen, hgen, hcmds, -, hlt⟩ := rgzOut_eq_blits hr
  rw [hcmds]
  refine async_of_modifyLast fun e he => ?_
  obtain ⟨part, hpart, he⟩ := mem_flatten.mp he
  obtain ⟨⟨h, s⟩, -, -, hfills⟩ := exists_mem_of_forall₂
    (forall₂_map_left_iff.mp (parts_of_rgzBlits hgen hlt)) hpart
  obtain ⟨fills, hplan, rfl⟩ := hfills _ (subregionBlit_oblivious params h rgz.damagedArea s)
  exact hplan.subregionFills.2 e he

/-- Three translucent layers over the whole screen. -/
def sampleStack : RgzInParams :=
  sampleParams [sampleLayer 1 ⟨0, 0, 4, 4⟩ .premult, sampleLayer 2 ⟨0, 0, 4, 4⟩ .premult,
    sampleLayer 3 ⟨0, 0, 4, 4⟩ .premult]

theorem sampleStack_batched : ∃ out, rgzOut .bvcmdRegion (rgzIn .hwc sampleStack Rgz.zero).2
        ⟨sampleStack.dstgeom, false⟩ = .ok out ∧
      out.cmds.map (fun e => (e.flags.batch, e.flags.async)) =
        [(.batchBegin, true), (.batchEnd, false)] ∧
      ∃ parts : List (List BltEntry), out.cmds = parts.flatten ∧
        List.Forall₂ (fun _ part => SubregionBlits part)
          (rgzSubregions (rgzIn .hwc sampleStack Rgz.zero).2) parts := by
  obtain ⟨out, hout, hflags⟩ := exists_of_map_eq_ok
    (x := rgzOut .bvcmdRegion (rgzIn .hwc sampleStack Rgz.zero).2 ⟨sampleStack.dstgeom, false⟩)
    (f := fun out => out.cmds.map fun e => (e.flags.batch, e.flags.async))
    (b := [(.batchBegin, true), (.batchEnd, false)]) (by decide +kernel)
  obtain ⟨⟨parts, hflat, hparts⟩, -⟩ := region_output_batched hout
  exact ⟨out, hout, hflags, parts, hflat, hparts.imp fun _ _ h => h.1⟩

end Solana
