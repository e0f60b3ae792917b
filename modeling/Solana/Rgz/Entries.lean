import Solana.Rgz.Plans

/-!
# The entries of a blit list

Whatever the outputs of the regionizer draw, they only ever write entries of four forms (the copy
of a layer, its blend with the framebuffer, the blend of two layers, and a clear) and set batch
and synchronisation flags afterwards.  `EntryRule` is a predicate closed under this, and
`rgzOut_all` the rule it gives: the predicate holds of every entry of an output.
-/

namespace Solana

open Fallible List

/-- A predicate that holds of every entry the outputs fill in, whatever the entry held before;
`L` is what is known of a layer and its buffer. -/
structure EntryRule (params : OutParams) (L : RgzLayer → NativeHandle → Prop)
    (P : BltEntry → Prop) : Prop where
  copy : ∀ rect l handle e, L l handle → P (rgzCopyEntry params rect l handle e)
  blend : ∀ rect l handle e, L l handle →
    P (rgzSetSrc2IsDst (rgzBlendEntry params rect l handle e))
  blendTwo : ∀ rect l handle m handle' e, L l handle → L m handle' →
    P (rgzSetSrc2 rect m handle' (rgzBlendEntry params rect l handle e))
  clear : ∀ rect e, P (rgzClearEntry params rect e)
  batch : ∀ flag set e, P e → P (rgzBatchEntry flag set e)
  async : ∀ flag e, P e → P (rgzSetAsync flag e)

/-- The layer satisfies `L` with the buffer it has, if it has one. -/
def Known (L : RgzLayer → NativeHandle → Prop) (l : RgzLayer) : Prop :=
  ∀ handle, l.hwcLayer.handle.deref = some handle → L l handle

lemma mem_modifyLast {α : Type} {f : α → α} {y : α} :
    ∀ {xs : List α}, y ∈ modifyLast f xs → y ∈ xs ∨ ∃ x ∈ xs, y = f x
  | [a], h => Or.inr ⟨a, by simp, by simpa [modifyLast] using h⟩
  | a :: b :: xs, h => by
    rw [modifyLast] at h
    rcases mem_cons.mp h with rfl | h
    · exact Or.inl (by simp)
    · rcases mem_modifyLast h with h | ⟨x, hx, rfl⟩
      · exact Or.inl (mem_cons_of_mem _ h)
      · exact Or.inr ⟨x, mem_cons_of_mem _ hx, rfl⟩

section
variable {params : OutParams} {L : RgzLayer → NativeHandle → Prop} {P : BltEntry → Prop}
  (hP : EntryRule params L P)
include hP

lemma EntryRule.restFills {rect : Rect} {ls : List RgzLayer} {st : BlendState}
    (hls : ∀ l ∈ ls, Known L l ∧ l.Readable) :
    ∀ fill ∈ restFills params rect st ls, P (fill .zero) := by
  induction ls generalizing st with
  | nil => exact nofun
  | cons l ls ih =>
    obtain ⟨⟨hl, handle, hh⟩, hls⟩ := forall_mem_cons.mp hls
    refine forall_mem_cons.mpr ⟨?_, ih hls⟩
    rw [nextFill, hh]
    exact hP.batch _ _ _ (hP.blend _ _ _ _ (hl handle hh))

lemma EntryRule.batchFills {first : BltEntry → BltEntry} (hfirst : P (first .zero))
    {rest : List (BltEntry → BltEntry)} (hrest : ∀ fill ∈ rest, P (fill .zero)) :
    ∀ fill ∈ batchFills first rest, P (fill .zero) := by
  have hall : ∀ fill ∈ (rgzBatchEntry .batchBegin {} ∘ first) :: rest, P (fill .zero) :=
    forall_mem_cons.mpr ⟨hP.batch _ _ _ hfirst, hrest⟩
  intro fill hfill
  rcases mem_modifyLast hfill with hmem | ⟨fill, hmem, rfl⟩
  · exact hall fill hmem
  · show P (closeBatch (fill .zero))
    unfold closeBatch
    split_ifs
    · exact hP.batch _ _ _ (hall fill hmem)
    · exact hP.batch _ _ _ (hall fill hmem)

lemma StackPlan.all {h : Hregion} {s : Nat} (hh : ∀ k, Known L (h.layer k)) {ks : List Nat}
    {fills : List (BltEntry → BltEntry)} (hp : StackPlan params h s ks fills) :
    ∀ fill ∈ fills, P (fill .zero) := by
  have hread : ∀ {ks : List Nat}, (∀ x ∈ ks.map h.layer, x.Readable) →
      ∀ x ∈ ks.map h.layer, Known L x ∧ x.Readable := fun hread x hx => by
    obtain ⟨k, -, rfl⟩ := mem_map.mp hx
    exact ⟨hh k, hread _ hx⟩
  cases hp with
  | copy _ _ hl => exact forall_mem_singleton.mpr (hP.copy _ _ _ _ (hh _ _ hl))
  | fused _ _ hl hm hks =>
    exact hP.batchFills (hP.blendTwo _ _ _ _ _ _ (hh _ _ hl) (hh _ _ hm)) (hP.restFills (hread hks))
  | copied _ _ hm hks =>
    exact hP.batchFills (hP.copy _ _ _ _ (hh _ _ hm)) (hP.restFills (hread hks))

/-- **The rule for the entries of an output.** -/
theorem rgzOut_all {op : RgzOutOp} {rgz : Rgz} {out : OutData}
    (hcur : ∀ l ∈ rgz.curFbState, Known L l)
    (hregions : ∀ h ∈ rgz.hregions, ∀ l ∈ h.rgzLayers, l ∈ rgz.curFbState)
    (hr : rgzOut op rgz params = .ok out) : ∀ e ∈ out.cmds, P e := by
  obtain ⟨parts, hparts, hcmds, -, hlt⟩ := rgzOut_eq_blits hr
  -- every step writes entries that satisfy the predicate
  have hsteps : ∀ step ∈ rgzSteps op rgz params,
      Oblivious (fun fills => ∀ fill ∈ fills, P (fill .zero)) step := by
    intro step hstep
    cases op with
    | bvcmdPaint =>
      rcases mem_cons.mp hstep with rfl | hstep
      · exact .draws [_] (forall_mem_singleton.mpr (hP.clear _ _)) fun _ => rfl
      obtain ⟨l, hl, rfl⟩ := mem_map.mp hstep
      have hknown := hcur l (mem_of_mem_tail hl)
      refine (paintLayer_oblivious params l).mono fun fills hp => ?_
      cases hp with
      | clear _ => exact forall_mem_singleton.mpr (hP.clear _ _)
      | blend _ _ hh => exact forall_mem_singleton.mpr (hP.blend _ _ _ _ (hknown _ hh))
      | copy _ _ hh => exact forall_mem_singleton.mpr (hP.copy _ _ _ _ (hknown _ hh))
    | bvcmdRegion =>
      obtain ⟨⟨h, s⟩, hmem, rfl⟩ := mem_map.mp hstep
      have hh := (mem_rgzSubregions.mp hmem).1
      refine (subregionBlit_oblivious params h rgz.damagedArea s).mono fun fills hp => ?_
      cases hp with
      | clean _ _ => exact nofun
      | clear _ _ _ _ => exact forall_mem_singleton.mpr (hP.clear _ _)
      | drawn _ _ hp =>
        refine hp.all hP fun k => ?_
        -- beyond the layers of a band there is no buffer to read
        by_cases hk : k < h.rgzLayers.length
        · exact hcur _ (hregions h hh _ (Hregion.layer_mem hk))
        · intro handle hd
          have hnone : h.rgzLayers[k]? = none := getElem?_eq_none (by omega)
          simp [Hregion.layer, getD_eq_getElem?_getD, hnone, BufferHandle.deref] at hd
  have hall : ∀ e ∈ parts.flatten, P e := by
    intro e he
    obtain ⟨part, hpart, he⟩ := mem_flatten.mp he
    obtain ⟨step, hstep, -, hfills⟩ := exists_mem_of_forall₂ (parts_of_rgzBlits hparts hlt) hpart
    obtain ⟨fills, hfill, rfl⟩ := hfills _ (hsteps step hstep)
    obtain ⟨fill, hmem, rfl⟩ := mem_map.mp he
    exact hfill fill hmem
  intro e he
  rw [hcmds] at he
  rcases mem_modifyLast he with hmem | ⟨e, hmem, rfl⟩
  · exact hall e hmem
  · exact hP.async false e (hall e hmem)

end

end Solana
