import Solana.Lib.Compositing
import Solana.Rgz.Plans

/-!
# Executing blits at a pixel

The meaning of a blit list, one framebuffer pixel at a time.  A blit changes the pixels inside
its clip rectangle: a copy writes the sample of its first source there, a blend its first
source over its second.  `sample ix px` is what the buffer with index `ix` shows at the screen
pixel `px`; the source `-1` is transparent, and the framebuffer as a source is the value that
is there.  The source rectangles, flips and scaling are not followed here.  When a blit describes
its destination turned, the clip rectangle is turned with it, so the pixel is looked up in the
turned view.
-/

namespace Solana

open Compositing BltEntry SurfGeom

variable {α : Type*} [Monoid α]

/-! ## Single blits -/

/-- The pixel in the view the entry's destination is described in. -/
def BltEntry.viewPixel (e : BltEntry) (px : Pixel) : Pixel :=
  let v := rgzGetRotatedView (e.dstgeom.turned e.dstgeom.orientation).rect
    ⟨px.x, px.y, px.x + 1, px.y + 1⟩ e.dstgeom.orientation
  ⟨v.left, v.top⟩

/-- A width or a height as the blitter reads it. -/
def asUnsigned (n : Int) : Int := if n < 0 then n + 2 ^ 32 else n

/-- The pixel is inside the clip rectangle. -/
def BltEntry.Clips (e : BltEntry) (px : Pixel) : Prop :=
  let r := e.cliprect
  (⟨r.left, r.top, r.left + asUnsigned r.width, r.top + asUnsigned r.height⟩ : Rect).Contains
    (e.viewPixel px)

instance (e : BltEntry) (px : Pixel) : Decidable (e.Clips px) := by
  unfold BltEntry.Clips; infer_instance

/-- The value of a source at a pixel where the framebuffer holds `d`. -/
def AuxPtr.value (sample : Int → Pixel → α) (px : Pixel) (d : α) : AuxPtr → α
  | .index ix => if ix = -1 then 1 else sample ix px
  | .descFb _ => d

/-- What a blit makes of the value at a pixel. -/
def BltEntry.exec (sample : Int → Pixel → α) (px : Pixel) (e : BltEntry) (d : α) : α :=
  if e.Clips px then
    match e.op with
    | .unset => d
    | .srcCopy => e.src1desc.auxptr.value sample px d
    | .src1Over => e.src1desc.auxptr.value sample px d * e.src2desc.auxptr.value sample px d
  else d

/-- Execute a blit list at a pixel. -/
def execAll (sample : Int → Pixel → α) (px : Pixel) (cmds : List BltEntry) (d : α) : α :=
  cmds.foldl (fun d e => e.exec sample px d) d

variable (sample : Int → Pixel → α) (px : Pixel)

lemma execAll_append (as bs : List BltEntry) (d : α) :
    execAll sample px (as ++ bs) d = execAll sample px bs (execAll sample px as d) :=
  List.foldl_append

lemma execAll_flatten {β : Type*} {g : β → α → α} {xs : List β} {parts : List (List BltEntry)}
    (h : List.Forall₂ (fun x part => ∀ d, execAll sample px part d = g x d) xs parts) (d : α) :
    execAll sample px parts.flatten d = xs.foldl (fun d x => g x d) d := by
  induction h generalizing d with
  | nil => rfl
  | cons hx _ ih => rw [List.flatten_cons, execAll_append, hx, ih, List.foldl_cons]

lemma execAll_modifyLast {f : BltEntry → BltEntry}
    (hf : ∀ e d, (f e).exec sample px d = e.exec sample px d) : ∀ (cmds : List BltEntry) (d : α),
      execAll sample px (modifyLast f cmds) d = execAll sample px cmds d
  | [], _ => rfl
  | [e], d => hf e d
  | e :: e' :: l, d => execAll_modifyLast hf (e' :: l) (e.exec sample px d)

lemma rgzSetAsync_exec (async : Bool) (e : BltEntry) (d : α) :
    (rgzSetAsync async e).exec sample px d = e.exec sample px d := rfl

/-! ## The clip rectangle in a turned view -/

/-- The angles a destination is turned by. -/
def QuarterTurn (o : Int) : Prop := o = 0 ∨ o = 90 ∨ o = 180 ∨ o = 270 ∨ o = 360

@[simp] lemma turned_turned (g : SurfGeom) (o : Int) : (g.turned o).turned o = g := by
  unfold turned
  split_ifs <;> rfl

@[simp] lemma turned_orientation (g : SurfGeom) (o : Int) :
    (g.turned o).orientation = g.orientation := by
  unfold turned
  split_ifs <;> rfl

lemma rgzGetRotatedView_contains {o : Int} (ho : QuarterTurn o) (outer inner : Rect) (p : Pixel) :
    (rgzGetRotatedView outer inner o).Contains
        ⟨(rgzGetRotatedView outer ⟨p.x, p.y, p.x + 1, p.y + 1⟩ o).left,
          (rgzGetRotatedView outer ⟨p.x, p.y, p.x + 1, p.y + 1⟩ o).top⟩ ↔ inner.Contains p := by
  rcases ho with rfl | rfl | rfl | rfl | rfl <;>
    simp [rgzGetRotatedView, Rect.Contains, Rect.width, Rect.height] <;> omega

@[simp] lemma toBv_toRect (r : Rect) : r.toBv.toRect = r := by
  simp [Rect.toBv, BvRect.toRect, Rect.width, Rect.height]

/-- The width and the height are not negative. -/
def Rect.Ordered (r : Rect) : Prop := r.left ≤ r.right ∧ r.top ≤ r.bottom

lemma rgzGetRotatedView_ordered {o : Int} (ho : QuarterTurn o) (outer : Rect) {inner : Rect}
    (h : inner.Ordered) : (rgzGetRotatedView outer inner o).Ordered := by
  unfold Rect.Ordered at h ⊢
  rcases ho with rfl | rfl | rfl | rfl | rfl <;>
    simp [rgzGetRotatedView, Rect.width, Rect.height] <;> omega

lemma clips_iff {e : BltEntry} {r : Rect} (he : e.cliprect = r.toBv) (h : r.Ordered) (px : Pixel) :
    e.Clips px ↔ r.Contains (e.viewPixel px) := by
  have hw : asUnsigned r.width = r.right - r.left := if_neg (not_lt.mpr (sub_nonneg.mpr h.1))
  have hh : asUnsigned r.height = r.bottom - r.top := if_neg (not_lt.mpr (sub_nonneg.mpr h.2))
  simp only [BltEntry.Clips, he, Rect.toBv, hw, hh, add_sub_cancel]

/-- An entry whose destination was set up clips to the screen part of its subregion. -/
lemma rgzSetDstData_clips {o : Int} (ho : QuarterTurn o) (params : OutParams) (rect : Rect)
    {sub : Rect} (hsub : (clipToScreen params.dstgeom sub).Ordered) (e : BltEntry) (px : Pixel) :
    (rgzSetDstData params rect o (rgzSetClipRect params sub e)).Clips px ↔
      (clipToScreen params.dstgeom sub).Contains px := by
  have hview := rgzGetRotatedView_contains ho
    ({ params.dstgeom with orientation := o } : SurfGeom).rect
    (clipToScreen params.dstgeom sub) px
  rcases eq_or_ne o 0 with rfl | h
  · have hzero : ∀ g : SurfGeom, g.turned 0 = g := fun g => rfl
    rw [clips_iff (r := clipToScreen params.dstgeom sub) rfl hsub]
    simp [rgzSetDstData, viewPixel, hzero, rgzGetRotatedView, SurfGeom.rect]
  · rw [← hview, clips_iff (r := rgzGetRotatedView
      ({ params.dstgeom with orientation := o } : SurfGeom).rect
      (clipToScreen params.dstgeom sub) o) ?_ (rgzGetRotatedView_ordered ho _ hsub)]
    · simp only [rgzSetDstData, if_pos h, rgzRotateDst, viewPixel, turned_orientation,
        turned_turned]
    · simp only [rgzSetDstData, if_pos h, rgzRotateDst, toBv_toRect, rgzSetClipRect]

lemma quarterTurn_dst (l : HwcLayer) (h : NativeHandle) : QuarterTurn (rgzDstOrientation l h) := by
  unfold QuarterTurn rgzDstOrientation rgzGetOrientation
  split_ifs <;> omega

/-! ## The entries the regionizer makes -/

/-- The value of a layer's buffer at a pixel. -/
def layerValue (l : RgzLayer) : α := (AuxPtr.index l.buffidx).value sample px 1

lemma rgzSrcData_auxptr (l : RgzLayer) (h : NativeHandle) (sub : Rect) (o : Int) :
    (rgzSrcData l h sub o).1.auxptr = .index l.buffidx := by
  unfold rgzSrcData
  simp only
  split_ifs <;> rfl

/-- What setting up source 1 leaves for the execution to see. -/
lemma rgzSetupSrc1_spec {params : OutParams} {sub : Rect}
    (hsub : (clipToScreen params.dstgeom sub).Ordered) (l : RgzLayer) (h : NativeHandle)
    (e : BltEntry) : (rgzSetupSrc1 params sub l h e).op = e.op ∧
      (rgzSetupSrc1 params sub l h e).src1desc.auxptr = .index l.buffidx ∧
      ((rgzSetupSrc1 params sub l h e).Clips px ↔
        (clipToScreen params.dstgeom sub).Contains px) := by
  unfold rgzSetupSrc1
  simp only
  rw [rgzSetDstData_op, rgzSetDstData_src1desc]
  exact ⟨rfl, rgzSrcData_auxptr _ _ _ _, rgzSetDstData_clips (quarterTurn_dst _ _) _ _ hsub _ _⟩

lemma exec_srcCopy {e : BltEntry} {a : AuxPtr} {C : Prop} [Decidable C] (hop : e.op = .srcCopy)
    (hsrc : e.src1desc.auxptr = a) (hclip : e.Clips px ↔ C) (d : α) :
    e.exec sample px d = if C then a.value sample px d else d := by
  simp only [exec, hop, hsrc, hclip]

lemma exec_src1Over {e : BltEntry} {a b : AuxPtr} {C : Prop} [Decidable C]
    (hop : e.op = .src1Over) (ha : e.src1desc.auxptr = a) (hb : e.src2desc.auxptr = b)
    (hclip : e.Clips px ↔ C) (d : α) :
    e.exec sample px d = if C then a.value sample px d * b.value sample px d else d := by
  simp only [exec, hop, ha, hb, hclip]

section

variable {params : OutParams} {sub : Rect} (hsub : (clipToScreen params.dstgeom sub).Ordered)
  (l : RgzLayer) (h : NativeHandle) (e : BltEntry) (d : α)
include hsub l h e d

lemma rgzCopyEntry_exec : (rgzCopyEntry params sub l h e).exec sample px d =
      if (clipToScreen params.dstgeom sub).Contains px then layerValue sample px l else d := by
  have hspec := rgzSetupSrc1_spec px hsub l h
    { e with op := .srcCopy, flags := { clip := true, rop := true } }
  unfold rgzCopyEntry
  simp only
  generalize rgzSetupSrc1 params sub l h _ = e' at hspec
  obtain ⟨hop, hsrc, hclip⟩ := hspec
  by_cases hfmt : e'.src1geom.format = .bgr124 ∨ e'.src1geom.format = .rgb124 ∨
      e'.src1geom.format = .rgb16
  · -- the clip rectangle does not depend on the destination's format
    have hclip' : ({ e' with dstgeom := { e'.dstgeom with format := .bgr124 } } : BltEntry).Clips
        px ↔ (clipToScreen params.dstgeom sub).Contains px := by
      rw [← hclip]
      unfold BltEntry.Clips viewPixel turned
      split_ifs <;> exact Iff.rfl
    rw [if_pos hfmt]
    exact exec_srcCopy sample px
      (e := { e' with dstgeom := { e'.dstgeom with format := .bgr124 } }) hop hsrc hclip' d
  · rw [if_neg hfmt]
    exact exec_srcCopy sample px hop hsrc hclip d

lemma rgzBlendDst_exec : (rgzSetSrc2IsDst (rgzBlendEntry params sub l h e)).exec sample px d =
      if (clipToScreen params.dstgeom sub).Contains px then layerValue sample px l * d else d := by
  obtain ⟨hop, hsrc, hclip⟩ := rgzSetupSrc1_spec px hsub l h
    { e with op := .src1Over, flags := { clip := true, blend := true } }
  exact exec_src1Over sample px (e := rgzSetSrc2IsDst (rgzBlendEntry params sub l h e))
    hop hsrc rfl hclip d

lemma rgzBlendTwo_exec (m : RgzLayer) (k : NativeHandle) :
    (rgzSetSrc2 sub m k (rgzBlendEntry params sub l h e)).exec sample px d =
      if (clipToScreen params.dstgeom sub).Contains px then
        layerValue sample px l * layerValue sample px m else d := by
  obtain ⟨hop, hsrc, hclip⟩ := rgzSetupSrc1_spec px hsub l h
    { e with op := .src1Over, flags := { clip := true, blend := true } }
  exact exec_src1Over sample px (e := rgzSetSrc2 sub m k (rgzBlendEntry params sub l h e))
    hop hsrc (rgzSrcData_auxptr _ _ _ _) hclip d

omit l h in
lemma rgzClearEntry_exec : (rgzClearEntry params sub e).exec sample px d =
      if (clipToScreen params.dstgeom sub).Contains px then 1 else d := by
  unfold rgzClearEntry
  simp only [exec, rgzSetDstData_clips (Or.inl rfl) params sub hsub _ px]
  rfl

end

end Solana
