import Solana.Lib.Fallible
import Solana.Rgz.Blits

/-!
# What the outputs write

A drawing function reads nothing of the array of blit entries: it fails whatever the array holds,
or it asks for a fixed sequence of slots and writes to each of them (`Oblivious`).  This module goes
through the drawing functions once.  `SubregionPlan` says which slots a subregion asks for and what
is written there for the layers it is drawn from, and `rgzOut_eq_blits` that an output that returns
0 hands back the blits of its steps one behind the other.  What is proved about the blits of an
output is proved about these slots.

`rgz_blts_get` hands out the last slot again when the array is full, and what the slot held is
lost.  `rgzBlits` is the list of all blits an output generates, each step (a layer to paint, a
subregion to draw) taken on an array of its own.
-/

namespace Solana

open Fallible Blts Hregion BlendState List

/-! ## The stack of a subregion -/

section Stack

variable {h : Hregion} {s : Nat}

lemma stackFrom_of_le {k : Nat} (hk : h.rgzLayers.length ≤ k) : h.stackFrom s k = [] := by
  simp [stackFrom, Nat.sub_eq_zero_of_le hk]

lemma stackFrom_step {k : Nat} (hk : k < h.rgzLayers.length) : h.stackFrom s k =
      if !emptyRect (h.blitrect k s) then k :: h.stackFrom s (k + 1)
      else h.stackFrom s (k + 1) := by
  obtain ⟨n, hn⟩ : ∃ n, h.rgzLayers.length - k = n + 1 := ⟨h.rgzLayers.length - k - 1, by omega⟩
  have hn' : h.rgzLayers.length - (k + 1) = n := by omega
  simp only [stackFrom, hn, hn', range'_succ, filter_cons]

/-- Inversion of a non-empty stack: its lowest element starts it, and the rest is the stack
above that element. -/
lemma stackFrom_eq_cons : ∀ (n : Nat) {k y : Nat} {rest : List Nat},
    h.rgzLayers.length - k = n → h.stackFrom s k = y :: rest →
    y < h.rgzLayers.length ∧ emptyRect (h.blitrect y s) = false ∧
      h.stackFrom s (y + 1) = rest ∧ h.stackFrom s y = y :: rest
  | 0, k, y, rest, hn, hs => by
    rw [stackFrom_of_le (by omega)] at hs
    cases hs
  | n + 1, k, y, rest, hn, hs => by
    have hk : k < h.rgzLayers.length := by omega
    have hs' := hs
    rw [stackFrom_step hk] at hs'
    split_ifs at hs' with he
    · obtain ⟨rfl, hr⟩ := cons.inj hs'
      exact ⟨hk, by simpa using he, hr, hs⟩
    · exact stackFrom_eq_cons n (by omega) hs'

lemma stackFrom_cons {k y : Nat} {rest : List Nat} (hs : h.stackFrom s k = y :: rest) :
    y < h.rgzLayers.length ∧ emptyRect (h.blitrect y s) = false ∧
      h.stackFrom s (y + 1) = rest ∧ h.stackFrom s y = y :: rest :=
  stackFrom_eq_cons _ rfl hs

lemma getLayerOpsNext_eq (l : Nat) : getLayerOpsNext h s l = (h.stackFrom s (l + 1)).head? := by
  rw [getLayerOpsNext, stackFrom, head?_filter]

/-- The stack from an element up is the end of the whole stack. -/
lemma stackFrom_split {m : Nat} (hm : m ≤ h.rgzLayers.length) :
    ∃ pre, h.stackFrom s 0 = pre ++ h.stackFrom s m := by
  refine ⟨(range' 0 m).filter fun l => !emptyRect (h.blitrect l s), ?_⟩
  rw [stackFrom, stackFrom, ← filter_append]
  congr 1
  have := @List.range'_append 0 m (h.rgzLayers.length - m) 1
  simp only [Nat.one_mul, Nat.zero_add] at this
  rw [this, Nat.sub_zero]
  congr 1
  omega

lemma getTopRectFrom_eq : ∀ n : Nat, getTopRectFrom h s n =
    ((range n).filter fun l => !emptyRect (h.blitrect l s)).getLast?
  | 0 => rfl
  | n + 1 => by
    rw [getTopRectFrom, range_succ, filter_append, getTopRectFrom_eq n]
    by_cases he : emptyRect (h.blitrect n s) = true
    · simp [he]
    · simp [he]

lemma getTopRect_eq : getTopRectFrom h s h.rgzLayers.length = (h.stackFrom s 0).getLast? := by
  rw [getTopRectFrom_eq, stackFrom, Nat.sub_zero, range_eq_range']

/-- What the descent through the stack finds: it stops at the first layer that needs nothing
below it, or at the bottom, and everything above needs blending. -/
structure Descent (h : Hregion) (s ops lix : Nat) (rest : List Nat) : Prop where
  stack : h.stackFrom s lix = lix :: rest
  ops : ops = rest.length + 1
  blended : ∀ k ∈ rest, stopsDescent (h.layer k) = .ok false
  bottom : stopsDescent (h.layer lix) = .ok true ∨ h.stackFrom s 0 = lix :: rest

lemma getLayerOpsFrom_spec : ∀ {l ops : Nat} {bottom : Option Nat} {ops' lix : Nat},
    l ≤ h.rgzLayers.length → ops = (h.stackFrom s l).length → bottom = (h.stackFrom s l).head? →
    (∀ k ∈ h.stackFrom s l, stopsDescent (h.layer k) = .ok false) →
    getLayerOpsFrom h s l ops bottom = .ok (ops', some lix) → ∃ rest, Descent h s ops' lix rest
  | 0, ops, bottom, ops', lix, _, hops, hbot, hall, hres => by
    obtain ⟨rfl, rfl⟩ : ops = ops' ∧ bottom = some lix := by
      simpa [getLayerOpsFrom, pure, Except.pure] using hres
    cases hst : h.stackFrom s 0 with
    | nil => simp [hst] at hbot
    | cons y rest =>
      obtain rfl : lix = y := by simpa [hst] using hbot
      refine ⟨rest, (stackFrom_cons hst).2.2.2, by simpa [hst] using hops, ?_, Or.inr hst⟩
      exact fun k hk => hall k (by simp [hst, hk])
  | l + 1, ops, bottom, ops', lix, hl, hops, hbot, hall, hres => by
    have hstep := stackFrom_step (s := s) (show l < h.rgzLayers.length by omega)
    rw [getLayerOpsFrom] at hres
    by_cases he : (!emptyRect (h.blitrect l s)) = true
    · rw [if_pos he] at hres hstep
      obtain ⟨stop, hstop, hres⟩ := exists_of_bind_eq_ok hres
      cases stop with
      | true =>
        obtain ⟨rfl, rfl⟩ : ops + 1 = ops' ∧ l = lix := by simpa using hres
        exact ⟨_, hstep, by rw [hops], hall, Or.inl hstop⟩
      | false =>
        refine getLayerOpsFrom_spec (by omega) (by rw [hstep, hops]; rfl)
          (by rw [hstep]; rfl) ?_ hres
        intro k hk
        rw [hstep] at hk
        rcases mem_cons.mp hk with rfl | hk
        · exact hstop
        · exact hall k hk
    · rw [if_neg he] at hres hstep
      rw [← hstep] at hops hbot hall
      exact getLayerOpsFrom_spec (by omega) hops hbot hall hres

lemma getLayerOps_spec {ops lix : Nat} (hres : getLayerOps h s = .ok (ops, some lix)) :
    ∃ rest, Descent h s ops lix rest := by
  have hnil := stackFrom_of_le (s := s) (le_refl h.rgzLayers.length)
  exact getLayerOpsFrom_spec le_rfl (by rw [hnil]; rfl) (by rw [hnil]; rfl) (by simp [hnil]) hres

lemma length_stackFrom_le (k : Nat) : (h.stackFrom s k).length ≤ h.rgzLayers.length := by
  refine (length_filter_le _ _).trans ?_
  simp

end Stack

/-! ## Slots -/

/-- Ask for one slot after the other and write to each. -/
def Blts.puts (b : Blts) (fills : List (BltEntry → BltEntry)) : Blts := fills.foldl Blts.put b

/-- Entries behind those that are there. -/
def Blts.append (b : Blts) (es : List BltEntry) : Blts :=
  ⟨b.bvcmds ++ es, b.outBlits + es.length⟩

/-- What is written to a fresh slot. -/
def freshEntries (fills : List (BltEntry → BltEntry)) : List BltEntry :=
  fills.map fun fill => fill .zero

lemma freshEntries_modifyLast (g : BltEntry → BltEntry) :
    ∀ fills, freshEntries (modifyLast (g ∘ ·) fills) = modifyLast g (freshEntries fills)
  | [] => rfl
  | [_] => rfl
  | fill :: _ :: _ => congrArg (fill .zero :: ·) (freshEntries_modifyLast g _)

lemma Blts.puts_append (b : Blts) (fills fills' : List (BltEntry → BltEntry)) :
    b.puts (fills ++ fills') = (b.puts fills).puts fills' := foldl_append

section ModifyLast
variable {α : Type}

lemma modifyLast_append_singleton (f : α → α) (a : α) :
    ∀ xs : List α, modifyLast f (xs ++ [a]) = xs ++ [f a]
  | [] => rfl
  | [_] => rfl
  | b :: c :: xs => by
    rw [cons_append, cons_append, modifyLast, ← cons_append,
      modifyLast_append_singleton f a (c :: xs)]
    rfl

lemma modifyLast_modifyLast (f g : α → α) :
    ∀ xs : List α, modifyLast g (modifyLast f xs) = modifyLast (g ∘ f) xs := by
  intro xs
  rcases eq_nil_or_concat xs with rfl | ⟨xs, a, rfl⟩
  · rfl
  · simp only [concat_eq_append, modifyLast_append_singleton, Function.comp_apply]

end ModifyLast

/-- A change of the slot asked for last is part of what is written there. -/
lemma Blts.modify_put (b : Blts) (f g : BltEntry → BltEntry) :
    (b.put f).modify g = b.put (g ∘ f) := by
  unfold put Blts.modify
  split_ifs
  · simp [modifyLast_append_singleton]
  · simp [modifyLast_modifyLast]

variable {fills : List (BltEntry → BltEntry)}

lemma Blts.modify_puts (b : Blts) (h : fills ≠ []) (g : BltEntry → BltEntry) :
    (b.puts fills).modify g = b.puts (modifyLast (g ∘ ·) fills) := by
  obtain ⟨front, fill, rfl⟩ := (eq_nil_or_concat fills).resolve_left h
  rw [concat_eq_append, modifyLast_append_singleton, puts_append, puts_append]
  exact modify_put _ fill g

section

variable (fills)
include fills

lemma Blts.puts_eq_append : ∀ b : Blts, b.bvcmds.length + fills.length ≤ rgzMaxBlits →
      b.puts fills = b.append (freshEntries fills) := by
  induction fills with
  | nil => intro b _; simp [puts, append, freshEntries]
  | cons fill fills ih =>
    intro b hroom
    rw [length_cons] at hroom
    have hput : b.put fill = b.append [fill .zero] := by
      unfold put
      rw [if_pos (by omega)]
      rfl
    have hrest := ih (b.put fill) (by simp [hput, append]; omega)
    calc b.puts (fill :: fills) = (b.put fill).puts fills := rfl
      _ = (b.append [fill .zero]).append (freshEntries fills) := by rw [hrest, hput]
      _ = b.append (freshEntries (fill :: fills)) := by
        simp [append, freshEntries]; omega

lemma Blts.puts_full : ∀ b : Blts,
    rgzMaxBlits ≤ b.bvcmds.length + fills.length → rgzMaxBlits ≤ (b.puts fills).bvcmds.length := by
  induction fills with
  | nil => intro b hfull; exact hfull
  | cons fill fills ih =>
    intro b hfull
    rw [length_cons] at hfull
    refine ih (b.put fill) ?_
    unfold put
    split_ifs <;> simp [length_modifyLast] <;> omega

lemma Blts.puts_count : ∀ b : Blts,
    b.outBlits = b.bvcmds.length → (b.puts fills).outBlits = (b.puts fills).bvcmds.length := by
  induction fills with
  | nil => intro b hb; exact hb
  | cons fill fills ih =>
    intro b hb
    refine ih (b.put fill) ?_
    unfold put
    split_ifs <;> simp [hb, length_modifyLast]

end

/-! ## Drawing functions -/

/-- The function asks for these slots and writes to them, whatever is in the array. -/
def Asks (f : Blts → Except OutFault Blts) (fills : List (BltEntry → BltEntry)) : Prop :=
  ∀ b, f b = .ok (b.puts fills)

/-- A function on the array of entries that reads nothing of it: it always fails in one way, or
always asks for the same slots and writes the same to them. -/
inductive Oblivious (P : List (BltEntry → BltEntry) → Prop) (f : Blts → Except OutFault Blts) : Prop
  | fails (fault : OutFault) (h : ∀ b, f b = .error fault)
  | draws (fills : List (BltEntry → BltEntry)) (hP : P fills) (h : Asks f fills)

lemma Oblivious.mono {P Q : List (BltEntry → BltEntry) → Prop} {f : Blts → Except OutFault Blts}
    (h : Oblivious P f) (hPQ : ∀ fills, P fills → Q fills) : Oblivious Q f := by
  cases h with
  | fails fault h => exact .fails fault h
  | draws fills hP h => exact .draws fills (hPQ fills hP) h

/-- What a drawing function leaves in an array of its own that does not get full. -/
lemma Oblivious.part {P : List (BltEntry → BltEntry) → Prop} {f : Blts → Except OutFault Blts}
    (h : Oblivious P f) {part : List BltEntry} (hpart : (f .init).map bvcmds = .ok part)
    (hroom : part.length < rgzMaxBlits) : ∃ fills, P fills ∧ part = freshEntries fills := by
  obtain ⟨b, hb, rfl⟩ := exists_of_map_eq_ok hpart
  cases h with
  | fails fault h => exact absurd ((h _).symm.trans hb) nofun
  | draws fills hP h =>
    obtain rfl := Except.ok.inj ((h _).symm.trans hb)
    refine ⟨fills, hP, ?_⟩
    rw [puts_eq_append]
    · rfl
    · by_contra hfull
      exact absurd (Blts.puts_full fills .init (by omega)) (by omega)

/-- A layer whose buffer can be read. -/
def RgzLayer.Readable (l : RgzLayer) : Prop := ∃ handle, l.hwcLayer.handle.deref = some handle

/-- The buffer of a layer is NV12. -/
def RgzLayer.nv12 (l : RgzLayer) : Bool :=
  (l.hwcLayer.handle.deref.map fun h => h.iFormat.isNv12).getD false

lemma nv12_eq {l : RgzLayer} {handle : NativeHandle} (hh : l.hwcLayer.handle.deref = some handle) :
    l.nv12 = handle.iFormat.isNv12 := by
  rw [RgzLayer.nv12, hh]
  rfl

lemma copy_oblivious (params : OutParams) (rect : Rect) (l : RgzLayer) :
    Oblivious (fun fills => ∃ handle, l.hwcLayer.handle.deref = some handle ∧
      fills = [rgzCopyEntry params rect l handle]) (rgzHwcSubregionCopy params rect l) := by
  unfold rgzHwcSubregionCopy
  cases hh : l.hwcLayer.handle.deref with
  | none => exact .fails .segv fun _ => rfl
  | some handle => exact .draws _ ⟨handle, rfl, rfl⟩ fun _ => rfl

/-! ## The layers of a batch -/

/-- A blend state with another array. -/
def BlendState.withBlts (st : BlendState) (b : Blts) : BlendState := { st with blts := b }

lemma BlendState.withBlts_modify (st : BlendState) (b : Blts) (f : BltEntry → BltEntry) :
    ({ st.withBlts b with blts := (st.withBlts b).blts.modify f } : BlendState) =
      st.withBlts (b.modify f) := rfl

/-- The batch flags of a further layer: what differs from the entry before. -/
def blendNextFlags (st : BlendState) (scaled nv12 : Bool) : BatchFlags :=
  ((st.firstBatchflags.union
    { src1 := true, src1rectOrigin := true, src1rectSize := true }).union
    (if scaled || st.prevLayerScaled then
      { dstrectOrigin := true, dstrectSize := true, src2rectOrigin := true,
        src2rectSize := true, scale := true }
    else {})).union
    (if nv12 || st.prevLayerNv12 then
      { dst := true, dstrectOrigin := true, dstrectSize := true, src2 := true,
        src2rectOrigin := true, src2rectSize := true, cliprect := true }
    else {})

/-- The end of a blend: the slot asked for last ends the batch, and if it is also the first there
is no batch. -/
def closeBatch (e : BltEntry) : BltEntry :=
  if e.flags.batch.hasBeginBit then rgzBatchEntry .single {} e else rgzBatchEntry .batchEnd {} e

/-- The slots of a batch: the first one begins it and the last one ends it. -/
def batchFills (first : BltEntry → BltEntry) (rest : List (BltEntry → BltEntry)) :
    List (BltEntry → BltEntry) :=
  modifyLast (closeBatch ∘ ·) ((rgzBatchEntry .batchBegin {} ∘ first) :: rest)

/-- A blend of a layer with the framebuffer. -/
def blendDstEntry (params : OutParams) (rect : Rect) (l : RgzLayer) (handle : NativeHandle)
    (e : BltEntry) : BltEntry := rgzSetSrc2IsDst (rgzBlendEntry params rect l handle e)

/-- What is written for a further layer of a batch. -/
def nextFill (params : OutParams) (rect : Rect) (st : BlendState) (l : RgzLayer) (e : BltEntry) :
    BltEntry :=
  match l.hwcLayer.handle.deref with
  | some handle => rgzBatchEntry .batchContinue (blendNextFlags st l.hwcLayer.scaled l.nv12)
      (blendDstEntry params rect l handle e)
  | none => e

/-- The locals of the loop behind a layer. -/
def BlendState.behind (l : RgzLayer) : BlendState := ⟨.init, l.hwcLayer.scaled, l.nv12, {}⟩

/-- What is written for the layers behind the first entry of a batch. -/
def restFills (params : OutParams) (rect : Rect) :
    BlendState → List RgzLayer → List (BltEntry → BltEntry)
  | _, [] => []
  | st, l :: ls => nextFill params rect st l :: restFills params rect (.behind l) ls

/-- The two lowest layers of a stack are drawn by one blit (`rgz_can_blend_together`). -/
def fused (l m : RgzLayer) : Bool :=
  !(l.hwcLayer.scaled || m.hwcLayer.scaled) && !(l.nv12 || m.nv12)

/-- The bits the second entry of a batch gets whatever its layer is. -/
def secondFlags (copied : Bool) : BatchFlags :=
  { op := copied, src2 := true, src2rectOrigin := true, src2rectSize := true }

section Batch

variable (params : OutParams) (h : Hregion) (s : Nat) (rect : Rect)

lemma blendNext_oblivious (l : RgzLayer) (st : BlendState) :
    (∃ fault, ∀ b, rgzBlendNext params rect l (st.withBlts b) = .error fault) ∨
    l.Readable ∧ ∀ b, rgzBlendNext params rect l (st.withBlts b) =
      .ok ((behind l).withBlts (b.put (nextFill params rect st l))) := by
  unfold rgzBlendNext rgzHwcSubregionBlend rgzIsLayerNv12
  cases hh : l.hwcLayer.handle.deref with
  | none => exact .inl ⟨.segv, fun _ => rfl⟩
  | some handle =>
    refine .inr ⟨⟨handle, hh⟩, fun b => ?_⟩
    have hfill : nextFill params rect st l = rgzBatchEntry .batchContinue
        (blendNextFlags st l.hwcLayer.scaled handle.iFormat.isNv12) ∘
          blendDstEntry params rect l handle := by
      funext e
      rw [nextFill, hh, nv12_eq hh]
      rfl
    rw [hfill, ← modify_put, behind, nv12_eq hh]
    rfl

/-- The loop writes an entry for each layer of the rest of the stack. -/
lemma blendRest_oblivious : ∀ {fuel lix : Nat}, (h.stackFrom s (lix + 1)).length ≤ fuel →
    ∀ st : BlendState,
    (∃ fault, ∀ b, rgzBlendRest params h s rect fuel lix (st.withBlts b) = .error fault) ∨
    (∀ l ∈ (h.stackFrom s (lix + 1)).map h.layer, l.Readable) ∧ ∃ st' : BlendState,
      ∀ b, rgzBlendRest params h s rect fuel lix (st.withBlts b) = .ok (st'.withBlts
        (b.puts (restFills params rect st ((h.stackFrom s (lix + 1)).map h.layer))))
  | 0, lix, hf, st => by
    rw [length_eq_zero_iff.mp (Nat.le_zero.mp hf)]
    exact .inr ⟨by simp, st, fun _ => rfl⟩
  | fuel + 1, lix, hf, st => by
    simp only [rgzBlendRest, getLayerOpsNext_eq]
    cases hst : h.stackFrom s (lix + 1) with
    | nil => exact .inr ⟨by simp, st, fun _ => rfl⟩
    | cons y rest =>
      have hrest := (stackFrom_cons hst).2.2.1
      rw [hst, length_cons] at hf
      simp only [head?_cons]
      rcases blendNext_oblivious params rect (h.layer y) st with ⟨fault, hn⟩ | ⟨hy, hn⟩
      · exact .inl ⟨fault, fun b => by simp [hn]⟩
      have hle : (h.stackFrom s (y + 1)).length ≤ fuel := by
        rw [hrest]
        omega
      have ih := blendRest_oblivious hle (.behind (h.layer y))
      rw [hrest] at ih
      rcases ih with ⟨fault, hr⟩ | ⟨hread, st', hr⟩
      · exact .inl ⟨fault, fun b => by simp [hn, hr]⟩
      · exact .inr ⟨forall_mem_cons.mpr ⟨hy, hread⟩, st', fun b => by
          simp only [hn, ok_bind, hr]; rfl⟩

lemma rgzCanBlendTogether_eq {l m : RgzLayer} {together : Bool}
    (hr : rgzCanBlendTogether l.hwcLayer m.hwcLayer = .ok together) : together = fused l m := by
  unfold rgzCanBlendTogether at hr
  unfold fused
  split_ifs at hr with hs
  · rw [hs]
    exact (Except.ok.inj hr).symm
  · split at hr
    · rename_i hl hm hhl hhm
      rw [nv12_eq hhl, nv12_eq hhm, Bool.eq_false_iff.mpr hs]
      exact (Except.ok.inj hr).symm
    · cases hr

/-- The first blit of a batch, and how far it reaches. -/
lemma blendFirst_oblivious (m n : Nat) :
    (∃ fault, ∀ b, rgzBlendFirst params h rect m n b = .error fault) ∨
    (∃ handle handle', fused (h.layer n) (h.layer m) = true ∧
      (h.layer n).hwcLayer.handle.deref = some handle ∧
      (h.layer m).hwcLayer.handle.deref = some handle' ∧
      ∀ b, rgzBlendFirst params h rect m n b = .ok (n, ⟨b.put fun e =>
        rgzSetSrc2 rect (h.layer m) handle' (rgzBlendEntry params rect (h.layer n) handle e),
        (h.layer n).hwcLayer.scaled, (h.layer n).nv12, secondFlags false⟩)) ∨
    ∃ handle, fused (h.layer n) (h.layer m) = false ∧
      (h.layer m).hwcLayer.handle.deref = some handle ∧ ∀ b, rgzBlendFirst params h rect m n b =
        .ok (m, ⟨b.put (rgzCopyEntry params rect (h.layer m) handle),
          (h.layer m).hwcLayer.scaled, (h.layer m).nv12, secondFlags true⟩) := by
  unfold rgzBlendFirst
  cases htog : rgzCanBlendTogether (h.layer n).hwcLayer (h.layer m).hwcLayer with
  | error fault => exact .inl ⟨fault, fun _ => by simp only [htog, error_bind]⟩
  | ok together =>
    have hfused := rgzCanBlendTogether_eq htog
    simp only [htog, ok_bind, ← hfused, rgzHwcSubregionBlend, rgzHwcSubregionCopy, rgzIsLayerNv12]
    cases together with
    | true =>
      have hplain : (h.layer n).hwcLayer.scaled = false ∧ (h.layer n).nv12 = false := by
        simp only [fused, Bool.true_eq, Bool.and_eq_true, Bool.not_eq_true',
          Bool.or_eq_false_iff] at hfused
        exact ⟨hfused.1.1, hfused.2.1⟩
      cases (h.layer n).hwcLayer.handle.deref with
      | none => exact .inl ⟨.segv, fun _ => rfl⟩
      | some handle =>
        cases (h.layer m).hwcLayer.handle.deref with
        | none => exact .inl ⟨.segv, fun _ => rfl⟩
        | some handle' =>
          rw [hplain.1, hplain.2]
          exact .inr (.inl ⟨handle, handle', rfl, rfl, rfl, fun _ => rfl⟩)
    | false =>
      cases hm : (h.layer m).hwcLayer.handle.deref with
      | none => exact .inl ⟨.segv, fun _ => rfl⟩
      | some handle =>
        rw [nv12_eq hm]
        exact .inr (.inr ⟨handle, rfl, rfl, fun _ => rfl⟩)

end Batch

/-! ## The plan of a subregion -/

/-- What is written for a stack of layers, bottom to top: the copy of the topmost one, if nothing is
blended or there is only one; otherwise a batch, which starts with the two lowest layers if they can
be drawn by one blit, and with a copy of the lowest one if they cannot. -/
inductive StackPlan (params : OutParams) (h : Hregion) (s : Nat) :
    List Nat → List (BltEntry → BltEntry) → Prop
  | copy {ks : List Nat} {top : Nat} {handle : NativeHandle}
      (hcopy : params.noblend = true ∨ ks.length = 1) (htop : ks.getLast? = some top)
      (hh : (h.layer top).hwcLayer.handle.deref = some handle) :
      StackPlan params h s ks [rgzCopyEntry params (h.blitrect top s) (h.layer top) handle]
  | fused {m l : Nat} {ks : List Nat} {handle handle' : NativeHandle}
      (hblend : params.noblend = false) (hfused : fused (h.layer l) (h.layer m) = true)
      (hl : (h.layer l).hwcLayer.handle.deref = some handle)
      (hm : (h.layer m).hwcLayer.handle.deref = some handle')
      (hread : ∀ x ∈ ks.map h.layer, x.Readable) :
      StackPlan params h s (m :: l :: ks) (batchFills
        (fun e => rgzSetSrc2 (h.blitrect m s) (h.layer m) handle'
          (rgzBlendEntry params (h.blitrect m s) (h.layer l) handle e))
        (restFills params (h.blitrect m s) ⟨.init, (h.layer l).hwcLayer.scaled, (h.layer l).nv12,
          secondFlags false⟩ (ks.map h.layer)))
  | copied {m l : Nat} {ks : List Nat} {handle : NativeHandle}
      (hblend : params.noblend = false) (hfused : fused (h.layer l) (h.layer m) = false)
      (hm : (h.layer m).hwcLayer.handle.deref = some handle)
      (hread : ∀ x ∈ (l :: ks).map h.layer, x.Readable) :
      StackPlan params h s (m :: l :: ks) (batchFills
        (rgzCopyEntry params (h.blitrect m s) (h.layer m) handle)
        (restFills params (h.blitrect m s) ⟨.init, (h.layer m).hwcLayer.scaled, (h.layer m).nv12,
          secondFlags true⟩ ((l :: ks).map h.layer)))

variable {params : OutParams}

lemma StackPlan.ne_nil {h : Hregion} {s : Nat} {ks : List Nat}
    (hp : StackPlan params h s ks fills) : fills ≠ [] := by
  have hbatch : ∀ first rest, batchFills first rest ≠ [] := fun first rest hnil => by
    have hlen := congrArg length hnil
    rw [batchFills, length_modifyLast] at hlen
    cases hlen
  cases hp with
  | copy => exact cons_ne_nil _ _
  | fused | copied => exact hbatch _ _

/-- A stack without its lowest layer, if that has some buffer index. -/
def skipBottom (h : Hregion) (buffidx : Int) : List Nat → List Nat
  | [] => []
  | l :: ls => if (h.layer l).buffidx = buffidx then ls else l :: ls

/-- The layers a subregion is drawn from, bottom to top: those `get_layer_ops` finds, without the
background and then without a clear hint at the bottom. -/
def drawnStack (h : Hregion) (s : Nat) : List Nat :=
  match getLayerOps h s with
  | .ok (_, some lix) => skipBottom h rgzClearhintBuffidx
      (skipBottom h rgzBackgroundBuffidx (h.stackFrom s lix))
  | _ => []

/-- The slots of a subregion: none if it is clean, a clear if no layer is left to be drawn, and
otherwise those of the layers. -/
inductive SubregionPlan (params : OutParams) (h : Hregion) (damagedArea : Rect) (s : Nat) :
    List (BltEntry → BltEntry) → Prop
  | clean {ops lix : Nat} (hops : getLayerOps h s = .ok (ops, some lix))
      (hclean : subregionDirty h s lix damagedArea = false) :
      SubregionPlan params h damagedArea s []
  | clear {ops lix k : Nat} (hops : getLayerOps h s = .ok (ops, some lix))
      (hdirty : subregionDirty h s lix damagedArea = true) (hk : k ∈ h.stackFrom s lix)
      (hnone : drawnStack h s = []) :
      SubregionPlan params h damagedArea s [rgzClearEntry params (h.blitrect k s)]
  | drawn {ops lix : Nat} {fills : List (BltEntry → BltEntry)}
      (hops : getLayerOps h s = .ok (ops, some lix))
      (hdirty : subregionDirty h s lix damagedArea = true)
      (hp : StackPlan params h s (drawnStack h s) fills) :
      SubregionPlan params h damagedArea s fills

lemma SubregionPlan.found {h : Hregion} {damagedArea : Rect} {s : Nat}
    (hp : SubregionPlan params h damagedArea s fills) :
    ∃ ops lix, getLayerOps h s = .ok (ops, some lix) := by
  cases hp with
  | clean hops | clear hops | drawn hops => exact ⟨_, _, hops⟩

section Subregion

variable {params : OutParams} {h : Hregion} {s lix : Nat} {rest : List Nat}

/-- Behind its first blit a batch has one for each layer above the one that is reached. -/
lemma blendLayers_of_first (st : BlendState) {y reached : Nat} {first : BltEntry → BltEntry}
    (hy : getLayerOpsNext h s lix = some y)
    (hf : ∀ b, rgzBlendFirst params h (h.blitrect lix s) lix y b =
      .ok (reached, st.withBlts (b.put first))) {ks : List Nat}
    (hks : h.stackFrom s (reached + 1) = ks) :
    Oblivious (fun fills => (∀ l ∈ ks.map h.layer, l.Readable) ∧
        fills = batchFills first (restFills params (h.blitrect lix s) st (ks.map h.layer)))
      (rgzBlendLayers params h s lix) := by
  subst hks
  unfold rgzBlendLayers
  simp only [hy, hf, ok_bind, withBlts_modify, modify_put]
  rcases blendRest_oblivious params h s (h.blitrect lix s)
    (length_stackFrom_le (h := h) (s := s) (reached + 1)) st with ⟨fault, hr⟩ | ⟨hread, st', hr⟩
  · exact .fails fault fun b => by rw [hr]; rfl
  · refine .draws _ ⟨hread, rfl⟩ fun b => ?_
    -- the mark of the last slot is part of what is written there
    rw [hr, batchFills, ← b.modify_puts (cons_ne_nil _ _) closeBatch]
    rfl

lemma blendLayers_oblivious (hblend : params.noblend = false) {y : Nat}
    (hst : h.stackFrom s lix = lix :: y :: rest) :
    Oblivious (StackPlan params h s (lix :: y :: rest)) (rgzBlendLayers params h s lix) := by
  have habove := (stackFrom_cons hst).2.2.1
  have hy : getLayerOpsNext h s lix = some y := by
    rw [getLayerOpsNext_eq, habove]
    rfl
  rcases blendFirst_oblivious params h (h.blitrect lix s) lix y with ⟨fault, hf⟩ |
    ⟨handle, handle', hfused, hl, hm, hf⟩ | ⟨handle, hfused, hm, hf⟩
  · exact .fails fault fun b => by simp only [rgzBlendLayers, hy, hf, error_bind]
  · refine (blendLayers_of_first ⟨.init, _, _, _⟩ hy hf
      (stackFrom_cons habove).2.2.1).mono ?_
    rintro _ ⟨hread, rfl⟩
    exact .fused hblend hfused hl hm hread
  · refine (blendLayers_of_first ⟨.init, _, _, _⟩ hy hf habove).mono ?_
    rintro _ ⟨hread, rfl⟩
    exact .copied hblend hfused hm hread

lemma drawFrom_oblivious (hst : h.stackFrom s lix = lix :: rest) :
    Oblivious (StackPlan params h s (lix :: rest)) fun b =>
      if !params.noblend ∧ rest.length + 1 > 1 then rgzBlendLayers params h s lix b
      else rgzCopyLayer params h s lix b := by
  unfold rgzCopyLayer
  cases hno : params.noblend with
  | true =>
    -- the topmost layer of the whole stack is the last of these
    obtain ⟨pre, hpre⟩ := stackFrom_split (s := s) (stackFrom_cons hst).1.le
    have htop : getTopRectFrom h s h.rgzLayers.length = (lix :: rest).getLast? := by
      rw [getTopRect_eq, hpre, hst, getLast?_append_cons]
    simp only [Bool.not_true, Bool.false_eq_true, false_and, if_false, if_true, htop]
    cases hlast : (lix :: rest).getLast? with
    | none => exact .fails .segv fun _ => rfl
    | some top =>
      refine (copy_oblivious params _ _).mono ?_
      rintro _ ⟨handle, hh, rfl⟩
      exact .copy (.inl hno) hlast hh
  | false =>
    cases rest with
    | nil =>
      simp only [length_nil, Nat.zero_add, gt_iff_lt, lt_self_iff_false, and_false,
        if_false, Bool.false_eq_true]
      refine (copy_oblivious params _ _).mono ?_
      rintro _ ⟨handle, hh, rfl⟩
      exact .copy (.inr rfl) rfl hh
    | cons y rest =>
      simp only [Bool.not_false, length_cons, gt_iff_lt, Nat.lt_add_left_iff_pos,
        Nat.zero_lt_succ, and_self, if_true]
      exact blendLayers_oblivious hno hst

lemma drawLayers_oblivious (hst : h.stackFrom s lix = lix :: rest) :
    Oblivious (fun fills => StackPlan params h s (skipBottom h rgzClearhintBuffidx (lix :: rest))
        fills ∨ skipBottom h rgzClearhintBuffidx (lix :: rest) = [] ∧
          fills = [rgzClearEntry params (h.blitrect lix s)])
      (rgzDrawLayers params h s (rest.length + 1) lix) := by
  unfold rgzDrawLayers
  simp only [skipBottom]
  by_cases hclear : (h.layer lix).buffidx = rgzClearhintBuffidx
  · have habove := (stackFrom_cons hst).2.2.1
    simp only [if_pos hclear, Nat.add_sub_cancel, getLayerOpsNext_eq, habove]
    cases rest with
    | nil => exact .draws _ (.inr ⟨rfl, rfl⟩) fun _ => rfl
    | cons y rest =>
      exact (drawFrom_oblivious (stackFrom_cons habove).2.2.2).mono fun _ => .inl
  · simp only [if_neg hclear]
    exact (drawFrom_oblivious hst).mono fun _ => .inl

/-- **What a subregion asks for**, whatever is in the array. -/
lemma subregionBlit_oblivious (params : OutParams) (h : Hregion) (damagedArea : Rect) (s : Nat) :
    Oblivious (SubregionPlan params h damagedArea s)
      (fun b => rgzHwcSubregionBlit params h damagedArea b s) := by
  unfold rgzHwcSubregionBlit
  cases hops : getLayerOps h s with
  | error fault => exact .fails fault fun _ => rfl
  | ok res =>
    obtain ⟨ops, bottom⟩ := res
    cases bottom with
    | none => exact .fails .failed fun _ => rfl
    | some lix =>
      obtain ⟨rest, hdesc⟩ := getLayerOps_spec hops
      have habove := (stackFrom_cons hdesc.stack).2.2.1
      have hdrawn : drawnStack h s = skipBottom h rgzClearhintBuffidx
          (skipBottom h rgzBackgroundBuffidx (lix :: rest)) := by
        rw [drawnStack, hops, ← hdesc.stack]
      simp only [ok_bind, hdesc.ops]
      cases hdirty : subregionDirty h s lix damagedArea with
      | false => exact .draws _ (.clean hops hdirty) fun _ => rfl
      | true =>
        simp only [Bool.not_true, Bool.false_eq_true, if_false]
        by_cases hback : (h.layer lix).buffidx = rgzBackgroundBuffidx
        · simp only [if_pos hback, getLayerOpsNext_eq, habove]
          rw [skipBottom, if_pos hback] at hdrawn
          cases rest with
          | nil =>
            exact .draws _ (.clear hops hdirty (by simp [hdesc.stack]) hdrawn) fun _ => rfl
          | cons y rest =>
            refine (drawLayers_oblivious (stackFrom_cons habove).2.2.2).mono ?_
            rintro fills (hp | ⟨hnone, rfl⟩)
            · exact .drawn hops hdirty (hdrawn ▸ hp)
            · exact .clear hops hdirty (by simp [hdesc.stack]) (hdrawn.trans hnone)
        · simp only [if_neg hback]
          rw [skipBottom, if_neg hback] at hdrawn
          refine (drawLayers_oblivious hdesc.stack).mono ?_
          rintro fills (hp | ⟨hnone, rfl⟩)
          · exact .drawn hops hdirty (hdrawn ▸ hp)
          · exact .clear hops hdirty (by simp [hdesc.stack]) (hdrawn.trans hnone)

end Subregion

/-! ## The plan of a layer to paint -/

/-- The slot of a layer of the paint output. -/
inductive LayerPlan (params : OutParams) (l : RgzLayer) : List (BltEntry → BltEntry) → Prop
  | clear (hidx : l.buffidx = -1) :
      LayerPlan params l [rgzClearEntry params (clipToScreen params.dstgeom l.frame)]
  | blend {handle : NativeHandle} (hidx : l.buffidx ≠ -1)
      (hblend : !params.noblend ∧ l.hwcLayer.blending = .premult)
      (hh : l.hwcLayer.handle.deref = some handle) :
      LayerPlan params l [blendDstEntry params l.frame l handle]
  | copy {handle : NativeHandle} (hidx : l.buffidx ≠ -1)
      (hblend : ¬(!params.noblend ∧ l.hwcLayer.blending = .premult))
      (hh : l.hwcLayer.handle.deref = some handle) :
      LayerPlan params l [rgzCopyEntry params l.frame l handle]

lemma paintLayer_oblivious (params : OutParams) (l : RgzLayer) :
    Oblivious (LayerPlan params l) (fun b => rgzPaintLayer params b l) := by
  unfold rgzPaintLayer rgzHwcLayerBlit
  split_ifs with hidx hblend
  · exact .draws _ (.clear hidx) fun _ => rfl
  · unfold rgzHwcSubregionBlend
    cases hh : l.hwcLayer.handle.deref with
    | none => exact .fails .segv fun _ => rfl
    | some handle => exact .draws _ (.blend hidx hblend hh) fun _ => rfl
  · refine (copy_oblivious params _ _).mono ?_
    rintro _ ⟨handle, hh, rfl⟩
    exact .copy hidx hblend hh

/-! ## The blits of an output -/

/-- The subregions of all bands, in the order they are drawn. -/
def rgzSubregions (rgz : Rgz) : List (Hregion × Nat) :=
  rgz.hregions.flatMap fun h => (List.range h.nsubregions).map fun s => (h, s)

variable {rgz : Rgz}

lemma mem_rgzSubregions {h : Hregion} {s : Nat} :
    (h, s) ∈ rgzSubregions rgz ↔ h ∈ rgz.hregions ∧ s < h.nsubregions := by
  simp [rgzSubregions]

/-- The steps of an output: the clear and the layers to paint, or the subregions to draw. -/
def rgzSteps (op : RgzOutOp) (rgz : Rgz) (params : OutParams) :
    List (Blts → Except OutFault Blts) :=
  match op with
  | .bvcmdPaint => (fun b => .ok (rgzOutClrdst params none b)) ::
      rgz.curFbState.tail.map fun l b => rgzPaintLayer params b l
  | .bvcmdRegion => (rgzSubregions rgz).map fun hs b =>
    rgzHwcSubregionBlit params hs.1 rgz.damagedArea b hs.2

/-- The blits an output generates, step by step: each step on an array of its own. -/
def rgzBlits (op : RgzOutOp) (rgz : Rgz) (params : OutParams) :
    Except OutFault (List (List BltEntry)) :=
  (rgzSteps op rgz params).mapM fun step => (step .init).map Blts.bvcmds

/-- One step after the other on one array: each step asks for its slots. -/
lemma foldlM_steps : ∀ {steps : List (Blts → Except OutFault Blts)} {b b' : Blts},
    (∀ step ∈ steps, Oblivious (fun _ => True) step) →
    steps.foldlM (fun b step => step b) b = .ok b' →
    ∃ fills, List.Forall₂ Asks steps fills ∧ b' = b.puts fills.flatten
  | [], b, b', _, hr => ⟨[], .nil, (Except.ok.inj hr).symm⟩
  | step :: steps, b, b', hsteps, hr => by
    rw [foldlM_cons] at hr
    obtain ⟨b₁, hb₁, hr⟩ := exists_of_bind_eq_ok hr
    obtain ⟨fills, hfills, rfl⟩ := foldlM_steps
      (fun step hstep => hsteps step (mem_cons_of_mem _ hstep)) hr
    cases hsteps step mem_cons_self with
    | fails fault hfail => exact absurd ((hfail b).symm.trans hb₁) nofun
    | draws slots _ hdraw =>
      obtain rfl := Except.ok.inj ((hdraw b).symm.trans hb₁)
      exact ⟨slots :: fills, .cons hdraw hfills, by rw [flatten_cons, puts_append]⟩

/-- The loop of `rgz_out_region` over bands and subregions is one loop over subregions. -/
lemma foldlM_hregions (params : OutParams) (damagedArea : Rect) :
    ∀ {hs : List Hregion} {b b' : Blts}, hs.foldlM (rgzOutHregion params damagedArea) b = .ok b' →
    (hs.flatMap fun h => (range h.nsubregions).map fun s => (h, s)).foldlM
      (fun b hs => rgzHwcSubregionBlit params hs.1 damagedArea b hs.2) b = .ok b'
  | [], _, _, hr => hr
  | h :: hs, b, b', hr => by
    rw [foldlM_cons] at hr
    obtain ⟨b₁, hb₁, hr⟩ := exists_of_bind_eq_ok hr
    unfold rgzOutHregion at hb₁
    split_ifs at hb₁
    rw [flatMap_cons, foldlM_append, foldlM_map, hb₁, ok_bind]
    exact foldlM_hregions params damagedArea hr

variable {op : RgzOutOp}

lemma rgzOut_steps {out : OutData} (hr : rgzOut op rgz params = .ok out) :
    ∃ b, (rgzSteps op rgz params).foldlM (fun b step => step b) .init = .ok b ∧
      rgzFinish rgz.curFbState b = .ok out := by
  cases op with
  | bvcmdPaint =>
    obtain ⟨b, hb, hf⟩ := exists_of_bind_eq_ok hr
    refine ⟨b, ?_, hf⟩
    rw [rgzSteps, foldlM_cons, ok_bind, foldlM_map]
    exact hb
  | bvcmdRegion =>
    simp only [rgzOut, rgzOutRegion] at hr
    split_ifs at hr
    obtain ⟨b, hb, hf⟩ := exists_of_bind_eq_ok hr
    refine ⟨b, ?_, hf⟩
    rw [rgzSteps, foldlM_map]
    exact foldlM_hregions params rgz.damagedArea hb

lemma rgzSteps_oblivious (op : RgzOutOp) (rgz : Rgz) (params : OutParams) :
    ∀ step ∈ rgzSteps op rgz params, Oblivious (fun _ => True) step := by
  intro step hstep
  cases op with
  | bvcmdPaint =>
    rcases mem_cons.mp hstep with rfl | hstep
    · exact .draws [_] trivial fun _ => rfl
    · obtain ⟨l, -, rfl⟩ := mem_map.mp hstep
      exact (paintLayer_oblivious params l).mono fun _ _ => trivial
  | bvcmdRegion =>
    obtain ⟨hs, -, rfl⟩ := mem_map.mp hstep
    exact (subregionBlit_oblivious params hs.1 rgz.damagedArea hs.2).mono fun _ _ => trivial

lemma blits_of_asks {steps : List (Blts → Except OutFault Blts)}
    {fills : List (List (BltEntry → BltEntry))} (h : List.Forall₂ Asks steps fills)
    (hlen : ∀ slots ∈ fills, Blts.init.bvcmds.length + slots.length ≤ rgzMaxBlits) :
    steps.mapM (fun step => (step .init).map bvcmds) = .ok (fills.map freshEntries) := by
  induction h with
  | nil => rfl
  | cons hstep _ ih =>
    obtain ⟨hslots, hlen⟩ := forall_mem_cons.mp hlen
    rw [mapM_cons, hstep, ih hlen, puts_eq_append _ _ hslots]
    rfl

/-- **What an output that returns 0 hands back.** -/
lemma rgzOut_eq_blits {out : OutData} (hr : rgzOut op rgz params = .ok out) :
    ∃ parts, rgzBlits op rgz params = .ok parts ∧
      out.cmds = modifyLast (rgzSetAsync false) parts.flatten ∧
      out.outBlits = parts.flatten.length ∧ parts.flatten.length < rgzMaxBlits := by
  obtain ⟨b, hb, hf⟩ := rgzOut_steps hr
  obtain ⟨fills, hfills, rfl⟩ := foldlM_steps (rgzSteps_oblivious op rgz params) hb
  have hcount := puts_count fills.flatten .init rfl
  unfold rgzFinish at hf
  simp only [Blts.modify, hcount] at hf
  split_ifs at hf with hfull
  have hfit : Blts.init.bvcmds.length + fills.flatten.length < rgzMaxBlits := by
    by_contra hlong
    exact hfull (Blts.puts_full _ _ (not_lt.mp hlong))
  have hbv : (Blts.init.puts fills.flatten).bvcmds = (fills.map freshEntries).flatten := by
    rw [puts_eq_append _ _ hfit.le]
    exact map_flatten
  obtain rfl := Except.ok.inj hf
  refine ⟨fills.map freshEntries, blits_of_asks hfills fun slots hmem => ?_, by rw [← hbv],
    by rw [← hbv], by rw [← hbv]; omega⟩
  -- each step has room in an array of its own
  have hle := (sublist_flatten_of_mem hmem).length_le
  omega

/-- Each part of an output is what its step writes to fresh slots. -/
lemma parts_of_rgzBlits {parts : List (List BltEntry)} (hparts : rgzBlits op rgz params = .ok parts)
    (hroom : parts.flatten.length < rgzMaxBlits) :
    List.Forall₂ (fun step part => (step .init).map bvcmds = .ok part ∧
      ∀ P, Oblivious P step → ∃ fills, P fills ∧ part = freshEntries fills)
      (rgzSteps op rgz params) parts := by
  refine (forall₂_and_mem (forall₂_of_mapM_eq_ok hparts) fun part hmem =>
    (sublist_flatten_of_mem hmem).length_le.trans_lt hroom).imp ?_
  rintro step part ⟨hstep, hlt⟩
  exact ⟨hstep, fun P hP => hP.part hstep hlt⟩

end Solana
