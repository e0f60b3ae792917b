import Solana.Rgz.Entries

/-!
# The sources of the blits

A blit names the buffers it reads by number.  The regionizer numbers the layers it draws in list
order, after the overlays, and hands out their handles in the same order, so the `i`-th handle
belongs to the number `i` places after the overlays.

`Sourced` ties an entry to the layers it was made for: the descriptor, geometry and rectangle of
each source are those `rgz_set_src_data` computes from a layer.  `rgzOut_sources` says that every
entry of an output is sourced by layers whose number leads to their handle.
-/

namespace Solana

open Fallible RgzLayer List

/-! ## What an entry was made for -/

/-- The source is set up from the layer, for some part of its frame. -/
def SourceOf (l : RgzLayer) (handle : NativeHandle) (desc : BuffDesc) (geom : SurfGeom)
    (rect : BvRect) : Prop :=
  ∃ part orientation, (desc, geom, rect) = rgzSrcData l handle part orientation

lemma SourceOf.auxptr {l : RgzLayer} {handle : NativeHandle} {desc : BuffDesc} {geom : SurfGeom}
    {rect : BvRect} (h : SourceOf l handle desc geom rect) : desc.auxptr = .index l.buffidx := by
  obtain ⟨part, orientation, he⟩ := h
  have hdesc : desc = (rgzSrcData l handle part orientation).1 := congrArg Prod.fst he
  rw [hdesc]
  unfold rgzSrcData
  simp only
  split_ifs <;> rfl

/-- Every source of the entry is a layer that satisfies `L`, the transparent pixel, or, when
blending, the framebuffer. -/
structure Sourced (L : RgzLayer → NativeHandle → Prop) (e : BltEntry) : Prop where
  src1 : e.src1desc.auxptr = .index (-1) ∨
    ∃ l handle, L l handle ∧ SourceOf l handle e.src1desc e.src1geom e.src1rect
  src2 : e.flags.blend = true → (∃ ovlno, e.src2desc.auxptr = .descFb ovlno) ∨
    ∃ l handle, L l handle ∧ SourceOf l handle e.src2desc e.src2geom e.src2rect

lemma Sourced.imp {L L' : RgzLayer → NativeHandle → Prop} {e : BltEntry} (h : Sourced L e)
    (hL : ∀ l handle, L l handle → L' l handle) : Sourced L' e where
  src1 := h.src1.imp_right fun ⟨l, handle, hl, hs⟩ => ⟨l, handle, hL l handle hl, hs⟩
  src2 hb := (h.src2 hb).imp_right fun ⟨l, handle, hl, hs⟩ => ⟨l, handle, hL l handle hl, hs⟩

lemma rgzSetupSrc1_sources (params : OutParams) (rect : Rect) (l : RgzLayer)
    (handle : NativeHandle) (e : BltEntry) :
    (rgzSetupSrc1 params rect l handle e).flags.blend = e.flags.blend ∧
      SourceOf l handle (rgzSetupSrc1 params rect l handle e).src1desc
        (rgzSetupSrc1 params rect l handle e).src1geom
        (rgzSetupSrc1 params rect l handle e).src1rect := by
  unfold rgzSetupSrc1
  simp only [rgzSetDstData_flags, rgzSetDstData_src1desc, rgzSetDstData_src1geom,
    rgzSetDstData_src1rect]
  exact ⟨rfl, _, _, rfl⟩

/-- Every entry the outputs fill in is sourced. -/
lemma sourcedRule (params : OutParams) (L : RgzLayer → NativeHandle → Prop) :
    EntryRule params L (Sourced L) where
  copy rect l handle e hl := by
    obtain ⟨hblend, hsrc⟩ := rgzSetupSrc1_sources params rect l handle
      { e with op := .srcCopy, flags := { clip := true, rop := true } }
    unfold rgzCopyEntry
    simp only
    refine ⟨Or.inr ⟨l, handle, hl, ?_⟩, fun hb => ?_⟩
    · split_ifs <;> exact hsrc
    · -- a copy does not blend
      have : (rgzSetupSrc1 params rect l handle
          { e with op := .srcCopy, flags := { clip := true, rop := true } }).flags.blend =
          true := by
        split_ifs at hb <;> exact hb
      rw [hblend] at this
      cases this
  blend rect l handle e hl := by
    obtain ⟨-, hsrc⟩ := rgzSetupSrc1_sources params rect l handle
      { e with op := .src1Over, flags := { clip := true, blend := true } }
    exact ⟨Or.inr ⟨l, handle, hl, hsrc⟩, fun _ => Or.inl ⟨0, rfl⟩⟩
  blendTwo rect l handle m handle' e hl hm := by
    obtain ⟨-, hsrc⟩ := rgzSetupSrc1_sources params rect l handle
      { e with op := .src1Over, flags := { clip := true, blend := true } }
    exact ⟨Or.inr ⟨l, handle, hl, hsrc⟩, fun _ => Or.inr ⟨m, handle', hm, _, _, rfl⟩⟩
  clear rect e := by
    unfold rgzClearEntry
    refine ⟨Or.inl ?_, fun hb => ?_⟩
    · rw [rgzSetDstData_src1desc]
      rfl
    · -- clearing does not blend
      rw [rgzSetDstData_flags] at hb
      cases hb
  batch _ _ _ h := ⟨h.src1, h.src2⟩
  async _ _ h := ⟨h.src1, h.src2⟩

/-! ## Numbers and handles -/

/-- The handles an output hands back for the layers of a frame. -/
def sourceHandles (tail : List RgzLayer) : List BufferHandle :=
  (tail.filter fun l => l.buffidx ≠ -1).map fun l => l.hwcLayer.handle

lemma sourceHandles_congr {as bs : List RgzLayer}
    (h : as.map core = bs.map core) : sourceHandles as = sourceHandles bs := by
  have hcore : ∀ ls : List RgzLayer, sourceHandles ls =
      ((ls.map core).filter fun c => c.2.2 ≠ -1).map fun c => c.1.handle := by
    intro ls
    rw [filter_map, map_map]
    rfl
  rw [hcore, h, ← hcore]

lemma sourceHandles_collect_framebuffer (m : Nat) {e : ExtLayer} (es : List ExtLayer)
    (hf : e.layer.compositionType = .framebuffer) : rgzCollect m (e :: es) =
        ⟨e.layer, e.identity, m, 0⟩ :: rgzCollect (m + 1 : Nat) es ∧
      sourceHandles (rgzCollect m (e :: es)) =
        e.layer.handle :: sourceHandles (rgzCollect (m + 1 : Nat) es) := by
  have hcol : rgzCollect m (e :: es) =
      ⟨e.layer, e.identity, m, 0⟩ :: rgzCollect (m + 1 : Nat) es := by
    simp [rgzCollect, ExtLayer.isCandidate, rgzEntry, nextMemidx, hf]
  refine ⟨hcol, ?_⟩
  have hm : ((m : Int) ≠ -1) := by omega
  rw [hcol]
  simp [sourceHandles, hm]

lemma sourceHandles_collect_other (m : Int) {e : ExtLayer} (es : List ExtLayer)
    (hf : e.layer.compositionType ≠ .framebuffer) :
    (∀ l ∈ rgzCollect m (e :: es), l ∈ rgzCollect m es ∨ l.hwcLayer.handle = .dummy) ∧
      sourceHandles (rgzCollect m (e :: es)) = sourceHandles (rgzCollect m es) := by
  cases hc : e.layer.hints.clearFb with
  | true =>
    have hcol : rgzCollect m (e :: es) =
        ⟨{ e.layer with handle := .dummy }, e.identity, rgzClearhintBuffidx, 0⟩ ::
          rgzCollect m es := by
      simp [rgzCollect, ExtLayer.isCandidate, rgzEntry, nextMemidx, hf, hc]
    rw [hcol]
    refine ⟨fun l hl => ?_, by simp [sourceHandles, rgzClearhintBuffidx]⟩
    rcases mem_cons.mp hl with rfl | hl
    · exact Or.inr rfl
    · exact Or.inl hl
  | false =>
    have hcol : rgzCollect m (e :: es) = rgzCollect m es := by
      simp [rgzCollect, ExtLayer.isCandidate, hf, hc]
    rw [hcol]
    exact ⟨fun l hl => Or.inl hl, rfl⟩

/-- The layers collected from `m` on are numbered like their handles. -/
lemma rgzCollect_handles {m : Nat} {es : List ExtLayer} {l : RgzLayer} {handle : NativeHandle}
    (hl : l ∈ rgzCollect m es) (hh : l.hwcLayer.handle = .native handle) :
    (∃ e ∈ es, l.hwcLayer = e.layer) ∧ ∃ i : Nat, l.buffidx = m + i ∧
      (sourceHandles (rgzCollect m es))[i]? = some (.native handle) := by
  induction es generalizing m with
  | nil => simp [rgzCollect] at hl
  | cons e es ih =>
    by_cases hf : e.layer.compositionType = .framebuffer
    · obtain ⟨hcol, hhs⟩ := sourceHandles_collect_framebuffer m es hf
      rw [hcol] at hl
      rw [hhs]
      rcases mem_cons.mp hl with rfl | hl
      · exact ⟨⟨e, by simp, rfl⟩, 0, by simp, by simpa using hh⟩
      · obtain ⟨⟨e', he', hlay⟩, i, hi, hget⟩ := ih hl
        refine ⟨⟨e', by simp [he'], hlay⟩, i + 1, ?_, by simpa using hget⟩
        push_cast at hi ⊢
        omega
    · obtain ⟨hmem, hhs⟩ := sourceHandles_collect_other m es hf
      rw [hhs]
      rcases hmem l hl with hl | hdummy
      · obtain ⟨⟨e', he', hlay⟩, hrest⟩ := ih hl
        exact ⟨⟨e', by simp [he'], hlay⟩, hrest⟩
      · rw [hdummy] at hh
        cases hh

lemma length_sourceHandles_collect (m : Nat) (es : List ExtLayer) :
    (sourceHandles (rgzCollect m es)).length =
      es.countP fun e => e.layer.compositionType = .framebuffer := by
  induction es generalizing m with
  | nil => simp [rgzCollect, sourceHandles]
  | cons e es ih =>
    by_cases hf : e.layer.compositionType = .framebuffer
    · rw [(sourceHandles_collect_framebuffer _ _ hf).2, length_cons, ih]
      simp [hf]
    · rw [(sourceHandles_collect_other _ _ hf).2, ih]
      simp [hf]

/-! ## The outputs -/

/-- **What an accepted input leaves**, whichever operation was asked for. -/
lemma rgzIn_accepted {op : RgzInOp} {p : RgzInParams} {r r' : Rgz}
    (h : rgzIn op p r = (rgzAll, r')) :
    ∃ layers, p.layers = some layers ∧ (rgzCheckScan layers).Accepted ∧
      r'.curFbState.map core = (rgzCurLayers p layers).map core ∧
      ∀ h ∈ r'.hregions, ∀ l ∈ h.rgzLayers, l ∈ r'.curFbState := by
  cases op with
  | hwc =>
    obtain ⟨layers, a, hl, hacc, ha, hr'⟩ := rgzIn_hwc_eq_all h
    refine ⟨layers, hl, hacc, ?_, ?_⟩
    · subst hr' ha
      exact rgzHandleDirtyRegion_core _ _ _ _
    · subst hr'
      exact fun h hh l hl => mem_of_mem_hregion hh hl
  | hwcchk =>
    obtain ⟨layers, hl, hacc, rfl⟩ := rgzInHwccheck_eq_all h
    refine ⟨layers, hl, hacc, rgzHandleDirtyRegion_core _ _ _ _, ?_⟩
    intro h hh
    cases hh
  | other code => simp [rgzIn, rgzAll] at h

/-- The layer is one the regionizer draws for `handle`, and its number leads to that handle in
the list of handles, which starts after the overlays. -/
structure Numbered (layers : List ExtLayer) (cur : List RgzLayer) (handles : List BufferHandle)
    (l : RgzLayer) (handle : NativeHandle) : Prop where
  mem : l ∈ cur
  native : l.hwcLayer.handle = .native handle
  given : ∃ e ∈ layers, l.hwcLayer = e.layer
  number : ∃ i : Nat, l.buffidx = overlayCount layers + i ∧
    handles[i]? = some (.native handle)

/-- **Every blit is sourced by numbered layers**, and the handles are those of the framebuffer
layers. -/
theorem rgzOut_sources {op : RgzInOp} {outOp : RgzOutOp} {p : RgzInParams} {r r' : Rgz}
    {params : OutParams} {out : OutData} (hin : rgzIn op p r = (rgzAll, r'))
    (hout : rgzOut outOp r' params = .ok out) : ∃ layers, p.layers = some layers ∧ layers ≠ [] ∧
      out.outHndls.length = (layers.countP fun e => e.layer.compositionType = .framebuffer) ∧
      ∀ e ∈ out.cmds, Sourced (Numbered layers r'.curFbState out.outHndls) e := by
  obtain ⟨layers, hl, hacc, hcore, hregions⟩ := rgzIn_accepted hin
  have htail : r'.curFbState.tail.map core =
      (rgzCollect (overlayCount layers) layers).map core := by
    rw [map_tail, hcore, ← map_tail, ← (rgzCheckScan_accepted hacc).1]
    rfl
  have hhndls : out.outHndls = sourceHandles (rgzCollect (overlayCount layers) layers) := by
    rw [← sourceHandles_congr htail]
    obtain ⟨b, -, hf⟩ := rgzOut_steps hout
    unfold rgzFinish at hf
    simp only at hf
    split_ifs at hf
    obtain rfl := Except.ok.inj hf
    rfl
  refine ⟨layers, hl, ?_, by rw [hhndls, length_sourceHandles_collect], ?_⟩
  · rintro rfl
    exact hacc.1 rfl
  · refine rgzOut_all (sourcedRule params _) (fun l hl handle hd => ?_) hregions hout
    have hnat := deref_eq_some hd
    -- the background has the dummy handle, so the layer is one of those collected
    have hmem : l ∈ r'.curFbState.tail := by
      cases hcur : r'.curFbState with
      | nil => rw [hcur] at hl; cases hl
      | cons b rest =>
        rw [hcur] at hl
        rcases mem_cons.mp hl with rfl | hl
        · rw [hcur, rgzCurLayers, map_cons, map_cons] at hcore
          have hb := (core_eq_iff.mp (cons.inj hcore).1).1
          rw [hb] at hnat
          cases hnat
        · exact hl
    obtain ⟨c, hc, hcc⟩ := mem_map.mp (htail ▸ mem_map_of_mem hmem)
    obtain ⟨h1, -, h3⟩ := core_eq_iff.mp hcc
    rw [← h1] at hnat
    obtain ⟨⟨e, he, hlay⟩, i, hi, hget⟩ := rgzCollect_handles hc hnat
    exact ⟨hl, by rw [← h1, hnat], ⟨e, he, by rw [← h1, hlay]⟩, i, by rw [← h3, hi],
      by rw [hhndls, hget]⟩

end Solana
