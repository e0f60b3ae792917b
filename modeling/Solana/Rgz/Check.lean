import Solana.Rgz.Dirty

/-!
# Accepting a layer list

`rgz_in_hwccheck` collects the layers the blitter has to draw (those left to the framebuffer,
and the rectangles of overlays that must be punched out of it), accepts the list when every
such candidate fits, and only then advances the ring of frame states and computes the damage
of the new frame.

An accepted list is exactly `rgzCollect` of the input (`rgzCheckScan_accepted`), so what the
other modules know about the current frame comes from that recursion.  `FbStateOk` is the
invariant of a stored frame.
-/

namespace Solana

open RgzLayer List

/-! ## The scan -/

/-- The locals of the collecting loop. -/
structure CheckScan where
  memidx : Int
  possibleBlit : Nat
  candidates : Nat
  rgzLayers : List RgzLayer

/-- The body of the collecting loop. -/
def rgzCheckStep (s : CheckScan) (e : ExtLayer) : CheckScan :=
  if e.layer.compositionType = .framebuffer then
    let s := { s with candidates := s.candidates + 1 }
    if rgzInValidHwcLayer e.layer = true ∧ s.possibleBlit < rgzInputMaxLayers then
      { s with
        memidx := s.memidx + 1
        possibleBlit := s.possibleBlit + 1
        rgzLayers := s.rgzLayers ++ [⟨e.layer, e.identity, s.memidx, 0⟩] }
    else s
  else if e.layer.hints.clearFb then
    let s := { s with candidates := s.candidates + 1 }
    if s.possibleBlit < rgzInputMaxLayers then
      -- only the rectangle of the layer counts, so its handle is the dummy
      { s with
        possibleBlit := s.possibleBlit + 1
        rgzLayers := s.rgzLayers ++
          [⟨{ e.layer with handle := .dummy }, e.identity, rgzClearhintBuffidx, 0⟩] }
    else s
  else s

/-- Number of overlay layers: their buffers come first in the posted list. -/
def overlayCount (layers : List ExtLayer) : Nat :=
  layers.countP fun e => e.layer.compositionType == .overlay

/-- The collecting loop. -/
def rgzCheckScan (layers : List ExtLayer) : CheckScan :=
  layers.foldl rgzCheckStep ⟨overlayCount layers, 0, 0, []⟩

/-- The check `!possible_blit || possible_blit != candidates`, negated. -/
def CheckScan.Accepted (s : CheckScan) : Prop :=
  s.possibleBlit ≠ 0 ∧ s.possibleBlit = s.candidates

instance (s : CheckScan) : Decidable s.Accepted := by
  unfold CheckScan.Accepted; infer_instance

/-- `rgz_add_background_layer`; the background never gets an identity. -/
def rgzAddBackgroundLayer (bgLayer : HwcLayer) : RgzLayer :=
  ⟨{ bgLayer with handle := .dummy }, 0, rgzBackgroundBuffidx, 0⟩

/-- The entries of a frame overwritten by the collecting loop while the layer count is still
the old one; the loop does not touch the dirty counters. -/
def overwriteLayers : List RgzLayer → List RgzLayer → List RgzLayer
  | [], _ => []
  | old, [] => old
  | o :: old, n :: new => { n with dirtyCount := o.dirtyCount } :: overwriteLayers old new

/-- The state after an accepted list whose collected layers are `cur`. -/
def rgzAdvance (g : SurfGeom) (cur : List RgzLayer) (rgz : Rgz) : Rgz :=
  let dirty := rgzHandleDirtyRegion g cur rgz.prevFbState rgz.targetFbState
  let idx := rgz.fbStateIdx + 1
  { rgz with
    stateInit := true
    curFbState := dirty.1
    fbStateIdx := idx
    fbStates := Function.update rgz.fbStates idx dirty.1
    damagedArea := dirty.2 }

/-- The layers the collecting loop leaves in `cur_fb_state`. -/
def rgzCurLayers (p : RgzInParams) (layers : List ExtLayer) : List RgzLayer :=
  rgzAddBackgroundLayer p.bgLayer :: (rgzCheckScan layers).rgzLayers

/-- `rgz_in_hwccheck`. -/
def rgzInHwccheck (p : RgzInParams) (rgz : Rgz) : Int × Rgz :=
  let rgz := { rgz with stateInit := false }
  match p.layers with
  | none => (-1, rgz)
  | some layers =>
    if (rgzCheckScan layers).Accepted then
      (rgzAll, rgzAdvance p.dstgeom (rgzCurLayers p layers) rgz)
    else
      (-1, { rgz with
        curFbState := overwriteLayers rgz.curFbState (rgzCurLayers p layers) })

/-! ## What an accepted scan collected -/

/-- Is the layer drawn by the blitter or punched out of its framebuffer? -/
def ExtLayer.isCandidate (e : ExtLayer) : Bool :=
  e.layer.compositionType == .framebuffer || e.layer.hints.clearFb

/-- What the loop stores for a candidate: a framebuffer layer under the next buffer index, of
another layer only its rectangle. -/
def rgzEntry (memidx : Int) (e : ExtLayer) : RgzLayer :=
  if e.layer.compositionType = .framebuffer then ⟨e.layer, e.identity, memidx, 0⟩
  else ⟨{ e.layer with handle := .dummy }, e.identity, rgzClearhintBuffidx, 0⟩

/-- The buffer index after a candidate. -/
def nextMemidx (memidx : Int) (e : ExtLayer) : Int :=
  if e.layer.compositionType = .framebuffer then memidx + 1 else memidx

/-- The layers of an accepted list, numbered from `memidx` on. -/
def rgzCollect : Int → List ExtLayer → List RgzLayer
  | _, [] => []
  | memidx, e :: es =>
    if e.isCandidate then rgzEntry memidx e :: rgzCollect (nextMemidx memidx e) es
    else rgzCollect memidx es

@[simp] lemma rgzEntry_identity (m : Int) (e : ExtLayer) :
    (rgzEntry m e).identity = e.identity := by
  unfold rgzEntry; split_ifs <;> rfl

@[simp] lemma rgzEntry_frame (m : Int) (e : ExtLayer) :
    (rgzEntry m e).frame = e.layer.displayFrame := by
  unfold rgzEntry; split_ifs <;> rfl

@[simp] lemma rgzEntry_dirtyCount (m : Int) (e : ExtLayer) : (rgzEntry m e).dirtyCount = 0 := by
  unfold rgzEntry; split_ifs <;> rfl

/-- The three things one step of the loop can do. -/
lemma rgzCheckStep_cases (s : CheckScan) (e : ExtLayer) :
    (e.isCandidate = true ∧ s.possibleBlit < rgzInputMaxLayers ∧
        (e.layer.compositionType = .framebuffer → rgzInValidHwcLayer e.layer = true) ∧
        rgzCheckStep s e = ⟨nextMemidx s.memidx e, s.possibleBlit + 1, s.candidates + 1,
          s.rgzLayers ++ [rgzEntry s.memidx e]⟩) ∨
      rgzCheckStep s e = { s with candidates := s.candidates + 1 } ∨
      (e.isCandidate = false ∧ rgzCheckStep s e = s) := by
  by_cases hf : e.layer.compositionType = .framebuffer
  · by_cases hv : rgzInValidHwcLayer e.layer = true ∧ s.possibleBlit < rgzInputMaxLayers
    · exact Or.inl ⟨by simp [ExtLayer.isCandidate, hf], hv.2, fun _ => hv.1,
        by simp [rgzCheckStep, nextMemidx, rgzEntry, hf, hv]⟩
    · exact Or.inr (Or.inl (by simp [rgzCheckStep, hf, hv]))
  · by_cases hc : e.layer.hints.clearFb = true
    · by_cases hv : s.possibleBlit < rgzInputMaxLayers
      · exact Or.inl ⟨by simp [ExtLayer.isCandidate, hc], hv, fun h => absurd h hf,
          by simp [rgzCheckStep, nextMemidx, rgzEntry, hf, hc, hv]⟩
      · exact Or.inr (Or.inl (by simp [rgzCheckStep, hf, hc, hv]))
    · exact Or.inr (Or.inr ⟨by simp [ExtLayer.isCandidate, hf, hc],
        by simp [rgzCheckStep, hf, hc]⟩)

lemma rgzCheckScan_le (es : List ExtLayer) (s : CheckScan) :
    s.candidates + (es.foldl rgzCheckStep s).possibleBlit ≤
      (es.foldl rgzCheckStep s).candidates + s.possibleBlit := by
  induction es generalizing s with
  | nil => simp [Nat.add_comm]
  | cons e es ih =>
    have h := ih (rgzCheckStep s e)
    rw [foldl_cons]
    rcases rgzCheckStep_cases s e with ⟨-, -, -, hs⟩ | hs | ⟨-, hs⟩ <;> rw [hs] at h ⊢
    · dsimp only at h; omega
    · dsimp only at h; omega
    · exact h

/-- When all candidates were taken, the scan collected what `rgzCollect` says. -/
lemma rgzCheckScan_collect (es : List ExtLayer) (s : CheckScan)
    (h : s.candidates + (es.foldl rgzCheckStep s).possibleBlit =
      (es.foldl rgzCheckStep s).candidates + s.possibleBlit) :
    (es.foldl rgzCheckStep s).rgzLayers = s.rgzLayers ++ rgzCollect s.memidx es ∧
      (es.foldl rgzCheckStep s).possibleBlit = s.possibleBlit + (rgzCollect s.memidx es).length ∧
      (s.possibleBlit ≤ rgzInputMaxLayers →
        (es.foldl rgzCheckStep s).possibleBlit ≤ rgzInputMaxLayers) ∧
      ∀ e ∈ es, e.layer.compositionType = .framebuffer → rgzInValidHwcLayer e.layer = true := by
  induction es generalizing s with
  | nil => simp [rgzCollect]
  | cons e es ih =>
    have hle := rgzCheckScan_le es (rgzCheckStep s e)
    rw [foldl_cons] at h ⊢
    rcases rgzCheckStep_cases s e with ⟨hc, hlt, hv, hs⟩ | hs | ⟨hn, hs⟩
    · have ih := ih (rgzCheckStep s e)
      rw [hs] at ih h ⊢
      obtain ⟨h1, h2, h3, h4⟩ := ih (by dsimp only; omega)
      refine ⟨by simp [h1, rgzCollect, hc], by simp [h2, rgzCollect, hc]; omega,
        fun _ => h3 hlt, ?_⟩
      simpa using ⟨hv, h4⟩
    · -- a candidate that was not taken spoils the balance for good
      rw [hs] at h hle
      dsimp only at h hle
      omega
    · rw [hs] at h ⊢
      obtain ⟨h1, h2, h3, h4⟩ := ih s h
      refine ⟨by simp [h1, rgzCollect, hn], by simp [h2, rgzCollect, hn], h3, ?_⟩
      simp only [ExtLayer.isCandidate, Bool.or_eq_false_iff, beq_eq_false_iff_ne] at hn
      simpa using ⟨fun hf => absurd hf hn.1, h4⟩

variable {layers : List ExtLayer}

/-- **An accepted list.**  All its candidates were collected, at most eleven of them, and
every framebuffer layer is one the blitter supports. -/
theorem rgzCheckScan_accepted (h : (rgzCheckScan layers).Accepted) :
    (rgzCheckScan layers).rgzLayers = rgzCollect (overlayCount layers) layers ∧
      (rgzCollect (overlayCount layers) layers).length ≤ rgzInputMaxLayers ∧
      ∀ e ∈ layers, e.layer.compositionType = .framebuffer → rgzInValidHwcLayer e.layer = true := by
  obtain ⟨h1, h2, h3, h4⟩ := rgzCheckScan_collect layers ⟨overlayCount layers, 0, 0, []⟩
    (by have := h.2; simp only [rgzCheckScan] at this; simp [this])
  refine ⟨by simpa [rgzCheckScan] using h1, ?_, h4⟩
  have := h3 (Nat.zero_le _)
  rw [h2] at this
  simpa using this

/-- Identity and rectangle of the collected layers, in the order of the list. -/
lemma rgzCollect_map (m : Int) (es : List ExtLayer) :
    (rgzCollect m es).map (fun l => (l.identity, l.frame)) =
      (es.filter ExtLayer.isCandidate).map fun e => (e.identity, e.layer.displayFrame) := by
  induction es generalizing m with
  | nil => rfl
  | cons e es ih =>
    by_cases hc : e.isCandidate = true
    · simp [rgzCollect, hc, ih]
    · simp [rgzCollect, hc, ih]

/-- Where a collected layer comes from; buffer indices start at `m`. -/
lemma mem_rgzCollect {m : Int} {es : List ExtLayer} {l : RgzLayer} (h : l ∈ rgzCollect m es) :
    ∃ e ∈ es, ∃ k, m ≤ k ∧ e.isCandidate = true ∧ l = rgzEntry k e := by
  induction es generalizing m with
  | nil => simp [rgzCollect] at h
  | cons e es ih =>
    have hm : m ≤ nextMemidx m e := by unfold nextMemidx; split_ifs <;> omega
    rw [rgzCollect] at h
    split_ifs at h with hc
    · rcases mem_cons.mp h with rfl | h
      · exact ⟨e, mem_cons_self, m, le_rfl, hc, rfl⟩
      · obtain ⟨e', he', k, hk, h⟩ := ih h
        exact ⟨e', mem_cons_of_mem _ he', k, hm.trans hk, h⟩
    · obtain ⟨e', he', k, hk, h⟩ := ih h
      exact ⟨e', mem_cons_of_mem _ he', k, hk, h⟩

/-! ## Stored frames -/

/-- The invariant of a stored frame: the background comes first and only there, a clear-hint
layer is one that carries the dummy handle, identities are distinct, counters are bounded. -/
structure FbStateOk (ls : List RgzLayer) : Prop where
  background : ∀ b ∈ ls.head?, b.buffidx = rgzBackgroundBuffidx
  notBackground : ∀ l ∈ ls.tail, l.buffidx ≠ rgzBackgroundBuffidx
  clearhint : ∀ l ∈ ls.tail,
    l.buffidx = rgzClearhintBuffidx ↔ l.hwcLayer.handle = .dummy
  nodup : (ls.tail.map RgzLayer.identity).Nodup
  bounded : DirtyBounded ls

lemma FbStateOk.nil : FbStateOk [] where
  background := by simp
  notBackground := by simp
  clearhint := by simp
  nodup := by simp
  bounded := by simp [DirtyBounded]

namespace FbStateOk

variable {ls : List RgzLayer} {l : RgzLayer} {id : Nat}

lemma mem_tail_of_find (h : FbStateOk ls) (hf : rgzFindLayer ls id = some l) :
    l ∈ ls.tail ∧ l.identity = id := by
  obtain ⟨hm, hb, hid⟩ := rgzFindLayer_some hf
  refine ⟨?_, hid⟩
  cases ls with
  | nil => simp at hm
  | cons b ls =>
    rcases mem_cons.mp hm with rfl | hm
    · exact absurd (h.background l (by simp)) hb
    · exact hm

/-- Identities being distinct, the search finds the layer itself. -/
lemma find_of_mem (h : FbStateOk ls) (hl : l ∈ ls.tail) : rgzFindLayer ls l.identity = some l := by
  cases hf : rgzFindLayer ls l.identity with
  | none =>
    exact absurd rfl (rgzFindLayer_none hf (mem_of_mem_tail hl) (h.notBackground l hl))
  | some l' =>
    obtain ⟨hm, hid⟩ := h.mem_tail_of_find hf
    rw [inj_on_of_nodup_map h.nodup hm hl hid]

lemma find_none (h : FbStateOk ls) (hn : ∀ l ∈ ls.tail, l.identity ≠ id) :
    rgzFindLayer ls id = none := by
  cases hf : rgzFindLayer ls id with
  | none => rfl
  | some l =>
    obtain ⟨hm, hid⟩ := h.mem_tail_of_find hf
    exact absurd hid (hn l hm)

end FbStateOk

/-- The layers of an input have pairwise distinct identities. -/
def DistinctIds (p : RgzInParams) : Prop :=
  ∀ layers ∈ p.layers, (layers.map ExtLayer.identity).Nodup

/-- What an accepted list leaves in `cur_fb_state` is a frame in the sense of `FbStateOk`. -/
lemma rgzCurLayers_ok (p : RgzInParams) (hacc : (rgzCheckScan layers).Accepted)
    (hd : (layers.map ExtLayer.identity).Nodup) : FbStateOk (rgzCurLayers p layers) := by
  obtain ⟨hcol, -, hvalid⟩ := rgzCheckScan_accepted hacc
  have htail : (rgzCurLayers p layers).tail = rgzCollect (overlayCount layers) layers := hcol
  have hnn : (0 : Int) ≤ overlayCount layers := Int.natCast_nonneg _
  constructor
  · intro b hb
    obtain rfl : rgzAddBackgroundLayer p.bgLayer = b := by simpa [rgzCurLayers] using hb
    rfl
  · intro l hl
    rw [htail] at hl
    obtain ⟨e, -, k, hk, -, rfl⟩ := mem_rgzCollect hl
    unfold rgzEntry
    split_ifs
    · simp only [rgzBackgroundBuffidx]; omega
    · simp [rgzBackgroundBuffidx, rgzClearhintBuffidx]
  · intro l hl
    rw [htail] at hl
    obtain ⟨e, he, k, hk, -, rfl⟩ := mem_rgzCollect hl
    unfold rgzEntry
    split_ifs with hf
    · obtain ⟨n, hn⟩ := handle_of_rgzInValidHwcLayer (hvalid e he hf)
      simp only [hn, rgzClearhintBuffidx, reduceCtorEq, iff_false]
      omega
    · simp
  · rw [htail]
    have hids := congrArg (map Prod.fst) (rgzCollect_map (overlayCount layers) layers)
    simp only [map_map, Function.comp_def] at hids
    rw [show identity = fun l => l.identity from rfl, hids]
    exact hd.sublist (filter_sublist.map _)
  · intro l hl
    rw [rgzCurLayers, hcol] at hl
    rcases mem_cons.mp hl with rfl | hl
    · exact Nat.zero_le _
    · obtain ⟨e, -, k, -, -, rfl⟩ := mem_rgzCollect hl
      simp

/-- The invariant of a frame depends on its layers' counters only through their bound. -/
lemma FbStateOk.congr {as bs : List RgzLayer} (h : FbStateOk bs)
    (hc : as.map core = bs.map core) (hb : DirtyBounded as) : FbStateOk as where
  background a ha := by
    have hhead : as.head?.map core = bs.head?.map core := by
      rw [← head?_map, ← head?_map, hc]
    rw [Option.mem_def.mp ha] at hhead
    obtain ⟨b, hb, hcore⟩ := Option.map_eq_some_iff.mp hhead.symm
    rw [← (core_eq_iff.mp hcore).2.2]
    exact h.background b hb
  notBackground a ha := by
    obtain ⟨b, hb, hcore⟩ := exists_core_mem_tail hc ha
    rw [← (core_eq_iff.mp hcore).2.2]
    exact h.notBackground b hb
  clearhint a ha := by
    obtain ⟨b, hb, hcore⟩ := exists_core_mem_tail hc ha
    obtain ⟨h1, -, h3⟩ := core_eq_iff.mp hcore
    rw [← h1, ← h3]
    exact h.clearhint b hb
  nodup := by
    have hids : as.map identity = bs.map identity := by
      simpa [Function.comp_def, core] using congrArg (map fun c => c.2.1) hc
    rw [map_tail, hids, ← map_tail]
    exact h.nodup
  bounded := hb

/-- Every frame the ring holds is one in the sense of `FbStateOk`. -/
def RingOk (r : Rgz) : Prop := ∀ i, FbStateOk (r.fbStates i)

lemma RingOk.zero : RingOk Rgz.zero := fun _ => FbStateOk.nil

variable {r : Rgz}

lemma RingOk.prev (h : RingOk r) : FbStateOk r.prevFbState := h _

lemma RingOk.target (h : RingOk r) : FbStateOk r.targetFbState := h _

section

variable (p : RgzInParams) (hacc : (rgzCheckScan layers).Accepted)
  (hd : (layers.map ExtLayer.identity).Nodup) (hr : RingOk r)
include p hacc hd hr

lemma rgzAdvance_ok : FbStateOk (rgzAdvance p.dstgeom (rgzCurLayers p layers) r).curFbState :=
  (rgzCurLayers_ok p hacc hd).congr (rgzHandleDirtyRegion_core _ _ _ _)
    (rgzDirtyLoop_bounded _ (hr _).bounded _ 0 _ _)

lemma rgzAdvance_ringOk : RingOk (rgzAdvance p.dstgeom (rgzCurLayers p layers) r) := by
  intro i
  rcases eq_or_ne i (r.fbStateIdx + 1) with rfl | hi
  · simpa [rgzAdvance] using rgzAdvance_ok p hacc hd hr
  · simpa [rgzAdvance, Function.update_of_ne hi] using hr i

end

lemma rgzInHwccheck_eq_all {p : RgzInParams} {r r' : Rgz} (h : rgzInHwccheck p r = (rgzAll, r')) :
    ∃ layers, p.layers = some layers ∧ (rgzCheckScan layers).Accepted ∧
      r' = rgzAdvance p.dstgeom (rgzCurLayers p layers) { r with stateInit := false } := by
  unfold rgzInHwccheck at h
  cases hl : p.layers with
  | none => simp [hl, rgzAll] at h
  | some layers =>
    simp only [hl] at h
    split_ifs at h with hacc
    · exact ⟨layers, rfl, hacc, (Prod.mk.inj h).2.symm⟩
    · simp [rgzAll] at h

end Solana
