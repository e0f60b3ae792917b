import Solana.Rgz.State
import Mathlib.Data.List.Nodup

/-!
# Dirty counters and the damaged area

`rgz_handle_dirty_region` compares the current frame with two earlier ones: its contents with
the frame shown last (the previous state) and its positions with the frame two steps back,
the one whose framebuffer is about to be drawn over (the target state).  The contents go into
a saturating counter per layer, the positions into one rectangle for the whole frame.

The loop over the current layers is `rgzDirtyLoop`, its body `rgzDirtyLayer`.  The lemmas say
what a layer contributes to the rectangle (`rgzDirtyLoop_covers`), that the loop keeps
everything of a layer but its counter (`RgzLayer.core`), and how the counter relates to the
previous frame (`DirtyTracks`).
-/

namespace Solana

open RgzLayer List

/-! ## The damaged area -/

/-- `rgz_add_to_damaged_area`. -/
def rgzAddToDamagedArea (screenGeom : SurfGeom) (rgzLayer : RgzLayer) (damagedArea : Rect) :
    Rect :=
  let screenRect := screenGeom.rect
  -- a layer that misses the screen is ignored
  if !rectIntersects screenRect rgzLayer.frame then damagedArea
  else
    let layerRect : Rect :=
      { left := max 0 rgzLayer.frame.left
        top := max 0 rgzLayer.frame.top
        right := min screenRect.right rgzLayer.frame.right
        bottom := min screenRect.bottom rgzLayer.frame.bottom }
    if emptyRect damagedArea then layerRect
    else
      { left := min damagedArea.left layerRect.left
        top := min damagedArea.top layerRect.top
        right := max damagedArea.right layerRect.right
        bottom := max damagedArea.bottom layerRect.bottom }

variable {p : Pixel}

lemma rgzAddToDamagedArea_mono (g : SurfGeom) (l : RgzLayer) {d : Rect} (h : d.Contains p) :
    (rgzAddToDamagedArea g l d).Contains p := by
  have hne := emptyRect_eq_false_of_contains h
  by_cases hi : rectIntersects g.rect l.frame = true
  · obtain ⟨h1, h2, h3, h4⟩ := h
    simp only [rgzAddToDamagedArea, hi, hne, Bool.not_true, Bool.false_eq_true, if_false]
    refine ⟨?_, ?_, ?_, ?_⟩ <;> dsimp only <;> omega
  · simpa [rgzAddToDamagedArea, hi] using h

variable {g : SurfGeom} {l : RgzLayer}

/-- A layer added to the damaged area is covered by it wherever the layer is on the screen. -/
lemma rgzAddToDamagedArea_covers (d : Rect) (hs : g.rect.Contains p)
    (hl : l.frame.Contains p) : (rgzAddToDamagedArea g l d).Contains p := by
  have hi := rectIntersects_of_contains hs hl
  have hw : g.rect.right = g.width ∧ g.rect.bottom = g.height := ⟨rfl, rfl⟩
  obtain ⟨hs1, hs2, hs3, hs4⟩ := SurfGeom.rect_contains_iff.mp hs
  obtain ⟨hl1, hl2, hl3, hl4⟩ := hl
  simp only [rgzAddToDamagedArea, hi, Bool.not_true, Bool.false_eq_true, if_false]
  split_ifs
  · refine ⟨?_, ?_, ?_, ?_⟩ <;> dsimp only <;> omega
  · refine ⟨?_, ?_, ?_, ?_⟩ <;> dsimp only <;> omega

/-! ## Comparing layers -/

/-- `rgz_find_layer`: the background has no identity and is ignored. -/
def rgzFindLayer (rgzLayers : List RgzLayer) (layerIdentity : Nat) : Option RgzLayer :=
  rgzLayers.find? fun l =>
    l.buffidx != rgzBackgroundBuffidx && l.identity == layerIdentity

/-- `rgz_has_layer_content_changed`. -/
def rgzHasLayerContentChanged (cur prev : RgzLayer) : Bool :=
  if cur.buffidx = rgzBackgroundBuffidx ∧ prev.buffidx = rgzBackgroundBuffidx then false
  else if cur.identity ≠ prev.identity then true
  else if cur.buffidx = rgzClearhintBuffidx ∧ prev.buffidx = rgzClearhintBuffidx then false
  else
    !cur.hwcLayer.handle.samePtr prev.hwcLayer.handle ||
      decide (cur.hwcLayer.transform ≠ prev.hwcLayer.transform) ||
      decide (cur.hwcLayer.sourceCrop ≠ prev.hwcLayer.sourceCrop)

/-- `rgz_has_layer_frame_moved`. -/
def rgzHasLayerFrameMoved (cur target : RgzLayer) : Bool :=
  if cur.identity ≠ target.identity then true
  else decide (cur.frame ≠ target.frame)

lemma rgzFindLayer_some {ls : List RgzLayer} {id : Nat} (h : rgzFindLayer ls id = some l) :
    l ∈ ls ∧ l.buffidx ≠ rgzBackgroundBuffidx ∧ l.identity = id := by
  have hp := find?_some h
  simp only [Bool.and_eq_true, bne_iff_ne, ne_eq, beq_iff_eq] at hp
  exact ⟨mem_of_find?_eq_some h, hp⟩

lemma rgzFindLayer_none {ls : List RgzLayer} {id : Nat} (h : rgzFindLayer ls id = none)
    (hl : l ∈ ls) (hb : l.buffidx ≠ rgzBackgroundBuffidx) : l.identity ≠ id := by
  have := find?_eq_none.mp h l hl
  simpa [hb] using this

lemma rgzHasLayerFrameMoved_of_ne {c t : RgzLayer} (n : Nat) (h : c.frame ≠ t.frame) :
    rgzHasLayerFrameMoved { c with dirtyCount := n } t = true := by
  simp only [rgzHasLayerFrameMoved, ite_eq_left_iff, decide_eq_true_eq]
  exact fun _ => h

/-! ## The loop over the current layers -/

/-- The previous layer the `i`-th current layer is compared with: the background is always
the first one, the others are searched for by identity. -/
def rgzPrevLayer (prevFb : List RgzLayer) (i : Nat) (cur : RgzLayer) : Option RgzLayer :=
  if i = 0 then prevFb.head? else rgzFindLayer prevFb cur.identity

/-- The dirty counter of a layer, given the layer it is compared with. -/
def rgzDirtyCount (prev : Option RgzLayer) (cur : RgzLayer) : Nat :=
  match prev with
  | some prev =>
    if !rgzHasLayerContentChanged cur prev then
      prev.dirtyCount - (if prev.dirtyCount = 0 then 0 else 1)
    else rgzNumFb
  | none => rgzNumFb

/-- The body of the first loop of `rgz_handle_dirty_region`. -/
def rgzDirtyLayer (g : SurfGeom) (prevFb targetFb : List RgzLayer) (i : Nat) (cur : RgzLayer)
    (damagedArea : Rect) : RgzLayer × Rect :=
  let prev := rgzPrevLayer prevFb i cur
  let cur := { cur with dirtyCount := rgzDirtyCount prev cur }
  match prev with
  -- a new layer: its area is redrawn, the target frame is not looked at
  | none => (cur, rgzAddToDamagedArea g cur damagedArea)
  | some _ =>
    if i = 0 then (cur, damagedArea)
    else
      match rgzFindLayer targetFb cur.identity with
      | some target =>
        if rgzHasLayerFrameMoved cur target then
          ({ cur with dirtyCount := rgzNumFb },
            rgzAddToDamagedArea g target (rgzAddToDamagedArea g cur damagedArea))
        else (cur, damagedArea)
      | none => (cur, rgzAddToDamagedArea g cur damagedArea)

/-- The first loop of `rgz_handle_dirty_region`, from the `i`-th layer on. -/
def rgzDirtyLoop (g : SurfGeom) (prevFb targetFb : List RgzLayer) :
    Nat → List RgzLayer → Rect → List RgzLayer × Rect
  | _, [], d => ([], d)
  | i, cur :: rest, d =>
    let step := rgzDirtyLayer g prevFb targetFb i cur d
    let tail := rgzDirtyLoop g prevFb targetFb (i + 1) rest step.2
    (step.1 :: tail.1, tail.2)

/-- The second loop: layers of the target frame that are gone from the current one. -/
def rgzDamageMissing (g : SurfGeom) (curFb : List RgzLayer) :
    List RgzLayer → Rect → Rect
  | [], d => d
  | target :: rest, d =>
    match rgzFindLayer curFb target.identity with
    | some _ => rgzDamageMissing g curFb rest d
    | none => rgzDamageMissing g curFb rest (rgzAddToDamagedArea g target d)

/-- `rgz_handle_dirty_region`: the current layers with their counters, and the damaged
area. -/
def rgzHandleDirtyRegion (g : SurfGeom) (curFb prevFb targetFb : List RgzLayer) :
    List RgzLayer × Rect :=
  let loop := rgzDirtyLoop g prevFb targetFb 0 curFb Rect.zero
  (loop.1, rgzDamageMissing g loop.1 targetFb.tail loop.2)

/-! ## What the loops leave alone -/

/-- A layer without its dirty counter. -/
def RgzLayer.core (l : RgzLayer) : HwcLayer × Nat × Int := (l.hwcLayer, l.identity, l.buffidx)

lemma RgzLayer.core_eq_iff {a b : RgzLayer} : a.core = b.core ↔
      a.hwcLayer = b.hwcLayer ∧ a.identity = b.identity ∧ a.buffidx = b.buffidx := by
  simp [core]

lemma RgzLayer.frame_eq_of_core {a b : RgzLayer} (h : a.core = b.core) : a.frame = b.frame := by
  rw [frame, frame, (core_eq_iff.mp h).1]

lemma exists_core_mem_tail {as bs : List RgzLayer}
    (h : as.map core = bs.map core) {a : RgzLayer} (ha : a ∈ as.tail) :
    ∃ b ∈ bs.tail, b.core = a.core := by
  have ht : as.tail.map core = bs.tail.map core := by
    rw [map_tail, map_tail, h]
  have hm : a.core ∈ bs.tail.map core := ht ▸ mem_map_of_mem ha
  exact mem_map.mp hm

/-- One step changes nothing of a layer but its counter. -/
lemma rgzDirtyLayer_fst (g : SurfGeom) (prevFb targetFb : List RgzLayer) (i : Nat)
    (cur : RgzLayer) (d : Rect) :
    ∃ n, (n = rgzDirtyCount (rgzPrevLayer prevFb i cur) cur ∨ n = rgzNumFb) ∧
      (rgzDirtyLayer g prevFb targetFb i cur d).1 = { cur with dirtyCount := n } := by
  unfold rgzDirtyLayer
  simp only
  split
  · rename_i h
    exact ⟨_, Or.inl rfl, by rw [h]⟩
  · split_ifs
    · exact ⟨_, Or.inl rfl, rfl⟩
    · split
      · split_ifs
        · exact ⟨_, Or.inr rfl, rfl⟩
        · exact ⟨_, Or.inl rfl, rfl⟩
      · exact ⟨_, Or.inl rfl, rfl⟩

lemma rgzDirtyLayer_core (g : SurfGeom) (prevFb targetFb : List RgzLayer) (i : Nat)
    (cur : RgzLayer) (d : Rect) : (rgzDirtyLayer g prevFb targetFb i cur d).1.core = cur.core := by
  obtain ⟨n, -, h⟩ := rgzDirtyLayer_fst g prevFb targetFb i cur d
  rw [h]
  rfl

lemma rgzDirtyLoop_core (g : SurfGeom) (prevFb targetFb : List RgzLayer) :
    ∀ (i : Nat) (cur : List RgzLayer) (d : Rect),
      (rgzDirtyLoop g prevFb targetFb i cur d).1.map core = cur.map core
  | _, [], _ => rfl
  | i, cur :: rest, d => by
    simp only [rgzDirtyLoop, map_cons, rgzDirtyLayer_core,
      rgzDirtyLoop_core g prevFb targetFb (i + 1) rest]

lemma rgzHandleDirtyRegion_core (g : SurfGeom) (curFb prevFb targetFb : List RgzLayer) :
    (rgzHandleDirtyRegion g curFb prevFb targetFb).1.map core = curFb.map core :=
  rgzDirtyLoop_core g prevFb targetFb 0 curFb Rect.zero

/-! ## What the loops cover -/

section Keeps

variable {g : SurfGeom} {P : Rect → Prop}

/-- What adding a layer to the damaged area keeps, a step of the loop keeps. -/
lemma rgzDirtyLayer_keeps (hadd : ∀ l d, P d → P (rgzAddToDamagedArea g l d))
    (prevFb targetFb : List RgzLayer) (i : Nat) (cur : RgzLayer) {d : Rect} (h : P d) :
    P (rgzDirtyLayer g prevFb targetFb i cur d).2 := by
  unfold rgzDirtyLayer
  simp only
  split
  · exact hadd _ _ h
  · split_ifs
    · exact h
    · split
      · split_ifs
        · exact hadd _ _ (hadd _ _ h)
        · exact h
      · exact hadd _ _ h

lemma rgzDirtyLoop_keeps (hadd : ∀ l d, P d → P (rgzAddToDamagedArea g l d))
    (prevFb targetFb : List RgzLayer) : ∀ (i : Nat) (cur : List RgzLayer) {d : Rect}, P d →
      P (rgzDirtyLoop g prevFb targetFb i cur d).2
  | _, [], _, h => h
  | i, cur :: rest, _, h =>
    rgzDirtyLoop_keeps hadd prevFb targetFb (i + 1) rest
      (rgzDirtyLayer_keeps hadd prevFb targetFb i cur h)

lemma rgzDamageMissing_keeps (hadd : ∀ l d, P d → P (rgzAddToDamagedArea g l d))
    (curFb : List RgzLayer) :
    ∀ (target : List RgzLayer) {d : Rect}, P d → P (rgzDamageMissing g curFb target d)
  | [], _, h => h
  | t :: rest, d, h => by
    unfold rgzDamageMissing
    split
    · exact rgzDamageMissing_keeps hadd curFb rest h
    · exact rgzDamageMissing_keeps hadd curFb rest (hadd t d h)

lemma rgzHandleDirtyRegion_keeps (h0 : P Rect.zero)
    (hadd : ∀ l d, P d → P (rgzAddToDamagedArea g l d)) (curFb prevFb targetFb : List RgzLayer) :
    P (rgzHandleDirtyRegion g curFb prevFb targetFb).2 :=
  rgzDamageMissing_keeps hadd _ _ (rgzDirtyLoop_keeps hadd prevFb targetFb 0 curFb h0)

end Keeps

/-- The areas a current layer adds to the damage, as a rectangle `r` to be covered: the layer's
own area when it is new or absent from the target, both areas when it moved. -/
inductive DamagedBy (prevFb targetFb : List RgzLayer) (cur : RgzLayer) : Rect → Prop
  | new (h : rgzFindLayer prevFb cur.identity = none) :
      DamagedBy prevFb targetFb cur cur.frame
  | absent (h : rgzFindLayer targetFb cur.identity = none) :
      DamagedBy prevFb targetFb cur cur.frame
  | here {t : RgzLayer} (h : rgzFindLayer targetFb cur.identity = some t)
      (hm : cur.frame ≠ t.frame) : DamagedBy prevFb targetFb cur cur.frame
  | there {p t : RgzLayer} (hp : rgzFindLayer prevFb cur.identity = some p)
      (h : rgzFindLayer targetFb cur.identity = some t) (hm : cur.frame ≠ t.frame) :
      DamagedBy prevFb targetFb cur t.frame

variable {prevFb targetFb : List RgzLayer}

lemma rgzDirtyLayer_covers {i : Nat} {cur : RgzLayer} {r : Rect} (hi : i ≠ 0)
    (hr : DamagedBy prevFb targetFb cur r) (d : Rect) (hs : g.rect.Contains p)
    (hp : r.Contains p) : (rgzDirtyLayer g prevFb targetFb i cur d).2.Contains p := by
  -- the area of the layer itself is covered whenever the layer is added, whatever its counter
  have hown : ∀ (n : Nat) (d : Rect), cur.frame.Contains p →
      (rgzAddToDamagedArea g { cur with dirtyCount := n } d).Contains p := fun _ d h =>
    rgzAddToDamagedArea_covers (l := { cur with dirtyCount := _ }) d hs h
  unfold rgzDirtyLayer
  simp only [rgzPrevLayer, if_neg hi]
  split
  · rename_i hprev
    cases hr with
    | new | absent | here => exact hown _ _ hp
    | there hp' => simp [hprev] at hp'
  · rename_i q hprev
    cases hr with
    | new h => simp [hprev] at h
    | absent h => simp only [h]; exact hown _ _ hp
    | here h hm =>
      simp only [h, rgzHasLayerFrameMoved_of_ne _ hm, if_true]
      exact rgzAddToDamagedArea_mono g _ (hown _ _ hp)
    | there _ h hm =>
      simp only [h, rgzHasLayerFrameMoved_of_ne _ hm, if_true]
      exact rgzAddToDamagedArea_covers _ hs hp

lemma rgzDirtyLoop_covers (hs : g.rect.Contains p) {r : Rect} (hp : r.Contains p) :
    ∀ {i : Nat} {cur : List RgzLayer} {d : Rect} {c : RgzLayer}, i ≠ 0 → c ∈ cur →
      DamagedBy prevFb targetFb c r → (rgzDirtyLoop g prevFb targetFb i cur d).2.Contains p
  | _, [], _, _, _, hc, _ => by simp at hc
  | i, cur :: rest, d, c, hi, hc, hr => by
    rcases mem_cons.mp hc with rfl | hc
    · exact rgzDirtyLoop_keeps (P := fun d => d.Contains p)
        (fun l _ => rgzAddToDamagedArea_mono g l) prevFb targetFb _ rest
        (rgzDirtyLayer_covers hi hr d hs hp)
    · exact rgzDirtyLoop_covers (i := i + 1) hs hp (Nat.succ_ne_zero i) hc hr

lemma rgzDamageMissing_covers {curFb : List RgzLayer} (hs : g.rect.Contains p) :
    ∀ {target : List RgzLayer} {d : Rect} {t : RgzLayer}, t ∈ target →
      rgzFindLayer curFb t.identity = none → t.frame.Contains p →
      (rgzDamageMissing g curFb target d).Contains p
  | [], _, _, ht, _, _ => by simp at ht
  | u :: rest, d, t, ht, hcur, hp => by
    unfold rgzDamageMissing
    rcases mem_cons.mp ht with rfl | ht
    · simp only [hcur]
      exact rgzDamageMissing_keeps (P := fun d => d.Contains p)
        (fun l _ => rgzAddToDamagedArea_mono g l) curFb rest
        (rgzAddToDamagedArea_covers d hs hp)
    · split
      · exact rgzDamageMissing_covers hs ht hcur hp
      · exact rgzDamageMissing_covers hs ht hcur hp

/-! ## What the counters record -/

@[simp] lemma rgzHasLayerContentChanged_dirty (cur prev : RgzLayer) (n : Nat) :
    rgzHasLayerContentChanged { cur with dirtyCount := n } prev =
      rgzHasLayerContentChanged cur prev := rfl

/-- What the dirty counter of a layer says about the layer it was compared with: the counter
is full when there was none or the contents differ, and otherwise at most one below the
earlier counter. -/
def DirtyTracks (prev : Option RgzLayer) (cur : RgzLayer) : Prop :=
  match prev with
  | none => cur.dirtyCount = rgzNumFb
  | some prev =>
    (rgzHasLayerContentChanged cur prev = true → cur.dirtyCount = rgzNumFb) ∧
      prev.dirtyCount ≤ cur.dirtyCount + 1

/-- All counters of a frame are at most the number of framebuffers. -/
def DirtyBounded (ls : List RgzLayer) : Prop := ∀ l ∈ ls, l.dirtyCount ≤ rgzNumFb

lemma rgzPrevLayer_mem {prevFb : List RgzLayer} {i : Nat} {cur q : RgzLayer}
    (h : rgzPrevLayer prevFb i cur = some q) : q ∈ prevFb := by
  unfold rgzPrevLayer at h
  split_ifs at h
  · exact mem_of_mem_head? h
  · exact (rgzFindLayer_some h).1

lemma rgzDirtyCount_le {prev : Option RgzLayer} (cur : RgzLayer)
    (hp : ∀ q, prev = some q → q.dirtyCount ≤ rgzNumFb) : rgzDirtyCount prev cur ≤ rgzNumFb := by
  cases prev with
  | none => exact le_rfl
  | some q =>
    have hq := hp q rfl
    simp only [rgzDirtyCount]
    split_ifs <;> omega

lemma rgzDirtyLayer_tracks (g : SurfGeom) {prevFb : List RgzLayer} (hb : DirtyBounded prevFb)
    (targetFb : List RgzLayer) (i : Nat) (cur : RgzLayer) (d : Rect) :
    DirtyTracks (rgzPrevLayer prevFb i cur) (rgzDirtyLayer g prevFb targetFb i cur d).1 ∧
      (rgzDirtyLayer g prevFb targetFb i cur d).1.dirtyCount ≤ rgzNumFb := by
  obtain ⟨n, hn, h⟩ := rgzDirtyLayer_fst g prevFb targetFb i cur d
  have hq : ∀ q, rgzPrevLayer prevFb i cur = some q → q.dirtyCount ≤ rgzNumFb :=
    fun q hq => hb q (rgzPrevLayer_mem hq)
  rw [h]
  refine ⟨?_, by rcases hn with rfl | rfl; exacts [rgzDirtyCount_le cur hq, le_rfl]⟩
  cases hprev : rgzPrevLayer prevFb i cur with
  | none => rcases hn with rfl | rfl <;> simp [DirtyTracks, rgzDirtyCount, hprev]
  | some q =>
    have hq := hq q hprev
    simp only [DirtyTracks, rgzHasLayerContentChanged_dirty]
    rcases hn with rfl | rfl
    · rw [hprev, rgzDirtyCount]
      refine ⟨fun hc => by simp [hc], ?_⟩
      split_ifs <;> omega
    · exact ⟨fun _ => rfl, by omega⟩

lemma rgzDirtyLoop_tracks (hb : DirtyBounded prevFb) :
    ∀ {i : Nat} {cur : List RgzLayer} {d : Rect} {c : RgzLayer},
      i ≠ 0 → c ∈ (rgzDirtyLoop g prevFb targetFb i cur d).1 →
      DirtyTracks (rgzFindLayer prevFb c.identity) c
  | _, [], _, _, _, hc => by simp [rgzDirtyLoop] at hc
  | i, cur :: rest, d, c, hi, hc => by
    rcases mem_cons.mp hc with rfl | hc
    · have h := (rgzDirtyLayer_tracks g hb targetFb i cur d).1
      have hid := (core_eq_iff.mp (rgzDirtyLayer_core g prevFb targetFb i cur d)).2.1
      rwa [rgzPrevLayer, if_neg hi, ← hid] at h
    · exact rgzDirtyLoop_tracks hb (i := i + 1) (Nat.succ_ne_zero i) hc

lemma rgzDirtyLoop_bounded (g : SurfGeom) {prevFb : List RgzLayer} (hb : DirtyBounded prevFb)
    (targetFb : List RgzLayer) : ∀ (i : Nat) (cur : List RgzLayer) (d : Rect),
      DirtyBounded (rgzDirtyLoop g prevFb targetFb i cur d).1
  | _, [], _ => by simp [rgzDirtyLoop, DirtyBounded]
  | i, cur :: rest, d => by
    intro c hc
    rcases mem_cons.mp hc with rfl | hc
    · exact (rgzDirtyLayer_tracks g hb targetFb i cur d).2
    · exact rgzDirtyLoop_bounded g hb targetFb (i + 1) rest _ c hc

end Solana
