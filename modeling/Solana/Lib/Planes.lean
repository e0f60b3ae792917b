import Solana.Lib.Compositing
import Mathlib.Data.List.Induction
import Mathlib.Data.List.Sort

/-!
# Compositing with overlays and one plane

A scene is a list of layers, bottom to top, some drawn into a common plane and some shown by
overlays of their own.  The plane and the overlays are then stacked, with all of the plane at one
height, so a layer of the plane may end up above an overlay that follows it in the list.  The
plane makes up for this by holes: an overlay punches the transparent pixel into the plane at its
place in the list.

`WellStacked` says when that works at a pixel: an overlay above a layer of the plane is either
opaque, with a hole, or does not touch the pixel.  `stack_planes` is the result: with the plane
between the overlays before and after its last layer, the stack shows what painting all layers
in order would.
-/

namespace Solana.Compositing

open List

variable {α : Type*} [Monoid α]

/-- A layer of a scene at a pixel. -/
inductive Item (α : Type*)
  | plane (v : α)
  | overlay (v : α) (hole : Bool)

/-- What the layer draws. -/
def Item.value : Item α → α
  | .plane v => v
  | .overlay v _ => v

/-- Is the layer drawn into the plane? -/
def Item.isPlane : Item α → Bool
  | .plane _ => true
  | .overlay _ _ => false

/-- Values drawn over each other, bottom to top. -/
def stack (vs : List α) : α := paint (vs.map .over) 1

open Item

@[simp] lemma stack_nil : stack ([] : List α) = 1 := rfl

lemma stack_append_singleton (vs : List α) (v : α) : stack (vs ++ [v]) = v * stack vs := by
  simp [stack, paint_append]

lemma stack_append (vs ws : List α) : stack (vs ++ ws) = stack ws * stack vs := by
  induction ws using reverseRecOn with
  | nil => simp
  | append_singleton ws w ih =>
    rw [← append_assoc, stack_append_singleton, ih, stack_append_singleton, mul_assoc]

/-- The plane after a layer. -/
def Item.draw (d : α) : Item α → α
  | .plane v => v * d
  | .overlay _ hole => if hole then 1 else d

/-- The plane, drawn on a transparent buffer. -/
def planeValue (items : List (Item α)) : α := items.foldl Item.draw 1

lemma planeValue_append_singleton (items : List (Item α)) (i : Item α) :
    planeValue (items ++ [i]) = i.draw (planeValue items) := by
  simp [planeValue]

/-- The values of the overlays. -/
def overlayValues (items : List (Item α)) : List α :=
  (items.filter fun i => !i.isPlane).map Item.value

omit [Monoid α] in
lemma overlayValues_append (items items' : List (Item α)) :
    overlayValues (items ++ items') = overlayValues items ++ overlayValues items' := by
  simp [overlayValues]

lemma planeValue_of_overlays {items : List (Item α)} (h : ∀ i ∈ items, i.isPlane = false) :
    planeValue items = 1 := by
  induction items using reverseRecOn with
  | nil => rfl
  | append_singleton items i ih =>
    rw [planeValue_append_singleton, ih fun j hj => h j (by simp [hj])]
    cases i with
    | plane v => exact absurd (h (.plane v) (by simp)) (by simp [isPlane])
    | overlay v hole => simp [draw]

/-- The layer is an overlay that hides what is below it and is punched out of the plane, or one
that is not there at all. -/
def Item.Punches : Item α → Prop
  | .plane _ => False
  | .overlay v hole => (Absorbs v ∧ hole = true) ∨ (v = 1 ∧ hole = false)

/-- Every overlay above a layer of the plane punches. -/
def WellStacked (items : List (Item α)) : Prop :=
  ∀ pre i post, items = pre ++ i :: post → i.isPlane = false →
    (∀ j ∈ pre, j.isPlane = false) ∨ i.Punches

lemma WellStacked.of_append {items items' : List (Item α)} (h : WellStacked (items ++ items')) :
    WellStacked items := by
  rintro pre i post rfl hi
  exact h pre i (post ++ items') (by simp) hi

/-- With the plane above all overlays, the holes make up for the order. -/
lemma planeValue_mul_stack {items : List (Item α)} (h : WellStacked items) :
    planeValue items * stack (overlayValues items) = stack (items.map value) := by
  induction items using reverseRecOn with
  | nil => simp [planeValue, overlayValues]
  | append_singleton items i ih =>
    have ih := ih h.of_append
    rw [map_append, map_singleton, stack_append_singleton, ← ih,
      planeValue_append_singleton, overlayValues_append]
    cases i with
    | plane v =>
      simp [overlayValues, isPlane, draw, value, mul_assoc]
    | overlay v hole =>
      have hv : overlayValues [overlay v hole] = [v] := rfl
      rw [hv, stack_append_singleton]
      rcases h items (.overlay v hole) [] (by simp) rfl with hnone | ⟨habs, rfl⟩ | ⟨rfl, rfl⟩
      · -- nothing is in the plane yet
        simp [planeValue_of_overlays hnone, draw, value]
      · simp only [draw, value, if_true, one_mul]
        rw [habs, habs]
      · simp [draw, value]

/-- **The plane between its overlays**: overlays after the last layer of the plane may be shown
above it. -/
theorem stack_planes {items above : List (Item α)} (h : WellStacked items)
    (habove : ∀ i ∈ above, i.Punches) :
    stack (overlayValues items ++ planeValue (items ++ above) :: overlayValues above) =
      stack ((items ++ above).map value) := by
  have hsplit : ∀ (vs ws : List α) (v : α), stack (vs ++ v :: ws) = stack ws * (v * stack vs) := by
    intro vs ws v
    rw [← singleton_append, ← append_assoc, stack_append, stack_append_singleton]
  rw [hsplit]
  induction above using reverseRecOn with
  | nil =>
    rw [append_nil, ← planeValue_mul_stack h]
    exact one_mul _
  | append_singleton above i ih =>
    have ih := ih fun j hj => habove j (by simp [hj])
    rw [← append_assoc, map_append, map_singleton, stack_append_singleton, ← ih,
      planeValue_append_singleton, overlayValues_append]
    cases i with
    | plane v => exact absurd (habove (.plane v) (by simp)) id
    | overlay v hole =>
      have hv : overlayValues [overlay v hole] = [v] := rfl
      rw [hv, stack_append_singleton]
      rcases habove (.overlay v hole) (by simp) with ⟨habs, rfl⟩ | ⟨rfl, rfl⟩
      · simp only [value, mul_assoc]
        rw [habs, habs]
      · simp [draw, value]

/-! ## Stacking by height -/

/-- Values in the order of their heights. -/
def byHeight (planes : List (ℕ × α)) : List α :=
  (planes.mergeSort fun a b => a.1 ≤ b.1).map Prod.snd

omit [Monoid α] in
lemma byHeight_eq {planes sorted : List (ℕ × α)} (hperm : planes.Perm sorted)
    (hsorted : sorted.Pairwise fun a b => a.1 < b.1) : byHeight planes = sorted.map Prod.snd := by
  have hp : (planes.mergeSort fun a b => a.1 ≤ b.1).Perm sorted :=
    (mergeSort_perm _ _).trans hperm
  have hle : (planes.mergeSort fun a b => a.1 ≤ b.1).Pairwise
      fun a b => decide (a.1 ≤ b.1) = true := by
    refine pairwise_mergeSort (fun a b c hab hbc => ?_) (fun a b => ?_) planes
    · simp only [decide_eq_true_eq] at hab hbc ⊢
      exact hab.trans hbc
    · simpa using Nat.le_total a.1 b.1
  have hinj : (sorted.map Prod.fst).Nodup :=
    (hsorted.map Prod.fst fun _ _ hab => hab).imp fun hab => Nat.ne_of_lt hab
  have hms : (planes.mergeSort fun a b => a.1 ≤ b.1) = sorted := by
    refine hp.eq_of_pairwise (fun a b ha hb hab hba => ?_) hle
      (hsorted.imp fun hab => by simpa using Nat.le_of_lt hab)
    simp only [decide_eq_true_eq] at hab hba
    exact inj_on_of_nodup_map hinj (hp.mem_iff.mp ha) hb (Nat.le_antisymm hab hba)
  rw [byHeight, hms]

omit [Monoid α] in
/-- One value at the height `f`, the others in order below and above it. -/
lemma byHeight_insert {f : ℕ} {vs : List α} (hf : f ≤ vs.length) (v : α) :
    byHeight ((f :: (range vs.length).map fun k => if k < f then k else k + 1).zip
      (v :: vs)) = vs.take f ++ v :: vs.drop f := by
  obtain ⟨m, hm⟩ := Nat.exists_eq_add_of_le hf
  have hheights : ((range vs.length).map fun k => if k < f then k else k + 1) =
      range f ++ range' (f + 1) m := by
    rw [hm, range_add, map_append, map_map, range'_eq_map_range]
    congr 1
    · conv_rhs => rw [← map_id (range f)]
      exact map_congr_left fun k hk => if_pos (mem_range.mp hk)
    · refine map_congr_left fun k _ => ?_
      simp only [Function.comp]
      rw [if_neg (by omega)]
      omega
  have htake : (vs.take f).length = f := by simp [hf]
  have hdrop : (vs.drop f).length = m := by simp [hm]
  have hzip : (range f ++ range' (f + 1) m).zip vs =
      (range f).zip (vs.take f) ++ (range' (f + 1) m).zip (vs.drop f) := by
    conv_lhs => rw [← take_append_drop f vs]
    exact zip_append (by simp [htake])
  rw [hheights, zip_cons_cons, hzip, byHeight_eq perm_middle.symm]
  · rw [map_append, map_cons, map_snd_zip (by simp [htake]),
      map_snd_zip (by simp [hdrop])]
  · -- the heights are `0, 1, …, vs.length`
    rw [← pairwise_map (f := Prod.fst) (R := (· < ·)), map_append, map_cons,
      map_fst_zip (by simp [htake]), map_fst_zip (by simp [hdrop]),
      pairwise_append]
    refine ⟨pairwise_lt_range, pairwise_cons.mpr ⟨?_, pairwise_lt_range'⟩, ?_⟩
    · intro a ha
      have := mem_range'_1.mp ha
      omega
    · intro a ha b hb
      have := mem_range.mp ha
      rcases mem_cons.mp hb with rfl | hb
      · exact this
      · have := mem_range'_1.mp hb
        omega

end Solana.Compositing
