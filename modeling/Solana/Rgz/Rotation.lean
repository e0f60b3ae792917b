import Mathlib.Algebra.Group.End
import Solana.Rgz.Mapping

/-!
# Rotated views

`rgz_get_rotated_view` turns a rectangle together with an outer one that holds it, by any multiple
of 90 degrees, and gives the result relative to the corner of the turned outer rectangle.  A quarter
turn of a rectangle in a frame is a permutation of order four, so its integer powers are the turns
in both directions; the view of the code is a power of it (`rgzGetRotatedView_eq`).

`rotatedView_turns`: the turned rectangle stays in the turned frame, keeps its sides but for their
order, turns add up, and turning back gives the rectangle relative to the corner of the outer one.
-/

namespace Solana

/-! ## Rectangles in a frame -/

/-- A rectangle lies in another one. -/
structure Rect.Within (r outer : Rect) : Prop where
  left : outer.left ≤ r.left
  top : outer.top ≤ r.top
  right : r.right ≤ outer.right
  bottom : r.bottom ≤ outer.bottom

/-- A rectangle relative to the top left corner of another one. -/
def Rect.relativeTo (r outer : Rect) : Rect :=
  ⟨r.left - outer.left, r.top - outer.top, r.right - outer.left, r.bottom - outer.top⟩

/-- A rectangle relative to the corner of a frame with a width and a height. -/
@[ext]
structure Framed where
  width : Int
  height : Int
  rect : Rect

namespace Framed

/-- The frame itself. -/
def bounds (f : Framed) : Rect := ⟨0, 0, f.width, f.height⟩

/-- The frame with itself as the rectangle. -/
def whole (f : Framed) : Framed := { f with rect := f.bounds }

/-- The inner rectangle in the frame of the outer one. -/
def ofRects (outer inner : Rect) : Framed := ⟨outer.width, outer.height, inner.relativeTo outer⟩

/-- A clockwise quarter turn of the frame and the rectangle. -/
def quarter : Equiv.Perm Framed where
  toFun f := ⟨f.height, f.width,
    ⟨f.height - f.rect.bottom, f.rect.left, f.height - f.rect.top, f.rect.right⟩⟩
  invFun f := ⟨f.height, f.width,
    ⟨f.rect.top, f.width - f.rect.right, f.rect.bottom, f.width - f.rect.left⟩⟩
  left_inv f := by simp
  right_inv f := by simp

lemma quarter_apply (f : Framed) : quarter f = ⟨f.height, f.width,
    ⟨f.height - f.rect.bottom, f.rect.left, f.height - f.rect.top, f.rect.right⟩⟩ :=
  rfl

lemma quarter_pow_four : quarter ^ 4 = 1 := by
  ext f : 1
  simp [pow_succ, quarter_apply]

lemma quarter_zpow (k : Int) : quarter ^ k = quarter ^ (k % 4).toNat := by
  have hnonneg : 0 ≤ k % 4 := Int.emod_nonneg k (by decide)
  rw [← zpow_natCast, Int.toNat_of_nonneg hnonneg]
  exact zpow_eq_zpow_emod' k quarter_pow_four

lemma zpow_invariant (P : Framed → Prop) (hstep : ∀ f, P f → P (quarter f)) (k : Int)
    {f : Framed} (h : P f) : P ((quarter ^ k) f) := by
  rw [quarter_zpow]
  generalize (k % 4).toNat = n
  induction n with
  | zero => exact h
  | succ n ih =>
    rw [pow_succ', Equiv.Perm.mul_apply]
    exact hstep _ ih

lemma within_zpow {f : Framed} (h : f.rect.Within f.bounds) (k : Int) :
    ((quarter ^ k) f).rect.Within ((quarter ^ k) f).bounds := by
  refine zpow_invariant (fun f => f.rect.Within f.bounds) (fun f hf => ?_) k h
  exact
    { left := Int.sub_nonneg.mpr hf.bottom
      top := hf.left
      right := Int.sub_le_self _ hf.top
      bottom := hf.right }

lemma whole_zpow (f : Framed) (k : Int) : (quarter ^ k) f.whole = ((quarter ^ k) f).whole := by
  rw [quarter_zpow]
  generalize (k % 4).toNat = n
  induction n with
  | zero => rfl
  | succ n ih =>
    rw [pow_succ', Equiv.Perm.mul_apply, Equiv.Perm.mul_apply, ih]
    simp [quarter_apply, whole, bounds]

lemma sides_quarter (f : Framed) :
    (quarter f).rect.width = f.rect.height ∧ (quarter f).rect.height = f.rect.width := by
  refine ⟨?_, rfl⟩
  simp only [quarter_apply, Rect.width, Rect.height]
  omega

lemma sides_pow (f : Framed) (n : Nat) :
    (((quarter ^ n) f).rect.width, ((quarter ^ n) f).rect.height) =
      if n % 2 = 0 then (f.rect.width, f.rect.height) else (f.rect.height, f.rect.width) := by
  induction n with
  | zero => rfl
  | succ n ih =>
    rw [pow_succ', Equiv.Perm.mul_apply]
    generalize (quarter ^ n) f = g at ih
    rw [(sides_quarter g).1, (sides_quarter g).2]
    by_cases hn : n % 2 = 0
    · rw [if_pos hn] at ih
      rw [if_neg (by omega), (Prod.mk.inj ih).1, (Prod.mk.inj ih).2]
    · rw [if_neg hn] at ih
      rw [if_pos (by omega), (Prod.mk.inj ih).1, (Prod.mk.inj ih).2]

end Framed

/-! ## The view of the code -/

section Views

open Framed

variable (outer inner : Rect)

lemma tmod_normalized (o : Int) : (o.tmod 360 + 360).tmod 360 = o % 360 ∧
    (o.tmod 360 + 360).tmod 180 = o % 180 := by
  have hpos : 0 ≤ o.tmod 360 + 360 := by
    have := Int.lt_tmod_of_pos o (by decide : (0 : Int) < 360)
    omega
  rw [Int.tmod_eq_emod_of_nonneg hpos, Int.tmod_eq_emod_of_nonneg hpos, Int.tmod_eq_emod]
  split_ifs <;> omega

lemma rgzGetRotatedView_emod (o : Int) :
    rgzGetRotatedView outer inner o = rgzGetRotatedView outer inner (o % 360) := by
  unfold rgzGetRotatedView
  have hturn : o % 360 % 360 = o % 360 := Int.emod_emod_of_dvd o (Int.dvd_refl 360)
  have hhalf : o % 360 % 180 = o % 180 := Int.emod_emod_of_dvd o (by decide)
  simp only [(tmod_normalized o).1, (tmod_normalized o).2, (tmod_normalized (o % 360)).1,
    (tmod_normalized (o % 360)).2, hturn, hhalf]

/-- The view of the code is a power of the quarter turn. -/
lemma rgzGetRotatedView_eq (k : Int) :
    rgzGetRotatedView outer inner (90 * k) = ((quarter ^ k) (ofRects outer inner)).rect := by
  have hmod : 90 * k % 360 = 90 * (k % 4) := by omega
  rw [rgzGetRotatedView_emod, hmod, quarter_zpow]
  have hk : k % 4 = 0 ∨ k % 4 = 1 ∨ k % 4 = 2 ∨ k % 4 = 3 := by omega
  rcases hk with hk | hk | hk | hk
  · rw [hk, rgzGetRotatedView_none (o := 90 * 0) _ _ (.inl (by decide))]
    rfl
  · rw [hk, rgzGetRotatedView_quarter (o := 90 * 1) _ _ (.inl (by decide))]
    simp [quarter_apply, ofRects, Rect.relativeTo, Rect.height]
  · rw [hk, rgzGetRotatedView_half (o := 90 * 2) _ _ (.inl (by decide))]
    simp [pow_succ, quarter_apply, ofRects, Rect.relativeTo, Rect.width, Rect.height]
  · rw [hk, rgzGetRotatedView_threeQuarters (o := 90 * 3) _ _ (.inl (by decide))]
    simp [pow_succ, quarter_apply, ofRects, Rect.relativeTo, Rect.width, Rect.height]

lemma rgzGetRotatedView_outer (k : Int) :
    rgzGetRotatedView outer outer (90 * k) = ((quarter ^ k) (ofRects outer inner)).bounds := by
  have hwhole : ofRects outer outer = (ofRects outer inner).whole := by
    simp [ofRects, whole, bounds, Rect.relativeTo, Rect.width, Rect.height]
  rw [rgzGetRotatedView_eq, hwhole, whole_zpow]
  rfl

lemma ofRects_bounds (f : Framed) : ofRects f.bounds f.rect = f := by
  simp [ofRects, bounds, Rect.relativeTo, Rect.width, Rect.height]

lemma rgzGetRotatedView_add (k m : Int) : rgzGetRotatedView (rgzGetRotatedView outer outer (90 * k))
      (rgzGetRotatedView outer inner (90 * k)) (90 * m) =
      rgzGetRotatedView outer inner (90 * k + 90 * m) := by
  rw [rgzGetRotatedView_outer outer inner, rgzGetRotatedView_eq outer inner, rgzGetRotatedView_eq,
    ofRects_bounds, ← Equiv.Perm.mul_apply, ← zpow_add, ← Int.mul_add, rgzGetRotatedView_eq,
    Int.add_comm m k]

variable {outer inner}

lemma Rect.Within.relativeTo (h : inner.Within outer) :
    (ofRects outer inner).rect.Within (ofRects outer inner).bounds where
  left := Int.sub_nonneg.mpr h.left
  top := Int.sub_nonneg.mpr h.top
  right := Int.sub_le_sub_right h.right _
  bottom := Int.sub_le_sub_right h.bottom _

/-- For a rectangle in an outer one and turns by multiples of 90 degrees, the view stays in the
turned outer rectangle, its sides are swapped exactly by the odd quarter turns, the view by `a` and
then by `b` is the one by `a + b`, and turning back gives the rectangle relative to the corner of
the outer one, which is the rectangle itself exactly if that corner is the origin. -/
theorem rotatedView_turns (h : inner.Within outer) {a b : Int} (ha : 90 ∣ a) (hb : 90 ∣ b) :
    (rgzGetRotatedView outer inner a).Within (rgzGetRotatedView outer outer a) ∧
    ((rgzGetRotatedView outer inner a).width, (rgzGetRotatedView outer inner a).height) =
      (if 180 ∣ a then (inner.width, inner.height) else (inner.height, inner.width)) ∧
    rgzGetRotatedView (rgzGetRotatedView outer outer a) (rgzGetRotatedView outer inner a) b =
      rgzGetRotatedView outer inner (a + b) ∧
    rgzGetRotatedView (rgzGetRotatedView outer outer a) (rgzGetRotatedView outer inner a) (-a) =
      inner.relativeTo outer ∧
    (inner.relativeTo outer = inner ↔ outer.left = 0 ∧ outer.top = 0) := by
  obtain ⟨k, rfl⟩ := ha
  obtain ⟨m, rfl⟩ := hb
  refine ⟨?_, ?_, rgzGetRotatedView_add outer inner k m, ?_, ?_⟩
  · rw [rgzGetRotatedView_eq, rgzGetRotatedView_outer outer inner]
    exact within_zpow h.relativeTo k
  · have hsides : (ofRects outer inner).rect.width = inner.width ∧
        (ofRects outer inner).rect.height = inner.height := by
      simp only [ofRects, Rect.relativeTo, Rect.width, Rect.height]
      omega
    have hparity : (k % 4).toNat % 2 = 0 ↔ (180 : Int) ∣ 90 * k := by omega
    rw [rgzGetRotatedView_eq, quarter_zpow, sides_pow, hsides.1, hsides.2]
    simp only [hparity]
  · rw [← Int.mul_neg, rgzGetRotatedView_add, Int.mul_neg, Int.add_right_neg,
      rgzGetRotatedView_none _ _ (.inl rfl)]
    rfl
  · constructor
    · intro heq
      have hleft := congrArg Rect.left heq
      have htop := congrArg Rect.top heq
      simp only [Rect.relativeTo] at hleft htop
      omega
    · rintro ⟨hleft, htop⟩
      simp only [Rect.relativeTo, hleft, htop, Int.sub_zero]

/-- A rectangle in a screen that starts at the origin, turned by a quarter, then back. -/
theorem rotatedView_turns_sample : rgzGetRotatedView ⟨0, 0, 8, 4⟩ ⟨1, 1, 4, 2⟩ 90 = ⟨2, 1, 3, 4⟩ ∧
    rgzGetRotatedView ⟨0, 0, 4, 8⟩ ⟨2, 1, 3, 4⟩ (-90) = ⟨1, 1, 4, 2⟩ := by
  have hin : Rect.Within ⟨1, 1, 4, 2⟩ ⟨0, 0, 8, 4⟩ :=
    ⟨by decide, by decide, by decide, by decide⟩
  obtain ⟨-, -, -, hback, -⟩ := rotatedView_turns hin (a := 90) (b := 90) (by decide) (by decide)
  exact ⟨by decide +kernel, hback⟩

/-- A rectangle in a frame that does not start at the origin comes back moved. -/
theorem turned_back_moved : ¬∀ outer inner : Rect, inner.Within outer → ∀ a : Int, 90 ∣ a →
      rgzGetRotatedView (rgzGetRotatedView outer outer a) (rgzGetRotatedView outer inner a) (-a) =
        inner := by
  intro h
  have hback := h ⟨10, 0, 20, 10⟩ ⟨12, 0, 14, 4⟩ ⟨by decide, by decide, by decide, by decide⟩ 90
    (by decide)
  exact absurd hback (by decide +kernel)

end Views

end Solana
