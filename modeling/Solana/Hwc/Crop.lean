import Solana.Hwc.Overlay
import Mathlib.Tactic.IntervalCases
import Mathlib.Tactic.Ring

/-!
# Cropping an overlay

`crop_to_rect` crops the window of an overlay to a visible rectangle, and the part of the buffer
that is shown there with it.  It works along each axis of the display on a window span and on the
crop span of the buffer axis that is shown there, which may run the other way.

`pixelAt` is what an overlay shows, when it is not scaled: the crop rectangle turned clockwise by
quarter turns and then mirrored.  `crop_to_rect_correct`: the window is cropped exactly, what is
left of the crop rectangle is a part of it, and the pixels that are left show what they showed.
-/

namespace Solana

open Option

/-! ## One axis -/

/-- A window span is cropped to a range, and something is left. -/
structure Cropped (win win' : Span) (lt rb : Int) : Prop where
  start : win'.xy = max win.xy lt
  stop : win'.xy + win'.wh = min (win.xy + win.wh) rb
  pos : 0 < win'.wh

lemma share_bounds {d m w : Int} (hd : 0 ≤ d) (hdw : d < w) (hm : 0 < m) :
    0 ≤ d * m / w ∧ d * m / w < m := by
  have hw : 0 < w := by omega
  refine ⟨Int.ediv_nonneg (Int.mul_nonneg hd hm.le) hw.le, ?_⟩
  rw [Int.ediv_lt_iff_lt_mul hw, mul_comm]
  exact Int.mul_lt_mul_of_pos_left hdw hm

lemma signed_share {s d m w : Int} (hs : s = 1 ∨ s = -1) (hd : 0 ≤ d) (hm : 0 < m) :
    (d * (s * m)).tdiv w = s * (d * m / w) := by
  have hpos := Int.mul_nonneg hd hm.le
  rcases hs with rfl | rfl
  · rw [one_mul, one_mul, Int.tdiv_eq_ediv_of_nonneg hpos]
  · rw [show d * (-1 * m) = -(d * m) by ring, Int.neg_tdiv, Int.tdiv_eq_ediv_of_nonneg hpos]
    ring

/-- What the body of the loop crops off at the start of a window span. -/
def cropStart (win crop : Span) (lt : Int) : Span × Span :=
  if win.xy < lt then
    let a := ((lt - win.xy) * crop.wh).tdiv win.wh
    (⟨lt, win.wh - (lt - win.xy)⟩, ⟨crop.xy + a, crop.wh - a⟩)
  else (win, crop)

/-- What it crops off at the end. -/
def cropStop (win crop : Span) (rb : Int) : Span × Span :=
  if rb < win.xy + win.wh then
    (⟨win.xy, rb - win.xy⟩, ⟨crop.xy, (crop.wh * (rb - win.xy)).tdiv win.wh⟩)
  else (win, crop)

lemma cropAxis_eq (win crop : Span) (lt rb : Int) : cropAxis win crop lt rb =
    if win.wh ≤ 0 ∨ rb ≤ lt ∨ win.xy + win.wh ≤ lt ∨ rb ≤ win.xy ∨ crop.wh = 0 then none
    else
      let start := cropStart win crop lt
      let stop := cropStop start.1 start.2 rb
      if stop.2.wh = 0 ∨ stop.1.wh = 0 then none else some stop := rfl

section Steps

variable {win : Span} {xy s m : Int} (hs : s = 1 ∨ s = -1) (hm : 0 < m) (hw : 0 < win.wh)
include hs hm hw

lemma cropStart_spec {lt : Int} (hlt : lt < win.xy + win.wh) :
    ∃ win' k, cropStart win ⟨xy, s * m⟩ lt = (win', ⟨xy + s * k, s * (m - k)⟩) ∧ 0 ≤ k ∧ k < m ∧
      win'.xy = max win.xy lt ∧ win'.xy + win'.wh = win.xy + win.wh ∧
      (m = win.wh → k = win'.xy - win.xy) := by
  unfold cropStart
  by_cases h : win.xy < lt
  · obtain ⟨hb, hb'⟩ := share_bounds (show 0 ≤ lt - win.xy by omega)
      (show lt - win.xy < win.wh by omega) hm
    refine ⟨⟨lt, win.wh - (lt - win.xy)⟩, (lt - win.xy) * m / win.wh, ?_, hb, hb',
      (max_eq_right h.le).symm, by simp only; omega, ?_⟩
    · simp only [if_pos h, signed_share hs (show 0 ≤ lt - win.xy by omega) hm, mul_sub]
    · rintro rfl
      exact Int.mul_ediv_cancel _ hw.ne'
  · refine ⟨win, 0, ?_, le_rfl, hm, (max_eq_left (not_lt.mp h)).symm, rfl,
      fun _ => (sub_self _).symm⟩
    rw [if_neg h, mul_zero, add_zero, sub_zero]

lemma cropStop_spec {rb : Int} (hrb : win.xy < rb) :
    ∃ win' m', cropStop win ⟨xy, s * m⟩ rb = (win', ⟨xy, s * m'⟩) ∧ 0 ≤ m' ∧ m' ≤ m ∧
      win'.xy = win.xy ∧ win'.xy + win'.wh = min (win.xy + win.wh) rb ∧
      (m = win.wh → m' = win'.wh) := by
  unfold cropStop
  by_cases h : rb < win.xy + win.wh
  · obtain ⟨hb, hb'⟩ := share_bounds (show 0 ≤ rb - win.xy by omega)
      (show rb - win.xy < win.wh by omega) hm
    refine ⟨⟨win.xy, rb - win.xy⟩, (rb - win.xy) * m / win.wh, ?_, hb, hb'.le, rfl,
      by simp only; omega, ?_⟩
    · rw [if_pos h, mul_comm (s * m), signed_share hs (by omega) hm]
    · rintro rfl
      exact Int.mul_ediv_cancel _ hw.ne'
  · exact ⟨win, m, if_neg h, hm.le, le_rfl, rfl, (min_eq_left (not_lt.mp h)).symm, id⟩

end Steps

/-- What is left of a window span and of the crop span, seen from the direction of the latter: `k`
of its length `m` are cropped off at its start, and `m'` are left. -/
structure AxisCrop (win win' : Span) (lt rb m k m' : Int) : Prop where
  window : Cropped win win' lt rb
  skipped : 0 ≤ k
  left : 0 < m'
  fits : k + m' ≤ m
  unscaled : m = win.wh → k = win'.xy - win.xy ∧ m' = win'.wh

/-- **What the loop of `crop_to_rect` does along one axis.** -/
lemma cropAxis_spec {win win' crop' : Span} {xy s m lt rb : Int} (hs : s = 1 ∨ s = -1)
    (hm : 0 < m) (h : cropAxis win ⟨xy, s * m⟩ lt rb = some (win', crop')) :
    ∃ k m', crop' = ⟨xy + s * k, s * m'⟩ ∧ AxisCrop win win' lt rb m k m' := by
  rw [cropAxis_eq] at h
  obtain ⟨hne, h⟩ := ite_none_left_eq_some.mp h
  simp only [not_or, not_le] at hne
  obtain ⟨hw, hvis, hlt, hrb, -⟩ := hne
  obtain ⟨win₁, k, hstart, hk0, hkm, hxy₁, hend₁, hk⟩ :=
    @cropStart_spec win xy s m hs hm hw lt hlt
  obtain ⟨win₂, m', hstop, hm0, hmk, hxy₂, hend₂, hm'⟩ :=
    @cropStop_spec win₁ (xy + s * k) s (m - k) hs (by omega) (by omega) rb (by omega)
  simp only [hstart, hstop] at h
  obtain ⟨hne', h⟩ := ite_none_left_eq_some.mp h
  obtain ⟨rfl, rfl⟩ := Prod.mk.inj (some.inj h)
  have hpos : m' ≠ 0 := by
    rintro rfl
    exact hne' (Or.inl (mul_zero s))
  refine ⟨k, m', rfl, ⟨⟨hxy₂.trans hxy₁, hend₂.trans (by rw [hend₁]), by omega⟩, hk0, by omega,
    by omega, fun hmw => ?_⟩⟩
  have hk' := hk hmw
  exact ⟨by omega, hm' (by omega)⟩

/-! ## Directions -/

/-- A span, seen from its other end or not. -/
def Span.orient (flipped : Bool) (c : Span) : Span := if flipped then c.flip else c

/-- Does the buffer axis run against the display axis it is shown along? -/
def flipsX (rotation : Nat) (mirror : Bool) : Bool :=
  let upside := decide (rotation / 2 % 2 = 1)
  if rotation % 2 = 1 then upside else mirror ^^ upside

@[inherit_doc flipsX]
def flipsY (rotation : Nat) (mirror : Bool) : Bool :=
  let upside := decide (rotation / 2 % 2 = 1)
  if rotation % 2 = 1 then !(mirror ^^ upside) else upside

lemma Span.flip_flip (c : Span) : c.flip.flip = c := by
  simp [Span.flip]

lemma alignCrop_eq {rotation : Nat} (hr : rotation < 4) (mirror : Bool) (c : Span × Span) :
    alignCrop rotation mirror c =
      (c.1.orient (flipsX rotation mirror), c.2.orient (flipsY rotation mirror)) := by
  interval_cases rotation <;> cases mirror <;>
    simp [alignCrop, flipAt, flipsX, flipsY, Span.orient, Span.flip_flip]

lemma realignCrop_eq {rotation : Nat} (hr : rotation < 4) (mirror : Bool) (c : Span × Span) :
    realignCrop rotation mirror c =
      (c.1.orient (flipsX rotation mirror), c.2.orient (flipsY rotation mirror)) := by
  interval_cases rotation <;> cases mirror <;>
    simp [realignCrop, flipAt, flipsX, flipsY, Span.orient, Span.flip_flip]

/-- One axis, with the crop span seen in the direction of the display and then turned back. -/
lemma cropAxis_orient {win win' crop crop' : Span} {flipped : Bool} {lt rb : Int}
    (hpos : 0 < crop.wh) (h : cropAxis win (crop.orient flipped) lt rb = some (win', crop')) :
    ∃ k m', crop'.orient flipped =
        ⟨crop.xy + if flipped then crop.wh - k - m' else k, m'⟩ ∧
      AxisCrop win win' lt rb crop.wh k m' := by
  cases flipped with
  | false =>
    have hspan : crop.orient false = ⟨crop.xy, 1 * crop.wh⟩ := by simp [Span.orient]
    rw [hspan] at h
    obtain ⟨k, m', rfl, hax⟩ := cropAxis_spec (Or.inl rfl) hpos h
    exact ⟨k, m', by simp [Span.orient], hax⟩
  | true =>
    have hspan : crop.orient true = ⟨crop.xy + crop.wh, -1 * crop.wh⟩ := by
      simp [Span.orient, Span.flip]
    rw [hspan] at h
    obtain ⟨k, m', rfl, hax⟩ := cropAxis_spec (Or.inr rfl) hpos h
    refine ⟨k, m', ?_, hax⟩
    simp only [Span.orient, Span.flip, if_true, Span.mk.injEq]
    constructor <;> ring

/-! ## Pixels -/

/-- Where a pixel of an image comes from that is the result of some quarter turns clockwise. -/
def unturn : Nat → Int → Int → Int × Int → Int × Int
  | 0, _, _, p => p
  | turns + 1, w, h, p =>
    unturn turns w h (p.2, (if turns % 2 = 1 then w else h) - 1 - p.1)

/-- The window and the crop rectangle have the same size, as the rotation has it. -/
def OvlCfg.Unscaled (cfg : OvlCfg) : Prop :=
  if cfg.rotation % 2 = 1 then cfg.win.w = cfg.crop.h ∧ cfg.win.h = cfg.crop.w
  else cfg.win.w = cfg.crop.w ∧ cfg.win.h = cfg.crop.h

/-- The buffer pixel that an unscaled overlay shows at a pixel of the display: the crop rectangle
is turned clockwise by the quarter turns of `rotation`, and then mirrored. -/
def OvlCfg.pixelAt (cfg : OvlCfg) (x y : Int) : Int × Int :=
  let i := x - cfg.win.x
  let i := if cfg.mirror then cfg.win.w - 1 - i else i
  let p := unturn cfg.rotation cfg.crop.w cfg.crop.h (i, y - cfg.win.y)
  (cfg.crop.x + p.1, cfg.crop.y + p.2)

/-- The distance from the start of a span, counted from its other end or not. -/
def along (flipped : Bool) (w i : Int) : Int := if flipped then w - 1 - i else i

lemma OvlCfg.Unscaled.pixelAt_eq {cfg : OvlCfg} (h : cfg.Unscaled) (hr : cfg.rotation < 4)
    (x y : Int) : cfg.pixelAt x y =
      if cfg.rotation % 2 = 1 then
        (cfg.crop.x + along (flipsX cfg.rotation cfg.mirror) cfg.crop.w (y - cfg.win.y),
          cfg.crop.y + along (flipsY cfg.rotation cfg.mirror) cfg.crop.h (x - cfg.win.x))
      else
        (cfg.crop.x + along (flipsX cfg.rotation cfg.mirror) cfg.crop.w (x - cfg.win.x),
          cfg.crop.y + along (flipsY cfg.rotation cfg.mirror) cfg.crop.h (y - cfg.win.y)) := by
  unfold OvlCfg.Unscaled at h
  unfold OvlCfg.pixelAt
  generalize hrot : cfg.rotation = rotation at h hr
  generalize hmir : cfg.mirror = mirror
  interval_cases rotation <;> cases mirror <;>
    simp [unturn, along, flipsX, flipsY] at h ⊢ <;> omega

/-! ## The rectangle -/

/-- `ENOENT`. -/
def enoent : Int := 2

/-- A call of `crop_to_rect`: what it returns, and the configuration after it. -/
def cropToRectCall (cfg : OvlCfg) (vis : Rect) : Int × OvlCfg :=
  match cropToRect cfg vis with
  | none => (-enoent, cfg)
  | some cfg' => (0, cfg')

/-- A configuration is cropped right: the window is the intersection with the visible rectangle;
the crop rectangle is not empty and a part of what it was; and an overlay that is not scaled shows
at each pixel what it has shown there. -/
structure CropRight (cfg cfg' : OvlCfg) (vis : Rect) : Prop where
  windowX : Cropped ⟨cfg.win.x, cfg.win.w⟩ ⟨cfg'.win.x, cfg'.win.w⟩ vis.left vis.right
  windowY : Cropped ⟨cfg.win.y, cfg.win.h⟩ ⟨cfg'.win.y, cfg'.win.h⟩ vis.top vis.bottom
  cropX : 0 < cfg'.crop.w ∧ cfg.crop.x ≤ cfg'.crop.x ∧
    cfg'.crop.x + cfg'.crop.w ≤ cfg.crop.x + cfg.crop.w
  cropY : 0 < cfg'.crop.h ∧ cfg.crop.y ≤ cfg'.crop.y ∧
    cfg'.crop.y + cfg'.crop.h ≤ cfg.crop.y + cfg.crop.h
  pixels : cfg.Unscaled → cfg'.Unscaled ∧ ∀ x y, cfg'.pixelAt x y = cfg.pixelAt x y

section Axis

variable {win win' : Span} {lt rb xy m k m' : Int}

lemma AxisCrop.inside (h : AxisCrop win win' lt rb m k m') (flipped : Bool) :
    0 < m' ∧ xy ≤ xy + (if flipped then m - k - m' else k) ∧
      xy + (if flipped then m - k - m' else k) + m' ≤ xy + m := by
  obtain ⟨-, hk, hm', hle, -⟩ := h
  refine ⟨hm', ?_⟩
  split_ifs <;> omega

lemma AxisCrop.along_eq (h : AxisCrop win win' lt rb m k m') (hm : win.wh = m) (flipped : Bool)
    (x : Int) :
    xy + (if flipped then m - k - m' else k) + along flipped m' (x - win'.xy) =
      xy + along flipped m (x - win.xy) := by
  obtain ⟨hk, -⟩ := h.unscaled hm.symm
  unfold along
  split_ifs <;> omega

end Axis

lemma cropToRect_right {cfg cfg' : OvlCfg} {vis : Rect} (hr : cfg.rotation < 4)
    (hw : 0 < cfg.crop.w) (hh : 0 < cfg.crop.h) (h : cropToRect cfg vis = some cfg') :
    CropRight cfg cfg' vis := by
  simp only [cropToRect, alignCrop_eq hr, realignCrop_eq hr, bind_eq_bind,
    bind_eq_some_iff, pure_def, some.injEq] at h
  obtain ⟨⟨winX, cropX⟩, hX, ⟨winY, cropY⟩, hY, rfl⟩ := h
  by_cases hswap : cfg.rotation % 2 = 1
  · simp only [hswap, decide_true, if_true] at hX hY ⊢
    obtain ⟨kx, mx, hcx, hax⟩ := cropAxis_orient hh hX
    obtain ⟨ky, my, hcy, hay⟩ := cropAxis_orient hw hY
    rw [hcx, hcy]
    refine ⟨hax.window, hay.window, hay.inside _, hax.inside _, fun hu => ?_⟩
    have hsize := hu
    simp only [OvlCfg.Unscaled, if_pos hswap] at hsize
    have hsize' : OvlCfg.Unscaled { cfg with
        win := ⟨winX.xy, winY.xy, winX.wh, winY.wh⟩
        crop := ⟨cfg.crop.x + (if flipsX cfg.rotation cfg.mirror then cfg.crop.w - ky - my else ky),
          cfg.crop.y + (if flipsY cfg.rotation cfg.mirror then cfg.crop.h - kx - mx else kx),
          my, mx⟩ } := by
      simp only [OvlCfg.Unscaled, if_pos hswap]
      exact ⟨(hax.unscaled hsize.1.symm).2.symm, (hay.unscaled hsize.2.symm).2.symm⟩
    refine ⟨hsize', fun x y => ?_⟩
    rw [hsize'.pixelAt_eq hr, hu.pixelAt_eq hr]
    simp only [if_pos hswap, Prod.mk.injEq]
    exact ⟨hay.along_eq hsize.2 _ y, hax.along_eq hsize.1 _ x⟩
  · simp only [hswap, decide_false, Bool.false_eq_true, if_false] at hX hY ⊢
    obtain ⟨kx, mx, hcx, hax⟩ := cropAxis_orient hw hX
    obtain ⟨ky, my, hcy, hay⟩ := cropAxis_orient hh hY
    rw [hcx, hcy]
    refine ⟨hax.window, hay.window, hax.inside _, hay.inside _, fun hu => ?_⟩
    have hsize := hu
    simp only [OvlCfg.Unscaled, if_neg hswap] at hsize
    have hsize' : OvlCfg.Unscaled { cfg with
        win := ⟨winX.xy, winY.xy, winX.wh, winY.wh⟩
        crop := ⟨cfg.crop.x + (if flipsX cfg.rotation cfg.mirror then cfg.crop.w - kx - mx else kx),
          cfg.crop.y + (if flipsY cfg.rotation cfg.mirror then cfg.crop.h - ky - my else ky),
          mx, my⟩ } := by
      simp only [OvlCfg.Unscaled, if_neg hswap]
      exact ⟨(hax.unscaled hsize.1.symm).2.symm, (hay.unscaled hsize.2.symm).2.symm⟩
    refine ⟨hsize', fun x y => ?_⟩
    rw [hsize'.pixelAt_eq hr, hu.pixelAt_eq hr]
    simp only [if_neg hswap, Prod.mk.injEq]
    exact ⟨hax.along_eq hsize.1 _ x, hay.along_eq hsize.2 _ y⟩

/-- **`crop_to_rect` crops an overlay right, or it leaves it as it is and returns an error.** -/
theorem crop_to_rect_correct {cfg : OvlCfg} {vis : Rect} (hr : cfg.rotation < 4)
    (hw : 0 < cfg.crop.w) (hh : 0 < cfg.crop.h) :
    ((cropToRectCall cfg vis).1 = 0 → CropRight cfg (cropToRectCall cfg vis).2 vis) ∧
      ((cropToRectCall cfg vis).1 ≠ 0 → (cropToRectCall cfg vis).2 = cfg) := by
  unfold cropToRectCall
  cases h : cropToRect cfg vis with
  | none => exact ⟨fun h0 => absurd h0 (by simp [enoent]), fun _ => rfl⟩
  | some cfg' => exact ⟨fun _ => cropToRect_right hr hw hh h, fun h0 => absurd rfl h0⟩

/-- A buffer of 20 by 10 pixels is shown turned by a quarter and mirrored, at the upper left corner
of the display, and cropped to a part of its window. -/
theorem turned_overlay_cropped : (cropToRectCall { OvlInfo.zero.cfg with
        rotation := 1, mirror := true, win := ⟨0, 0, 10, 20⟩, crop := ⟨0, 0, 20, 10⟩ }
        ⟨2, 5, 6, 50⟩).2.crop = ⟨5, 2, 15, 4⟩ ∧ CropRight { OvlInfo.zero.cfg with
        rotation := 1, mirror := true, win := ⟨0, 0, 10, 20⟩, crop := ⟨0, 0, 20, 10⟩ }
        (cropToRectCall { OvlInfo.zero.cfg with
          rotation := 1, mirror := true, win := ⟨0, 0, 10, 20⟩, crop := ⟨0, 0, 20, 10⟩ }
          ⟨2, 5, 6, 50⟩).2 ⟨2, 5, 6, 50⟩ :=
  ⟨by decide +kernel, (crop_to_rect_correct (by decide) (by decide) (by decide)).1
    (by decide +kernel)⟩

end Solana
