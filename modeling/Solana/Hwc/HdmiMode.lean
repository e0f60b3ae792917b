import Solana.Hwc.Device
import Solana.Lib.Ranking

/-!
# The choice of the HDMI mode

`set_best_hdmi_mode` gives each mode that the display can show, and that the scaler can reach, a
score of 22 bits and picks the first mode with the largest one.  The score packs seven criteria,
the most important one first (`modeKey`): a mode of the CEA, no downscaling beyond one percent, the
mode that is used for mirroring, the closeness of the scaling and the share of the mode that is
filled, both in sixteenths, a refresh rate that is high enough, and the closeness of that rate.

The size `get_max_dimensions` fits into a mode is computed in floating point; it is an argument
here.  The score is computed in words of 32 bits.  `best_mode_first_maximal` is for sizes for which
this does not overflow; `oversized_mode_misjudged` is a size just above.
-/

namespace Solana

open Ranking List

/-! ## The search -/

/-- What the search reads of `dsscomp_videomode`: the bits `FB_VMODE_INTERLACED` and the others of
`vmode`, and `FB_FLAG_RATIO_4_3` and `FB_FLAG_RATIO_16_9` of `flag`. -/
structure VideoMode where
  refresh : UInt32
  xres : UInt32
  yres : UInt32
  pixclock : UInt32
  interlaced : Bool
  otherVmode : Bool
  ratio43 : Bool
  ratio169 : Bool
  deriving DecidableEq

/-- The outcome of `DSSCIOC_QUERY_DISPLAY`. -/
structure HdmiQuery where
  ok : Bool
  dis : DisplayInfo
  widthInMm : UInt32
  heightInMm : UInt32
  xres : UInt32
  yres : UInt32
  modedb : List VideoMode

/-- The arguments of `set_best_hdmi_mode` and what it reads of the device; `fit` is
`get_max_dimensions` for the size that is to be shown. -/
structure HdmiSearch where
  xres : UInt32
  yres : UInt32
  fit : UInt32 → UInt32 → UInt32 → UInt32 → UInt32 × UInt32
  limits : PlatformInfo
  mirrorMode : UInt32
  avoidModeChange : Bool

/-- A truth value of C. -/
def ofBool (b : Bool) : UInt32 := if b then 1 else 0

/-- `(score << width) | x`. -/
def shiftIn (score width x : UInt32) : UInt32 := (score <<< width) ||| x

/-- `add_scaling_score`. -/
def addScalingScore (score xres yres refresh extXres extYres modeXres modeYres
    modeRefresh : UInt32) : UInt32 :=
  let area := xres * yres
  let extArea := extXres * extYres
  let modeArea := modeXres * modeYres
  -- prefer to upscale; inserted after the first bit
  let upscale := ofBool (decide (xres * 99 / 100 ≤ extXres) && decide (yres * 99 / 100 ≤ extYres))
  let score := shiftIn ((score &&& ~~~1) ||| upscale) 1 (score &&& 1)
  -- pick minimum scaling
  let score :=
    if area < extArea then shiftIn score 5 (16 * area / extArea)
    else shiftIn score 5 (16 * extArea / area)
  -- pick smallest leftover area
  let score := shiftIn score 5 ((16 * extArea + (modeArea >>> (1 : UInt32))) / modeArea)
  let modeRefresh := modeRefresh + ofBool (decide (modeRefresh % 6 = 5))
  -- prefer same or higher frame rate
  let score := shiftIn score 1 (ofBool (decide (refresh ≤ modeRefresh)))
  -- pick closest frame rate
  if refresh < modeRefresh then shiftIn score 8 (240 * refresh / modeRefresh)
  else shiftIn score 8 (240 * modeRefresh / refresh)

/-- The lines of a mode that are shown at once. -/
def VideoMode.lines (mode : VideoMode) : UInt32 :=
  if mode.interlaced then mode.yres / 2 else mode.yres

/-- The aspect ratio of a mode. -/
def VideoMode.ratio (mode : VideoMode) (q : HdmiQuery) : UInt32 × UInt32 :=
  if mode.ratio43 then (4, 3) else if mode.ratio169 then (16, 9) else (q.widthInMm, q.heightInMm)

/-- The size that is fitted into a mode. -/
def HdmiSearch.fitted (env : HdmiSearch) (q : HdmiQuery) (mode : VideoMode) : UInt32 × UInt32 :=
  env.fit mode.xres mode.lines (mode.ratio q).1 (mode.ratio q).2

/-- The modes that the loop does not skip. -/
def HdmiSearch.eligible (env : HdmiSearch) (q : HdmiQuery) (mode : VideoMode) : Bool :=
  decide (mode.xres ≠ 0) && decide (mode.lines ≠ 0) && decide (mode.pixclock ≠ 0) &&
    !mode.otherVmode &&
    canScale env.xres env.yres (env.fitted q mode).1 (env.fitted q mode).2 true q.dis env.limits
      (1000000000 / mode.pixclock) false

/-- Is this the mode that is used for mirroring, and wanted for that? -/
def HdmiSearch.sameMode (env : HdmiSearch) (i : Nat) : Bool :=
  decide (UInt32.ofNat i = ~~~env.mirrorMode) && env.avoidModeChange

/-- The score of a mode. -/
def HdmiSearch.score (env : HdmiSearch) (q : HdmiQuery) (i : Nat) (mode : VideoMode) : UInt32 :=
  let score := ofBool (mode.ratio43 || mode.ratio169)
  let score := shiftIn score 1 (ofBool (env.sameMode i))
  addScalingScore score env.xres env.yres 60 (env.fitted q mode).1 (env.fitted q mode).2 mode.xres
    mode.lines (if mode.refresh = 0 then 1 else mode.refresh)

/-- What the loop sets: the size of `ext`, and the best mode with its score. -/
structure BestMode where
  width : UInt32
  height : UInt32
  xres : UInt32
  yres : UInt32
  best : Option Nat
  bestScore : UInt32

/-- The loop. -/
def pickMode (env : HdmiSearch) (q : HdmiQuery) : Nat → BestMode → List VideoMode → BestMode
  | _, b, [] => b
  | i, b, mode :: modes =>
    if env.eligible q mode && decide (b.bestScore < env.score q i mode) then
      pickMode env q (i + 1)
        ⟨(mode.ratio q).1, (mode.ratio q).2, mode.xres, mode.lines, some i, env.score q i mode⟩
        modes
    else pickMode env q (i + 1) b modes

/-- What is set before the loop. -/
def HdmiQuery.start (q : HdmiQuery) : BestMode :=
  let vga := decide (q.xres = 0) || decide (q.yres = 0)
  ⟨q.widthInMm, q.heightInMm, if vga then 640 else q.xres, if vga then 480 else q.yres, none, 0⟩

/-- `set_best_hdmi_mode`, up to what it does with the mode. -/
def bestHdmiMode (env : HdmiSearch) (q : HdmiQuery) : HdmiMode :=
  if !q.ok then .failed
  else if q.xres * q.yres = 0 ∨ env.xres * env.yres = 0 then .failed
  else
    match (pickMode env q 0 q.start q.modedb).best with
    | some best => .picked (some best) q.dis.channelDigit
    | none =>
      let fb := env.fit q.xres q.yres q.widthInMm q.heightInMm
      if q.dis.pixelClock = 0 ∨ !canScale env.xres env.yres fb.1 fb.2 true q.dis env.limits
        q.dis.pixelClock false then .failed
      else .picked none q.dis.channelDigit

/-! ## The criteria -/

/-- A refresh rate such as 59.94 Hz, which is given as 59 Hz, counts as 60 Hz. -/
def roundedRefresh (refresh : Nat) : Nat := if refresh % 6 = 5 then refresh + 1 else refresh

/-- How close two areas are, in sixteenths. -/
def closeness (area extArea : Nat) : Nat :=
  if area < extArea then 16 * area / extArea else 16 * extArea / area

/-- How close a refresh rate is to 60 Hz. -/
def refreshCloseness (refresh : Nat) : Nat :=
  if 60 < refresh then 240 * 60 / refresh else 240 * refresh / 60

/-- The criteria by which modes are ranked, the most important one first. -/
def criteria (cea same : Bool) (xres yres extXres extYres modeXres modeYres refresh : Nat) :
    List Nat :=
  [cea.toNat,
    (decide (xres * 99 / 100 ≤ extXres) && decide (yres * 99 / 100 ≤ extYres)).toNat,
    same.toNat,
    closeness (xres * yres) (extXres * extYres),
    (16 * (extXres * extYres) + modeXres * modeYres / 2) / (modeXres * modeYres),
    (decide (60 ≤ roundedRefresh refresh)).toNat,
    refreshCloseness (roundedRefresh refresh)]

/-- The criteria of a mode. -/
def modeKey (env : HdmiSearch) (q : HdmiQuery) (i : Nat) (mode : VideoMode) : List Nat :=
  criteria (mode.ratio43 || mode.ratio169) (env.sameMode i) env.xres.toNat env.yres.toNat
    (env.fitted q mode).1.toNat (env.fitted q mode).2.toNat mode.xres.toNat mode.lines.toNat
    (if mode.refresh = 0 then 1 else mode.refresh.toNat)

/-- The widths of the criteria in the score. -/
def keyWidths : List Nat := [1, 1, 1, 5, 5, 1, 8]

/-- The keys of the modes that are not skipped. -/
def modeKeys (env : HdmiSearch) (q : HdmiQuery) : List (Option (List Nat)) :=
  q.modedb.zipIdx.map fun m => if env.eligible q m.1 then some (modeKey env q m.2 m.1) else none

/-- The sizes of a mode: what is fitted into it is not larger than it, and sixteen times each area
fits into 32 bits. -/
structure SizesFit (env : HdmiSearch) (q : HdmiQuery) (mode : VideoMode) : Prop where
  fitX : (env.fitted q mode).1.toNat ≤ mode.xres.toNat
  fitY : (env.fitted q mode).2.toNat ≤ mode.lines.toNat
  area : 16 * (env.xres.toNat * env.yres.toNat) < 0x100000000
  modeArea : 16 * (mode.xres.toNat * mode.lines.toNat) < 0x100000000

/-- The computation of the score does not overflow: sixteen times the fitted area and half of the
mode's fit into 32 bits, and so do 99 times the width and the height. -/
structure NoOverflow (env : HdmiSearch) (q : HdmiQuery) (mode : VideoMode) : Prop where
  share : 16 * ((env.fitted q mode).1.toNat * (env.fitted q mode).2.toNat) +
    mode.xres.toNat * mode.lines.toNat / 2 < 0x100000000
  percentX : 99 * env.xres.toNat < 0x100000000
  percentY : 99 * env.yres.toNat < 0x100000000

/-! ## The score is the packed key -/

lemma ofBool_toNat (b : Bool) : (ofBool b).toNat = b.toNat := by
  cases b <;> rfl

lemma shiftIn_toNat {score width x : UInt32} (hw : width.toNat < 32)
    (hs : score.toNat * 2 ^ width.toNat < 0x100000000) (hx : x.toNat < 2 ^ width.toNat) :
    (shiftIn score width x).toNat = score.toNat * 2 ^ width.toNat + x.toNat := by
  have hshift : score.toNat <<< width.toNat = score.toNat * 2 ^ width.toNat :=
    Nat.shiftLeft_eq _ _
  rw [shiftIn, UInt32.toNat_or, UInt32.toNat_shiftLeft, Nat.mod_eq_of_lt hw, hshift,
    Nat.mod_eq_of_lt hs, ← hshift, ← Nat.shiftLeft_add_eq_or_of_lt hx]

lemma shiftIn_fields {score a b c d : UInt32} (hs : score.toNat < 8) (ha : a.toNat < 32)
    (hb : b.toNat < 32) (hc : c.toNat < 2) (hd : d.toNat < 256) :
    (shiftIn (shiftIn (shiftIn (shiftIn score 5 a) 5 b) 1 c) 8 d).toNat =
      (((score.toNat * 32 + a.toNat) * 32 + b.toNat) * 2 + c.toNat) * 256 + d.toNat := by
  have h1 : (shiftIn score 5 a).toNat = score.toNat * 32 + a.toNat :=
    shiftIn_toNat (by decide) (show score.toNat * 32 < _ by omega) ha
  generalize shiftIn score 5 a = s at h1 ⊢
  have h2 : (shiftIn s 5 b).toNat = s.toNat * 32 + b.toNat :=
    shiftIn_toNat (by decide) (show s.toNat * 32 < _ by omega) hb
  generalize shiftIn s 5 b = t at h2 ⊢
  have h3 : (shiftIn t 1 c).toNat = t.toNat * 2 + c.toNat :=
    shiftIn_toNat (by decide) (show t.toNat * 2 < _ by omega) hc
  generalize shiftIn t 1 c = u at h3 ⊢
  rw [← h1, ← h2, ← h3]
  exact shiftIn_toNat (by decide) (show u.toNat * 256 < _ by omega) hd

lemma pack_key (a b c d e f g : Nat) : pack keyWidths [a, b, c, d, e, f, g] =
      (((((a * 2 + b) * 2 + c) * 32 + d) * 32 + e) * 2 + f) * 256 + g := by
  simp only [pack, keyWidths, sum_cons, sum_nil]
  omega

lemma first_bits (cea same upscale : Bool) :
    (shiftIn ((shiftIn (ofBool cea) 1 (ofBool same) &&& ~~~1) ||| ofBool upscale) 1
      (shiftIn (ofBool cea) 1 (ofBool same) &&& 1)).toNat =
      cea.toNat * 4 + upscale.toNat * 2 + same.toNat := by
  cases cea <;> cases same <;> cases upscale <;> rfl

lemma first_bits_lt (cea same upscale : Bool) :
    cea.toNat * 4 + upscale.toNat * 2 + same.toNat < 8 := by
  cases cea <;> cases same <;> cases upscale <;> decide

section Score

variable {cea same : Bool}

section Fields

variable {xres yres extXres extYres modeXres modeYres refresh : Nat}

lemma closeness_le (area extArea : Nat) : closeness area extArea ≤ 16 := by
  unfold closeness
  split_ifs with h
  · exact Nat.div_le_of_le_mul (by rw [Nat.mul_comm]; exact Nat.mul_le_mul_right 16 h.le)
  · exact Nat.div_le_of_le_mul (by rw [Nat.mul_comm]; exact Nat.mul_le_mul_right 16 (not_lt.mp h))

lemma share_le {extArea modeArea : Nat} (h : extArea ≤ modeArea) :
    (16 * extArea + modeArea / 2) / modeArea ≤ 16 := by
  rcases Nat.eq_zero_or_pos modeArea with rfl | hpos
  · simp
  · exact Nat.lt_succ_iff.mp (Nat.div_lt_of_lt_mul (by omega))

lemma refreshCloseness_le (refresh : Nat) : refreshCloseness refresh ≤ 240 := by
  unfold refreshCloseness
  split_ifs with h
  · exact Nat.div_le_of_le_mul (by omega)
  · omega

lemma bool_toNat_lt (b : Bool) : b.toNat < 2 ^ 1 := by
  cases b <;> decide

lemma criteria_fits (h : extXres * extYres ≤ modeXres * modeYres) :
    Fits keyWidths (criteria cea same xres yres extXres extYres modeXres modeYres refresh) := by
  unfold Fits keyWidths criteria
  refine .cons (bool_toNat_lt _) (.cons (bool_toNat_lt _) (.cons (bool_toNat_lt _) (.cons ?_
    (.cons ?_ (.cons (bool_toNat_lt _) (.cons ?_ .nil))))))
  · exact (closeness_le _ _).trans_lt (by decide)
  · exact (share_le h).trans_lt (by decide)
  · exact (refreshCloseness_le _).trans_lt (by decide)

end Fields

/-! The fields as they are computed in words of 32 bits. -/

section Words

variable {xres yres extXres extYres modeXres modeYres refresh : UInt32}

lemma mul_toNat {a b : UInt32} (h : a.toNat * b.toNat < 0x100000000) :
    (a * b).toNat = a.toNat * b.toNat := by
  rw [UInt32.toNat_mul]
  exact Nat.mod_eq_of_lt h

lemma percent_toNat {a : UInt32} (h : 99 * a.toNat < 0x100000000) :
    (a * 99 / 100).toNat = a.toNat * 99 / 100 := by
  rw [UInt32.toNat_div, mul_toNat (by rw [Nat.mul_comm]; exact h)]
  rfl

lemma sixteenths_toNat {a b : UInt32} (h : 16 * a.toNat < 0x100000000) :
    (16 * a / b).toNat = 16 * a.toNat / b.toNat := by
  rw [UInt32.toNat_div, mul_toNat (show (16 : UInt32).toNat * a.toNat < _ from h)]
  rfl

lemma closeness_toNat {area extArea : UInt32} (h : 16 * area.toNat < 0x100000000)
    (h' : 16 * extArea.toNat < 0x100000000) :
    (if area < extArea then 16 * area / extArea else 16 * extArea / area).toNat =
      closeness area.toNat extArea.toNat := by
  unfold closeness
  simp only [UInt32.lt_iff_toNat_lt]
  split_ifs
  · exact sixteenths_toNat h
  · exact sixteenths_toNat h'

lemma share_toNat {extArea modeArea : UInt32}
    (h : 16 * extArea.toNat + modeArea.toNat / 2 < 0x100000000) :
    ((16 * extArea + (modeArea >>> (1 : UInt32))) / modeArea).toNat =
      (16 * extArea.toNat + modeArea.toNat / 2) / modeArea.toNat := by
  have hmul : (16 * extArea).toNat = 16 * extArea.toNat :=
    mul_toNat (show 16 * extArea.toNat < _ by omega)
  have hshift : (modeArea >>> (1 : UInt32)).toNat = modeArea.toNat / 2 := by
    rw [UInt32.toNat_shiftRight]
    exact Nat.shiftRight_eq_div_pow _ _
  rw [UInt32.toNat_div, UInt32.toNat_add, hmul, hshift, Nat.mod_eq_of_lt h]

lemma roundedRefresh_toNat (refresh : UInt32) :
    (refresh + ofBool (decide (refresh % 6 = 5))).toNat = roundedRefresh refresh.toNat := by
  have hlt := refresh.toNat_lt
  have hmod : (refresh % 6 = 5) ↔ refresh.toNat % 6 = 5 := by
    rw [← UInt32.toNat_inj, UInt32.toNat_mod]
    rfl
  rw [UInt32.toNat_add, ofBool_toNat]
  unfold roundedRefresh
  by_cases h5 : refresh.toNat % 6 = 5
  · simp only [hmod, h5, decide_true, Bool.toNat_true, if_true]
    omega
  · simp only [hmod, h5, decide_false, Bool.toNat_false, if_false]
    omega

lemma refreshCloseness_toNat (refresh : UInt32) :
    (if 60 < refresh then 240 * 60 / refresh else 240 * refresh / 60).toNat =
      refreshCloseness refresh.toNat := by
  have hlt : 60 < refresh ↔ 60 < refresh.toNat := UInt32.lt_iff_toNat_lt
  unfold refreshCloseness
  by_cases h : 60 < refresh.toNat
  · rw [if_pos (hlt.mpr h), if_pos h, UInt32.toNat_div]
    rfl
  · rw [if_neg (mt hlt.mp h), if_neg h, UInt32.toNat_div,
      mul_toNat (show 240 * refresh.toNat < _ by omega)]
    rfl

lemma addScalingScore_eq (score xres yres refresh extXres extYres modeXres modeYres
    modeRefresh : UInt32) :
    addScalingScore score xres yres refresh extXres extYres modeXres modeYres modeRefresh = shiftIn
        (shiftIn (shiftIn (shiftIn
              (shiftIn ((score &&& ~~~1) ||| ofBool (decide (xres * 99 / 100 ≤ extXres) &&
                decide (yres * 99 / 100 ≤ extYres))) 1 (score &&& 1))
              5 (if xres * yres < extXres * extYres then
                  16 * (xres * yres) / (extXres * extYres)
                else 16 * (extXres * extYres) / (xres * yres)))
            5 ((16 * (extXres * extYres) + ((modeXres * modeYres) >>> (1 : UInt32))) /
                (modeXres * modeYres)))
          1 (ofBool (decide (refresh ≤ modeRefresh + ofBool (decide (modeRefresh % 6 = 5))))))
        8 (if refresh < modeRefresh + ofBool (decide (modeRefresh % 6 = 5)) then
            240 * refresh / (modeRefresh + ofBool (decide (modeRefresh % 6 = 5)))
          else 240 * (modeRefresh + ofBool (decide (modeRefresh % 6 = 5))) / refresh) := by
  unfold addScalingScore
  simp only [apply_ite (shiftIn _ _)]

/-- **The score packs the criteria**, as long as nothing overflows. -/
lemma addScalingScore_toNat (harea : 16 * (xres.toNat * yres.toNat) < 0x100000000)
    (hx : extXres.toNat ≤ modeXres.toNat) (hy : extYres.toNat ≤ modeYres.toNat)
    (hmode : 16 * (modeXres.toNat * modeYres.toNat) < 0x100000000)
    (hshare : 16 * (extXres.toNat * extYres.toNat) + modeXres.toNat * modeYres.toNat / 2 <
      0x100000000) (hpx : 99 * xres.toNat < 0x100000000) (hpy : 99 * yres.toNat < 0x100000000) :
    (addScalingScore (shiftIn (ofBool cea) 1 (ofBool same)) xres yres 60 extXres extYres modeXres
      modeYres refresh).toNat =
      pack keyWidths (criteria cea same xres.toNat yres.toNat extXres.toNat extYres.toNat
        modeXres.toNat modeYres.toNat refresh.toNat) := by
  have hle : extXres.toNat * extYres.toNat ≤ modeXres.toNat * modeYres.toNat :=
    Nat.mul_le_mul hx hy
  have hA : (xres * yres).toNat = xres.toNat * yres.toNat := mul_toNat (by omega)
  have hE : (extXres * extYres).toNat = extXres.toNat * extYres.toNat := mul_toNat (by omega)
  have hM : (modeXres * modeYres).toNat = modeXres.toNat * modeYres.toNat := mul_toNat (by omega)
  have hup : (decide (xres * 99 / 100 ≤ extXres) && decide (yres * 99 / 100 ≤ extYres)) =
      (decide (xres.toNat * 99 / 100 ≤ extXres.toNat) &&
        decide (yres.toNat * 99 / 100 ≤ extYres.toNat)) := by
    simp only [UInt32.le_iff_toNat_le, percent_toNat hpx, percent_toNat hpy]
  have hclose : (if xres * yres < extXres * extYres then 16 * (xres * yres) / (extXres * extYres)
      else 16 * (extXres * extYres) / (xres * yres)).toNat =
      closeness (xres.toNat * yres.toNat) (extXres.toNat * extYres.toNat) := by
    rw [closeness_toNat (by rw [hA]; exact harea) (by rw [hE]; omega), hA, hE]
  have hfill : ((16 * (extXres * extYres) + ((modeXres * modeYres) >>> (1 : UInt32))) /
      (modeXres * modeYres)).toNat = (16 * (extXres.toNat * extYres.toNat) +
        modeXres.toNat * modeYres.toNat / 2) / (modeXres.toNat * modeYres.toNat) := by
    rw [share_toNat (by rw [hE, hM]; exact hshare), hE, hM]
  have hge : ∀ r : UInt32, (ofBool (decide (60 ≤ r))).toNat = (decide (60 ≤ r.toNat)).toNat := by
    intro r
    rw [ofBool_toNat, decide_eq_decide.mpr UInt32.le_iff_toNat_le]
    rfl
  have hbit : ∀ b : Bool, b.toNat < 2 := bool_toNat_lt
  rw [addScalingScore_eq, hup, shiftIn_fields, first_bits, hclose, hfill, hge,
    refreshCloseness_toNat, roundedRefresh_toNat]
  · rw [criteria, pack_key]
    omega
  · rw [first_bits]
    exact first_bits_lt cea same _
  · rw [hclose]
    exact (closeness_le _ _).trans_lt (by decide)
  · rw [hfill]
    exact (share_le hle).trans_lt (by decide)
  · rw [hge]
    exact hbit _
  · rw [refreshCloseness_toNat]
    exact (refreshCloseness_le _).trans_lt (by decide)

end Words

end Score

/-! ## The mode that is picked -/

variable {env : HdmiSearch} {q : HdmiQuery} {mode : VideoMode}

lemma score_toNat (hfit : SizesFit env q mode) (hno : NoOverflow env q mode) (i : Nat) :
    (env.score q i mode).toNat = pack keyWidths (modeKey env q i mode) := by
  have hrefresh : (if mode.refresh = 0 then 1 else mode.refresh : UInt32).toNat =
      if mode.refresh = 0 then 1 else mode.refresh.toNat :=
    apply_ite UInt32.toNat _ _ _
  unfold HdmiSearch.score modeKey
  rw [addScalingScore_toNat hfit.area hfit.fitX hfit.fitY hfit.modeArea hno.share hno.percentX
    hno.percentY, hrefresh]

lemma modeKey_fits (hfit : SizesFit env q mode) (i : Nat) : Fits keyWidths (modeKey env q i mode) :=
  criteria_fits (Nat.mul_le_mul hfit.fitX hfit.fitY)

lemma refreshCloseness_pos {refresh : Nat} (h : 0 < refresh) :
    0 < (decide (60 ≤ refresh)).toNat * 256 + refreshCloseness refresh := by
  unfold refreshCloseness
  by_cases hlt : 60 < refresh
  · simp [hlt.le]
  · rw [if_neg hlt]
    omega

lemma pack_modeKey_pos (env : HdmiSearch) (q : HdmiQuery) (i : Nat) (mode : VideoMode) :
    0 < pack keyWidths (modeKey env q i mode) := by
  have hgiven : 0 < if mode.refresh = 0 then 1 else mode.refresh.toNat := by
    split_ifs with h0
    · exact Nat.one_pos
    · exact Nat.pos_of_ne_zero fun h => h0 (UInt32.toNat_inj.mp h)
  have hle : ∀ refresh, refresh ≤ roundedRefresh refresh := by
    intro refresh
    unfold roundedRefresh
    split_ifs <;> omega
  have hlast : ∀ a b c d e f g, f * 256 + g ≤ pack keyWidths [a, b, c, d, e, f, g] := by
    intro a b c d e f g
    rw [pack_key]
    omega
  exact (refreshCloseness_pos (hgiven.trans_le (hle _))).trans_le (hlast _ _ _ _ _ _ _)

/-- The scores of the modes that are not skipped. -/
def modeScores (env : HdmiSearch) (q : HdmiQuery) (i : Nat) (modes : List VideoMode) :
    List (Option Nat) :=
  (modes.zipIdx i).map fun m =>
    if env.eligible q m.1 then some (env.score q m.2 m.1).toNat else none

lemma pickMode_eq (env : HdmiSearch) (q : HdmiQuery) : ∀ (modes : List VideoMode) (i : Nat)
    (b : BestMode), ((pickMode env q i b modes).best, (pickMode env q i b modes).bestScore.toNat) =
      runningBest i (b.best, b.bestScore.toNat) (modeScores env q i modes)
  | [], i, b => rfl
  | mode :: modes, i, b => by
    have hstep : ∀ b', better i (b.best, b.bestScore.toNat)
        (if env.eligible q mode then some (env.score q i mode).toNat else none) =
          (b'.best, b'.bestScore.toNat) →
        pickMode env q i b (mode :: modes) = pickMode env q (i + 1) b' modes →
        ((pickMode env q i b (mode :: modes)).best,
          (pickMode env q i b (mode :: modes)).bestScore.toNat) =
          runningBest i (b.best, b.bestScore.toNat) (modeScores env q i (mode :: modes)) := by
      intro b' hbetter hpick
      rw [hpick, pickMode_eq env q modes (i + 1) b']
      simp only [modeScores, zipIdx_cons, map_cons, runningBest, hbetter]
    by_cases hel : env.eligible q mode = true
    · by_cases hlt : b.bestScore < env.score q i mode
      · refine hstep ⟨(mode.ratio q).1, (mode.ratio q).2, mode.xres, mode.lines, some i,
          env.score q i mode⟩ ?_ ?_
        · rw [if_pos hel, better, if_pos (UInt32.lt_iff_toNat_lt.mp hlt)]
        · simp [pickMode, hel, hlt]
      · refine hstep b ?_ ?_
        · rw [if_pos hel, better, if_neg (mt UInt32.lt_iff_toNat_lt.mpr hlt)]
        · simp [pickMode, hlt]
    · refine hstep b ?_ ?_
      · rw [if_neg hel, better]
      · simp [pickMode, hel]

lemma modeScores_eq (hfit : ∀ mode ∈ q.modedb, env.eligible q mode = true → SizesFit env q mode)
    (hno : ∀ mode ∈ q.modedb, env.eligible q mode = true → NoOverflow env q mode) :
    modeScores env q 0 q.modedb = (modeKeys env q).map (Option.map (pack keyWidths)) := by
  unfold modeScores modeKeys
  rw [map_map]
  refine map_congr_left fun m hm => ?_
  have hmem : m.1 ∈ q.modedb := fst_mem_of_mem_zipIdx hm
  by_cases hel : env.eligible q m.1 = true
  · simp only [Function.comp_apply, if_pos hel, Option.map_some]
    rw [score_toNat (hfit m.1 hmem hel) (hno m.1 hmem hel)]
  · simp only [Function.comp_apply, if_neg hel, Option.map_none]

/-- **The mode that is picked is the first maximal one** in the lexicographic order of the criteria,
and no criterion carries into another, as long as the computation of the score does not
overflow. -/
theorem best_mode_first_maximal (hok : q.ok = true) (hdis : q.xres * q.yres ≠ 0)
    (hsize : env.xres * env.yres ≠ 0)
    (hfit : ∀ mode ∈ q.modedb, env.eligible q mode = true → SizesFit env q mode)
    (hno : ∀ mode ∈ q.modedb, env.eligible q mode = true → NoOverflow env q mode) :
    (∀ i, bestHdmiMode env q = .picked (some i) q.dis.channelDigit ↔
      IsFirstMax (modeKeys env q) i) ∧ ∀ i, ∀ mode ∈ q.modedb, env.eligible q mode = true →
      unpack keyWidths (env.score q i mode).toNat = modeKey env q i mode := by
  constructor
  · intro i
    have hbest : bestHdmiMode env q = .picked (some i) q.dis.channelDigit ↔
        (pickMode env q 0 q.start q.modedb).best = some i := by
      unfold bestHdmiMode
      simp only [hok, hdis, hsize, Bool.not_true, Bool.false_eq_true, if_false, or_self]
      cases (pickMode env q 0 q.start q.modedb).best with
      | none =>
        simp only [reduceCtorEq, iff_false]
        split_ifs <;> simp
      | some best => simp
    have hkeys : ∀ k, some k ∈ modeKeys env q → Fits keyWidths k ∧ 0 < pack keyWidths k := by
      intro k hk
      obtain ⟨m, hm, hmk⟩ := mem_map.mp hk
      obtain ⟨hel, hmk⟩ := Option.ite_none_right_eq_some.mp hmk
      obtain rfl := Option.some.inj hmk
      exact ⟨modeKey_fits (hfit m.1 (fst_mem_of_mem_zipIdx hm) hel) _, pack_modeKey_pos env q _ _⟩
    rw [hbest, show (pickMode env q 0 q.start q.modedb).best =
      (runningBest 0 (none, 0) (modeScores env q 0 q.modedb)).1 from
        congrArg Prod.fst (pickMode_eq env q q.modedb 0 q.start),
      modeScores_eq hfit hno, runningBest_eq_some_iff, isFirstMax_map]
    · exact fun k k' hk hk' => pack_lt_pack_iff (hkeys k hk).1 (hkeys k' hk').1
    · intro k hk
      obtain ⟨o, ho, hok⟩ := mem_map.mp hk
      obtain ⟨key, rfl, rfl⟩ := Option.map_eq_some_iff.mp hok
      exact (hkeys key ho).2
  · intro i mode hmode hel
    rw [score_toNat (hfit mode hmode hel) (hno mode hmode hel)]
    exact unpack_pack (modeKey_fits (hfit mode hmode hel) i)

/-- A search for a size, with the sizes that are fitted into the modes. -/
def sampleSearch (xres yres : UInt32) (fit : UInt32 → UInt32 → UInt32 × UInt32) :
    HdmiSearch where
  xres := xres
  yres := yres
  fit := fun modeXres modeYres _ _ => fit modeXres modeYres
  limits := ⟨16, 16, 16, 16, 170666667, 2, 4, 2048, 0, true⟩
  mirrorMode := 0
  avoidModeChange := true

/-- A display with some modes at 60 Hz, which does not give its size. -/
def sampleQuery (cea : Bool) (sizes : List (UInt32 × UInt32)) : HdmiQuery where
  ok := true
  dis := ⟨true, 148500⟩
  widthInMm := 0
  heightInMm := 0
  xres := 1280
  yres := 720
  modedb := sizes.map fun size => ⟨60, size.1, size.2, 6734, false, false, false, cea⟩

/-- A picture of 1280 by 720 pixels is shown in the mode that fits, although a larger one comes
first. -/
theorem fitting_mode_picked : bestHdmiMode (sampleSearch 1280 720 fun x y => (x, y))
        (sampleQuery true [(1920, 1080), (1280, 720)]) = .picked (some 1) true ∧
      IsFirstMax (modeKeys (sampleSearch 1280 720 fun x y => (x, y))
        (sampleQuery true [(1920, 1080), (1280, 720)])) 1 := by
  have hpicked : bestHdmiMode (sampleSearch 1280 720 fun x y => (x, y))
      (sampleQuery true [(1920, 1080), (1280, 720)]) = .picked (some 1) true := by decide +kernel
  refine ⟨hpicked, ((best_mode_first_maximal rfl (by decide) (by decide) ?_ ?_).1 1).mp hpicked⟩
  · intro mode hmode _
    simp only [sampleQuery, map_cons, map_nil, mem_cons, not_mem_nil, or_false] at hmode
    rcases hmode with rfl | rfl <;> exact ⟨by decide, by decide, by decide, by decide⟩
  · intro mode hmode _
    simp only [sampleQuery, map_cons, map_nil, mem_cons, not_mem_nil, or_false] at hmode
    rcases hmode with rfl | rfl <;> exact ⟨by decide, by decide, by decide⟩

/-- What `get_max_dimensions` fits a square picture to, if the pixels are square and the mode is not
just nearly so. -/
def squareFit (modeXres modeYres : UInt32) : UInt32 × UInt32 :=
  (min modeXres modeYres, min modeXres modeYres)

/-- Two modes for a picture of 8000 by 8000 pixels.  Sixteen times each area fits into 32 bits.
The first mode is filled completely, and the second one to 15 sixteenths, rounded; the other
criteria agree.  Adding half of the area to sixteen times it overflows for the first mode, so the
second one is picked. -/
theorem oversized_mode_misjudged :
    (∀ mode ∈ (sampleQuery false [(16300, 16300), (16750, 16010)]).modedb,
      SizesFit (sampleSearch 8000 8000 squareFit)
        (sampleQuery false [(16300, 16300), (16750, 16010)]) mode) ∧
    bestHdmiMode (sampleSearch 8000 8000 squareFit)
      (sampleQuery false [(16300, 16300), (16750, 16010)]) = .picked (some 1) true ∧
    modeKeys (sampleSearch 8000 8000 squareFit)
      (sampleQuery false [(16300, 16300), (16750, 16010)]) =
      [some [0, 1, 0, 3, 16, 1, 240], some [0, 1, 0, 3, 15, 1, 240]] ∧
    ¬IsFirstMax (modeKeys (sampleSearch 8000 8000 squareFit)
      (sampleQuery false [(16300, 16300), (16750, 16010)])) 1 := by
  have hkeys : modeKeys (sampleSearch 8000 8000 squareFit)
      (sampleQuery false [(16300, 16300), (16750, 16010)]) =
      [some [0, 1, 0, 3, 16, 1, 240], some [0, 1, 0, 3, 15, 1, 240]] := by decide +kernel
  refine ⟨fun mode hmode => ?_, by decide +kernel, hkeys, ?_⟩
  · simp only [sampleQuery, map_cons, map_nil, mem_cons, not_mem_nil, or_false] at hmode
    rcases hmode with rfl | rfl <;> exact ⟨by decide, by decide, by decide, by decide⟩
  · rw [hkeys]
    rintro ⟨k, hk, hmax, -⟩
    obtain rfl : [0, 1, 0, 3, 15, 1, 240] = k := by simpa using hk
    exact absurd (hmax 0 [0, 1, 0, 3, 16, 1, 240] rfl) (by decide)

end Solana
