import Solana.Display.Layer

/-!
# The state of the regionizer

The records of `hwc/rgz_2d.h`, the validation of a layer and the two rings of frame states.

A `rgz_fb_state_t` is the list of its first `rgz_layerno` layers; the entries beyond are
never read before they are written again.  The first entry is always the background layer.
`hregions` is the list of horizontal regions (empty for the null pointer), each with its own
copy of the layers its pointers reach.  They reach these as long as no other list is given to
`rgz_in`: one that is rejected overwrites `cur_fb_state` under the older regions, which the composer
does not read then.
-/

namespace Solana

/-! ## Constants -/

/-- `RGZ_MAXLAYERS`. -/
def rgzMaxLayers : Nat := 13

/-- `RGZ_INPUT_MAXLAYERS`. -/
def rgzInputMaxLayers : Nat := rgzMaxLayers - 2

/-- `RGZ_NUM_FB`: number of framebuffers to track. -/
def rgzNumFb : Nat := 2

/-- `RGZ_SUBREGIONMAX`. -/
def rgzSubregionMax : Nat := (rgzMaxLayers <<< 1) - 1

/-- `RGZ_MAX_BLITS`. -/
def rgzMaxBlits : Nat := rgzSubregionMax * rgzSubregionMax

/-- `RGZ_BACKGROUND_BUFFIDX`. -/
def rgzBackgroundBuffidx : Int := -2

/-- `RGZ_CLEARHINT_BUFFIDX`. -/
def rgzClearhintBuffidx : Int := -1

/-- `RGZ_ALL`: all layers can be blitted. -/
def rgzAll : Int := 1

/-! ## Formats and geometry -/

/-- The `enum ocdformat` values `hal_to_ocd` produces. -/
inductive OcdFormat
  | bgra24
  | bgr124
  | rgb16
  | rgba24
  | rgb124
  | nv12
  | yv12
  | unknown
  deriving DecidableEq, Repr

/-- `hal_to_ocd`. -/
def halToOcd : PixelFormat → OcdFormat
  | .bgra8888 => .bgra24
  | .bgrx8888 => .bgr124
  | .rgb565 => .rgb16
  | .rgba8888 => .rgba24
  | .rgbx8888 => .rgb124
  | .tiNv12 => .nv12
  | .yv12 => .yv12
  | _ => .unknown

/-- `struct bvsurfgeom`. -/
structure SurfGeom where
  format : OcdFormat
  width : Nat
  height : Nat
  orientation : Int
  virtstride : Int
  deriving DecidableEq, Repr

/-- The surface as a rectangle: the screen, for the geometry of the display. -/
def SurfGeom.rect (g : SurfGeom) : Rect := ⟨0, 0, g.width, g.height⟩

lemma SurfGeom.rect_contains_iff {g : SurfGeom} {p : Pixel} :
    g.rect.Contains p ↔ 0 ≤ p.x ∧ p.x < g.width ∧ 0 ≤ p.y ∧ p.y < g.height := Iff.rfl

/-- `is_NV12` of the regionizer. -/
def PixelFormat.isNv12 : PixelFormat → Bool
  | .tiNv12 | .tiNv12Padded => true
  | _ => false

/-- `is_OPAQUE`. -/
def PixelFormat.isOpaque : PixelFormat → Bool
  | .rgb565 | .rgbx8888 | .bgrx8888 => true
  | _ => false

/-! ## Layers, regions and the regionizer -/

/-- `rgz_layer_t`. -/
structure RgzLayer where
  hwcLayer : HwcLayer
  identity : Nat
  buffidx : Int
  dirtyCount : Nat
  deriving DecidableEq, Repr

/-- The displayed rectangle of a regionizer layer. -/
def RgzLayer.frame (l : RgzLayer) : Rect := l.hwcLayer.displayFrame

/-- `blit_hregion_t`; `nlayers` is the length of `rgzLayers`, and `blitrects` is indexed by
z-order first, then by subregion. -/
structure Hregion where
  rect : Rect
  rgzLayers : List RgzLayer
  nsubregions : Nat
  blitrects : List (List Rect)
  deriving DecidableEq, Repr

/-- `blitrects[l][s]`; an entry that was not written is the zero rectangle. -/
def Hregion.blitrect (h : Hregion) (l s : Nat) : Rect :=
  (h.blitrects.getD l []).getD s Rect.zero

/-- `*rgz_layers[l]`, read within `nlayers` only. -/
def Hregion.layer (h : Hregion) (l : Nat) : RgzLayer :=
  h.rgzLayers.getD l ⟨⟨.framebuffer, {}, false, .null, {}, .other 0, .zero, .zero⟩, 0, 0, 0⟩

/-- The indices from `k` up of the layers with a non-empty entry in subregion `s`, bottom to
top. -/
def Hregion.stackFrom (h : Hregion) (s k : Nat) : List Nat :=
  (List.range' k (h.rgzLayers.length - k)).filter fun l => !emptyRect (h.blitrect l s)

/-- The layers with a non-empty entry in subregion `s`, bottom to top. -/
def Hregion.layersAt (h : Hregion) (s : Nat) : List RgzLayer := (h.stackFrom s 0).map h.layer

/-- The rings of framebuffers have two places, of which the first is written `0`. -/
instance ringPlaces : NeZero 2 := ⟨by decide⟩

/-- `struct rgz`.  `stateInit` and `regionData` are the two bits of `state`. -/
structure Rgz where
  hregions : List Hregion
  stateInit : Bool
  regionData : Bool
  curFbState : List RgzLayer
  /-- Target framebuffer index: the slot whose geometry was stored last. -/
  fbStateIdx : Fin 2
  fbStates : Fin 2 → List RgzLayer
  damagedArea : Rect

/-- A `bzero`ed regionizer. -/
def Rgz.zero : Rgz :=
  ⟨[], false, false, [], 0, fun _ => [], Rect.zero⟩

/-- `get_prev_fb_state`. -/
def Rgz.prevFbState (r : Rgz) : List RgzLayer := r.fbStates r.fbStateIdx

/-- The slot `get_next_fb_state` moves to: the frame this one will be drawn over. -/
def Rgz.targetFbState (r : Rgz) : List RgzLayer := r.fbStates (r.fbStateIdx + 1)

/-- `rgz_release`. -/
def rgzRelease (_ : Rgz) : Rgz := Rgz.zero

/-- `rgz_delete_region_data`. -/
def rgzDeleteRegionData (r : Rgz) : Rgz := { r with hregions := [], regionData := false }

/-- The arguments of `rgz_in` (`rgz_in_params_t`), with what the call reads besides them: the
static `bg_layer` and whether `calloc` succeeds.  `layers = none` is a null array. -/
structure RgzInParams where
  layers : Option (List ExtLayer)
  dstgeom : SurfGeom
  bgLayer : HwcLayer
  callocOk : Bool := true

/-! ## Screen geometry -/

/-- The background layer `rgz_get_screengeometry` prepares: all zero but for its frame. -/
def screenBgLayer (xres yres : Nat) : HwcLayer where
  compositionType := .framebuffer
  hints := {}
  skipLayer := false
  handle := .null
  transform := {}
  blending := .other 0
  sourceCrop := Rect.zero
  displayFrame := ⟨0, 0, xres, yres⟩

/-! ## Validating a layer -/

/-- `rgz_in_valid_hwc_layer`: can the blitter render this layer?  A list carries null or
gralloc handles only; the regionizer's own dummy never comes in from outside. -/
def rgzInValidHwcLayer (l : HwcLayer) : Bool :=
  match l.handle with
  | .native h =>
    if l.skipLayer then false
    else if h.iFormat.isNv12 then h.iFormat == .tiNv12
    else if !l.transform.identity && (l.transform.flipH ^^ l.transform.flipV) then false
    else
      match h.iFormat with
      | .bgrx8888 | .rgbx8888 | .rgb565 | .rgba8888 | .bgra8888 => true
      | _ => false
  | _ => false

lemma handle_of_rgzInValidHwcLayer {l : HwcLayer} (h : rgzInValidHwcLayer l = true) :
    ∃ n, l.handle = .native n := by
  unfold rgzInValidHwcLayer at h
  cases hh : l.handle with
  | native n => exact ⟨n, rfl⟩
  | null => simp [hh] at h
  | dummy => simp [hh] at h

end Solana
