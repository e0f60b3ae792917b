import Mathlib.Tactic.Linarith

/-!
# Rectangles, buffer handles and composition layers

The data the composer shares with its callers: `hwc_rect_t` / `blit_rect_t`
(`include/hardware/hwcomposer.h`, `hwc/rgz_2d.h`), the gralloc handle `IMG_native_handle_t`
(`hwc/hal_public.h`) and `hwc_layer_1_t`.  Only the fields that some modelled function reads
are kept: fences, the visible region, file descriptors and stamps are left out.

Screen coordinates are unbounded integers.  A pixel belongs to a rectangle in the half-open
sense (`left ≤ x < right`), which is the reading under which `RECT_INTERSECTS` is the
intersection test of the source.  The bit words `hints`, `flags` and `transform` are records
of their named bits.
-/

namespace Solana

/-! ## Rectangles -/

/-- `hwc_rect_t` and `blit_rect_t`: half-open in both directions. -/
structure Rect where
  left : Int
  top : Int
  right : Int
  bottom : Int
  deriving DecidableEq, Repr

/-- The all-zero rectangle `bzero` leaves behind. -/
def Rect.zero : Rect := ⟨0, 0, 0, 0⟩

/-- A screen pixel. -/
structure Pixel where
  x : Int
  y : Int
  deriving DecidableEq, Repr

/-- The pixel lies in the rectangle. -/
def Rect.Contains (r : Rect) (p : Pixel) : Prop :=
  r.left ≤ p.x ∧ p.x < r.right ∧ r.top ≤ p.y ∧ p.y < r.bottom

instance (r : Rect) (p : Pixel) : Decidable (r.Contains p) := by
  unfold Rect.Contains; infer_instance

/-- `WIDTH(rect)`. -/
def Rect.width (r : Rect) : Int := r.right - r.left

/-- `HEIGHT(rect)`. -/
def Rect.height (r : Rect) : Int := r.bottom - r.top

/-- `empty_rect`: all four coordinates are zero. -/
def emptyRect (r : Rect) : Bool :=
  r.left == 0 && r.top == 0 && r.right == 0 && r.bottom == 0

/-- `RECT_INTERSECTS(a, b)`. -/
def rectIntersects (a b : Rect) : Bool :=
  decide (a.bottom > b.top) && decide (a.top < b.bottom) &&
    decide (a.right > b.left) && decide (a.left < b.right)

lemma emptyRect_iff {r : Rect} : emptyRect r = true ↔ r = Rect.zero := by
  cases r
  simp [emptyRect, Rect.zero, and_assoc]

@[simp] lemma emptyRect_zero : emptyRect Rect.zero = true := rfl

lemma rectIntersects_iff {a b : Rect} : rectIntersects a b = true ↔
      b.top < a.bottom ∧ a.top < b.bottom ∧ b.left < a.right ∧ a.left < b.right := by
  simp [rectIntersects, and_assoc]

/-- Two rectangles that share a pixel intersect in the sense of the macro. -/
lemma rectIntersects_of_contains {a b : Rect} {p : Pixel} (ha : a.Contains p)
    (hb : b.Contains p) : rectIntersects a b = true := by
  obtain ⟨ha1, ha2, ha3, ha4⟩ := ha
  obtain ⟨hb1, hb2, hb3, hb4⟩ := hb
  rw [rectIntersects_iff]
  exact ⟨by omega, by omega, by omega, by omega⟩

lemma emptyRect_eq_false_of_contains {r : Rect} {p : Pixel} (h : r.Contains p) :
    emptyRect r = false := by
  rw [← Bool.not_eq_true, emptyRect_iff]
  rintro rfl
  obtain ⟨h1, h2, -, -⟩ := h
  simp only [Rect.zero] at h1 h2
  omega

/-! ## Gralloc handles -/

/-- The pixel formats the composer names (`HAL_PIXEL_FORMAT_*`).  The regionizer's
`TI_NV12_PADDED` is `0x101`, the overlay code's `TI_NV12_1D` is `0x102`. -/
inductive PixelFormat
  | rgba8888
  | rgbx8888
  | rgb565
  | bgra8888
  | bgrx8888
  | tiNv12
  | tiNv12Padded
  | tiNv121d
  | yv12
  | other (code : Nat)
  deriving DecidableEq, Repr

/-- `IMG_native_handle_t`, with the address it is known by.  `protected_` and `externalDisp`
are the bits `GRALLOC_USAGE_PROTECTED` and `GRALLOC_USAGE_EXTERNAL_DISP` of `usage`. -/
structure NativeHandle where
  addr : Nat
  iWidth : Int
  iHeight : Int
  iFormat : PixelFormat
  protected_ : Bool := false
  externalDisp : Bool := false
  deriving DecidableEq, Repr

/-- A `buffer_handle_t`: null, the regionizer's dummy `(void*) 0x1`, or a gralloc handle. -/
inductive BufferHandle
  | null
  | dummy
  | native (h : NativeHandle)
  deriving DecidableEq, Repr

/-- Pointer equality of two handles; a gralloc handle is identified by its address. -/
def BufferHandle.samePtr : BufferHandle → BufferHandle → Bool
  | .null, .null => true
  | .dummy, .dummy => true
  | .native a, .native b => a.addr == b.addr
  | _, _ => false

/-- The handle a read through the pointer reaches; there is none behind the dummy. -/
def BufferHandle.deref : BufferHandle → Option NativeHandle
  | .native h => some h
  | _ => none

open BufferHandle

lemma deref_eq_some {b : BufferHandle} {n : NativeHandle} (h : b.deref = some n) :
    b = .native n := by
  cases b <;> simp_all [deref]

lemma BufferHandle.samePtr_comm (a b : BufferHandle) : a.samePtr b = b.samePtr a := by
  cases a <;> cases b <;> simp [samePtr, Bool.beq_comm]

lemma BufferHandle.samePtr_trans {a b c : BufferHandle} (hab : a.samePtr b = true)
    (hbc : b.samePtr c = true) : a.samePtr c = true := by
  cases a <;> cases b <;> cases c <;> simp_all [samePtr]

lemma BufferHandle.samePtr_dummy_iff {h : BufferHandle} : h.samePtr .dummy = true ↔ h = .dummy := by
  cases h <;> simp [samePtr]

/-! ## Layers -/

/-- `hwc_layer_1_t::compositionType`. -/
inductive CompositionType
  | framebuffer
  | overlay
  | background
  | framebufferTarget
  | blit
  deriving DecidableEq, Repr

/-- `hwc_layer_1_t::blending`.  A zeroed layer carries the value `other 0`. -/
inductive Blending
  | none
  | premult
  | coverage
  | other (code : Int)
  deriving DecidableEq, Repr

/-- The bits of `hwc_layer_1_t::transform`. -/
structure Transform where
  flipH : Bool := false
  flipV : Bool := false
  rot90 : Bool := false
  deriving DecidableEq, Repr

/-- `transform == 0`. -/
def Transform.identity (t : Transform) : Bool := !t.flipH && !t.flipV && !t.rot90

/-- The bits of `hwc_layer_1_t::hints`. -/
structure Hints where
  tripleBuffer : Bool := false
  clearFb : Bool := false
  deriving DecidableEq, Repr

/-- `hwc_layer_1_t`; `skipLayer` is the bit `HWC_SKIP_LAYER` of `flags`. -/
structure HwcLayer where
  compositionType : CompositionType
  hints : Hints
  skipLayer : Bool
  handle : BufferHandle
  transform : Transform
  blending : Blending
  sourceCrop : Rect
  displayFrame : Rect
  deriving DecidableEq, Repr

/-- A layer of a list together with the identity SurfaceFlinger reports for it
(`hwc_layer_extended_t::identity` at the same index). -/
structure ExtLayer where
  layer : HwcLayer
  identity : Nat
  deriving DecidableEq, Repr

/-- `scaled` (`hwc.c`) and `rgz_hwc_scaled`: the crop, turned if the layer is, differs in size
from the frame.  The stereo case of `scaled` is compiled out (`OMAP_ENHANCEMENT_S3D`). -/
def HwcLayer.scaled (l : HwcLayer) : Bool :=
  let w := l.sourceCrop.width
  let h := l.sourceCrop.height
  let (w, h) := if l.transform.rot90 then (h, w) else (w, h)
  decide (l.displayFrame.width ≠ w) || decide (l.displayFrame.height ≠ h)

end Solana
