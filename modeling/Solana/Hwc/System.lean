import Solana.Hwc.Post
import Solana.Lib.Runs

/-!
# The composer as a system

The device together with the display driver, and what can happen to them: the two calls of
`SurfaceFlinger`, the events of the HDMI and dock switches, and the idle timeout.  Calls without a
display return at once and are left out, as are vsync events.

What runs under the device's lock is one step.  The state of a switch is written without the lock,
before `handle_hotplug` takes it, so the two are steps of their own and calls may come in between.
Not followed are writes in the middle of a call, and the steps of `handle_hotplug` on a TV, which
does without the lock.

`System` also records what an observer of the display knows: the frames posted so far, and, for
each blit framebuffer of the driver, the layers of the frame that was drawn into it last.

`System.Reachable` are the states of all runs, and `devOk_of_reachable` is the invariant of the
device in them.
-/

namespace Solana

open Runs Option

/-! ## Hotplug events -/

/-- What `handle_hotplug` learns from its surroundings: the properties, the outcome of the mode
search, and what the display and the allocator report. -/
structure HotplugEnv where
  dockingEnabled : Bool
  mirroringEnabled : Bool
  dockingRotation : Nat
  dockingHflip : Bool
  mirroringRotation : Nat
  mirroringHflip : Bool
  hdmiMode : HdmiMode
  extMatrix : DssRect → DssRect
  fbDis : DisplayInfo
  lcdWidth : Int
  lcdHeight : Int
  primaryMatrix : DssRect → DssRect
  /-- The rotation buffers, if `allocate_tiler2d_buffers` can allocate them. -/
  tiler2d : Option (Nat → Option Nat)

/-- `set_primary_display_transform_matrix`. -/
def setPrimaryDisplayTransformMatrix (env : HotplugEnv) (dev : HwcDev) : HwcDev :=
  let w := dev.fbDev.width
  let h := dev.fbDev.height
  { dev with
    fbDis := env.fbDis
    primaryRegion := ⟨0, 0, w, h⟩
    primaryRotation :=
      if decide (env.lcdHeight < env.lcdWidth) ^^ decide (h < w) then 1 else 0
    primaryTransform := if env.lcdWidth ≠ w ∨ env.lcdHeight ≠ h then 1 else 0
    primaryM := env.primaryMatrix }

/-- `allocate_tiler2d_buffers` on the handles there are. -/
def allocateTiler2dBuffers (env : HotplugEnv) (handles : Nat → Option Nat) : Nat → Option Nat :=
  if (handles 0).isSome ∨ (handles 1).isSome then handles
  else env.tiler2d.getD fun _ => none

/-- The settings of a connected display, from the properties. -/
def connectSettings (env : HotplugEnv) (ext : HwcExt) : HwcExt :=
  { ext with
    dock := ⟨if ext.forceDock then 0 else env.dockingRotation, !ext.forceDock && env.dockingHflip,
      env.dockingEnabled, true⟩
    mirror := ⟨env.mirroringRotation, env.mirroringHflip, env.mirroringEnabled && !ext.forceDock,
      false⟩ }

/-- The external state when a display is connected: the best mode for mirroring is set at
once. -/
def connectExt (env : HotplugEnv) (ext : HwcExt) : HwcExt :=
  let ext := connectSettings env ext
  if ext.mirror.enabled then
    let ext := { ext with current := ext.mirror, mirrorMode := 0 }
    match setupMirroring env.hdmiMode env.extMatrix ext with
    | some ext => { ext with mirrorMode := ext.lastMode }
    | none => { ext with mirror := { ext.mirror with enabled := false } }
  else ext

/-- The external state when no display is connected. -/
def disconnectExt (ext : HwcExt) : HwcExt :=
  { ext with
    dock := { ext.dock with enabled := false }
    mirror := { ext.mirror with enabled := false }
    lastMode := 0 }

/-- `handle_hotplug`. -/
def handleHotplug (env : HotplugEnv) (dev : HwcDev) : HwcDev :=
  if dev.onTv then
    if dev.ext.hdmiState then
      setPrimaryDisplayTransformMatrix env
        { dev with ext := (setBestHdmiMode env.hdmiMode dev.ext).getD dev.ext }
    else { dev with ext := { dev.ext with lastMode := 0 } }
  else if dev.ext.hdmiState then
    let ext := connectExt env dev.ext
    { dev with
      ext := ext
      ionHandles := if ext.mirror.rotation ≠ 0 ∧ !dev.limits.fbmemTiler2d then
        allocateTiler2dBuffers env dev.ionHandles else dev.ionHandles }
  else
    { dev with
      ext := disconnectExt dev.ext
      ionHandles := if dev.ext.mirror.rotation ≠ 0 ∧ !dev.limits.fbmemTiler2d then
        fun _ => none else dev.ionHandles }

/-- The switches `handle_uevents` listens to. -/
inductive Switch
  | dock (on : Bool)
  | hdmi (on : Bool)

/-- `handle_uevents`, for the event of a switch, until it calls `handle_hotplug`. -/
def Switch.write (dev : HwcDev) : Switch → HwcDev
  | .dock on => { dev with ext := { dev.ext with forceDock := on } }
  | .hdmi on => { dev with ext := { dev.ext with hdmiState := on } }

/-- The idle timeout of `hdmi_thread`: the next frames are composed by SGX. -/
def handleIdle (dev : HwcDev) : HwcDev :=
  if 1 < dev.lastIntOvls ∧ dev.forceSgx = 0 then { dev with forceSgx := 2 } else dev

lemma handleHotplug_eq (env : HotplugEnv) (dev : HwcDev) :
    ∃ ext ion fbDis region rotation transform m, handleHotplug env dev = { dev with
      ext := ext
      ionHandles := ion
      fbDis := fbDis
      primaryRegion := region
      primaryRotation := rotation
      primaryTransform := transform
      primaryM := m } := by
  unfold handleHotplug
  by_cases htv : dev.onTv = true
  · rw [if_pos htv]
    by_cases hstate : dev.ext.hdmiState = true
    · rw [if_pos hstate]
      exact ⟨_, _, _, _, _, _, _, rfl⟩
    · rw [if_neg hstate]
      exact ⟨_, _, _, _, _, _, _, rfl⟩
  · rw [if_neg htv]
    by_cases hstate : dev.ext.hdmiState = true
    · rw [if_pos hstate]
      exact ⟨_, _, _, _, _, _, _, rfl⟩
    · rw [if_neg hstate]
      exact ⟨_, _, _, _, _, _, _, rfl⟩

lemma Switch.write_eq (dev : HwcDev) (sw : Switch) :
    ∃ ext, sw.write dev = { dev with ext := ext } := by
  cases sw <;> exact ⟨_, rfl⟩

lemma handleIdle_eq (dev : HwcDev) : ∃ n, handleIdle dev = { dev with forceSgx := n } := by
  unfold handleIdle
  split_ifs
  · exact ⟨_, rfl⟩
  · exact ⟨dev.forceSgx, rfl⟩

/-! ## Opening the device -/

/-- What `hwc_device_open` reads.  The framebuffer has one of the formats the display subsystem
can show. -/
structure OpenEnv where
  fbDev : FbDev
  fbFormat : fbDev.format.isValid = true
  hotplug : HotplugEnv
  flagsRgbOrder : Bool
  flagsNv12Only : Bool
  nv12LimitReached : Int → Int → Bool
  mirrorRegion : Rect
  hdmiState : Bool
  forceDock : Bool
  bltMode : BltMode
  bltPolicy : BltPolicy
  gscrngeom : SurfGeom
  bgLayer : HwcLayer
  limits : PlatformInfo

/-- The zeroed device, with the settings that no call changes. -/
def OpenEnv.zeroed (env : OpenEnv) : HwcDev where
  fbDev := env.fbDev
  fbDis := env.hotplug.fbDis
  flagsRgbOrder := env.flagsRgbOrder
  flagsNv12Only := env.flagsNv12Only
  nv12LimitReached := env.nv12LimitReached
  onTv := env.hotplug.fbDis.channelDigit
  forceSgx := 0
  ext :=
    { mirror := {}
      dock := {}
      forceDock := env.forceDock
      hdmiState := env.hdmiState
      onTv := false
      current := {}
      last := {}
      lastMode := 0
      mirrorMode := 0
      m := id
      mirrorRegion := env.mirrorRegion }
  primaryM := id
  primaryTransform := 0
  primaryRotation := 0
  primaryRegion := Rect.zero
  buffers := fun _ => .null
  useSgx := false
  swapRb := false
  post2Layers := 0
  post2BlitBuffers := 0
  extOvls := 0
  extOvlsWanted := 0
  lastExtOvls := 0
  lastIntOvls := 0
  bltMode := env.bltMode
  bltPolicy := env.bltPolicy
  blitUseFb := false
  blitNum := 0
  dsscomp := ⟨0, 0, [], 0, false⟩
  blitData := ⟨false, 0, []⟩
  counts := {}
  ionHandles := fun _ => none
  grgz := Rgz.zero
  gscrngeom := env.gscrngeom
  bgLayer := env.bgLayer
  syncId := 0
  limits := env.limits

/-- `hwc_device_open`. -/
def hwcDeviceOpen (env : OpenEnv) : HwcDev :=
  handleHotplug env.hotplug (setPrimaryDisplayTransformMatrix env.hotplug env.zeroed)

/-! ## The system -/

/-- The composer and the driver.  The last three fields are what an observer knows: the layers
drawn into each blit framebuffer (none at first), the frames posted, newest first, and whether
the last call was `hwc_prepare`. -/
structure System where
  dev : HwcDev
  kernel : Kernel
  /-- The state of a switch is written, and `handle_hotplug` comes next. -/
  switched : Bool
  bltFbs : Fin 2 → List RgzLayer
  posted : List Post
  planned : Bool

/-- What can happen. -/
inductive Event
  | prepare (env : PrepareEnv) (list : Option LayerList)
  | set (env : SetEnv) (flip : FlipEnv) (list : Option LayerList)
  | switch (switch : Switch)
  | hotplug (env : HotplugEnv)
  | idle

/-- The system at the start. -/
def System.start (env : OpenEnv) : System :=
  ⟨hwcDeviceOpen env, ⟨false, 0⟩, false, fun _ => [], [], false⟩

/-- The driver processes a frame whose blits were generated for the layers `cur`.  Without the
blitter's library the blit framebuffer is selected but not drawn. -/
def System.flip (env : FlipEnv) (cur : List RgzLayer) (post : Post) (s : System) : System :=
  let res := processFlip env post s.kernel
  { s with
    kernel := res.1
    bltFbs :=
      if res.2 ∧ post.blit.useFb ∧ (env.bvPresent ∨ post.blit.rgzItems = 0) then
        Function.update s.bltFbs res.1.bltIdx cur
      else s.bltFbs
    posted := post :: s.posted }

/-- `hwc_set`, followed by the driver if a frame is posted. -/
def System.set (env : SetEnv) (flip : FlipEnv) (list : LayerList) (s : System) : System :=
  let res := hwcSet env list s.dev
  let s' := { s with dev := res.1, planned := false }
  match res.2 with
  | none => s'
  | some post => s'.flip flip s.dev.grgz.curFbState post

/-- One step.  A fault of the regionizer ends the process, and so does `hwc_set` without a list. -/
def System.next (s : System) : Event → Option System
  | .prepare env list =>
    match hwcPrepare env list s.dev with
    | .error _ => none
    | .ok res => some { s with dev := res.1, planned := true }
  | .set env flip list => list.map fun list => s.set env flip list
  | .switch sw =>
    if s.switched then none else some { s with dev := sw.write s.dev, switched := true }
  | .hotplug env =>
    if s.switched then some { s with dev := handleHotplug env s.dev, switched := false } else none
  | .idle => some { s with dev := handleIdle s.dev }

/-- The states of all runs whose steps satisfy a condition on the state before them and the
event. -/
def System.ReachableWith (Cond : System → Event → Prop) : System → Prop :=
  Reachable (fun s => ∃ env, s = .start env) fun s e s' => Cond s e ∧ s.next e = some s'

/-- The states of all runs. -/
def System.Reachable : System → Prop := System.ReachableWith fun _ _ => True

variable {s s' : System}

lemma System.next_prepare {env : PrepareEnv} {list : Option LayerList}
    (h : s.next (.prepare env list) = some s') :
    ∃ dev' list', hwcPrepare env list s.dev = .ok (dev', list') ∧
      s' = { s with dev := dev', planned := true } := by
  unfold System.next at h
  cases hp : hwcPrepare env list s.dev with
  | error f => simp [hp] at h
  | ok res =>
    simp only [hp, some.injEq] at h
    exact ⟨res.1, res.2, rfl, h.symm⟩

lemma System.next_cases {e : Event} (h : s.next e = some s') :
    (∃ env list dev' list', e = .prepare env list ∧ hwcPrepare env list s.dev = .ok (dev', list') ∧
      s' = { s with dev := dev', planned := true }) ∨
    (∃ env flip list, e = .set env flip (some list) ∧ s' = s.set env flip list) ∨
    (∃ sw, e = .switch sw ∧ s.switched = false ∧
      s' = { s with dev := sw.write s.dev, switched := true }) ∨
    (∃ env, e = .hotplug env ∧ s.switched = true ∧
      s' = { s with dev := handleHotplug env s.dev, switched := false }) ∨
    (e = .idle ∧ s' = { s with dev := handleIdle s.dev }) := by
  cases e with
  | prepare env list =>
    obtain ⟨dev', list', hp, he⟩ := System.next_prepare h
    exact Or.inl ⟨env, list, dev', list', rfl, hp, he⟩
  | set env flip list =>
    obtain ⟨list, rfl, rfl⟩ := map_eq_some_iff.mp h
    exact Or.inr (Or.inl ⟨env, flip, list, rfl, rfl⟩)
  | switch sw =>
    obtain ⟨hno, h⟩ := ite_none_left_eq_some.mp h
    exact Or.inr (Or.inr (Or.inl ⟨sw, rfl, by simpa using hno, (some.inj h).symm⟩))
  | hotplug env =>
    obtain ⟨hyes, h⟩ := ite_none_right_eq_some.mp h
    exact Or.inr (Or.inr (Or.inr (Or.inl ⟨env, rfl, hyes, (some.inj h).symm⟩)))
  | idle => exact Or.inr (Or.inr (Or.inr (Or.inr ⟨rfl, (some.inj h).symm⟩)))

section

variable (s) (env : SetEnv) (flip : FlipEnv) (list : LayerList)
include s env flip list

@[simp] lemma System.set_dev : (s.set env flip list).dev = (hwcSet env list s.dev).1 := by
  unfold System.set
  simp only
  split <;> rfl

@[simp] lemma System.set_posted :
    (s.set env flip list).posted = (hwcSet env list s.dev).2.toList ++ s.posted := by
  unfold System.set
  simp only
  split
  · rename_i h
    rw [h]
    rfl
  · rename_i post h
    rw [h]
    rfl

@[simp] lemma System.set_planned : (s.set env flip list).planned = false := by
  unfold System.set
  simp only
  split <;> rfl

end

/-! ## The invariant of the device -/

/-- What a hotplug event keeps of the external settings. -/
structure ExtOk (ext : HwcExt) : Prop where
  dock : ext.dock.enabled = true → ext.dock.docking = true
  mirror : ext.mirror.enabled = true → ext.mirror.docking = false

lemma connectExt_ok (env : HotplugEnv) (ext : HwcExt) : ExtOk (connectExt env ext) := by
  have hset : (connectSettings env ext).dock.docking = true ∧
      (connectSettings env ext).mirror.docking = false := ⟨rfl, rfl⟩
  unfold connectExt
  generalize connectSettings env ext = ext at hset
  by_cases hm : ext.mirror.enabled = true
  · simp only [if_pos hm]
    split
    · rename_i ext' hext
      obtain ⟨ext₁, h₁, rfl⟩ := map_eq_some_iff.mp hext
      obtain ⟨hk, -⟩ := setBestHdmiMode_kept h₁
      exact ⟨fun _ => (congrArg ExtTransform.docking hk.dock).trans hset.1,
        fun _ => (congrArg ExtTransform.docking hk.mirror).trans hset.2⟩
    · exact ⟨fun _ => hset.1, fun _ => hset.2⟩
  · simp only [if_neg hm]
    exact ⟨fun _ => hset.1, fun _ => hset.2⟩

/-- The counts and settings `DevOk` speaks about besides the external ones. -/
def HwcDev.shareData (dev : HwcDev) : FbDev × Nat × Int × Int × Nat × Int :=
  (dev.fbDev, dev.primaryTransform, dev.extOvls, dev.lastExtOvls, dev.post2Layers, dev.lastIntOvls)

lemma DevOk.transfer {dev dev' : HwcDev} (h : DevOk dev) (hext : ExtOk dev'.ext)
    (hsame : dev'.shareData = dev.shareData) : DevOk dev' := by
  simp only [HwcDev.shareData, Prod.mk.injEq] at hsame
  obtain ⟨h1, h2, h3, h4, h5, h6⟩ := hsame
  refine ⟨?_, ?_, hext.dock, hext.mirror, ?_, ?_, ?_, ?_⟩
  · rw [h1]; exact h.fbFormat
  · rw [h2]; exact h.transform
  · rw [h3]; exact h.extOvls
  · rw [h4]; exact h.lastExtOvls
  · rw [h5]; exact h.post2Layers
  · rw [h6]; exact h.lastIntOvls

variable {dev : HwcDev}

section

variable (h : DevOk dev)
include h

lemma DevOk.extOk : ExtOk dev.ext := ⟨h.dock, h.mirror⟩

lemma setPrimaryDisplayTransformMatrix_ok (env : HotplugEnv) :
    DevOk (setPrimaryDisplayTransformMatrix env dev) := by
  refine ⟨h.fbFormat, ?_, h.dock, h.mirror, h.extOvls, h.lastExtOvls, h.post2Layers, h.lastIntOvls⟩
  simp only [setPrimaryDisplayTransformMatrix]
  split_ifs <;> omega

lemma handleHotplug_ok (env : HotplugEnv) : DevOk (handleHotplug env dev) := by
  unfold handleHotplug
  by_cases htv : dev.onTv = true
  · rw [if_pos htv]
    by_cases hstate : dev.ext.hdmiState = true
    · rw [if_pos hstate]
      refine setPrimaryDisplayTransformMatrix_ok ?_ env
      refine h.transfer ?_ rfl
      show ExtOk ((setBestHdmiMode env.hdmiMode dev.ext).getD dev.ext)
      cases hm : setBestHdmiMode env.hdmiMode dev.ext with
      | none => exact h.extOk
      | some ext =>
        obtain ⟨hk, -⟩ := setBestHdmiMode_kept hm
        rw [getD_some]
        exact ⟨by rw [hk.dock]; exact h.dock, by rw [hk.mirror]; exact h.mirror⟩
    · rw [if_neg hstate]
      exact h.transfer ⟨h.dock, h.mirror⟩ rfl
  · rw [if_neg htv]
    by_cases hstate : dev.ext.hdmiState = true
    · rw [if_pos hstate]
      exact h.transfer (connectExt_ok env dev.ext) rfl
    · rw [if_neg hstate]
      exact h.transfer ⟨nofun, nofun⟩ rfl

lemma Switch.write_ok (sw : Switch) : DevOk (sw.write dev) := by
  cases sw <;> exact h.transfer ⟨h.dock, h.mirror⟩ rfl

lemma handleIdle_ok : DevOk (handleIdle dev) := by
  unfold handleIdle
  split_ifs
  · exact h.transfer h.extOk rfl
  · exact h

lemma countOvls_ok : DevOk (countOvls dev) :=
  ⟨h.fbFormat, h.transform, h.dock, h.mirror, h.extOvls, h.extOvls, h.post2Layers,
    ⟨Int.natCast_nonneg _, Int.ofNat_le.mpr h.post2Layers⟩⟩

lemma beforePost_ok : DevOk (beforePost dev) := by
  rw [beforePost_eq]
  exact h.transfer h.extOk rfl

lemma hwcSet_ok (env : SetEnv) (list : LayerList) : DevOk (hwcSet env list dev).1 := by
  rcases hwcSet_cases env list dev with ⟨-, he⟩ | ⟨-, -, he⟩ | ⟨-, -, he⟩
  · rw [he]
    exact countOvls_ok h
  · rw [he]
    exact h
  · rw [he]
    exact countOvls_ok (beforePost_ok h)

end

lemma hwcDeviceOpen_ok (env : OpenEnv) : DevOk (hwcDeviceOpen env) := by
  refine handleHotplug_ok (setPrimaryDisplayTransformMatrix_ok ?_ _) _
  have h2 : (0 : Int) ≤ 2 := by decide
  have h4 : (0 : Int) ≤ maxHwOverlays := by decide
  exact ⟨env.fbFormat, Nat.zero_le _, nofun, nofun, ⟨le_rfl, h2⟩, ⟨le_rfl, h2⟩, Nat.zero_le _,
    ⟨le_rfl, h4⟩⟩

lemma System.next_devOk {e : Event} (hs : DevOk s.dev) (h : s.next e = some s') : DevOk s'.dev := by
  rcases System.next_cases h with ⟨env, list, dev', list', -, hp, rfl⟩ |
    ⟨env, flip, list, -, rfl⟩ | ⟨sw, -, -, rfl⟩ | ⟨env, -, -, rfl⟩ | ⟨-, rfl⟩
  · obtain ⟨-, -, -, hdev⟩ := hwcPrepare_frame hp hs
    exact hdev
  · rw [System.set_dev]
    exact hwcSet_ok hs env list
  · exact Switch.write_ok hs sw
  · exact handleHotplug_ok hs env
  · exact handleIdle_ok hs

/-- **The device satisfies its invariant in every reachable state.** -/
theorem devOk_of_reachable {s : System} (h : System.Reachable s) : DevOk s.dev := by
  refine Reachable.invariant (fun s => DevOk s.dev) ?_ ?_ h
  · rintro s ⟨env, rfl⟩
    exact hwcDeviceOpen_ok env
  · rintro s e s' hs ⟨-, hn⟩
    exact System.next_devOk hs hn

/-! ## A sample device

A four by four screen with a framebuffer of its size, and an external display that is mirrored
to when it is connected. -/

/-- The properties of the sample device. -/
def sampleHotplug : HotplugEnv where
  dockingEnabled := false
  mirroringEnabled := true
  dockingRotation := 0
  dockingHflip := false
  mirroringRotation := 0
  mirroringHflip := false
  hdmiMode := .picked (some 0) false
  extMatrix := id
  fbDis := ⟨false, 0⟩
  lcdWidth := 4
  lcdHeight := 4
  primaryMatrix := id
  tiler2d := none

/-- Opening the sample device, with or without an external display. -/
def sampleOpen (hdmiState : Bool) (policy : BltPolicy) : OpenEnv where
  fbDev := ⟨.bgra8888, 4, 4⟩
  fbFormat := rfl
  hotplug := sampleHotplug
  flagsRgbOrder := false
  flagsNv12Only := false
  nv12LimitReached := fun _ _ => false
  mirrorRegion := ⟨0, 0, 4, 4⟩
  hdmiState := hdmiState
  forceDock := false
  bltMode := .region
  bltPolicy := policy
  gscrngeom := ⟨.bgra24, 4, 4, 0, 16⟩
  bgLayer := screenBgLayer 4 4
  limits := ⟨16, 16, 16, 16, 170000000, 2, 4, 2048, 16777216, true⟩

/-- Preparing a frame when every layer is known by its place in the list. -/
def sampleEnv : PrepareEnv where
  extSupported := true
  extIdentity := some
  callocOk := true
  modeNeeded := false
  hdmiMode := .picked (some 0) false
  extMatrix := id
  dockWidth := 0
  dockHeight := 0
  dockRowbytes := 0

/-- A list for a screen that is on. -/
def sampleList (layers : List HwcLayer) : Option LayerList := some ⟨true, layers, true, true⟩

/-- A list for a screen that is being turned off. -/
def sampleOff (layers : List HwcLayer) : Option LayerList := some ⟨true, layers, false, false⟩

/-- The calls for a frame of the sample device. -/
def sampleFrame (layers : List HwcLayer) : List Event :=
  [.prepare sampleEnv (sampleList layers),
    .set ⟨true, true⟩ ⟨true, true⟩ (sampleList layers)]

end Solana
