import Solana.Hwc.System

/-!
# Idle detection

When the screen has not changed for a while, `hdmi_thread` has the next two frames composed by SGX,
so that the screen is shown by one overlay.  It waits in `poll` with the idle timeout; when that
passes, it sets `force_sgx`, asks for a new frame and waits without a timeout.  Each post writes to
a pipe, and the thread takes the timeout up again when it has read from the pipe and SGX is not
forced.

The two threads are interleaved here: `hwc_prepare` and the locked sections of `hdmi_thread` are one
step each, `hwc_set` is cut where it writes to the pipe, and what `hdmi_thread` does without the
lock are steps of their own: reading from the pipe, reading `force_sgx` after it, and writing the
state of a switch before `handle_hotplug`, as in `System`.  Idle detection is on.

`idle_timeout_kept`: the timeout is not lost as long as a frame that the thread asked for is posted.
-/

namespace Solana

open Runs Option

/-! ## The two threads -/

/-- Where `hdmi_thread` is. -/
inductive EventThread
  /-- It waits in `poll`. -/
  | polling
  /-- The timeout has passed. -/
  | timedOut
  /-- It has set `force_sgx`, and asks for a new frame next. -/
  | invalidating
  /-- `poll` has reported the pipe, and perhaps an event. -/
  | readable (uevent : Bool)
  /-- It has read from the pipe, and reads `force_sgx` next. -/
  | checking (uevent : Bool)
  /-- `poll` has reported an event. -/
  | uevent
  /-- It has written the state of a switch, and calls `handle_hotplug` next. -/
  | switched
  /-- It has handled the event of a switch, and asks for a new frame next. -/
  | hotplugged
  deriving DecidableEq

/-- What an observer knows of a planned frame. -/
structure Plan where
  /-- SGX was forced. -/
  forced : Bool
  /-- How often `hdmi_thread` had asked for a new frame. -/
  seen : Nat
  deriving DecidableEq

/-- What an observer knows of a posted frame. -/
structure Posted where
  plan : Plan
  /-- The number of overlays of the primary display. -/
  ovls : Nat
  deriving DecidableEq

/-- The composer and its two threads. -/
structure IdleSystem where
  dev : HwcDev
  /-- `procs` is set. -/
  procs : Bool
  /-- The last planned frame. -/
  plan : Plan
  /-- A frame is planned and its `hwc_set` has not returned. -/
  between : Bool
  /-- `hwc_set` has written to the pipe and holds the lock. -/
  setting : Option (SetEnv × LayerList)
  /-- The number of bytes in the pipe. -/
  pipe : Nat
  thread : EventThread
  /-- `timeout` is the idle timeout. -/
  armed : Bool
  /-- How often `hdmi_thread` has asked for a new frame. -/
  issued : Nat
  /-- How often it had before the last frame whose `hwc_set` has returned was planned. -/
  served : Nat
  /-- The last posted frame. -/
  posted : Option Posted

/-- The system after `hwc_device_open`. -/
def IdleSystem.start (env : OpenEnv) : IdleSystem where
  dev := hwcDeviceOpen env
  procs := false
  plan := ⟨false, 0⟩
  between := false
  setting := none
  pipe := 0
  thread := .polling
  armed := true
  issued := 0
  served := 0
  posted := none

/-- The steps of the two threads. -/
inductive IdleEvent
  | registerProcs
  | prepare (env : PrepareEnv) (list : Option LayerList)
  /-- `hwc_set` until it has written to the pipe, or to its end if it does not. -/
  | setStart (env : SetEnv) (list : Option LayerList)
  /-- The rest of `hwc_set`. -/
  | setEnd
  | pollTimeout
  | pollReady (pipe uevent : Bool)
  /-- The locked section after the timeout. -/
  | idle
  | invalidate
  | readPipe
  | readForceSgx
  /-- The event of a switch, or another one. -/
  | uevent (switch : Option Switch)
  /-- `handle_hotplug`, until it asks for a new frame or returns. -/
  | hotplug (env : HotplugEnv)

/-- `hwc_set` posts the frame. -/
def posts (dev : HwcDev) (env : SetEnv) (list : LayerList) : Bool :=
  list.onScreen && !(dev.useSgx && !env.swapOk)

/-- Where `hdmi_thread` goes when it is done with the pipe. -/
def EventThread.afterPipe (uevent : Bool) : EventThread := if uevent then .uevent else .polling

/-- One step. -/
def IdleSystem.next (s : IdleSystem) : IdleEvent → Option IdleSystem
  | .registerProcs => some { s with procs := true }
  | .prepare env list =>
    if s.setting.isSome then none
    else
      match hwcPrepare env list s.dev with
      | .error _ => none
      | .ok res => some { s with
          dev := res.1
          plan := ⟨s.dev.forceSgx ≠ 0, s.issued⟩
          between := true }
  | .setStart env list =>
    if s.setting.isSome then none
    else
      -- without a list the process ends
      list.map fun list =>
        if posts s.dev env list then
          { s with setting := some (env, list), pipe := s.pipe + 1 }
        else
          { s with
            dev := (hwcSet env list s.dev).1
            between := false
            served := s.plan.seen }
  | .setEnd =>
    s.setting.map fun (env, list) => { s with
      dev := (hwcSet env list s.dev).1
      between := false
      setting := none
      served := s.plan.seen
      posted := some ⟨s.plan, s.dev.post2Layers⟩ }
  | .pollTimeout =>
    if s.thread = .polling ∧ s.armed ∧ s.pipe = 0 then some { s with thread := .timedOut }
    else none
  | .pollReady pipe uevent =>
    if s.thread = .polling ∧ (pipe ∨ uevent) ∧ (pipe → 0 < s.pipe) then
      some { s with thread := if pipe then .readable uevent else .uevent }
    else none
  | .idle =>
    if s.thread = .timedOut ∧ s.setting.isNone then
      if s.procs ∧ 1 < s.dev.lastIntOvls ∧ s.dev.forceSgx = 0 then
        some { s with dev := handleIdle s.dev, thread := .invalidating }
      else some { s with thread := .polling }
    else none
  | .invalidate =>
    match s.thread with
    | .invalidating =>
      some { s with thread := .polling, issued := s.issued + 1, armed := false }
    | .hotplugged =>
      some { s with thread := .polling, issued := if s.procs then s.issued + 1 else s.issued }
    | _ => none
  | .readPipe =>
    match s.thread with
    | .readable uevent => some { s with thread := .checking uevent, pipe := s.pipe - 1 }
    | _ => none
  | .readForceSgx =>
    match s.thread with
    | .checking uevent => some { s with
        thread := .afterPipe uevent
        armed := s.armed || s.dev.forceSgx = 0 }
    | _ => none
  | .uevent switch =>
    if s.thread = .uevent then
      match switch with
      | none => some { s with thread := .polling }
      | some sw => some { s with dev := sw.write s.dev, thread := .switched }
    else none
  | .hotplug env =>
    -- no lock and, for a display that is gone, no request on a TV
    if s.thread = .switched ∧ (s.dev.onTv ∨ s.setting.isNone) then
      some { s with
        dev := handleHotplug env s.dev
        thread := if s.dev.onTv ∧ !s.dev.ext.hdmiState then .polling else .hotplugged }
    else none

/-- The states in runs whose steps meet a condition. -/
def IdleSystem.ReachableWith (Cond : IdleSystem → IdleEvent → Prop) : IdleSystem → Prop :=
  Reachable (fun s => ∃ env, s = IdleSystem.start env) fun s e s' => Cond s e ∧ s.next e = some s'

/-! ## The property -/

/-- `hdmi_thread` waits and has read everything from the pipe, no frame is being composed, and the
screen shows a frame that was not forced to use SGX and has more than one overlay. -/
structure IdleSystem.Quiet (s : IdleSystem) : Prop where
  polling : s.thread = .polling
  pipe : s.pipe = 0
  between : s.between = false
  posted : ∃ f, s.posted = some f ∧ f.plan.forced = false ∧ 1 < f.ovls

/-- How often `hdmi_thread` had asked for a new frame before the last posted frame was planned. -/
def IdleSystem.shown (s : IdleSystem) : Nat := s.posted.elim 0 fun f => f.plan.seen

/-- `hwc_set` posts its frame, unless `hdmi_thread` has not asked for a new frame between the plan
of the last posted frame and the plan of this one. -/
def IdleEvent.Posts (s : IdleSystem) : IdleEvent → Prop
  | .setStart env list => list.any (posts s.dev env) = true ∨ s.plan.seen ≤ s.shown
  | _ => True

instance (s : IdleSystem) : DecidablePred (IdleEvent.Posts s)
  | .setStart _ _ => inferInstanceAs (Decidable (_ ∨ _))
  | .registerProcs | .prepare _ _ | .setEnd | .pollTimeout | .pollReady _ _ | .idle | .invalidate
  | .readPipe | .readForceSgx | .uevent _ | .hotplug _ => isTrue trivial

instance (s : IdleSystem) : Decidable s.Quiet :=
  decidable_of_iff (s.thread = .polling ∧ s.pipe = 0 ∧ s.between = false ∧
      ∃ f, s.posted = some f ∧ f.plan.forced = false ∧ 1 < f.ovls)
    ⟨fun ⟨h1, h2, h3, h4⟩ => ⟨h1, h2, h3, h4⟩, fun h => ⟨h.1, h.2, h.3, h.4⟩⟩

/-! ## The forced frames -/

open IdleSystem

lemma forceSgx_prepareEnd (env : PrepareEnv) (dev : HwcDev) (needsFb : Bool) (s : Scan) :
    (prepareEnd env dev needsFb s).forceSgx = dev.forceSgx := rfl

lemma forceSgx_hwcPrepare {env : PrepareEnv} {list list' : Option LayerList} {dev dev' : HwcDev}
    (h : hwcPrepare env list dev = .ok (dev', list')) : dev'.forceSgx = dev.forceSgx := by
  have hstart : (startDev dev list).forceSgx = dev.forceSgx := rfl
  have hout : Outcome env (list.map LayerList.marked) (startDev dev list) dev' list' :=
    composeFrame_ok h
  cases hout with
  | blitAll q out _ _ hdev _ => rw [hdev, forceSgx_prepareEnd]; exact hstart
  | blitRest s q out _ _ _ _ hdev _ => rw [hdev, forceSgx_prepareEnd]; exact hstart
  | noBlit s _ hdev _ => rw [hdev, forceSgx_prepareEnd]; exact hstart

lemma forceSgx_hwcSet_le (env : SetEnv) (list : LayerList) (dev : HwcDev) :
    (hwcSet env list dev).1.forceSgx ≤ dev.forceSgx := by
  rcases hwcSet_cases env list dev with ⟨-, h⟩ | ⟨-, -, h⟩ | ⟨-, -, h⟩
  · rw [h]; exact le_refl _
  · rw [h]
  · rw [h]
    show (beforePost dev).forceSgx ≤ _
    rw [beforePost_eq]
    exact Nat.sub_le _ _

lemma forceSgx_handleHotplug (env : HotplugEnv) (dev : HwcDev) :
    (handleHotplug env dev).forceSgx = dev.forceSgx := by
  obtain ⟨_, _, _, _, _, _, _, h⟩ := handleHotplug_eq env dev
  rw [h]

/-! ## What a step does -/

namespace IdleSystem

/-- The steps, one by one: what each of them needs and what it leaves. -/
inductive Step (s : IdleSystem) : IdleEvent → IdleSystem → Prop
  | registerProcs : Step s .registerProcs { s with procs := true }
  | prepare {env : PrepareEnv} {list : Option LayerList} {res : HwcDev × Option LayerList}
      (hsetting : s.setting = none) (hp : hwcPrepare env list s.dev = .ok res) :
      Step s (.prepare env list)
        { s with dev := res.1, plan := ⟨s.dev.forceSgx ≠ 0, s.issued⟩, between := true }
  | setStart {env : SetEnv} {list : LayerList} (hsetting : s.setting = none)
      (hposts : posts s.dev env list = true) :
      Step s (.setStart env list) { s with setting := some (env, list), pipe := s.pipe + 1 }
  | setSkips {env : SetEnv} {list : LayerList} (hsetting : s.setting = none)
      (hposts : posts s.dev env list = false) :
      Step s (.setStart env list)
        { s with dev := (hwcSet env list s.dev).1, between := false, served := s.plan.seen }
  | setEnd {env : SetEnv} {list : LayerList} (hsetting : s.setting = some (env, list)) :
      Step s .setEnd
        { s with
          dev := (hwcSet env list s.dev).1
          between := false
          setting := none
          served := s.plan.seen
          posted := some ⟨s.plan, s.dev.post2Layers⟩ }
  | pollTimeout (hthread : s.thread = .polling) (harmed : s.armed = true) (hpipe : s.pipe = 0) :
      Step s .pollTimeout { s with thread := .timedOut }
  | pollReady {pipe uevent : Bool} (hthread : s.thread = .polling)
      (hpipe : pipe = true → 0 < s.pipe) :
      Step s (.pollReady pipe uevent)
        { s with thread := if pipe then .readable uevent else .uevent }
  | forceSgx (hthread : s.thread = .timedOut) (hsetting : s.setting = none) :
      Step s .idle { s with dev := handleIdle s.dev, thread := .invalidating }
  | notIdle (hthread : s.thread = .timedOut) (hsetting : s.setting = none) :
      Step s .idle { s with thread := .polling }
  | invalidateIdle (hthread : s.thread = .invalidating) :
      Step s .invalidate { s with thread := .polling, issued := s.issued + 1, armed := false }
  | invalidateHotplug (hthread : s.thread = .hotplugged) :
      Step s .invalidate
        { s with thread := .polling, issued := if s.procs then s.issued + 1 else s.issued }
  | readPipe {uevent : Bool} (hthread : s.thread = .readable uevent) :
      Step s .readPipe { s with thread := .checking uevent, pipe := s.pipe - 1 }
  | readForceSgx {uevent : Bool} (hthread : s.thread = .checking uevent) :
      Step s .readForceSgx
        { s with thread := .afterPipe uevent, armed := s.armed || s.dev.forceSgx = 0 }
  | otherUevent (hthread : s.thread = .uevent) :
      Step s (.uevent none) { s with thread := .polling }
  | switchUevent {sw : Switch} (hthread : s.thread = .uevent) :
      Step s (.uevent (some sw)) { s with dev := sw.write s.dev, thread := .switched }
  | hotplug {env : HotplugEnv} (hthread : s.thread = .switched) :
      Step s (.hotplug env)
        { s with
          dev := handleHotplug env s.dev
          thread := if s.dev.onTv ∧ !s.dev.ext.hdmiState then .polling else .hotplugged }

variable {s s' : IdleSystem} {e : IdleEvent}

lemma step_of_next (h : s.next e = some s') : s.Step e s' := by
  cases e with
  | registerProcs =>
    obtain rfl := some.inj h
    exact .registerProcs
  | prepare env list =>
    obtain ⟨hsetting, h⟩ := ite_none_left_eq_some.mp h
    cases hp : hwcPrepare env list s.dev with
    | error f => simp [hp] at h
    | ok res =>
      simp only [hp, some.injEq] at h
      subst h
      exact .prepare (by simpa using hsetting) hp
  | setStart env list =>
    obtain ⟨hsetting, h⟩ := ite_none_left_eq_some.mp h
    have hnone : s.setting = none := by simpa using hsetting
    obtain ⟨list, rfl, rfl⟩ := map_eq_some_iff.mp h
    split_ifs with hposts
    · exact .setStart hnone hposts
    · exact .setSkips hnone (by simpa using hposts)
  | setEnd =>
    obtain ⟨⟨env, list⟩, hsetting, rfl⟩ := map_eq_some_iff.mp h
    exact .setEnd hsetting
  | pollTimeout =>
    obtain ⟨⟨hthread, harmed, hpipe⟩, h⟩ := ite_none_right_eq_some.mp h
    obtain rfl := some.inj h
    exact .pollTimeout hthread harmed hpipe
  | pollReady pipe uevent =>
    obtain ⟨⟨hthread, -, hpipe⟩, h⟩ := ite_none_right_eq_some.mp h
    obtain rfl := some.inj h
    exact .pollReady hthread hpipe
  | idle =>
    obtain ⟨⟨hthread, hsetting⟩, h⟩ := ite_none_right_eq_some.mp h
    have hnone : s.setting = none := by simpa using hsetting
    split_ifs at h
    · obtain rfl := some.inj h
      exact .forceSgx hthread hnone
    · obtain rfl := some.inj h
      exact .notIdle hthread hnone
  | invalidate =>
    simp only [next] at h
    split at h
    · obtain rfl := some.inj h
      exact .invalidateIdle ‹_›
    · obtain rfl := some.inj h
      exact .invalidateHotplug ‹_›
    · cases h
  | readPipe =>
    simp only [next] at h
    split at h
    · obtain rfl := some.inj h
      exact .readPipe ‹_›
    · cases h
  | readForceSgx =>
    simp only [next] at h
    split at h
    · obtain rfl := some.inj h
      exact .readForceSgx ‹_›
    · cases h
  | uevent switch =>
    obtain ⟨hthread, h⟩ := ite_none_right_eq_some.mp h
    match switch with
    | none =>
      obtain rfl := some.inj h
      exact .otherUevent hthread
    | some sw =>
      obtain rfl := some.inj h
      exact .switchUevent hthread
  | hotplug env =>
    obtain ⟨⟨hthread, -⟩, h⟩ := ite_none_right_eq_some.mp h
    obtain rfl := some.inj h
    exact .hotplug hthread

/-- How often a new frame was asked for, with the one that is asked for next because of the
timeout. -/
def due (s : IdleSystem) : Nat := s.issued + if s.thread = .invalidating then 1 else 0

/-- `hdmi_thread` will read `force_sgx` after all posts until now. -/
def toCheck (s : IdleSystem) : Prop := 0 < s.pipe ∨ ∃ uevent, s.thread = .checking uevent

/-- What a step can do to the timeout and to `force_sgx`. -/
structure Effect (s s' : IdleSystem) : Prop where
  issued_le : s.issued ≤ s'.issued
  due_le : s.due ≤ s'.due
  /-- SGX is forced only with a request for a new frame. -/
  forced : s'.dev.forceSgx ≠ 0 → s.dev.forceSgx ≠ 0 ∨ s.issued < s'.due
  /-- So is the timeout given up, and a look at `force_sgx` is lost only when SGX is forced. -/
  armed : s'.armed = false → s.issued < s'.due ∨
    (s.armed = false ∧ (s.toCheck → s'.toCheck ∨ s.dev.forceSgx ≠ 0))
  readable : (∀ uevent, s.thread = .readable uevent → 0 < s.pipe) →
    ∀ uevent, s'.thread = .readable uevent → 0 < s'.pipe

/-- A step of the composition thread, which may write to the pipe. -/
lemma Effect.of_composition (hissued : s'.issued = s.issued) (hthread : s'.thread = s.thread)
    (hdev : s'.dev.forceSgx ≤ s.dev.forceSgx) (harmed : s'.armed = s.armed)
    (hpipe : s.pipe ≤ s'.pipe) : s.Effect s' where
  issued_le := hissued.ge
  due_le := by simp only [due, hissued, hthread, le_refl]
  forced := fun h => .inl (by omega)
  armed := fun h => .inr ⟨harmed ▸ h, fun hc => .inl (hc.imp (fun h => by omega) fun h => by
    rwa [hthread])⟩
  readable := fun h uevent hu => (h uevent (hthread ▸ hu)).trans_le hpipe

/-- A step of `hdmi_thread` that is not at the pipe and not about the timeout. -/
lemma Effect.of_thread (hissued : s.issued ≤ s'.issued) (hdev : s'.dev.forceSgx = s.dev.forceSgx)
    (harmed : s'.armed = s.armed) (hpipe : s'.pipe = s.pipe) (hdue : s.thread ≠ .invalidating)
    (hcheck : ∀ uevent, s.thread ≠ .checking uevent)
    (hreadable : ∀ uevent, s'.thread = .readable uevent → 0 < s.pipe) : s.Effect s' where
  issued_le := hissued
  due_le := by
    simp only [due, if_neg hdue]
    omega
  forced := fun h => .inl (hdev ▸ h)
  armed := fun h => .inr ⟨harmed ▸ h, fun hc => .inl (.inl (hpipe ▸ hc.resolve_right fun ⟨u, hu⟩ =>
    hcheck u hu))⟩
  readable := fun _ uevent hu => hpipe ▸ hreadable uevent hu

/-- **What a step does** to the timeout and to `force_sgx`. -/
lemma effect_of_next (h : s.next e = some s') : s.Effect s' := by
  cases step_of_next h with
  | registerProcs => exact .of_composition rfl rfl (le_refl _) rfl (le_refl _)
  | prepare _ hp => exact .of_composition rfl rfl (forceSgx_hwcPrepare hp).le rfl (le_refl _)
  | setStart => exact .of_composition rfl rfl (le_refl _) rfl (Nat.le_succ _)
  | setSkips | setEnd => exact .of_composition rfl rfl (forceSgx_hwcSet_le _ _ _) rfl (le_refl _)
  | pollTimeout hthread | notIdle hthread | otherUevent hthread =>
    refine .of_thread (le_refl _) rfl rfl rfl ?_ ?_ ?_ <;> simp [hthread]
  | @switchUevent sw hthread =>
    obtain ⟨_, hw⟩ := sw.write_eq s.dev
    refine .of_thread (le_refl _) (by rw [hw]) rfl rfl ?_ ?_ ?_ <;> simp [hthread]
  | hotplug hthread =>
    refine .of_thread (le_refl _) (forceSgx_handleHotplug _ _) rfl rfl ?_ ?_ fun u hu => ?_
    · simp [hthread]
    · simp [hthread]
    · simp only at hu
      split_ifs at hu
  | pollReady hthread hpipe =>
    refine .of_thread (le_refl _) rfl rfl rfl ?_ ?_ fun u hu => hpipe ?_
    · simp [hthread]
    · simp [hthread]
    · by_contra hnot
      simp [hnot] at hu
  | forceSgx hthread =>
    refine ⟨le_refl _, ?_, fun _ => .inr ?_, fun _ => .inl ?_, ?_⟩ <;> simp [due, hthread]
  | invalidateIdle hthread =>
    -- the timeout is given up
    refine ⟨Nat.le_succ _, ?_, fun _ => .inr ?_, fun _ => .inl ?_, ?_⟩ <;> simp [due, hthread]
  | invalidateHotplug hthread =>
    refine .of_thread ?_ rfl rfl rfl ?_ ?_ ?_
    · simp only
      split_ifs <;> omega
    all_goals simp [hthread]
  | readPipe hthread =>
    refine ⟨le_refl _, ?_, fun h => .inl h, fun h => .inr ⟨h, fun _ => .inl (.inr ⟨_, rfl⟩)⟩, ?_⟩
    · simp [due, hthread]
    · simp
  | @readForceSgx uevent hthread =>
    refine ⟨le_refl _, ?_, fun h => .inl h, fun h => .inr ?_, ?_⟩
    · simp [due, hthread]
    · simp only [Bool.or_eq_false_iff, decide_eq_false_iff_not] at h
      exact ⟨h.1, fun _ => .inr h.2⟩
    · cases uevent <;> simp [EventThread.afterPipe]

/-- What a step can do to the frames. -/
structure Frames (s : IdleSystem) (e : IdleEvent) (s' : IdleSystem) : Prop where
  plan : s'.plan = s.plan ∨
    (s'.plan = ⟨s'.dev.forceSgx ≠ 0, s'.issued⟩ ∧ s'.setting = none)
  setting : s'.setting.isSome = true → (s.setting.isSome = true ∧ s'.plan = s.plan) ∨ s'.toCheck
  posted : s'.posted = s.posted ∨
    (s.setting.isSome = true ∧ ∃ ovls, s'.posted = some ⟨s.plan, ovls⟩)
  /-- The frame that returns is posted, or `hwc_set` does not post. -/
  served : (s'.served = s.served ∧ s'.posted = s.posted) ∨ (s'.served = s.plan.seen ∧
    ((∃ ovls, s'.posted = some ⟨s.plan, ovls⟩) ∨
      (s'.posted = s.posted ∧ ∃ env, ∃ list : LayerList, e = .setStart env list ∧
        posts s.dev env list = false)))

lemma Frames.of_same (hplan : s'.plan = s.plan) (hsetting : s'.setting = s.setting)
    (hposted : s'.posted = s.posted) (hserved : s'.served = s.served) : s.Frames e s' :=
  ⟨.inl hplan, fun h => .inl ⟨hsetting ▸ h, hplan⟩, .inl hposted, .inl ⟨hserved, hposted⟩⟩

lemma frames_of_next (h : s.next e = some s') : s.Frames e s' := by
  cases step_of_next h with
  | prepare hsetting hp =>
    refine ⟨.inr ⟨?_, hsetting⟩, fun h => ?_, .inl rfl, .inl ⟨rfl, rfl⟩⟩
    · simp only [forceSgx_hwcPrepare hp]
    · simp [hsetting] at h
  | setStart =>
    exact ⟨.inl rfl, fun _ => .inr (.inl (Nat.succ_pos _)), .inl rfl, .inl ⟨rfl, rfl⟩⟩
  | setSkips _ hposts =>
    exact ⟨.inl rfl, fun h => .inl ⟨h, rfl⟩, .inl rfl, .inr ⟨rfl, .inr ⟨rfl, _, _, rfl, hposts⟩⟩⟩
  | setEnd hsetting =>
    exact ⟨.inl rfl, fun h => by simp at h, .inr ⟨by rw [hsetting]; rfl, _, rfl⟩,
      .inr ⟨rfl, .inl ⟨_, rfl⟩⟩⟩
  | registerProcs | pollTimeout | pollReady | forceSgx | notIdle | invalidateIdle
  | invalidateHotplug | readPipe | readForceSgx | otherUevent | switchUevent | hotplug =>
    exact .of_same rfl rfl rfl rfl

variable {Cond : IdleSystem → IdleEvent → Prop}

/-! ## The invariant -/

/-- SGX has been forced since the frame was planned only with a request that the plan has not
seen. -/
def Tracked (s : IdleSystem) (plan : Plan) : Prop :=
  plan.seen ≤ s.issued ∧ (plan.forced = false → s.dev.forceSgx ≠ 0 → plan.seen < s.due)

/-- So is the timeout missing, unless `hdmi_thread` still has to look. -/
def Covered (s : IdleSystem) (plan : Plan) : Prop :=
  plan.forced = false → s.armed = false → plan.seen < s.due ∨ s.toCheck

lemma Effect.tracked (h : s.Effect s') {plan : Plan} (hp : s.Tracked plan) : s'.Tracked plan := by
  obtain ⟨hle, hforced⟩ := hp
  refine ⟨hle.trans h.issued_le, fun hf hsgx => ?_⟩
  rcases h.forced hsgx with hsgx | hdue
  · exact (hforced hf hsgx).trans_le h.due_le
  · exact hle.trans_lt hdue

lemma Effect.covered (h : s.Effect s') {plan : Plan} (hp : s.Tracked plan) (hc : s.Covered plan) :
    s'.Covered plan := by
  obtain ⟨hle, hforced⟩ := hp
  intro hf harmed
  rcases h.armed harmed with hdue | ⟨harmed, hcheck⟩
  · exact .inl (hle.trans_lt hdue)
  · rcases hc hf harmed with hdue | hto
    · exact .inl (hdue.trans_le h.due_le)
    · rcases hcheck hto with hto | hsgx
      · exact .inr hto
      · exact .inl ((hforced hf hsgx).trans_le h.due_le)

/-- The invariant of the two threads. -/
structure Inv (s : IdleSystem) : Prop where
  plan : s.Tracked s.plan
  setting : s.setting.isSome = true → s.Covered s.plan
  posted : ∀ f, s.posted = some f → s.Tracked f.plan ∧ s.Covered f.plan

lemma Inv.next (h : s.Inv) (hs : s.next e = some s') : s'.Inv := by
  have heffect := effect_of_next hs
  have hframes := frames_of_next hs
  refine ⟨?_, fun hsetting => ?_, fun f hf => ?_⟩
  · rcases hframes.plan with hplan | ⟨hplan, -⟩
    · rw [hplan]
      exact heffect.tracked h.plan
    · rw [hplan]
      refine ⟨le_refl _, fun hforced hsgx => ?_⟩
      simp [hsgx] at hforced
  · rcases hframes.setting hsetting with ⟨hold, hplan⟩ | hto
    · rw [hplan]
      exact heffect.covered h.plan (h.setting hold)
    · exact fun _ _ => .inr hto
  · rcases hframes.posted with hposted | ⟨hold, ovls, hposted⟩
    · obtain ⟨htracked, hcovered⟩ := h.posted f (hposted ▸ hf)
      exact ⟨heffect.tracked htracked, heffect.covered htracked hcovered⟩
    · -- the frame is posted, and was covered since `hwc_set` has written to the pipe
      obtain rfl := some.inj (hposted.symm.trans hf)
      exact ⟨heffect.tracked h.plan, heffect.covered h.plan (h.setting hold)⟩

lemma inv_of_reachable (h : ReachableWith Cond s) : s.Inv := by
  refine Reachable.invariant Inv ?_ (fun s e s' hs hstep => hs.next hstep.2) h
  rintro s ⟨env, rfl⟩
  refine ⟨⟨le_refl _, fun _ hsgx => ?_⟩, nofun, nofun⟩
  have hopen : (hwcDeviceOpen env).forceSgx = 0 := by
    rw [hwcDeviceOpen, forceSgx_handleHotplug]
    rfl
  exact absurd hopen hsgx

/-- If a frame was posted since `hdmi_thread` asked for one, the timeout is there. -/
theorem armed_of_shown (hr : ReachableWith Cond s) (hquiet : s.Quiet)
    (hshown : s.shown = s.issued) : s.armed = true := by
  obtain ⟨hpolling, hpipe, -, f, hf, hforced, -⟩ := hquiet
  by_contra harmed
  have hdue : s.due = s.issued := by simp [due, hpolling]
  have hseen : f.plan.seen = s.issued := by
    rw [← hshown, shown, hf]
    rfl
  rcases ((inv_of_reachable hr).posted f hf).2 hforced (by simpa using harmed) with h | h | ⟨u, h⟩
  · omega
  · omega
  · simp [hpolling] at h

/-- The frames whose `hwc_set` has returned are no more recent than the posted ones. -/
lemma served_le_shown (h : ReachableWith (fun s e => e.Posts s) s) : s.served ≤ s.shown := by
  refine Reachable.invariant (fun s => s.served ≤ s.shown) ?_ ?_ h
  · rintro s ⟨env, rfl⟩
    exact le_refl _
  · rintro s e s' hs ⟨hposts, hnext⟩
    rcases (frames_of_next hnext).served with ⟨hserved, hposted⟩ | ⟨hserved, hcase⟩
    · rw [hserved, shown, hposted]
      exact hs
    · rw [hserved]
      rcases hcase with ⟨ovls, hposted⟩ | ⟨hposted, env, list, rfl, hnot⟩
      · rw [shown, hposted]
        exact le_refl _
      · rw [shown, hposted]
        exact hposts.resolve_left (by simp [hnot])

lemma shown_le_issued (hr : ReachableWith Cond s) : s.shown ≤ s.issued := by
  unfold shown
  cases hposted : s.posted with
  | none => exact Nat.zero_le _
  | some f => exact ((inv_of_reachable hr).posted f hposted).1.1

end IdleSystem

/-- **Idle detection is not lost.**  In every run in which `hwc_set` posts the frames that were
planned after `hdmi_thread` asked for a new frame, whenever the thread waits and has read everything
from the pipe, no frame is being composed, each request was followed by a complete later frame, and
the posted frame was not forced to use SGX and has more than one overlay, the thread waits with the
idle timeout. -/
theorem idle_timeout_kept {s : IdleSystem}
    (hr : IdleSystem.ReachableWith (fun s e => e.Posts s) s) (hquiet : s.Quiet)
    (hserved : s.served = s.issued) : s.armed = true := by
  have hle := served_le_shown hr
  have hge := shown_le_issued hr
  exact armed_of_shown hr hquiet (by omega)

/-- **SGX is forced together with a request for a new frame**, in every interleaving of the two
threads: unless the last planned frame knew that SGX is forced, `hdmi_thread` has asked for another
one since, or asks for it next. -/
theorem forced_sgx_requests_frame {Cond : IdleSystem → IdleEvent → Prop} {s : IdleSystem}
    (hr : IdleSystem.ReachableWith Cond s) (hsgx : s.dev.forceSgx ≠ 0) :
    s.plan.forced = true ∨ s.plan.seen < s.issued ∨ s.thread = .invalidating := by
  cases hforced : s.plan.forced with
  | true => exact .inl rfl
  | false =>
    have hdue := (inv_of_reachable hr).plan.2 hforced hsgx
    unfold due at hdue
    split_ifs at hdue with hthread
    · exact .inr (.inr hthread)
    · exact .inr (.inl hdue)

/-! ## Runs -/

/-- `hdmi_thread` reads the notification of a post. -/
def sampleNotified : List IdleEvent := [.pollReady true false, .readPipe, .readForceSgx]

/-- A frame of two layers is posted. -/
def sampleLayers : List HwcLayer :=
  [(sampleLayer 1 ⟨0, 0, 4, 4⟩ .none).layer, (sampleLayer 2 ⟨0, 0, 2, 2⟩ .none).layer]

/-- The device after a frame of two layers. -/
def samplePosted : List IdleEvent :=
  [.registerProcs, .prepare sampleEnv (sampleList sampleLayers),
    .setStart ⟨true, true⟩ (sampleList sampleLayers), .setEnd] ++ sampleNotified

/-- The timeout passes between the plan and the post of a frame of two layers, and the frame that is
then asked for is not posted. -/
def sampleUnposted (list : Option LayerList) : List IdleEvent :=
  samplePosted ++
    [.prepare sampleEnv (sampleList sampleLayers), .pollTimeout, .idle, .invalidate,
      .setStart ⟨true, true⟩ (sampleList sampleLayers), .setEnd] ++ sampleNotified ++
    [.prepare sampleEnv list, .setStart ⟨false, true⟩ list]

/-- After the post of a frame the thread waits with the idle timeout. -/
theorem idle_timeout_after_post : ∃ s : IdleSystem, s.Quiet ∧ s.armed = true := by
  obtain ⟨s, hr, hquiet, hserved⟩ : ∃ s, IdleSystem.ReachableWith (fun s e => e.Posts s) s ∧
      s.Quiet ∧ s.served = s.issued :=
    exists_of_run ⟨sampleOpen false .disabled, rfl⟩ samplePosted (by decide +kernel)
  exact ⟨s, hquiet, idle_timeout_kept hr hquiet hserved⟩

/-- The timeout passes after a frame that was not forced. -/
theorem timeout_requests_frame : ∃ s : IdleSystem, s.plan.forced = false ∧
    (s.plan.seen < s.issued ∨ s.thread = .invalidating) := by
  obtain ⟨s, hr, hsgx, hforced⟩ : ∃ s, IdleSystem.ReachableWith (fun _ _ => True) s ∧
      s.dev.forceSgx ≠ 0 ∧ s.plan.forced = false :=
    exists_of_run ⟨sampleOpen false .disabled, rfl⟩ (samplePosted ++ [.pollTimeout, .idle])
      (by decide +kernel)
  exact ⟨s, hforced, (forced_sgx_requests_frame hr hsgx).resolve_left (by simp [hforced])⟩

lemma exists_unarmed {list : Option LayerList}
    (hrun : ∃ s : IdleSystem, runWith next (fun _ _ => true)
        (.start (sampleOpen false .disabled)) (sampleUnposted list) = some s ∧
      s.Quiet ∧ s.served = s.issued ∧ s.armed = false) :
    ∃ s : IdleSystem, runWith next (fun _ _ => true)
        (.start (sampleOpen false .disabled)) (sampleUnposted list) = some s ∧
      IdleSystem.ReachableWith (fun _ _ => True) s ∧ s.Quiet ∧ s.served = s.issued ∧
        s.armed = false := by
  obtain ⟨s, hs, hleft⟩ := hrun
  exact ⟨s, hs, reachable_runWith (fun _ _ _ => trivial) _ (.start ⟨_, rfl⟩) hs, hleft⟩

/-- The timeout passes between the plan and the post of a frame; the next frame is complete but not
posted, as the screen is turned off or `eglSwapBuffers` fails.  The thread waits without a
timeout. -/
theorem idle_timeout_lost : (∃ s : IdleSystem, runWith IdleSystem.next (fun _ _ => true)
        (.start (sampleOpen false .disabled)) (sampleUnposted (sampleOff [])) = some s ∧
      IdleSystem.ReachableWith (fun _ _ => True) s ∧ s.Quiet ∧ s.served = s.issued ∧
        s.armed = false) ∧ ∃ s : IdleSystem, runWith IdleSystem.next (fun _ _ => true)
        (.start (sampleOpen false .disabled)) (sampleUnposted (sampleList sampleLayers)) = some s ∧
      IdleSystem.ReachableWith (fun _ _ => True) s ∧ s.Quiet ∧ s.served = s.issued ∧
        s.armed = false :=
  ⟨exists_unarmed (by decide +kernel), exists_unarmed (by decide +kernel)⟩

end Solana
