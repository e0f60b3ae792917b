import Solana.Charge.Alarms
import Solana.Lib.Runs

/-!
# A session of charge-only mode

The main loop of charge-only mode waits for an event until the next alarm is due, and lets
`alarm_process` run the callbacks of those that are.  The callbacks drive the animation, dim the
screen and switch it off; keys start the cycle anew or end it.  They set and cancel each other's
alarms while the list is being processed, so a step of the model is one turn of the main loop or
one callback.

What the program draws and the brightness and the lights it sets are left out: nothing reads them.
A step gives `none` when it ends the session: the loop is over, or the phone is powered off or
restarted, which does not return.
-/

namespace Solana.Charge

open Runs Option

/-! ## The program's state -/

/-- The functions that alarms are set for: `animation_alarm`,
`screen_brightness_animation_alarm1`, `screen_brightness_animation_alarm2` and
`power_key_alarm`. -/
inductive Callback
  | animation
  | brightness1
  | brightness2
  | powerKey
  deriving DecidableEq

/-- The static variables of `main.c`, `alarm.c` and `screen.c`, and the counter of
`launch_sequence`. -/
structure Session where
  alarms : List (AlarmNode Callback)
  blank : Bool
  quit : Bool
  launched : Bool
  shutdown : Bool
  powerup : Bool
  counter : Nat

/-- `struct device_state`, as far as `power_event` decides by it. -/
structure DeviceState where
  isPluggedIntoAc : Bool
  isPluggedIntoUsb : Bool
  voltageLevel : Int

/-- What a step reads: the clock, once in `main` and in `alarm_process` and then again for each
alarm that is set, and the state of the device. -/
structure SessionEnv where
  now : Timeval
  clock : Nat → Timeval
  device : DeviceState

/-- `ANIMATION_TIMEOUT`. -/
def animationTimeout : Int := 1000 / 2

/-- `POWERUP_VOLTAGE`. -/
def powerupVoltage : Int := 3600000

/-- `alarm_set_relative`. -/
def Session.set (s : Session) (now : Timeval) (f : Callback) (ms : Int) : Session :=
  { s with alarms := alarmSetRelative now f ms s.alarms }

/-- `alarm_cancel`, without its result. -/
def Session.cancel (s : Session) (f : Callback) : Session :=
  { s with alarms := (alarmCancel f s.alarms).1 }

/-- The number of pending alarms with a callback. -/
def Session.pending (s : Session) (f : Callback) : Nat := pendingAlarms f s.alarms

/-! ## Callbacks -/

/-- `screen_brightness_animation_alarm2`. -/
def screenBrightnessAnimationAlarm2 (s : Session) : Option Session :=
  let s := s.cancel .animation
  if s.shutdown then none else some { s with blank := true }

/-- `screen_brightness_animation_alarm1`. -/
def screenBrightnessAnimationAlarm1 (env : SessionEnv) (s : Session) : Session :=
  s.set (env.clock 0) .brightness2 10000

/-- `screen_brightness_animation_start`. -/
def screenBrightnessAnimationStart (env : SessionEnv) (animationTimeout : Int) (s : Session) :
    Session :=
  (({ s with blank := false } : Session).set (env.clock 0) .brightness1 5000).set (env.clock 1)
    .animation animationTimeout

/-- `power_event`. -/
def powerEvent (env : SessionEnv) (s : Session) : Option Session :=
  let s := { s with powerup := decide (env.device.voltageLevel ≥ powerupVoltage) }
  if !s.shutdown && !env.device.isPluggedIntoAc && !env.device.isPluggedIntoUsb then
    screenBrightnessAnimationAlarm2
      ((({ s with shutdown := true } : Session).cancel .brightness2).cancel .brightness1)
  else some s

/-- `animation_alarm`. -/
def animationAlarm (env : SessionEnv) (s : Session) : Option Session :=
  powerEvent env (s.set (env.clock 0) .animation animationTimeout)

/-- Call the function of an alarm.  `power_key_alarm` restarts the phone. -/
def Callback.call (env : SessionEnv) (s : Session) : Callback → Option Session
  | .animation => animationAlarm env s
  | .brightness1 => some (screenBrightnessAnimationAlarm1 env s)
  | .brightness2 => screenBrightnessAnimationAlarm2 s
  | .powerKey => none

/-! ## Events -/

/-- What `ev_get` returns. -/
inductive Event
  | none
  | quit
  | battery
  | powerKeyDown
  | powerKeyUp
  | volumedownKeyDown
  | volumedownKeyUp
  | volumeupKeyDown
  | volumeupKeyUp
  | cameraKeyDown
  | cameraKeyUp
  deriving DecidableEq

/-- `update_screen_on_wakeup_key`. -/
def updateScreenOnWakeupKey (env : SessionEnv) (s : Session) : Option Session :=
  let s := (s.cancel .brightness2).cancel .animation
  if (alarmCancel .brightness1 s.alarms).2 ≠ 0 then
    screenBrightnessAnimationAlarm2 (s.cancel .brightness1)
  else some (screenBrightnessAnimationStart env animationTimeout (s.cancel .brightness1))

/-- `update_screen_on_wakeup_key2`. -/
def updateScreenOnWakeupKey2 (env : SessionEnv) (s : Session) : Session :=
  screenBrightnessAnimationStart env animationTimeout
    (((s.cancel .brightness2).cancel .brightness1).cancel .animation)

/-- The array of `launch_sequence`. -/
def launchKeys : List Event :=
  [.volumeupKeyDown, .volumeupKeyDown, .volumedownKeyDown, .volumedownKeyDown,
    .volumeupKeyDown, .volumeupKeyDown, .volumedownKeyDown, .volumedownKeyDown, .powerKeyDown]

/-- `launch_sequence`: the counter and the result.  The counter stays at the length of the array
when the sequence is complete, so the next key is compared with the memory after the array; that
memory is `beyond`. -/
def launchSequence (beyond : Nat → Event) (r : Event) (counter : Nat) : Nat × Bool :=
  if r = .volumedownKeyDown ∨ r = .volumeupKeyDown ∨ r = .powerKeyDown then
    let counter := if launchKeys[counter]?.getD (beyond counter) = r then counter + 1 else 0
    (counter, counter == launchKeys.length)
  else (counter, false)

/-- Note whether the sequence has been entered. -/
def Session.launch (s : Session) (beyond : Nat → Event) (r : Event) : Session :=
  let l := launchSequence beyond r s.counter
  { s with counter := l.1, launched := s.launched || l.2 }

/-- The body of the main loop after `ev_get`. -/
def handleEvent (env : SessionEnv) (beyond : Nat → Event) (r : Event) (s : Session) :
    Option Session :=
  let s := s.launch beyond r
  match r with
  | .powerKeyDown => some (if s.powerup then s.set (env.clock 0) .powerKey 1000 else s)
  | .powerKeyUp => updateScreenOnWakeupKey env (s.cancel .powerKey)
  | .volumedownKeyDown | .volumeupKeyDown | .cameraKeyDown =>
    some (updateScreenOnWakeupKey2 env s)
  | .battery => powerEvent env s
  | .quit => some { s with quit := true }
  | .none | .volumedownKeyUp | .volumeupKeyUp | .cameraKeyUp => some s

/-! ## Runs -/

/-- The head of the main loop, or the head of the loop of `alarm_process` with the time it has
read. -/
inductive Pc
  | head
  | processing (now : Timeval)
  deriving DecidableEq

/-- A session and where it is. -/
structure Running where
  pc : Pc
  session : Session

/-- What happens in a step: the readings, the event that `ev_get` would return, and the memory
after the array of `launch_sequence`. -/
structure Turn where
  env : SessionEnv
  processNow : Timeval
  event : Event
  beyond : Nat → Event

/-- One turn of the main loop up to `alarm_process`, or one of its callbacks. -/
def Running.next (x : Running) (t : Turn) : Option Running :=
  match x.pc with
  | .head =>
    if x.session.quit then none
    else if alarmGetTimeUntilNext t.env.now x.session.alarms < 1 then
      some ⟨.processing t.processNow, x.session⟩
    else (handleEvent t.env t.beyond t.event x.session).map (Running.mk .head)
  | .processing now =>
    match x.session.alarms with
    | [] => some ⟨.head, x.session⟩
    | a :: rest =>
      if a.expired now then
        (a.f.call t.env { x.session with alarms := rest }).map (Running.mk (.processing now))
      else some ⟨.head, x.session⟩

/-- The session when `main` reaches its loop: the display was blanked and unblanked. -/
def Session.start (env : SessionEnv) : Session :=
  screenBrightnessAnimationStart env 1500 ⟨[], false, false, false, false, false, 0⟩

/-- The states of all sessions. -/
def Running.Reachable : Running → Prop :=
  Runs.Reachable (fun x => ∃ env, x = ⟨.head, Session.start env⟩)
    fun x t x' => x.next t = some x'

/-! ## The cycle of the display -/

/-- A blank display has no alarm that would change it; else the animation runs, and one alarm
that dims the display or switches it off is pending. -/
structure Session.Cycle (s : Session) : Prop where
  blank : s.blank = true →
    s.pending .animation = 0 ∧ s.pending .brightness1 = 0 ∧ s.pending .brightness2 = 0
  lit : s.blank = false →
    s.pending .animation = 1 ∧ s.pending .brightness1 + s.pending .brightness2 = 1

@[simp] lemma Session.pending_set (s : Session) (now : Timeval) (f g : Callback) (ms : Int) :
    (s.set now f ms).pending g = s.pending g + if f = g then 1 else 0 :=
  pendingAlarms_set now f g ms s.alarms

@[simp] lemma Session.pending_cancel (s : Session) (f g : Callback) :
    (s.cancel f).pending g = if f = g then 0 else s.pending g :=
  pendingAlarms_cancel f g s.alarms

@[simp] lemma Session.blank_set (s : Session) (now : Timeval) (f : Callback) (ms : Int) :
    (s.set now f ms).blank = s.blank := rfl

lemma Session.pending_of_cons {s : Session} {a : AlarmNode Callback}
    {rest : List (AlarmNode Callback)} (h : s.alarms = a :: rest) (f : Callback) :
    s.pending f = ({ s with alarms := rest } : Session).pending f + if a.f = f then 1 else 0 := by
  unfold Session.pending
  rw [h]
  exact pendingAlarms_cons f a rest

/-- Only the four numbers and the flag of the display matter. -/
lemma Session.Cycle.congr {s s' : Session} (h : s.Cycle) (hblank : s'.blank = s.blank)
    (hpending : ∀ f, f ≠ .powerKey → s'.pending f = s.pending f) : s'.Cycle := by
  have ha := hpending .animation (by decide)
  have h1 := hpending .brightness1 (by decide)
  have h2 := hpending .brightness2 (by decide)
  constructor
  · rw [hblank, ha, h1, h2]
    exact h.blank
  · rw [hblank, ha, h1, h2]
    exact h.lit

/-! ### Starting and ending the cycle -/

lemma cycle_start {s : Session} (env : SessionEnv) (ms : Int)
    (h : ∀ f, f ≠ .powerKey → s.pending f = 0) :
    (screenBrightnessAnimationStart env ms s).Cycle := by
  have hp : ∀ f, f ≠ .powerKey → ({ s with blank := false } : Session).pending f = 0 := h
  constructor
  · intro hblank
    simp [screenBrightnessAnimationStart] at hblank
  · intro _
    simp [screenBrightnessAnimationStart, hp .animation, hp .brightness1, hp .brightness2]

lemma cycle_alarm2 {s s' : Session} (h1 : s.pending .brightness1 = 0)
    (h2 : s.pending .brightness2 = 0) (hs : screenBrightnessAnimationAlarm2 s = some s') :
    s'.Cycle := by
  simp only [screenBrightnessAnimationAlarm2] at hs
  split_ifs at hs
  obtain rfl := some.inj hs
  have hp : ∀ f, ({ s.cancel .animation with blank := true } : Session).pending f =
      (s.cancel .animation).pending f := fun _ => rfl
  constructor
  · intro _
    simp [hp, h1, h2]
  · intro hblank
    simp at hblank

namespace Session.Cycle

variable {s s' : Session} {env : SessionEnv}

/-- `power_event` keeps the cycle, or it powers the phone off. -/
lemma powerEvent (h : s.Cycle) (hs : Charge.powerEvent env s = some s') : s'.Cycle := by
  simp only [Charge.powerEvent] at hs
  split_ifs at hs
  · exact cycle_alarm2 (by simp) (by simp) hs
  · obtain rfl := some.inj hs
    exact h.congr rfl fun _ _ => rfl

lemma updateScreenOnWakeupKey (hs : Charge.updateScreenOnWakeupKey env s = some s') : s'.Cycle := by
  simp only [Charge.updateScreenOnWakeupKey] at hs
  split_ifs at hs
  · exact cycle_alarm2 (by simp) (by simp) hs
  · obtain rfl := some.inj hs
    refine cycle_start env _ fun f hf => ?_
    cases f <;> simp_all

lemma updateScreenOnWakeupKey2 (env : SessionEnv) (s : Session) :
    (Charge.updateScreenOnWakeupKey2 env s).Cycle := by
  refine cycle_start env _ fun f hf => ?_
  cases f <;> simp_all

lemma call (h : s.Cycle) {a : AlarmNode Callback} {rest : List (AlarmNode Callback)}
    (ha : s.alarms = a :: rest)
    (hs : a.f.call env { s with alarms := rest } = some s') : s'.Cycle := by
  have hpending := pending_of_cons ha
  -- An alarm of the cycle is pending, so the display is lit.
  have hlit : a.f ≠ .powerKey → s.blank = false := by
    intro hf
    by_contra hblank
    obtain ⟨h0, h1, h2⟩ := h.blank (by simpa using hblank)
    have hone := hpending a.f
    rw [if_pos rfl] at hone
    cases hcall : a.f <;> simp_all
  cases hcall : a.f with
  | animation =>
    have hset : (({ s with alarms := rest } : Session).set (env.clock 0) .animation
        animationTimeout).Cycle := by
      refine h.congr rfl fun f _ => ?_
      rw [pending_set, hpending f, hcall]
    rw [hcall] at hs
    exact hset.powerEvent hs
  | brightness1 =>
    have hb := hlit (by simp [hcall])
    obtain ⟨h0, h12⟩ := h.lit hb
    rw [hcall] at hs
    obtain rfl := some.inj hs
    have hp0 := hpending .animation
    have hp1 := hpending .brightness1
    have hp2 := hpending .brightness2
    simp only [hcall, reduceCtorEq, if_true, if_false] at hp0 hp1 hp2
    constructor
    · intro hblank
      exact absurd (hb.symm.trans hblank) Bool.false_ne_true
    · intro _
      simp only [screenBrightnessAnimationAlarm1, pending_set, reduceCtorEq, if_true, if_false]
      omega
  | brightness2 =>
    obtain ⟨h0, h12⟩ := h.lit (hlit (by simp [hcall]))
    rw [hcall] at hs
    have hp1 := hpending .brightness1
    have hp2 := hpending .brightness2
    simp only [hcall, reduceCtorEq, if_true, if_false] at hp1 hp2
    exact cycle_alarm2 (by omega) (by omega) hs
  | powerKey =>
    rw [hcall] at hs
    exact absurd hs (by simp [Callback.call])

lemma handleEvent (h : s.Cycle) {beyond : Nat → Event} {r : Event}
    (hs : Charge.handleEvent env beyond r s = some s') : s'.Cycle := by
  -- The launch sequence changes neither the alarms nor the display.
  have h' : (s.launch beyond r).Cycle := h.congr rfl fun _ _ => rfl
  simp only [Charge.handleEvent] at hs
  cases r with
  | powerKeyDown =>
    obtain rfl := some.inj hs
    split_ifs
    · refine h'.congr rfl fun f hf => ?_
      rw [pending_set, if_neg (Ne.symm hf), Nat.add_zero]
    · exact h'
  | powerKeyUp => exact updateScreenOnWakeupKey hs
  | volumedownKeyDown | volumeupKeyDown | cameraKeyDown =>
    obtain rfl := some.inj hs
    exact updateScreenOnWakeupKey2 env _
  | battery => exact h'.powerEvent hs
  | quit =>
    obtain rfl := some.inj hs
    exact h'.congr rfl fun _ _ => rfl
  | none | volumedownKeyUp | volumeupKeyUp | cameraKeyUp =>
    obtain rfl := some.inj hs
    exact h'

end Session.Cycle

lemma Session.Cycle.next {x x' : Running} {t : Turn} (h : x.session.Cycle)
    (hx : x.next t = some x') : x'.session.Cycle := by
  cases hpc : x.pc with
  | head =>
    simp only [Running.next, hpc] at hx
    split_ifs at hx
    · obtain rfl := some.inj hx
      exact h
    · obtain ⟨s', hs', rfl⟩ := map_eq_some_iff.mp hx
      exact h.handleEvent hs'
  | processing now =>
    simp only [Running.next, hpc] at hx
    cases halarms : x.session.alarms with
    | nil =>
      simp only [halarms] at hx
      obtain rfl := some.inj hx
      exact h
    | cons a rest =>
      simp only [halarms] at hx
      split_ifs at hx
      · obtain ⟨s', hs', rfl⟩ := map_eq_some_iff.mp hx
        exact h.call halarms hs'
      · obtain rfl := some.inj hx
        exact h

/-- **The display and its alarms.**  At the head of the main loop, and also between two callbacks
of `alarm_process`, no alarm of the cycle is pending if the display is blank; else exactly one
animation alarm and exactly one of the two brightness alarms are. -/
theorem display_alarms {x : Running} (hx : x.Reachable) :
    (x.session.blank = true → x.session.pending .animation = 0 ∧
        x.session.pending .brightness1 = 0 ∧ x.session.pending .brightness2 = 0) ∧
      (x.session.blank = false → x.session.pending .animation = 1 ∧
        (x.session.pending .brightness1 = 1 ∧ x.session.pending .brightness2 = 0 ∨
          x.session.pending .brightness1 = 0 ∧ x.session.pending .brightness2 = 1)) := by
  have h : x.session.Cycle := by
    refine hx.invariant (fun x => x.session.Cycle) ?_ ?_
    · rintro _ ⟨env, rfl⟩
      exact cycle_start env 1500 fun _ _ => rfl
    · intro x t x' h hstep
      exact h.next hstep
  refine ⟨h.blank, fun hlit => ?_⟩
  obtain ⟨h0, h12⟩ := h.lit hlit
  exact ⟨h0, by omega⟩

/-- A step in which the clock reads a number of seconds and the charger is plugged in. -/
def sampleTurn (sec : Int) (event : Event) : Turn where
  env := ⟨⟨sec, 0⟩, fun _ => ⟨sec, 0⟩, ⟨true, false, 4000000⟩⟩
  processNow := ⟨sec, 0⟩
  event := event
  beyond _ := .none

/-- The display is dimmed after five seconds and switched off ten seconds later. -/
theorem display_off_without_keys :
    ∃ x : Running, x.Reachable ∧ x.pc = .head ∧ x.session.blank = true ∧
      x.session.pending .animation = 0 := by
  obtain ⟨x, hx, hpc, hblank⟩ : ∃ x, Runs.Reachable (fun x => ∃ env, x = ⟨.head, Session.start env⟩)
      (fun x t x' => True ∧ Running.next x t = some x') x ∧ x.pc = .head ∧
        x.session.blank = true :=
    exists_of_run ⟨(sampleTurn 0 .none).env, rfl⟩
      (List.replicate 4 (sampleTurn 6 .none) ++ List.replicate 4 (sampleTurn 20 .none))
      (by decide +kernel)
  have hreach : x.Reachable := hx.mono (fun _ h => h) fun _ _ _ h => h.2
  exact ⟨x, hreach, hpc, hblank, ((display_alarms hreach).1 hblank).1⟩

end Solana.Charge
