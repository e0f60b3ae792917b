import Solana.Lib.Runs
import Solana.Sensors.Drivers

/-!
# The compass and its driver

Which sensors of the compass are enabled is kept by the sensor object, by the controller and by the
kernel's driver.  The controller does not report whether the driver accepted a change, and the
sensor object takes it for made; at the start the controller closes the device whatever it found
there, and a sensor that was on sets the bit of the magnetometer.

`mask_matches_driver`: when the driver reports no sensor at the start and accepts every change, the
three agree and the device is open while a sensor is enabled.
-/

namespace Solana.Sensors

open Runs AkmSensor AkmAotController Function

/-! ## Runs -/

/-- The compass, and the sensors that the kernel's driver accepted last as enabled, or reported at
the start. -/
structure AkmSystem where
  sensor : AkmSensor
  accepted : AkmId → Bool

/-- The query for the magnetometer, or the one meant for the orientation sensor, succeeds at the
start.  The device stays open from one query to the next. -/
def AkmStartEnv.magOk (env : AkmStartEnv) : Bool := env.mag.opens && env.mag.error.isNone

@[inherit_doc AkmStartEnv.magOk] def AkmStartEnv.oriOk (env : AkmStartEnv) : Bool :=
  (env.mag.opens || env.acc.opens || env.ori.opens) && env.ori.error.isNone

/-- The start of the compass, with the flags in the driver. -/
def AkmSystem.start (hw : AkmFlags) (env : AkmStartEnv) (values : AkmId → SensorData) :
    AkmSystem where
  sensor := .start (.start hw env) values
  accepted := fun
    | .magneticField => env.magOk && hw.mv ≠ 0
    | .orientation => env.oriOk && hw.m ≠ 0

/-- A call of `AkmSensor::enable`. -/
structure AkmCall where
  id : AkmId
  en : Bool
  env : AkmEnableEnv

/-- The system after a call. -/
def AkmSystem.next (s : AkmSystem) (call : AkmCall) : AkmSystem where
  sensor := s.sensor.enable call.id call.en call.env
  accepted :=
    if s.sensor.enabled call.id ≠ call.en ∧
        (s.sensor.controller.setEnabled call.id call.en call.env.solana call.env.set).2 = true then
      Function.update s.accepted call.id call.en
    else s.accepted

/-- The states in runs from starts and with calls that meet a condition. -/
def AkmSystem.ReachableWith (Init : AkmFlags → AkmStartEnv → Prop)
    (Cond : AkmSystem → AkmCall → Prop) : AkmSystem → Prop :=
  Reachable (fun s => ∃ hw env values, Init hw env ∧ s = AkmSystem.start hw env values)
    fun s call s' => Cond s call ∧ s' = s.next call

/-- The driver reports no sensor as enabled when the compass starts: a query fails, or the sensor's
flag and the one that is read for it are not set. -/
def AkmFlags.Off (hw : AkmFlags) (env : AkmStartEnv) : Prop :=
  (env.magOk = false ∨ hw.mv = 0) ∧ (env.oriOk = false ∨ (hw.m = 0 ∧ hw.a = 0))

/-- The driver accepts the change, if the call makes one. -/
def AkmCall.accepted (s : AkmSystem) (call : AkmCall) : Prop :=
  s.sensor.enabled call.id = call.en ∨
    (call.env.set.error = none ∧ (s.sensor.controller.aotOpen = true ∨ call.env.set.opens = true))

/-! ## The controller -/

namespace AkmAotController

variable (c : AkmAotController) (env : IoctlEnv)

@[simp] lemma getEnabled_ioctl (i : AkmId) : (c.ioctl env).1.getEnabled i = c.getEnabled i := by
  unfold ioctl
  split_ifs <;> rfl

@[simp] lemma getEnabled_setSolanaFlag (i : AkmId) :
    (c.setSolanaFlag env).getEnabled i = c.getEnabled i := by
  unfold setSolanaFlag
  split_ifs
  · rfl
  · exact c.getEnabled_ioctl env i

/-- What the controller notes at the start. -/
lemma start_marks (hw : AkmFlags) (env : AkmStartEnv) :
    (start hw env).magEn = (if env.magOk then hw.mv else 0) ∧
      (start hw env).oriEn = if env.oriOk then hw.a else 0 := by
  obtain ⟨⟨magOpens, magError⟩, ⟨accOpens, accError⟩, ⟨oriOpens, oriError⟩⟩ := env
  cases magOpens <;> cases accOpens <;> cases oriOpens <;> cases magError <;> cases accError <;>
    cases oriError <;> exact ⟨rfl, rfl⟩

lemma getEnabled_start {hw : AkmFlags} {env : AkmStartEnv} (hmv : env.magOk = false ∨ hw.mv = 0)
    (ha : env.oriOk = false ∨ hw.a = 0) (i : AkmId) : (start hw env).getEnabled i = false := by
  obtain ⟨hmag, hori⟩ := start_marks hw env
  cases i with
  | magneticField => rcases hmv with h | h <;> simp [getEnabled, hmag, h]
  | orientation => rcases ha with h | h <;> simp [getEnabled, hori, h]

lemma getEnabled_mark (i j : AkmId) (en : Bool) :
    (c.mark i (if en then 1 else 0)).getEnabled j = update c.getEnabled i en j := by
  cases i <;> cases j <;> cases en <;> rfl

lemma aotOpen_ioctl (h : c.aotOpen = true) : (c.ioctl env).1.aotOpen = true := by
  unfold ioctl
  split_ifs
  · rfl
  · exact h

lemma aotOpen_setSolanaFlag (h : c.aotOpen = true) : (c.setSolanaFlag env).aotOpen = true := by
  unfold setSolanaFlag
  split_ifs
  · exact h
  · exact c.aotOpen_ioctl env h

lemma ioctl_of_open (h : c.aotOpen = true ∨ env.opens = true) :
    c.ioctl env = ({ c with aotOpen := true }, env.error.isNone) := by
  unfold ioctl
  rw [if_pos (by simpa using h)]

lemma setEnabled_of_accepted {c : AkmAotController} (i : AkmId) (en : Bool) (solana : IoctlEnv)
    {set : IoctlEnv} (herror : set.error = none) (hopen : c.aotOpen = true ∨ set.opens = true) :
    (c.setEnabled i en solana set).2 = true ∧ (∀ j, (c.setEnabled i en solana set).1.getEnabled j =
        update c.getEnabled i en j) ∧ ∀ j, (c.setEnabled i en solana set).1.getEnabled j = true →
        (c.setEnabled i en solana set).1.aotOpen = true := by
  have hopen' : (c.setSolanaFlag solana).aotOpen = true ∨ set.opens = true :=
    hopen.imp (c.aotOpen_setSolanaFlag solana) id
  have hmark : ∀ j, (({ c.setSolanaFlag solana with aotOpen := true } : AkmAotController).mark i
      (if en then 1 else 0)).getEnabled j = update c.getEnabled i en j := by
    intro j
    rw [getEnabled_mark]
    congr 1
    funext k
    exact c.getEnabled_setSolanaFlag solana k
  have hstill : (({ c.setSolanaFlag solana with aotOpen := true } : AkmAotController).mark i
      (if en then 1 else 0)).aotOpen = true := by
    cases i <;> rfl
  unfold setEnabled
  simp only [ioctl_of_open _ set hopen', herror, Option.isNone_none, if_true, true_and]
  generalize ({ c.setSolanaFlag solana with aotOpen := true } : AkmAotController).mark i
      (if en then 1 else 0) = c' at hmark hstill
  by_cases hoff : c'.magEn = 0 ∧ c'.oriEn = 0
  · -- the device is closed, as no sensor is enabled
    rw [if_pos hoff]
    refine ⟨hmark, fun j hj => ?_⟩
    cases j <;> simp [getEnabled, closeDevice, hoff] at hj
  · rw [if_neg hoff]
    exact ⟨hmark, fun _ _ => hstill⟩

end AkmAotController

/-! ## Agreement -/

/-- The three places where the enabled sensors are kept agree. -/
structure AkmSystem.Agrees (s : AkmSystem) : Prop where
  accepted : ∀ i, s.sensor.enabled i = s.accepted i
  controller : ∀ i, s.sensor.controller.getEnabled i = s.sensor.enabled i
  aotOpen : ∀ i, s.sensor.enabled i = true → s.sensor.controller.aotOpen = true

open AkmSystem

lemma AkmSystem.agrees_start {hw : AkmFlags} {env : AkmStartEnv} (h : hw.Off env)
    (values : AkmId → SensorData) : (start hw env values).Agrees := by
  obtain ⟨hmv, hori⟩ := h
  have hoff := getEnabled_start hmv (hori.imp_right And.right)
  refine ⟨fun i => ?_, fun i => ?_, fun i hi => ?_⟩
  · cases i with
    | magneticField => rcases hmv with h | h <;> simp [start, AkmSensor.start, hoff, h]
    | orientation => rcases hori with h | h <;> simp [start, AkmSensor.start, hoff, h]
  · cases i <;> simp [start, AkmSensor.start, hoff]
  · cases i <;> simp [start, AkmSensor.start, hoff] at hi

lemma AkmSensor.enabled_updateDelay (s : AkmSensor) (env : IoctlEnv) :
    (s.updateDelay env).enabled = s.enabled := by
  unfold updateDelay
  split_ifs <;> rfl

lemma AkmSensor.getEnabled_updateDelay (s : AkmSensor) (env : IoctlEnv) (i : AkmId) :
    (s.updateDelay env).controller.getEnabled i = s.controller.getEnabled i := by
  unfold updateDelay
  split_ifs
  · exact s.controller.getEnabled_ioctl env i
  · rfl

lemma AkmSensor.aotOpen_updateDelay {s : AkmSensor} (env : IoctlEnv)
    (h : s.controller.aotOpen = true) : (s.updateDelay env).controller.aotOpen = true := by
  unfold updateDelay
  split_ifs
  · exact s.controller.aotOpen_ioctl env h
  · exact h

lemma AkmSystem.Agrees.next {s : AkmSystem} (h : s.Agrees) {call : AkmCall}
    (hc : call.accepted s) : (s.next call).Agrees := by
  by_cases hsame : s.sensor.enabled call.id = call.en
  · have hnext : s.next call = s := by
      unfold AkmSystem.next enable
      rw [if_pos hsame, if_neg fun hne => hne.1 hsame]
    rwa [hnext]
  · obtain ⟨herror, hopen⟩ := hc.resolve_left hsame
    obtain ⟨hok, hmarks, hstill⟩ := setEnabled_of_accepted call.id
      call.en call.env.solana herror hopen
    have henabled : ∀ i, ((s.next call).sensor.enabled) i =
        update s.sensor.enabled call.id call.en i := by
      intro i
      simp only [AkmSystem.next, enable, if_neg hsame, enabled_updateDelay]
    have hmarked : ∀ i, (s.next call).sensor.controller.getEnabled i =
        update s.sensor.enabled call.id call.en i := by
      intro i
      simp only [AkmSystem.next, enable, if_neg hsame, getEnabled_updateDelay, hmarks]
      congr 1
      funext j
      exact h.controller j
    refine ⟨fun i => ?_, fun i => ?_, fun i hi => ?_⟩
    · rw [henabled]
      simp only [AkmSystem.next, hok, and_true, if_pos hsame, ne_eq]
      congr 1
      funext j
      exact h.accepted j
    · rw [hmarked, henabled]
    · rw [henabled, ← hmarked] at hi
      simp only [AkmSystem.next, enable, if_neg hsame, getEnabled_updateDelay] at hi ⊢
      exact aotOpen_updateDelay _ (hstill i hi)

/-- **The mask matches the driver.**  In every run in which the driver reports no sensor as enabled
at the start, and accepts every change that a call makes, the bit of a sensor is set exactly
if the driver accepted it last as enabled, and the device is open while a bit is set. -/
theorem mask_matches_driver {s : AkmSystem}
    (hr : AkmSystem.ReachableWith AkmFlags.Off (fun s call => call.accepted s) s) :
    (∀ i, s.sensor.enabled i = true ↔ s.accepted i = true) ∧
      ((∃ i, s.sensor.enabled i = true) → s.sensor.controller.aotOpen = true) := by
  have h : s.Agrees := by
    refine hr.invariant AkmSystem.Agrees ?_ ?_
    · rintro s ⟨hw, env, values, hoff, rfl⟩
      exact agrees_start hoff values
    · rintro s call s' hs ⟨hc, rfl⟩
      exact hs.next hc
  refine ⟨fun i => by rw [h.accepted i], ?_⟩
  rintro ⟨i, hi⟩
  exact h.aotOpen i hi

/-- Calls that succeed. -/
def goodIoctl : IoctlEnv := ⟨true, none⟩

/-- A call that the driver refuses. -/
def refusedIoctl : IoctlEnv := ⟨true, some .einval⟩

/-- The start of the compass with a flag for the magnetometer. -/
def sampleAkm (mv : Int) : AkmSystem :=
  .start ⟨mv, 0, 0⟩ ⟨goodIoctl, goodIoctl, goodIoctl⟩ fun _ => ⟨0, 0, 0, 0⟩

/-- The magnetometer is enabled. -/
theorem magnetometer_enabled : ∃ s : AkmSystem, s.sensor.enabled .magneticField = true ∧
      s.accepted .magneticField = true ∧ s.sensor.controller.aotOpen = true := by
  have hr : AkmSystem.ReachableWith AkmFlags.Off (fun s call => call.accepted s)
      ((sampleAkm 0).next ⟨.magneticField, true, ⟨goodIoctl, goodIoctl, goodIoctl⟩⟩) :=
    .next (.start ⟨_, _, _, ⟨.inr rfl, .inr ⟨rfl, rfl⟩⟩, rfl⟩) ⟨.inr ⟨rfl, .inr rfl⟩, rfl⟩
  obtain ⟨hmask, hopen⟩ := mask_matches_driver hr
  have hset : ((sampleAkm 0).next ⟨.magneticField, true,
      ⟨goodIoctl, goodIoctl, goodIoctl⟩⟩).sensor.enabled .magneticField = true := by decide
  exact ⟨_, hset, (hmask _).mp hset, hopen ⟨_, hset⟩⟩

/-- The driver refuses to enable the magnetometer, but its bit is set.  The magnetometer is on when
the compass starts, but the device is closed. -/
theorem mask_differs_from_driver :
    (¬∀ s : AkmSystem, AkmSystem.ReachableWith (fun _ _ => True) (fun _ _ => True) s →
      ∀ i, s.sensor.enabled i = true ↔ s.accepted i = true) ∧
    ¬∀ s : AkmSystem, AkmSystem.ReachableWith (fun _ _ => True) (fun _ _ => True) s →
      (∃ i, s.sensor.enabled i = true) → s.sensor.controller.aotOpen = true := by
  constructor
  · intro h
    have hr : AkmSystem.ReachableWith (fun _ _ => True) (fun _ _ => True)
        ((sampleAkm 0).next ⟨.magneticField, true, ⟨goodIoctl, refusedIoctl, goodIoctl⟩⟩) :=
      .next (.start ⟨_, _, _, trivial, rfl⟩) ⟨trivial, rfl⟩
    exact absurd (h _ hr .magneticField) (by decide)
  · intro h
    have hr : AkmSystem.ReachableWith (fun _ _ => True) (fun _ _ => True) (sampleAkm 1) :=
      .start ⟨_, _, _, trivial, rfl⟩
    exact absurd (h _ hr ⟨.magneticField, by decide⟩) (by decide)

end Solana.Sensors
