import Solana.Sensors.Reader
import Mathlib.Logic.Function.Basic

/-!
# The sensor drivers

The four drivers of the sensors library: the accelerometer (`KXTF9Sensor`), the compass with its
magnetometer and orientation sensors (`AkmSensor`, over the singleton `AkmAotController`), and the
proximity and light sensors (`ISL29030SensorP`, `ISL29030SensorL`), which read one input device.

Each driver has an enable function, which calls into the kernel, and `readEvents`, which fills a
reader from the input device and turns the unread input events into sensor events.  What the system
calls return is given by the `…Env` structures and by `ReadResult`.  A measured value is kept as the
integer it comes from, in units of the driver's conversion factor, and delays are left out.
-/

namespace Solana.Sensors

/-! ## Events -/

/-- The types of the sensors, which are their handles too. -/
inductive SensorType
  | accelerometer
  | magneticField
  | orientation
  | light
  | proximity
  deriving DecidableEq

/-- The types of input events that the drivers distinguish. -/
inductive EvType
  | syn
  | abs
  | msc
  | led
  | other
  deriving DecidableEq

/-- The codes of input events that the drivers distinguish. -/
inductive EvCode
  | absX
  | absY
  | absZ
  | absHat0X
  | absHat0Y
  | absBrake
  | absGas
  | absRX
  | absRY
  | absRZ
  | absRudder
  | mscRaw
  | ledMisc
  | other
  deriving DecidableEq

/-- `struct input_event`. -/
structure InputEvent where
  type : EvType
  code : EvCode
  value : Int
  /-- In nanoseconds, as `timevalToNano` returns it. -/
  time : Int
  deriving DecidableEq

/-- The values of a sensor event.  The first one is also the distance, the light and the azimuth,
the second one the pitch and the third one the roll. -/
structure SensorData where
  x : Int
  y : Int
  z : Int
  status : Int
  deriving DecidableEq

/-- `sensors_event_t`. -/
structure SensorEvent where
  type : SensorType
  timestamp : Int
  data : SensorData
  deriving DecidableEq

/-- `SENSOR_STATUS_ACCURACY_HIGH`. -/
def statusAccuracyHigh : Int := 3

/-- A status value, masked and stored in a byte. -/
def statusByte (value : Int) : Int := value % 256

/-- An event that holds no values yet. -/
def SensorEvent.blank (type : SensorType) (status : Int) : SensorEvent :=
  ⟨type, 0, ⟨0, 0, 0, status⟩⟩

/-! ## Reading -/

/-- The capacity of the drivers' readers. -/
def readerSize : Nat := 32

/-- What `readEvents` leaves and returns. -/
structure Read (σ : Type) where
  state : σ
  queue : List InputEvent
  ret : Int
  /-- The events that were written to the caller's array, from its start. -/
  events : List SensorEvent

/-- The unread events and the state of a driver after its loop over the reader, and the sensor
events that the loop has written. -/
structure Drained (σ : Type) where
  state : σ
  queue : List InputEvent
  events : List SensorEvent

/-- `readEvents`, for the loop of a driver. -/
def readEventsWith {σ : Type} (drain : List InputEvent → Nat → σ → Drained σ) (state : σ)
    (queue : List InputEvent) (count : Int) (result : ReadResult InputEvent) : Read σ :=
  if count < 1 then ⟨state, queue, Errno.einval.ret, []⟩
  else
    let (queue, n) := fillQueue readerSize queue result
    if n < 0 then ⟨state, queue, n, []⟩
    else
      let d := drain queue count.toNat state
      ⟨d.state, d.queue, d.events.length, d.events⟩

/-- The loop of the drivers with one pending event: each input event changes it, and may have it
delivered. -/
def readLoop (step : SensorEvent → InputEvent → SensorEvent × Bool) :
    List InputEvent → Nat → SensorEvent → Drained SensorEvent
  | [], _, pending => ⟨pending, [], []⟩
  | ev :: queue, 0, pending => ⟨pending, ev :: queue, []⟩
  | ev :: queue, count + 1, pending =>
    let (pending, deliver) := step pending ev
    if deliver then
      let d := readLoop step queue count pending
      ⟨d.state, d.queue, pending :: d.events⟩
    else readLoop step queue (count + 1) pending

/-! ## Device nodes -/

/-- What the system calls on a device node return. -/
structure IoctlEnv where
  /-- The device can be opened, if it is not open. -/
  opens : Bool
  /-- The error of the `ioctl`, if it fails on an open device. -/
  error : Option Errno

/-- `EBADF`. -/
def Errno.ebadf : Errno := ⟨9, by decide⟩

/-- The error of an `ioctl` on a device that may not be open. -/
def ioctlError (devOpen : Bool) (env : IoctlEnv) : Option Errno :=
  if devOpen then env.error else some .ebadf

/-- The value a function returns for an error that may not be there. -/
def errRet : Option Errno → Int
  | none => 0
  | some e => e.ret

/-! ## The accelerometer -/

/-- `KXTF9Sensor`. -/
structure Kxtf9Sensor where
  enabled : Bool
  orientationEnabled : Bool
  /-- `dev_fd` is not -1 -/
  devOpen : Bool
  queue : List InputEvent
  pending : SensorEvent

/-- The constructor of `KXTF9Sensor`; `flags` says what the driver reports, if it does. -/
def Kxtf9Sensor.start (env : IoctlEnv) (flags : Bool) : Kxtf9Sensor :=
  let enabled := (ioctlError env.opens env).isNone && flags
  ⟨enabled, false, enabled && env.opens, [], .blank .accelerometer statusAccuracyHigh⟩

/-- What the accelerometer's two enable functions do with the mark for one use of it: the mark, the
device and the returned error. -/
def kxtf9SetUse (mine other devOpen en : Bool) (env : IoctlEnv) : Bool × Bool × Int :=
  if en = mine then (mine, devOpen, 0)
  else if other && !en then (en, devOpen, 0)
  else
    let devOpen := if en then devOpen || env.opens else devOpen
    let error := ioctlError devOpen env
    (if error.isNone then en else mine, en && devOpen, errRet error)

/-- `KXTF9Sensor::enable`. -/
def Kxtf9Sensor.enable (s : Kxtf9Sensor) (en : Bool) (env : IoctlEnv) : Kxtf9Sensor × Int :=
  let (enabled, devOpen, err) := kxtf9SetUse s.enabled s.orientationEnabled s.devOpen en env
  ({ s with enabled := enabled, devOpen := devOpen }, err)

/-- `KXTF9Sensor::enableOrientation`. -/
def Kxtf9Sensor.enableOrientation (s : Kxtf9Sensor) (en : Bool) (env : IoctlEnv) :
    Kxtf9Sensor × Int :=
  let (enabled, devOpen, err) := kxtf9SetUse s.orientationEnabled s.enabled s.devOpen en env
  ({ s with orientationEnabled := enabled, devOpen := devOpen }, err)

/-- `KXTF9Sensor::processEvent`. -/
def kxtf9ProcessEvent (data : SensorData) (ev : InputEvent) : SensorData :=
  match ev.code with
  -- the axes are exchanged, and one of the factors is negative
  | .absX => { data with y := -ev.value }
  | .absY => { data with x := ev.value }
  | .absZ => { data with z := ev.value }
  | _ => data

/-- An input event in `KXTF9Sensor::readEvents`. -/
def kxtf9Step (enabled : Bool) (pending : SensorEvent) (ev : InputEvent) : SensorEvent × Bool :=
  match ev.type with
  | .abs => ({ pending with data := kxtf9ProcessEvent pending.data ev }, false)
  | .syn => ({ pending with timestamp := ev.time }, enabled)
  | .msc | .led | .other => (pending, false)

/-- `KXTF9Sensor::readEvents`. -/
def Kxtf9Sensor.readEvents (s : Kxtf9Sensor) (count : Int) (result : ReadResult InputEvent) :
    Read Kxtf9Sensor :=
  let r := readEventsWith (readLoop (kxtf9Step s.enabled)) s.pending s.queue count result
  ⟨{ s with pending := r.state, queue := r.queue }, r.queue, r.ret, r.events⟩

/-! ## Proximity and light -/

/-- `ISL29030SensorP` and `ISL29030SensorL`. -/
structure IslSensor where
  enabled : Bool
  devOpen : Bool
  queue : List InputEvent
  pending : SensorEvent

/-- The constructors; `enabled` says what the driver reports, if it does. -/
def IslSensor.start (type : SensorType) (env : IoctlEnv) (enabled : Bool) : IslSensor :=
  let enabled := (ioctlError env.opens env).isNone && enabled
  ⟨enabled, enabled && env.opens, [], .blank type 0⟩

/-- `ISL29030SensorP::enable`. -/
def IslSensor.enableP (s : IslSensor) (en : Bool) (env : IoctlEnv) : IslSensor × Int :=
  if en = s.enabled then (s, 0)
  else
    let devOpen := if s.enabled then s.devOpen else s.devOpen || env.opens
    let error := ioctlError devOpen env
    let enabled := if error.isNone || !en then en else s.enabled
    ({ s with enabled := enabled, devOpen := enabled && devOpen }, errRet error)

/-- `ISL29030SensorL::enable`, which has the sensor enabled in the end also if the driver
refused. -/
def IslSensor.enableL (s : IslSensor) (en : Bool) (env : IoctlEnv) : IslSensor × Int :=
  if en = s.enabled then (s, 0)
  else
    let (s, err) := s.enableP en env
    ({ s with enabled := en }, err)

/-- `ISL29030SensorP::processEvent`. -/
def proximityProcessEvent (data : SensorData) (ev : InputEvent) : SensorData :=
  match ev.code with
  | .mscRaw => { data with x := if ev.value = 30 then 3 else 100 }
  | _ => data

/-- `ISL29030SensorL::processEvent`. -/
def lightProcessEvent (data : SensorData) (ev : InputEvent) : SensorData :=
  match ev.code with
  | .ledMisc => { data with x := ev.value }
  | _ => data

/-- An input event in `ISL29030SensorP::readEvents`. -/
def proximityStep (pending : SensorEvent) (ev : InputEvent) : SensorEvent × Bool :=
  match ev.type with
  | .msc => ({ pending with data := proximityProcessEvent pending.data ev }, false)
  | .syn => ({ pending with timestamp := ev.time }, true)
  | .led | .abs | .other => (pending, false)

/-- An input event in `ISL29030SensorL::readEvents`. -/
def lightStep (pending : SensorEvent) (ev : InputEvent) : SensorEvent × Bool :=
  match ev.type with
  | .led => ({ pending with data := lightProcessEvent pending.data ev }, false)
  | .syn => ({ pending with timestamp := ev.time }, true)
  | .msc | .abs | .other => (pending, false)

/-- `readEvents` of the proximity and the light sensor. -/
def IslSensor.readEvents (step : SensorEvent → InputEvent → SensorEvent × Bool) (s : IslSensor)
    (count : Int) (result : ReadResult InputEvent) : Read IslSensor :=
  let r := readEventsWith (readLoop step) s.pending s.queue count result
  ⟨{ s with pending := r.state, queue := r.queue }, r.queue, r.ret, r.events⟩

/-! ## The compass -/

/-- The sensors of the compass, which are the bits of its masks. -/
inductive AkmId
  | magneticField
  | orientation
  deriving DecidableEq

/-- The sensors in the order of their bits. -/
def AkmId.all : List AkmId := [.magneticField, .orientation]

/-- The type of a sensor of the compass. -/
def AkmId.type : AkmId → SensorType
  | .magneticField => .magneticField
  | .orientation => .orientation

/-- The flags in the kernel's driver. -/
structure AkmFlags where
  mv : Int
  a : Int
  m : Int

/-- `AkmAotController`. -/
structure AkmAotController where
  /-- `aot_fd` is not -1 -/
  aotOpen : Bool
  magEn : Int
  accEn : Int
  oriEn : Int
  solEn : Bool

/-- `AkmAotController::ioctl`, with whether it succeeds. -/
def AkmAotController.ioctl (c : AkmAotController) (env : IoctlEnv) : AkmAotController × Bool :=
  if c.aotOpen || env.opens then ({ c with aotOpen := true }, env.error.isNone) else (c, false)

/-- `AkmAotController::closeDevice_internal`. -/
def AkmAotController.closeDevice (c : AkmAotController) : AkmAotController :=
  { c with aotOpen := false }

/-- The system calls when the controller is made. -/
structure AkmStartEnv where
  mag : IoctlEnv
  acc : IoctlEnv
  ori : IoctlEnv

/-- A flag of the driver is read, and noted if that succeeds. -/
def AkmAotController.readFlag (c : AkmAotController) (env : IoctlEnv)
    (note : AkmAotController → AkmAotController) : AkmAotController :=
  let (c, ok) := c.ioctl env
  if ok then note c else c

/-- The constructor of `AkmAotController`. -/
def AkmAotController.start (hw : AkmFlags) (env : AkmStartEnv) : AkmAotController :=
  let c : AkmAotController := ⟨false, 0, 0, 0, false⟩
  let c := c.readFlag env.mag fun c => { c with magEn := hw.mv }
  let c := c.readFlag env.acc fun c => { c with accEn := hw.a }
  -- the orientation sensor gets the flag of the accelerometer
  let c := c.readFlag env.ori fun c => { c with oriEn := hw.a }
  c.closeDevice

/-- `AkmAotController::getEnabled`. -/
def AkmAotController.getEnabled (c : AkmAotController) : AkmId → Bool
  | .magneticField => c.magEn ≠ 0
  | .orientation => c.oriEn ≠ 0

/-- `AkmAotController::setSolanaFlag`. -/
def AkmAotController.setSolanaFlag (c : AkmAotController) (env : IoctlEnv) : AkmAotController :=
  if c.solEn then c else { (c.ioctl env).1 with solEn := true }

/-- The mark of a sensor. -/
def AkmAotController.mark (c : AkmAotController) (i : AkmId) (value : Int) : AkmAotController :=
  match i with
  | .magneticField => { c with magEn := value }
  | .orientation => { c with oriEn := value }

/-- `AkmAotController::setEnabled`, with whether the driver accepts. -/
def AkmAotController.setEnabled (c : AkmAotController) (i : AkmId) (isEnabled : Bool)
    (solana set : IoctlEnv) : AkmAotController × Bool :=
  let c := c.setSolanaFlag solana
  let (c, ok) := c.ioctl set
  let c := if ok then c.mark i (if isEnabled then 1 else 0) else c
  (if c.magEn = 0 ∧ c.oriEn = 0 then c.closeDevice else c, ok)

/-- What the masks of the compass say, and the events that it prepares. -/
structure AkmPending where
  mask : AkmId → Bool
  events : AkmId → SensorEvent

/-- `AkmSensor`, with the controller. -/
structure AkmSensor where
  controller : AkmAotController
  enabled : AkmId → Bool
  pending : AkmPending
  queue : List InputEvent

/-- The constructor of `AkmSensor`; `values` are those the kernel has for its events. -/
def AkmSensor.start (controller : AkmAotController) (values : AkmId → SensorData) : AkmSensor where
  controller := controller
  -- a sensor of either kind that is enabled sets the bit of the magnetometer
  enabled := fun
    | .magneticField => controller.getEnabled .magneticField || controller.getEnabled .orientation
    | .orientation => false
  pending := ⟨fun _ => false, fun i =>
    { SensorEvent.blank i.type statusAccuracyHigh with
      data := if controller.getEnabled i then values i
        else (SensorEvent.blank i.type statusAccuracyHigh).data }⟩
  queue := []

/-- The system calls of an enable function of the compass. -/
structure AkmEnableEnv where
  solana : IoctlEnv
  set : IoctlEnv
  delay : IoctlEnv

/-- `AkmSensor::update_delay`. -/
def AkmSensor.updateDelay (s : AkmSensor) (env : IoctlEnv) : AkmSensor :=
  if AkmId.all.any s.enabled then { s with controller := (s.controller.ioctl env).1 } else s

/-- `AkmSensor::enable`, which always returns 0 for the two sensors. -/
def AkmSensor.enable (s : AkmSensor) (i : AkmId) (en : Bool) (env : AkmEnableEnv) : AkmSensor :=
  if s.enabled i = en then s
  else
    let controller := (s.controller.setEnabled i en env.solana env.set).1
    { s with controller := controller, enabled := Function.update s.enabled i en }.updateDelay
      env.delay

/-- Change the data of a sensor's pending event. -/
def AkmPending.note (p : AkmPending) (i : AkmId) (f : SensorData → SensorData) : AkmPending :=
  ⟨Function.update p.mask i true,
    Function.update p.events i { p.events i with data := f (p.events i).data }⟩

/-- `AkmSensor::processEvent`. -/
def AkmPending.processEvent (p : AkmPending) (ev : InputEvent) : AkmPending :=
  match ev.code with
  | .absHat0X => p.note .magneticField fun d => { d with x := ev.value }
  | .absHat0Y => p.note .magneticField fun d => { d with y := ev.value }
  | .absBrake => p.note .magneticField fun d => { d with z := ev.value }
  | .absGas => p.note .magneticField fun d => { d with status := statusByte ev.value }
  | .absRX => p.note .orientation fun d => { d with x := ev.value }
  | .absRY => p.note .orientation fun d => { d with y := ev.value }
  | .absRZ => p.note .orientation fun d => { d with z := ev.value }
  | .absRudder => p.note .orientation fun d => { d with status := statusByte ev.value }
  | _ => p

/-- A sensor's pending event is taken at a sync event. -/
def AkmPending.take (p : AkmPending) (i : AkmId) (time : Int) : AkmPending :=
  ⟨Function.update p.mask i false,
    Function.update p.events i { p.events i with timestamp := time }⟩

/-- What the loop over the sensors at a sync event leaves. -/
structure Synced where
  pending : AkmPending
  /-- The room that is left. -/
  left : Nat
  /-- The events that were written. -/
  events : List SensorEvent

/-- The loop over the sensors at a sync event. -/
def akmSync (enabled : AkmId → Bool) (time : Int) : List AkmId → Nat → AkmPending → Synced
  | [], count, p => ⟨p, count, []⟩
  | _ :: _, 0, p => ⟨p, 0, []⟩
  | i :: is, count + 1, p =>
    if p.mask i then
      let p := p.take i time
      if enabled i then
        let r := akmSync enabled time is count p
        { r with events := p.events i :: r.events }
      else akmSync enabled time is (count + 1) p
    else akmSync enabled time is (count + 1) p

/-- The loop of `AkmSensor::readEvents`. -/
def akmLoop (enabled : AkmId → Bool) :
    List InputEvent → Nat → AkmPending → Drained AkmPending
  | [], _, p => ⟨p, [], []⟩
  | ev :: queue, 0, p => ⟨p, ev :: queue, []⟩
  | ev :: queue, count + 1, p =>
    match ev.type with
    | .abs => akmLoop enabled queue (count + 1) (p.processEvent ev)
    | .syn =>
      let r := akmSync enabled ev.time AkmId.all (count + 1) p
      -- when an event is still pending there is no room left, and the sync event is kept
      if AkmId.all.any r.pending.mask then ⟨r.pending, ev :: queue, r.events⟩
      else
        let d := akmLoop enabled queue r.left r.pending
        { d with events := r.events ++ d.events }
    | .msc | .led | .other => akmLoop enabled queue (count + 1) p

/-- `AkmSensor::readEvents`. -/
def AkmSensor.readEvents (s : AkmSensor) (count : Int) (result : ReadResult InputEvent) :
    Read AkmSensor :=
  let r := readEventsWith (akmLoop s.enabled) s.pending s.queue count result
  ⟨{ s with pending := r.state, queue := r.queue }, r.queue, r.ret, r.events⟩

/-! ## What a read delivers -/

lemma length_readLoop_le {step : SensorEvent → InputEvent → SensorEvent × Bool} :
    ∀ (queue : List InputEvent) (count : Nat) (pending : SensorEvent),
      (readLoop step queue count pending).events.length ≤ count
  | [], _, _ => Nat.zero_le _
  | _ :: _, 0, _ => Nat.zero_le _
  | ev :: queue, count + 1, pending => by
    unfold readLoop
    simp only
    split_ifs
    · exact Nat.succ_le_succ (length_readLoop_le queue count _)
    · exact length_readLoop_le queue (count + 1) _

/-- The room that is left at a sync event is what the events have not taken. -/
lemma akmSync_count (enabled : AkmId → Bool) (time : Int) :
    ∀ (is : List AkmId) (count : Nat) (p : AkmPending),
      (akmSync enabled time is count p).events.length + (akmSync enabled time is count p).left =
        count
  | [], _, _ => Nat.zero_add _
  | _ :: _, 0, _ => rfl
  | i :: is, count + 1, p => by
    unfold akmSync
    simp only
    split_ifs
    · have ih := akmSync_count enabled time is count (p.take i time)
      simp only [List.length_cons]
      omega
    · exact akmSync_count enabled time is (count + 1) _
    · exact akmSync_count enabled time is (count + 1) _

lemma length_akmLoop_le (enabled : AkmId → Bool) :
    ∀ (queue : List InputEvent) (count : Nat) (p : AkmPending),
      (akmLoop enabled queue count p).events.length ≤ count
  | [], _, _ => Nat.zero_le _
  | _ :: _, 0, _ => Nat.zero_le _
  | ev :: queue, count + 1, p => by
    unfold akmLoop
    cases ev.type with
    | abs => exact length_akmLoop_le enabled queue (count + 1) _
    | msc | led | other => exact length_akmLoop_le enabled queue (count + 1) _
    | syn =>
      have hsync := akmSync_count enabled ev.time AkmId.all (count + 1) p
      generalize akmSync enabled ev.time AkmId.all (count + 1) p = r at hsync
      simp only
      split_ifs
      · simp only
        omega
      · have ih := length_akmLoop_le enabled queue r.left r.pending
        simp only [List.length_append]
        omega

/-- A read fails and writes nothing, or it returns the number of the events that it writes. -/
lemma readEventsWith_ret {σ : Type} {drain : List InputEvent → Nat → σ → Drained σ}
    (hdrain : ∀ queue count state, (drain queue count state).events.length ≤ count) (state : σ)
    (queue : List InputEvent) {count : Int} (hcount : 0 < count) (result : ReadResult InputEvent) :
    let r := readEventsWith drain state queue count result
    (r.ret < 0 ∧ r.events = []) ∨ (r.ret = r.events.length ∧ r.ret ≤ count) := by
  unfold readEventsWith
  rw [if_neg (by omega)]
  simp only
  split_ifs with hn
  · exact .inl ⟨hn, rfl⟩
  · refine .inr ⟨rfl, ?_⟩
    have := hdrain (fillQueue readerSize queue result).1 count.toNat state
    simp only
    omega

end Solana.Sensors
