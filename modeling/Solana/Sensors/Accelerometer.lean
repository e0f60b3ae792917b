import Solana.Sensors.Activation

/-!
# The two uses of the accelerometer

The accelerometer serves its own sensor and the orientation sensor.  `KXTF9Sensor` keeps a mark for
each use and one descriptor of the driver, and does not call the driver to turn off a use while the
other one is marked.  A request that turns off the last use closes the descriptor whether or not the
driver accepts it, while the mark is cleared only if it does.

`uses_agree`: while the driver does not refuse to turn off the last use, the descriptor is open when
a use is marked and the driver accepted last whether one is; after a refusal the descriptor is
closed and the use marked.
-/

namespace Solana.Sensors

open Runs

/-! ## Runs -/

/-- The enable state that the driver is given and accepts in `kxtf9SetUse`, if any. -/
def kxtf9Accepts (mine other devOpen en : Bool) (env : IoctlEnv) : Option Bool :=
  if en = mine then none
  else if other && !en then none
  else
    let devOpen := if en then devOpen || env.opens else devOpen
    if (ioctlError devOpen env).isNone then some en else none

/-- The enable state that the driver of the accelerometer accepts in a call, if any. -/
def DeviceCall.kxtf9Accepts (s : Kxtf9Sensor) : DeviceCall → Option Bool
  | .activate (some .accelerometer) en env =>
    Sensors.kxtf9Accepts s.enabled s.orientationEnabled s.devOpen en env.device
  | .activate (some .orientation) en env =>
    Sensors.kxtf9Accepts s.orientationEnabled s.enabled s.devOpen en env.device
  | _ => none

/-- The device, and the enable state that the accelerometer's driver accepted last or reported at
the start; there is none before the driver did either. -/
structure Kxtf9System where
  device : PollDevice
  accepted : Option Bool

/-- The system when the device is opened. -/
def Kxtf9System.start (env : ContextEnv) : Kxtf9System where
  device := .start env
  accepted := if (ioctlError env.kxtf9.opens env.kxtf9).isNone then some env.kxtf9Flags else none

/-- The system after a call. -/
def Kxtf9System.next (s : Kxtf9System) (call : DeviceCall) : Kxtf9System where
  device := s.device.next call
  accepted := (call.kxtf9Accepts s.device.ctx.kxtf9).or s.accepted

/-- The states in runs with calls that meet a condition. -/
def Kxtf9System.ReachableWith (Cond : Kxtf9System → DeviceCall → Prop) : Kxtf9System → Prop :=
  Reachable (fun s => ∃ env, s = Kxtf9System.start env)
    fun s call s' => Cond s call ∧ s' = s.next call

/-! ## The marks, the descriptor and the driver -/

/-- The descriptor is open while a use is marked, and what the driver accepted last is whether one
is. -/
structure UsesAgree (mine other devOpen : Bool) (accepted : Option Bool) : Prop where
  devOpen : (mine || other) = true → devOpen = true
  accepted : ∀ a ∈ accepted, a = (mine || other)

/-- The marks of the accelerometer agree with its descriptor and its driver. -/
def Kxtf9System.Agrees (s : Kxtf9System) : Prop :=
  UsesAgree s.device.ctx.kxtf9.enabled s.device.ctx.kxtf9.orientationEnabled
    s.device.ctx.kxtf9.devOpen s.accepted

/-- The driver refuses to turn off the last use. -/
def KeepsOn (mine other en : Bool) (env : IoctlEnv) : Prop :=
  en = false ∧ mine = true ∧ other = false ∧ env.error.isSome = true

/-- The driver of the accelerometer refuses to turn off its last use. -/
def DeviceCall.Refused (s : Kxtf9System) : DeviceCall → Prop
  | .activate (some .accelerometer) en env =>
    KeepsOn s.device.ctx.kxtf9.enabled s.device.ctx.kxtf9.orientationEnabled en env.device
  | .activate (some .orientation) en env =>
    KeepsOn s.device.ctx.kxtf9.orientationEnabled s.device.ctx.kxtf9.enabled en env.device
  | _ => False

open Kxtf9System

lemma UsesAgree.symm {mine other devOpen : Bool} {accepted : Option Bool}
    (h : UsesAgree mine other devOpen accepted) : UsesAgree other mine devOpen accepted where
  devOpen := by
    rw [Bool.or_comm]
    exact h.devOpen
  accepted := by
    rw [Bool.or_comm]
    exact h.accepted

/-! ## A request -/

section Request

variable {mine other devOpen en : Bool} {env : IoctlEnv} {accepted : Option Bool}

/-- A request is void, or changes a mark alone, or turns the accelerometer on or off. -/
lemma kxtf9SetUse_cases (mine other devOpen en : Bool) (env : IoctlEnv) :
    (en = mine ∧ kxtf9SetUse mine other devOpen en env = (mine, devOpen, 0) ∧
      kxtf9Accepts mine other devOpen en env = none) ∨ (en = false ∧ mine = true ∧ other = true ∧
      kxtf9SetUse mine other devOpen en env = (false, devOpen, 0) ∧
      kxtf9Accepts mine other devOpen en env = none) ∨ (en = true ∧ mine = false ∧ ∃ err,
      kxtf9SetUse mine other devOpen en env =
        ((ioctlError (devOpen || env.opens) env).isNone, devOpen || env.opens, err) ∧
      kxtf9Accepts mine other devOpen en env =
        if (ioctlError (devOpen || env.opens) env).isNone then some true else none) ∨
    (en = false ∧ mine = true ∧ other = false ∧ ∃ err,
      kxtf9SetUse mine other devOpen en env = (!(ioctlError devOpen env).isNone, false, err) ∧
      kxtf9Accepts mine other devOpen en env =
        if (ioctlError devOpen env).isNone then some false else none) := by
  unfold kxtf9SetUse kxtf9Accepts
  cases mine <;> cases en <;> cases other <;> simp [-Option.isNone_iff_eq_none]

/-- What the driver accepted last is whether a use is marked, also when it refuses a request. -/
lemma accepted_setUse (h : ∀ a ∈ accepted, a = (mine || other)) :
    ∀ a ∈ (kxtf9Accepts mine other devOpen en env).or accepted,
      a = ((kxtf9SetUse mine other devOpen en env).1 || other) := by
  obtain ⟨-, huse, hacc⟩ | ⟨-, hmine, hother, huse, hacc⟩ | ⟨-, hmine, err, huse, hacc⟩ |
    ⟨-, hmine, hother, err, huse, hacc⟩ := kxtf9SetUse_cases mine other devOpen en env
  · rw [huse, hacc]
    exact h
  · rw [huse, hacc, hother]
    rw [hmine, hother] at h
    exact h
  · rw [huse, hacc]
    rw [hmine] at h
    cases hok : (ioctlError (devOpen || env.opens) env).isNone with
    | true => simp
    | false => simpa using h
  · rw [huse, hacc, hother]
    rw [hmine] at h
    cases hok : (ioctlError devOpen env).isNone with
    | true => simp
    | false => simpa using h

lemma open_of_ioctlError {devOpen : Bool} {env : IoctlEnv}
    (h : (ioctlError devOpen env).isNone = true) : devOpen = true := by
  cases devOpen with
  | true => rfl
  | false => cases h

/-- A request leaves the descriptor open for the marked uses exactly if it is not refused. -/
lemma UsesAgree.open_setUse (h : UsesAgree mine other devOpen accepted) :
    (((kxtf9SetUse mine other devOpen en env).1 || other) = true →
      (kxtf9SetUse mine other devOpen en env).2.1 = true) ↔ ¬KeepsOn mine other en env := by
  obtain ⟨hen, huse, -⟩ | ⟨-, hmine, hother, huse, -⟩ | ⟨hen, hmine, err, huse, -⟩ |
    ⟨hen, hmine, hother, err, huse, -⟩ := kxtf9SetUse_cases mine other devOpen en env
  · rw [huse]
    refine iff_of_true h.devOpen ?_
    rintro ⟨hoff, hmine, -⟩
    exact Bool.false_ne_true (hoff.symm.trans (hen.trans hmine))
  · rw [huse]
    refine iff_of_true (fun _ => h.devOpen (by rw [hmine, Bool.true_or])) ?_
    rintro ⟨-, -, hnone, -⟩
    exact Bool.false_ne_true (hnone.symm.trans hother)
  · rw [huse]
    refine iff_of_true (fun hmark => ?_) ?_
    · rcases Bool.or_eq_true_iff.mp hmark with hok | hother
      · exact open_of_ioctlError hok
      · have hopen := h.devOpen (by rw [hother, Bool.or_true])
        rw [hopen, Bool.true_or]
    · rintro ⟨hoff, -⟩
      exact Bool.false_ne_true (hoff.symm.trans hen)
  · -- the descriptor is closed; the mark stays if the driver refuses
    have hopen := h.devOpen (by rw [hmine, Bool.true_or])
    rw [huse, hother, hopen, ioctlError, if_pos rfl]
    cases herror : env.error with
    | none => simp [KeepsOn, herror]
    | some errno => simp [KeepsOn, hen, hmine, herror]

/-- A request keeps the marks in agreement exactly if it is not refused. -/
lemma UsesAgree.setUse_iff (h : UsesAgree mine other devOpen accepted) (en : Bool)
    (env : IoctlEnv) : UsesAgree (kxtf9SetUse mine other devOpen en env).1 other
      (kxtf9SetUse mine other devOpen en env).2.1
      ((kxtf9Accepts mine other devOpen en env).or accepted) ↔ ¬KeepsOn mine other en env :=
  ⟨fun hnext => h.open_setUse.mp hnext.devOpen,
    fun hkeep => ⟨h.open_setUse.mpr hkeep, accepted_setUse h.accepted⟩⟩

end Request

/-! ## A poll -/

/-- The marks and the descriptor of the accelerometer are the same. -/
def Kxtf9Sensor.SameUses (s s' : Kxtf9Sensor) : Prop :=
  s'.enabled = s.enabled ∧ s'.orientationEnabled = s.orientationEnabled ∧ s'.devOpen = s.devOpen

lemma PollContext.sameUses_readEvents (ctx : PollContext) (i : DriverId) (count : Int)
    (result : ReadResult InputEvent) :
    ctx.kxtf9.SameUses (ctx.readEvents i count result).state.kxtf9 := by
  cases i <;> exact ⟨rfl, rfl, rfl⟩

lemma PollContext.sameUses_pollEvents (ctx : PollContext) (count : Int) (rounds : List PollRound) :
    ctx.kxtf9.SameUses (ctx.pollEvents count rounds).state.ctx.kxtf9 := by
  refine pollLoop_rule (fun s => ctx.kxtf9.SameUses s.ctx.kxtf9) (fun _ _ => True) ?_ ?_ rounds
    (fun _ _ _ => trivial) ⟨rfl, rfl, rfl⟩
  · rintro s i result ⟨henabled, horientation, hopen⟩ -
    have hread := s.ctx.sameUses_readEvents i s.count result
    unfold PollState.readDriver
    split_ifs
    · simp only
      split_ifs <;>
        exact ⟨hread.1.trans henabled, hread.2.1.trans horientation, hread.2.2.trans hopen⟩
    · exact ⟨henabled, horientation, hopen⟩
  · exact fun s revents hs => hs

/-! ## Runs -/

lemma Kxtf9System.agrees_start (env : ContextEnv) : (start env).Agrees where
  devOpen := by
    change ((_ && env.kxtf9Flags) || false) = true → ((_ && env.kxtf9Flags) && env.kxtf9.opens) = _
    intro hmark
    rw [Bool.or_false] at hmark
    rw [hmark, Bool.true_and]
    exact open_of_ioctlError (Bool.and_eq_true_iff.mp hmark).1
  accepted := by
    intro a ha
    change a = ((_ && env.kxtf9Flags) || false)
    simp only [start] at ha
    split_ifs at ha with hok
    · rw [hok, Bool.true_and, Bool.or_false]
      exact (Option.mem_some_iff.mp ha).symm
    · cases ha

lemma Kxtf9System.Agrees.next_iff {s : Kxtf9System} (h : s.Agrees) (call : DeviceCall) :
    (s.next call).Agrees ↔ ¬call.Refused s := by
  match call with
  | .activate none en env => exact iff_of_true h not_false
  | .activate (some .accelerometer) en env => exact UsesAgree.setUse_iff h en env.device
  | .activate (some .magneticField) en env => exact iff_of_true h not_false
  | .activate (some .orientation) en env =>
    have hiff := UsesAgree.setUse_iff h.symm en env.device
    exact ⟨fun hnext => hiff.mp hnext.symm, fun hkeep => (hiff.mpr hkeep).symm⟩
  | .activate (some .light) en env => exact iff_of_true h not_false
  | .activate (some .proximity) en env => exact iff_of_true h not_false
  | .poll count rounds =>
    refine iff_of_true ?_ not_false
    obtain ⟨henabled, horientation, hopen⟩ := s.device.ctx.sameUses_pollEvents count rounds
    unfold Kxtf9System.Agrees
    simp only [next, PollDevice.next, henabled, horientation, hopen]
    exact h

/-- In a run in which the driver never refuses to turn off the last use, the descriptor is open
while a use of the accelerometer is marked, and the enable state that the driver accepted last is
whether one is; this is so after another call exactly if that one is not refused either. -/
theorem uses_agree {s : Kxtf9System}
    (hr : Kxtf9System.ReachableWith (fun s call => ¬call.Refused s) s) :
    s.Agrees ∧ ∀ call : DeviceCall, (s.next call).Agrees ↔ ¬call.Refused s := by
  have h : s.Agrees := by
    refine hr.invariant Kxtf9System.Agrees ?_ ?_
    · rintro s ⟨env, rfl⟩
      exact agrees_start env
    · rintro s call s' hs ⟨hc, rfl⟩
      exact (hs.next_iff call).mpr hc
  exact ⟨h, h.next_iff⟩

/-- After both uses were marked and the accelerometer's own was turned off, the descriptor is open
and the driver enabled. -/
theorem orientation_uses_agree :
    ∃ s : Kxtf9System, (s.Agrees ∧ ∀ call : DeviceCall, (s.next call).Agrees ↔ ¬call.Refused s) ∧
      s.device.ctx.kxtf9.enabled = false ∧ s.device.ctx.kxtf9.orientationEnabled = true ∧
      s.device.ctx.kxtf9.devOpen = true ∧ s.accepted = some true := by
  have hr : Kxtf9System.ReachableWith (fun s call => ¬call.Refused s)
      ((((start sampleEnv).next
        (.activate (some .accelerometer) true goodActivate)).next
          (.activate (some .orientation) true goodActivate)).next
            (.activate (some .accelerometer) false goodActivate)) := by
    refine .next (.next (.next (.start ⟨_, rfl⟩) ⟨?_, rfl⟩) ⟨?_, rfl⟩) ⟨?_, rfl⟩
    · exact fun h => Bool.false_ne_true h.1.symm
    · exact fun h => Bool.false_ne_true h.1.symm
    · exact fun h => Bool.false_ne_true h.2.2.1.symm
  exact ⟨_, uses_agree hr, by decide +kernel⟩

/-- The accelerometer was turned on, and the driver refuses to turn it off. -/
def refusedOff : Kxtf9System :=
  ((Kxtf9System.start sampleEnv).next (.activate (some .accelerometer) true goodActivate)).next
    (.activate (some .accelerometer) false ⟨refusedIoctl, goodActivate.akm⟩)

/-- The accelerometer stays marked without a descriptor when the driver refuses to turn it off. -/
theorem refused_closes_device :
    ¬∀ s : Kxtf9System, Kxtf9System.ReachableWith (fun _ _ => True) s → s.Agrees := by
  intro h
  have hr : Kxtf9System.ReachableWith (fun _ _ => True) refusedOff :=
    .next (.next (.start ⟨_, rfl⟩) ⟨trivial, rfl⟩) ⟨trivial, rfl⟩
  exact absurd ((h _ hr).devOpen (by decide +kernel)) (by decide +kernel)

end Solana.Sensors
