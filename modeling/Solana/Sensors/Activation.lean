import Solana.Sensors.Akm
import Solana.Sensors.Poll

/-!
# Activated sensors

The accelerometer and the compass deliver an event only while the sensor is enabled.  The proximity
and the light sensor read one input device and each delivers an event at every sync event, whatever
is enabled: with one of them activated, polls return events of both.

`polled_events_active`: when the driver of each of the two has sync events only while its sensor is
activated, when nothing is enabled at the start, and when the accelerometer follows the orientation
sensor, a poll returns events of activated sensors only.
-/

namespace Solana.Sensors

open Runs AkmSensor Function List

/-! ## Runs -/

/-- The poll device, and which sensors the calls of `activate` that succeeded left activated. -/
structure PollDevice where
  ctx : PollContext
  active : SensorType → Bool

/-- The device when it is opened. -/
def PollDevice.start (env : ContextEnv) : PollDevice := ⟨.start env, fun _ => false⟩

/-- The calls to the device. -/
inductive DeviceCall
  | activate (handle : Option SensorType) (enabled : Bool) (env : ActivateEnv)
  | poll (count : Int) (rounds : List PollRound)

/-- The device after a call. -/
def PollDevice.next (d : PollDevice) : DeviceCall → PollDevice
  | .activate handle enabled env =>
    let (ctx, err) := d.ctx.activate handle enabled env
    ⟨ctx, match handle with
      | some type => if err = 0 then Function.update d.active type enabled else d.active
      | none => d.active⟩
  | .poll count rounds => { d with ctx := (d.ctx.pollEvents count rounds).state.ctx }

/-- The states in runs from starts and with calls that meet a condition. -/
def PollDevice.ReachableWith (Init : ContextEnv → Prop) (Cond : PollDevice → DeviceCall → Prop) :
    PollDevice → Prop :=
  Reachable (fun d => ∃ env, Init env ∧ d = PollDevice.start env)
    fun d call d' => Cond d call ∧ d' = d.next call

/-- What the poll returns is of activated sensors. -/
def PollDevice.PollsActive (d : PollDevice) (count : Int) (rounds : List PollRound) : Prop :=
  ∀ w ∈ (d.ctx.pollEvents count rounds).state.writes, d.active w.2.type = true

/-! ## The condition -/

/-- The drivers of the accelerometer and the compass report nothing enabled. -/
def ContextEnv.Off (env : ContextEnv) : Prop :=
  env.kxtf9Flags = false ∧ env.akmFlags.mv = 0 ∧ env.akmFlags.a = 0

/-- There is no sync event among some input events. -/
def NoSync (evs : List InputEvent) : Prop := ∀ ev ∈ evs, ev.type ≠ .syn

instance (evs : List InputEvent) : Decidable (NoSync evs) :=
  inferInstanceAs (Decidable (∀ ev ∈ evs, ev.type ≠ .syn))

/-- The events that a read returns. -/
def ReadResult.evs {α : Type*} : ReadResult α → List α
  | .events evs => evs
  | .failed _ | .part => []

/-- A driver has no sync event in its reader, and gets none in a poll, unless its sensor is
activated. -/
def PollDevice.SyncsActive (d : PollDevice) (type : SensorType) (i : DriverId)
    (queue : List InputEvent) (rounds : List PollRound) : Prop :=
  d.active type = true ∨ (NoSync queue ∧ ∀ r ∈ rounds, NoSync (r.reads i).evs)

/-- The accelerometer's part of an activation of the orientation sensor succeeds. -/
def Kxtf9Sensor.Follows (s : Kxtf9Sensor) (env : IoctlEnv) : Prop :=
  s.orientationEnabled = true ∨ ((s.devOpen || env.opens) = true ∧ env.error = none)

/-- The orientation sensor is activated only if it is already or if the accelerometer follows, and a
poll finds sync events only for activated sensors. -/
def DeviceCall.Tame (d : PollDevice) : DeviceCall → Prop
  | .activate (some .orientation) true env =>
    d.active .orientation = true ∨ d.ctx.kxtf9.Follows env.device
  | .activate _ _ _ => True
  | .poll _ rounds =>
    d.SyncsActive .proximity .islP d.ctx.islP.queue rounds ∧
      d.SyncsActive .light .islL d.ctx.islL.queue rounds

/-! ## What a read delivers -/

/-- The step of a driver keeps the type of its event, and delivers it only for input events with a
property. -/
def DeliversFor (Q : InputEvent → Prop)
    (step : SensorEvent → InputEvent → SensorEvent × Bool) : Prop :=
  ∀ p ev, (step p ev).1.type = p.type ∧ ((step p ev).2 = true → Q ev)

variable {Q : InputEvent → Prop} {step : SensorEvent → InputEvent → SensorEvent × Bool}

open PollDevice

open DeviceCall

/-- The loop of a driver delivers events of the type that its event has. -/
lemma readLoop_spec (hstep : DeliversFor Q step) :
    ∀ (queue : List InputEvent) (count : Nat) (p : SensorEvent),
      (readLoop step queue count p).state.type = p.type ∧
      (readLoop step queue count p).queue ⊆ queue ∧
      ∀ e ∈ (readLoop step queue count p).events, e.type = p.type ∧ ∃ ev ∈ queue, Q ev
  | [], _, p => ⟨rfl, List.Subset.refl _, nofun⟩
  | ev :: queue, 0, p => ⟨rfl, List.Subset.refl _, nofun⟩
  | ev :: queue, count + 1, p => by
    have hev := (hstep p ev).1
    have hlater : ∀ {n : Nat}, ∀ e ∈ (readLoop step queue n (step p ev).1).events,
        e.type = p.type ∧ ∃ ev' ∈ ev :: queue, Q ev' := by
      intro n e he
      obtain ⟨he, ev', hmem, hq⟩ := (readLoop_spec hstep queue n (step p ev).1).2.2 e he
      exact ⟨he.trans hev, ev', mem_cons_of_mem ev hmem, hq⟩
    unfold readLoop
    simp only
    split_ifs with hdeliver
    · obtain ⟨hstate, hqueue, -⟩ := readLoop_spec hstep queue count (step p ev).1
      refine ⟨hstate.trans hev, subset_cons_of_subset ev hqueue, fun e he => ?_⟩
      rcases mem_cons.mp he with rfl | he
      · exact ⟨hev, ev, mem_cons_self, (hstep p ev).2 hdeliver⟩
      · exact hlater e he
    · obtain ⟨hstate, hqueue, -⟩ := readLoop_spec hstep queue (count + 1) (step p ev).1
      exact ⟨hstate.trans hev, subset_cons_of_subset ev hqueue, hlater⟩

/-- The events that the compass prepares are of its sensors' types. -/
def AkmPending.Typed (p : AkmPending) : Prop := ∀ i, (p.events i).type = i.type

lemma AkmPending.Typed.update {p : AkmPending} (h : p.Typed) {i : AkmId} {e : SensorEvent}
    (he : e.type = i.type) (mask : AkmId → Bool) :
    AkmPending.Typed ⟨mask, update p.events i e⟩ := by
  intro j
  by_cases hj : j = i
  · subst hj
    simp only [update_self, he]
  · simp only [update_of_ne hj, h j]

lemma AkmPending.Typed.processEvent {p : AkmPending} (h : p.Typed) (ev : InputEvent) :
    (p.processEvent ev).Typed := by
  have hnote : ∀ i f, (p.note i f).Typed := by
    intro i f
    refine h.update ?_ _
    exact h i
  unfold AkmPending.processEvent
  split <;> first | exact hnote _ _ | exact h

lemma akmSync_spec (enabled : AkmId → Bool) (time : Int) :
    ∀ (is : List AkmId) (count : Nat) {p : AkmPending}, p.Typed →
      (akmSync enabled time is count p).pending.Typed ∧
      ∀ e ∈ (akmSync enabled time is count p).events, ∃ i, enabled i = true ∧ e.type = i.type
  | [], _, p, h => ⟨h, fun _ he => absurd he not_mem_nil⟩
  | _ :: _, 0, p, h => ⟨h, fun _ he => absurd he not_mem_nil⟩
  | i :: is, count + 1, p, h => by
    have htake : (p.take i time).Typed := by
      refine h.update ?_ _
      exact h i
    unfold akmSync
    simp only
    split_ifs with hmask henabled
    · obtain ⟨hpending, hevents⟩ := akmSync_spec enabled time is count htake
      refine ⟨hpending, fun e he => ?_⟩
      rcases mem_cons.mp he with rfl | he
      · exact ⟨i, henabled, htake i⟩
      · exact hevents e he
    · exact akmSync_spec enabled time is (count + 1) htake
    · exact akmSync_spec enabled time is (count + 1) h

/-- The compass delivers events of its enabled sensors. -/
lemma akmLoop_spec (enabled : AkmId → Bool) :
    ∀ (queue : List InputEvent) (count : Nat) {p : AkmPending}, p.Typed →
      (akmLoop enabled queue count p).state.Typed ∧
      ∀ e ∈ (akmLoop enabled queue count p).events, ∃ i, enabled i = true ∧ e.type = i.type
  | [], _, p, h => ⟨h, fun _ he => absurd he not_mem_nil⟩
  | _ :: _, 0, p, h => ⟨h, fun _ he => absurd he not_mem_nil⟩
  | ev :: queue, count + 1, p, h => by
    unfold akmLoop
    cases ev.type with
    | abs => exact akmLoop_spec enabled queue (count + 1) (h.processEvent ev)
    | msc | led | other => exact akmLoop_spec enabled queue (count + 1) h
    | syn =>
      obtain ⟨hsync, hsynced⟩ := akmSync_spec enabled ev.time AkmId.all
        (count + 1) h
      generalize akmSync enabled ev.time AkmId.all (count + 1) p = r at hsync hsynced
      simp only
      split_ifs
      · exact ⟨hsync, hsynced⟩
      · obtain ⟨hstate, hevents⟩ := akmLoop_spec enabled queue r.left hsync
        refine ⟨hstate, fun e he => ?_⟩
        exact (mem_append.mp he).elim (hsynced e) (hevents e)

/-- What holds of a read: the driver does nothing but reading input, or runs its loop too. -/
lemma readEventsWith_rule {σ : Type} {drain : List InputEvent → Nat → σ → Drained σ} {state : σ}
    {queue : List InputEvent} {result : ReadResult InputEvent} (P : Drained σ → Prop)
    (h : ∀ q, (∀ ev ∈ q, ev ∈ queue ∨ ev ∈ result.evs) →
      P ⟨state, q, []⟩ ∧ ∀ n, P (drain q n state)) (count : Int) :
    P ⟨(readEventsWith drain state queue count result).state,
      (readEventsWith drain state queue count result).queue,
      (readEventsWith drain state queue count result).events⟩ := by
  unfold readEventsWith
  by_cases hcount : count < 1
  · rw [if_pos hcount]
    exact (h queue fun ev hev => .inl hev).1
  have hq : ∀ ev ∈ (fillQueue readerSize queue result).1, ev ∈ queue ∨ ev ∈ result.evs := by
    intro ev hev
    unfold fillQueue at hev
    split_ifs at hev
    · exact .inl hev
    · cases result with
      | failed errno => exact .inl hev
      | part => exact .inl hev
      | events evs => exact (mem_append.mp hev).imp_right mem_of_mem_take
  simp only [if_neg hcount]
  split_ifs
  · exact (h _ hq).1
  · exact (h _ hq).2 _

/-- What a driver with one pending event delivers, and what it keeps. -/
lemma readEventsWith_readLoop (hstep : DeliversFor Q step) (p : SensorEvent)
    (queue : List InputEvent) (count : Int) (result : ReadResult InputEvent) :
    (readEventsWith (readLoop step) p queue count result).state.type = p.type ∧
    (∀ ev ∈ (readEventsWith (readLoop step) p queue count result).queue,
      ev ∈ queue ∨ ev ∈ result.evs) ∧
    ∀ e ∈ (readEventsWith (readLoop step) p queue count result).events, e.type = p.type ∧
      ∃ ev, (ev ∈ queue ∨ ev ∈ result.evs) ∧ Q ev := by
  refine readEventsWith_rule (fun d : Drained SensorEvent => d.state.type = p.type ∧
    (∀ ev ∈ d.queue, ev ∈ queue ∨ ev ∈ result.evs) ∧ ∀ e ∈ d.events, e.type = p.type ∧
      ∃ ev, (ev ∈ queue ∨ ev ∈ result.evs) ∧ Q ev) (fun q hq => ⟨⟨rfl, hq, nofun⟩, ?_⟩) count
  intro n
  obtain ⟨htype, hsub, hspec⟩ := readLoop_spec hstep q n p
  refine ⟨htype, fun ev hev => hq ev (hsub hev), fun e he => ?_⟩
  obtain ⟨he, ev, hmem, hev⟩ := hspec e he
  exact ⟨he, ev, hq ev hmem, hev⟩

lemma deliversFor_kxtf9Step (enabled : Bool) :
    DeliversFor (fun _ => enabled = true) (kxtf9Step enabled) := by
  intro p ev
  unfold kxtf9Step
  cases ev.type <;> simp

lemma deliversFor_proximityStep : DeliversFor (fun ev => ev.type = .syn) proximityStep := by
  intro p ev
  unfold proximityStep
  cases hev : ev.type <;> simp [hev]

lemma deliversFor_lightStep : DeliversFor (fun ev => ev.type = .syn) lightStep := by
  intro p ev
  unfold lightStep
  cases hev : ev.type <;> simp [hev]

/-! ## Drivers that deliver events of activated sensors -/

/-- What is enabled is activated, and each driver prepares events of its own type. -/
structure PollContext.Sound (active : SensorType → Bool) (ctx : PollContext) : Prop where
  kxtf9 : ctx.kxtf9.enabled = true → active .accelerometer = true
  kxtf9_type : ctx.kxtf9.pending.type = .accelerometer
  akm : ∀ i, ctx.akm.enabled i = true → active i.type = true
  akm_typed : ctx.akm.pending.Typed
  islP_type : ctx.islP.pending.type = .proximity
  islL_type : ctx.islL.pending.type = .light

/-- The drivers of proximity and light have sync events only if their sensors are activated. -/
def Quiet (active : SensorType → Bool) (i : DriverId) (evs : List InputEvent) : Prop :=
  match i with
  | .islP => active .proximity = true ∨ NoSync evs
  | .islL => active .light = true ∨ NoSync evs
  | .kxtf9 | .akm => True

/-- A sound context whose readers have sync events for activated sensors only. -/
structure PollContext.Calm (active : SensorType → Bool) (ctx : PollContext) : Prop
    extends ctx.Sound active where
  islP_quiet : active .proximity = true ∨ NoSync ctx.islP.queue
  islL_quiet : active .light = true ∨ NoSync ctx.islL.queue

/-- A proximity or light event is delivered only if its sensor is activated. -/
lemma readEventsWith_sync (hstep : DeliversFor (fun ev => ev.type = .syn) step) {active : Bool}
    {queue : List InputEvent} {result : ReadResult InputEvent}
    (hqueue : active = true ∨ NoSync queue) (hevs : active = true ∨ NoSync result.evs)
    (p : SensorEvent) (count : Int) :
    (readEventsWith (readLoop step) p queue count result).state.type = p.type ∧
    (active = true ∨ NoSync (readEventsWith (readLoop step) p queue count result).queue) ∧
    ∀ e ∈ (readEventsWith (readLoop step) p queue count result).events,
      e.type = p.type ∧ active = true := by
  obtain ⟨htype, hmem, hevents⟩ := readEventsWith_readLoop hstep p queue count result
  have hsync : active = true ∨ ∀ ev, ev ∈ queue ∨ ev ∈ result.evs → ev.type ≠ .syn := by
    rcases hqueue with h | hqueue
    · exact .inl h
    · exact hevs.imp_right fun hevs ev hev => hev.elim (hqueue ev) (hevs ev)
  refine ⟨htype, hsync.imp_right fun h ev hev => h ev (hmem ev hev), fun e he => ?_⟩
  obtain ⟨he, ev, hev, hsyn⟩ := hevents e he
  exact ⟨he, hsync.resolve_right fun h => h ev hev hsyn⟩

variable {ctx : PollContext}

lemma PollContext.Calm.readEvents {active : SensorType → Bool} (h : ctx.Calm active) (i : DriverId)
    (count : Int) {result : ReadResult InputEvent} (hresult : Quiet active i result.evs) :
    (ctx.readEvents i count result).state.Calm active ∧
      ∀ e ∈ (ctx.readEvents i count result).events, active e.type = true := by
  cases i with
  | kxtf9 =>
    obtain ⟨htype, -, hevents⟩ := readEventsWith_readLoop
      (deliversFor_kxtf9Step ctx.kxtf9.enabled) ctx.kxtf9.pending ctx.kxtf9.queue count result
    refine ⟨{ h with kxtf9_type := htype.trans h.kxtf9_type }, fun e he => ?_⟩
    obtain ⟨he, -, -, henabled⟩ := hevents e he
    rw [he, h.kxtf9_type]
    exact h.kxtf9 henabled
  | akm =>
    obtain ⟨htyped, hevents⟩ := @readEventsWith_rule _ (akmLoop ctx.akm.enabled)
      ctx.akm.pending ctx.akm.queue result
      (fun d => d.state.Typed ∧ ∀ e ∈ d.events, ∃ i, ctx.akm.enabled i = true ∧ e.type = i.type)
      (fun q _ => ⟨⟨h.akm_typed, nofun⟩, fun n => akmLoop_spec _ q n h.akm_typed⟩) count
    refine ⟨{ h with akm_typed := htyped }, fun e he => ?_⟩
    obtain ⟨i, hi, he⟩ := hevents e he
    rw [he]
    exact h.akm i hi
  | islP =>
    obtain ⟨htype, hqueue, hevents⟩ := readEventsWith_sync deliversFor_proximityStep h.islP_quiet
      hresult ctx.islP.pending count
    refine ⟨{ h with islP_type := htype.trans h.islP_type, islP_quiet := hqueue }, fun e he => ?_⟩
    obtain ⟨he, hactive⟩ := hevents e he
    rw [he, h.islP_type, hactive]
  | islL =>
    obtain ⟨htype, hqueue, hevents⟩ := readEventsWith_sync deliversFor_lightStep h.islL_quiet
      hresult ctx.islL.pending count
    refine ⟨{ h with islL_type := htype.trans h.islL_type, islL_quiet := hqueue }, fun e he => ?_⟩
    obtain ⟨he, hactive⟩ := hevents e he
    rw [he, h.islL_type, hactive]

lemma PollContext.Calm.setRevents {active : SensorType → Bool} (h : ctx.Calm active)
    (revents : DriverId → Bool) : PollContext.Calm active { ctx with revents := revents } :=
  { h with }

variable {rounds : List PollRound}

/-- A poll of a calm context delivers events of activated sensors, and leaves it calm. -/
lemma PollContext.Calm.pollEvents {active : SensorType → Bool} (h : ctx.Calm active) (count : Int)
    (hrounds : ∀ r ∈ rounds, ∀ i, Quiet active i (r.reads i).evs) :
    (ctx.pollEvents count rounds).state.ctx.Calm active ∧
      ∀ w ∈ (ctx.pollEvents count rounds).state.writes, active w.2.type = true := by
  refine pollLoop_rule (fun s => s.ctx.Calm active ∧ ∀ w ∈ s.writes, active w.2.type = true)
    (fun i result => Quiet active i result.evs) ?_ ?_ rounds hrounds ?_
  · rintro s i result ⟨hctx, hwrites⟩ hresult
    unfold PollState.readDriver
    split_ifs
    · obtain ⟨hstate, hevents⟩ := hctx.readEvents i s.count hresult
      refine ⟨?_, fun w hw => ?_⟩
      · simp only
        split_ifs
        · exact hstate.setRevents _
        · exact hstate
      · rcases mem_append.mp hw with hw | hw
        · exact hwrites w hw
        · exact hevents w.2 (mem_placeFrom hw).2.2
    · exact ⟨hctx, hwrites⟩
  · exact fun s revents hs => ⟨hs.1.setRevents revents, hs.2⟩
  · exact ⟨h, fun w hw => absurd hw not_mem_nil⟩

/-! ## Activation -/

lemma errRet_eq_zero_iff {error : Option Errno} : errRet error = 0 ↔ error.isNone = true := by
  cases error with
  | none => exact ⟨fun _ => rfl, fun _ => rfl⟩
  | some errno =>
    have := errno.ret_neg
    exact ⟨fun h => absurd h (Int.ne_of_lt this), fun h => nomatch h⟩

/-- The mark for a use of the accelerometer changes exactly if no error is returned. -/
lemma kxtf9SetUse_spec (mine other devOpen en : Bool) (env : IoctlEnv) :
    (kxtf9SetUse mine other devOpen en env).1 =
      if (kxtf9SetUse mine other devOpen en env).2.2 = 0 then en else mine := by
  unfold kxtf9SetUse
  by_cases hsame : en = mine
  · rw [if_pos hsame, if_pos rfl, hsame]
  · rw [if_neg hsame]
    by_cases hother : (other && !en) = true
    · rw [if_pos hother, if_pos rfl]
    · rw [if_neg hother]
      simp only [errRet_eq_zero_iff]

lemma kxtf9SetUse_of_follows {s : Kxtf9Sensor} {env : IoctlEnv} (h : s.Follows env) :
    (s.enableOrientation true env).2 = 0 := by
  unfold Kxtf9Sensor.enableOrientation kxtf9SetUse
  rcases h with h | ⟨hopen, herror⟩
  · simp [h]
  · simp only [Bool.not_true, Bool.and_false, Bool.false_eq_true, if_false, if_true, ioctlError,
      if_pos hopen, herror]
    split_ifs <;> rfl

@[simp] lemma AkmSensor.pending_enable (s : AkmSensor) (i : AkmId) (en : Bool)
    (env : AkmEnableEnv) : (s.enable i en env).pending = s.pending := by
  unfold enable
  split_ifs
  · rfl
  · unfold updateDelay
    simp only
    split_ifs <;> rfl

@[simp] lemma AkmSensor.enabled_enable (s : AkmSensor) (i : AkmId) (en : Bool)
    (env : AkmEnableEnv) : (s.enable i en env).enabled = update s.enabled i en := by
  unfold enable
  split_ifs with h
  · rw [← h, update_eq_self]
  · exact enabled_updateDelay _ _

@[simp] lemma IslSensor.pending_enableP (s : IslSensor) (en : Bool) (env : IoctlEnv) :
    (s.enableP en env).1.pending = s.pending := by
  unfold IslSensor.enableP
  split_ifs <;> rfl

@[simp] lemma IslSensor.pending_enableL (s : IslSensor) (en : Bool) (env : IoctlEnv) :
    (s.enableL en env).1.pending = s.pending := by
  unfold IslSensor.enableL
  split_ifs
  · rfl
  · exact s.pending_enableP en env

lemma PollDevice.sound_start {env : ContextEnv} (h : env.Off) :
    (start env).ctx.Sound (start env).active := by
  obtain ⟨hflags, hmv, ha⟩ := h
  refine ⟨fun hk => ?_, rfl, fun i hi => ?_, fun i => rfl, rfl, rfl⟩
  · simp [start, PollContext.start, Kxtf9Sensor.start, hflags] at hk
  · have hoff : ∀ i, (AkmAotController.start env.akmFlags env.akm).getEnabled i = false :=
      AkmAotController.getEnabled_start (.inr hmv) (.inr ha)
    cases i <;> simp [start, PollContext.start, AkmSensor.start, hoff] at hi

variable {d : PollDevice}

namespace PollDevice

lemma active_activate {type type' : SensorType} {en : Bool} {env : ActivateEnv}
    (hne : type' ≠ type) (h : d.active type' = true) :
    (d.next (.activate (some type) en env)).active type' = true := by
  simp only [next]
  split_ifs
  · rw [update_of_ne hne, h]
  · exact h

lemma active_activate_self (d : PollDevice) (type : SensorType) (en : Bool)
    (env : ActivateEnv) : (d.next (.activate (some type) en env)).active type =
      if (d.ctx.activate (some type) en env).2 = 0 then en else d.active type := by
  simp only [next]
  split_ifs
  · exact update_self ..
  · rfl

lemma sound_activate (h : d.ctx.Sound d.active) {handle : Option SensorType} {en : Bool}
    {env : ActivateEnv} (htame : (activate handle en env).Tame d) :
    (d.next (.activate handle en env)).ctx.Sound (d.next (.activate handle en env)).active := by
  match handle with
  | none => exact h
  | some .accelerometer =>
    have hspec := kxtf9SetUse_spec d.ctx.kxtf9.enabled d.ctx.kxtf9.orientationEnabled
      d.ctx.kxtf9.devOpen en env.device
    refine { h with kxtf9 := fun hk => ?_, akm := fun i hi => ?_ }
    · rw [active_activate_self]
      replace hk := hspec.symm.trans hk
      by_cases herr : (d.ctx.activate (some .accelerometer) en env).2 = 0
      · rw [if_pos herr]
        exact (if_pos herr).symm.trans hk
      · rw [if_neg herr]
        exact h.kxtf9 ((if_neg herr).symm.trans hk)
    · exact active_activate (by cases i <;> decide) (h.akm i hi)
  | some .magneticField =>
    refine { h with kxtf9 := fun hk => ?_, akm := fun i hi => ?_, akm_typed := ?_ }
    · exact active_activate (by decide) (h.kxtf9 hk)
    · simp only [next, PollContext.activate, enabled_enable] at hi
      cases i with
      | magneticField =>
        rw [update_self] at hi
        exact (active_activate_self ..).trans hi
      | orientation => exact active_activate (by decide) (h.akm .orientation hi)
    · simpa [next, PollContext.activate] using h.akm_typed
  | some .orientation =>
    refine { h with kxtf9 := fun hk => ?_, akm := fun i hi => ?_, akm_typed := ?_ }
    · exact active_activate (by decide) (h.kxtf9 hk)
    · simp only [next, PollContext.activate, enabled_enable] at hi
      cases i with
      | magneticField => exact active_activate (by decide) (h.akm .magneticField hi)
      | orientation =>
        rw [update_self] at hi
        subst hi
        refine (active_activate_self ..).trans ?_
        -- the call may fail after the compass was enabled
        split_ifs with herr
        · rfl
        · rcases htame with htame | htame
          · exact htame
          · exact absurd (kxtf9SetUse_of_follows htame) herr
    · simpa [next, PollContext.activate] using h.akm_typed
  | some .light =>
    refine { h with kxtf9 := fun hk => ?_, akm := fun i hi => ?_, islL_type := ?_ }
    · exact active_activate (by decide) (h.kxtf9 hk)
    · exact active_activate (by cases i <;> decide) (h.akm i hi)
    · simpa [next, PollContext.activate] using h.islL_type
  | some .proximity =>
    refine { h with kxtf9 := fun hk => ?_, akm := fun i hi => ?_, islP_type := ?_ }
    · exact active_activate (by decide) (h.kxtf9 hk)
    · exact active_activate (by cases i <;> decide) (h.akm i hi)
    · simpa [next, PollContext.activate] using h.islP_type

/-! ## Polls -/

lemma SyncsActive.queue {type : SensorType} {i : DriverId} {queue : List InputEvent}
    (h : d.SyncsActive type i queue rounds) : d.active type = true ∨ NoSync queue :=
  h.imp_right And.left

lemma SyncsActive.reads {type : SensorType} {i : DriverId} {queue : List InputEvent}
    (h : d.SyncsActive type i queue rounds) {r : PollRound} (hr : r ∈ rounds) :
    d.active type = true ∨ NoSync (r.reads i).evs :=
  h.imp_right fun h => h.2 r hr

lemma poll_spec (h : d.ctx.Sound d.active) {count : Int} (htame : (poll count rounds).Tame d) :
    (d.ctx.pollEvents count rounds).state.ctx.Calm d.active ∧ d.PollsActive count rounds := by
  obtain ⟨hP, hL⟩ := htame
  have hcalm : d.ctx.Calm d.active := { h with islP_quiet := hP.queue, islL_quiet := hL.queue }
  refine hcalm.pollEvents count fun r hr i => ?_
  cases i with
  | kxtf9 => trivial
  | akm => trivial
  | islP => exact hP.reads hr
  | islL => exact hL.reads hr

end PollDevice

/-- **Polls return events of activated sensors.**  In every run in which nothing is enabled at the
start, the orientation sensor is activated only if it is already or if the accelerometer follows,
and polls find sync events of proximity and light only while the sensor is activated, each poll
returns events of sensors that are activated then. -/
theorem polled_events_active {d : PollDevice}
    (hr : PollDevice.ReachableWith ContextEnv.Off (fun d call => call.Tame d) d) {count : Int}
    {rounds : List PollRound} (htame : (DeviceCall.poll count rounds).Tame d) :
    d.PollsActive count rounds := by
  have h : d.ctx.Sound d.active := by
    refine hr.invariant (fun d => d.ctx.Sound d.active) ?_ ?_
    · rintro d ⟨env, hoff, rfl⟩
      exact sound_start hoff
    · rintro d call d' hd ⟨htame, rfl⟩
      cases call with
      | activate handle en env => exact sound_activate hd htame
      | poll count rounds => exact (poll_spec hd htame).1.toSound
  exact (poll_spec h htame).2

/-- System calls that succeed when a sensor is activated. -/
def goodActivate : ActivateEnv := ⟨goodIoctl, ⟨goodIoctl, goodIoctl, goodIoctl⟩⟩

/-- Rounds in which two drivers get the same sync event. -/
def syncRounds (i j : DriverId) : List PollRound :=
  [⟨fun _ => .events [], .ready 1 fun k => k = i ∨ k = j⟩,
    ⟨sampleReads i j (.events [syncInput]) (.events [syncInput]), .ready 0 fun _ => false⟩]

/-- With the accelerometer activated, a poll returns its event. -/
theorem accelerometer_polled : ∃ d : PollDevice, d.PollsActive 4 (syncRounds .kxtf9 .akm) ∧
      (d.ctx.pollEvents 4 (syncRounds .kxtf9 .akm)).state.writes =
        [(0, .blank .accelerometer statusAccuracyHigh)] := by
  have hr : PollDevice.ReachableWith ContextEnv.Off (fun d call => call.Tame d)
      ((start sampleEnv).next (.activate (some .accelerometer) true goodActivate)) :=
    .next (i := .activate (some .accelerometer) true goodActivate)
      (.start ⟨_, ⟨rfl, rfl, rfl⟩, rfl⟩) ⟨trivial, rfl⟩
  have htame : (poll 4 (syncRounds .kxtf9 .akm)).Tame
      ((start sampleEnv).next (.activate (some .accelerometer) true goodActivate)) := by
    constructor <;>
      exact .inr ⟨by decide, by simp [syncRounds, sampleReads, ReadResult.evs, NoSync]⟩
  exact ⟨_, polled_events_active hr htame, by decide +kernel⟩

/-- With the light sensor activated, a poll returns a proximity event. -/
theorem proximity_polled_with_light :
    ¬∀ d : PollDevice, PollDevice.ReachableWith (fun _ => True) (fun _ _ => True) d →
      ∀ count rounds, d.PollsActive count rounds := by
  intro h
  have hr : PollDevice.ReachableWith (fun _ => True) (fun _ _ => True)
      ((start sampleEnv).next (.activate (some .light) true goodActivate)) :=
    .next (.start ⟨_, trivial, rfl⟩) ⟨trivial, rfl⟩
  have hactive := h _ hr 4 (syncRounds .islP .islL) (0, .blank .proximity 0) (by decide +kernel)
  exact absurd hactive (by decide +kernel)

end Solana.Sensors
