import Solana.Lib.Runs
import Solana.Sensors.Drivers

/-!
# The poll device of the sensors library

`sensors_poll_context_t` has the four drivers.  A poll goes over the drivers that have input, reads
events from each into what is left of the caller's array, and waits for more input until there is no
room or nothing to wait for.  The array is given by the positions of its entries, from 0 on; a
position that is negative or not below the count is outside.

What a driver's read returns is taken off the room, be it a number of events or an error.
`poll_writes_in_range` says that a poll is right if no read of an input device fails, and that no
way of failing can be allowed.
-/

namespace Solana.Sensors

open Runs List

/-! ## The context -/

/-- The drivers, in their order. -/
inductive DriverId
  | kxtf9
  | akm
  | islP
  | islL
  deriving DecidableEq

/-- The drivers below `numSensorDrivers`. -/
def DriverId.all : List DriverId := [.kxtf9, .akm, .islP, .islL]

/-- `sensors_poll_context_t`. -/
structure PollContext where
  kxtf9 : Kxtf9Sensor
  akm : AkmSensor
  islP : IslSensor
  islL : IslSensor
  /-- `POLLIN` is set in a driver's `revents`. -/
  revents : DriverId → Bool

/-- What is found when the context is made. -/
structure ContextEnv where
  kxtf9 : IoctlEnv
  kxtf9Flags : Bool
  akmFlags : AkmFlags
  akm : AkmStartEnv
  akmValues : AkmId → SensorData
  islP : IoctlEnv
  islPEnabled : Bool
  islL : IoctlEnv
  islLEnabled : Bool

/-- The constructor of `sensors_poll_context_t`. -/
def PollContext.start (env : ContextEnv) : PollContext where
  kxtf9 := .start env.kxtf9 env.kxtf9Flags
  akm := .start (.start env.akmFlags env.akm) env.akmValues
  islP := .start .proximity env.islP env.islPEnabled
  islL := .start .light env.islL env.islLEnabled
  revents := fun _ => false

/-- The system calls of `activate`. -/
structure ActivateEnv where
  /-- On the device of the accelerometer, the light or the proximity sensor. -/
  device : IoctlEnv
  akm : AkmEnableEnv

/-- `sensors_poll_context_t::activate`, with the returned error; the handle may be no sensor's. -/
def PollContext.activate (ctx : PollContext) (handle : Option SensorType) (enabled : Bool)
    (env : ActivateEnv) : PollContext × Int :=
  match handle with
  | none => (ctx, Errno.einval.ret)
  | some .accelerometer =>
    let (s, err) := ctx.kxtf9.enable enabled env.device
    ({ ctx with kxtf9 := s }, err)
  | some .magneticField => ({ ctx with akm := ctx.akm.enable .magneticField enabled env.akm }, 0)
  | some .orientation =>
    let (s, err) := ctx.kxtf9.enableOrientation enabled env.device
    ({ ctx with akm := ctx.akm.enable .orientation enabled env.akm, kxtf9 := s }, err)
  | some .light =>
    let (s, err) := ctx.islL.enableL enabled env.device
    ({ ctx with islL := s }, err)
  | some .proximity =>
    let (s, err) := ctx.islP.enableP enabled env.device
    ({ ctx with islP := s }, err)

/-- `readEvents` of a driver. -/
def PollContext.readEvents (ctx : PollContext) (i : DriverId) (count : Int)
    (result : ReadResult InputEvent) : Read PollContext :=
  match i with
  | .kxtf9 =>
    let r := ctx.kxtf9.readEvents count result
    { r with state := { ctx with kxtf9 := r.state } }
  | .akm =>
    let r := ctx.akm.readEvents count result
    { r with state := { ctx with akm := r.state } }
  | .islP =>
    let r := ctx.islP.readEvents proximityStep count result
    { r with state := { ctx with islP := r.state } }
  | .islL =>
    let r := ctx.islL.readEvents lightStep count result
    { r with state := { ctx with islL := r.state } }

/-! ## Polling -/

/-- Events in consecutive entries of the caller's array. -/
def placeFrom : Int → List SensorEvent → List (Int × SensorEvent)
  | _, [] => []
  | i, e :: es => (i, e) :: placeFrom (i + 1) es

/-- The variables of `pollEvents`. -/
structure PollState where
  ctx : PollContext
  count : Int
  nbEvents : Int
  /-- The position of `data` in the caller's array. -/
  data : Int
  /-- The events that were written, with their positions. -/
  writes : List (Int × SensorEvent)
  /-- The positions that were handed to `forwardEvents`. -/
  forwards : List Int

/-- A driver's turn in the loop of `pollEvents`. -/
def PollState.readDriver (s : PollState) (result : ReadResult InputEvent) (i : DriverId) :
    PollState :=
  if s.count ≠ 0 ∧ s.ctx.revents i = true then
    let r := s.ctx.readEvents i s.count result
    { ctx := if r.ret < s.count then
          { r.state with revents := Function.update r.state.revents i false }
        else r.state
      count := s.count - r.ret
      nbEvents := s.nbEvents + r.ret
      data := s.data + r.ret
      writes := s.writes ++ placeFrom s.data r.events
      forwards :=
        if r.ret ≠ 0 ∧ i = .kxtf9 then s.forwards ++ [s.data + r.ret - 1] else s.forwards }
  else s

/-- The loop over the drivers. -/
def PollState.readDrivers (s : PollState) (results : DriverId → ReadResult InputEvent) :
    PollState :=
  DriverId.all.foldl (fun s i => s.readDriver (results i) i) s

/-- What `poll` returns. -/
inductive PollReady
  | failed (errno : Errno)
  | ready (n : Nat) (revents : DriverId → Bool)

/-- A round of the loop of `pollEvents`: what reading from the input devices returns, and `poll`. -/
structure PollRound where
  reads : DriverId → ReadResult InputEvent
  poll : PollReady

/-- How `pollEvents` ends. -/
inductive PollEnd
  | failed (errno : Errno)
  | done

/-- What `pollEvents` has done, and how it ended if it has. -/
structure PollOut where
  state : PollState
  ended : Option PollEnd

/-- What `pollEvents` returns, if it does. -/
def PollOut.ret (out : PollOut) : Option Int :=
  out.ended.map fun
    | .failed errno => errno.ret
    | .done => out.state.nbEvents

/-- The loop of `pollEvents`, as long as there are rounds. -/
def pollLoop : List PollRound → PollState → PollOut
  | [], s => ⟨s, none⟩
  | r :: rounds, s =>
    let s := s.readDrivers r.reads
    if s.count = 0 then ⟨s, some .done⟩
    else
      match r.poll with
      | .failed errno => ⟨s, some (.failed errno)⟩
      | .ready n revents =>
        let s := { s with ctx := { s.ctx with revents := revents } }
        if n = 0 then ⟨s, some .done⟩ else pollLoop rounds s

/-- `sensors_poll_context_t::pollEvents`. -/
def PollContext.pollEvents (ctx : PollContext) (count : Int) (rounds : List PollRound) : PollOut :=
  pollLoop rounds ⟨ctx, count, 0, 0, [], []⟩

/-- What each driver's turn keeps, a poll keeps. -/
lemma pollLoop_rule (P : PollState → Prop) (Ok : DriverId → ReadResult InputEvent → Prop)
    (hread : ∀ s i result, P s → Ok i result → P (s.readDriver result i))
    (hready : ∀ s revents, P s → P { s with ctx := { s.ctx with revents := revents } }) :
    ∀ (rounds : List PollRound) {s : PollState}, (∀ r ∈ rounds, ∀ i, Ok i (r.reads i)) → P s →
      P (pollLoop rounds s).state
  | [], _, _, h => h
  | r :: rounds, s, hok, h => by
    have hdrivers : P (s.readDrivers r.reads) := by
      unfold PollState.readDrivers
      generalize DriverId.all = is
      induction is generalizing s with
      | nil => exact h
      | cons i is ih => exact ih _ (hread s i _ h (hok r mem_cons_self i))
    unfold pollLoop
    simp only
    split_ifs
    · exact hdrivers
    · cases r.poll with
      | failed errno => exact hdrivers
      | ready n revents =>
        have hready := hready _ revents hdrivers
        simp only
        split_ifs
        · exact hready
        · exact pollLoop_rule P Ok hread ‹_› rounds
            (fun r' hr' => hok r' (mem_cons_of_mem r hr')) hready

/-! ## The caller's array -/

/-- The poll has written only into the caller's array. -/
def PollOut.InRange (out : PollOut) (count : Int) : Prop :=
  ∀ w ∈ out.state.writes, 0 ≤ w.1 ∧ w.1 < count

/-- What the poll returns is negative, or the number of events that it has written. -/
def PollOut.ReturnsNumber (out : PollOut) (count : Int) : Prop :=
  ∀ ret, out.ret = some ret → ret < 0 ∨ (ret = out.state.writes.length ∧ ret ≤ count)

lemma mem_placeFrom {w : Int × SensorEvent} : ∀ {es : List SensorEvent} {i : Int},
    w ∈ placeFrom i es → i ≤ w.1 ∧ w.1 < i + es.length ∧ w.2 ∈ es
  | [], _, h => absurd h not_mem_nil
  | e :: es, i, h => by
    rcases mem_cons.mp h with rfl | h
    · simp only [length_cons, mem_cons_self, and_true]
      omega
    · obtain ⟨hle, hlt, hmem⟩ := mem_placeFrom h
      simp only [length_cons]
      exact ⟨by omega, by omega, mem_cons_of_mem e hmem⟩

@[simp] lemma length_placeFrom : ∀ (es : List SensorEvent) (i : Int),
    (placeFrom i es).length = es.length
  | [], _ => rfl
  | _ :: es, i => congrArg (· + 1) (length_placeFrom es (i + 1))

lemma PollContext.readEvents_ret (ctx : PollContext) (i : DriverId) {count : Int}
    (hcount : 0 < count) (result : ReadResult InputEvent) :
    ((ctx.readEvents i count result).ret < 0 ∧ (ctx.readEvents i count result).events = []) ∨
      ((ctx.readEvents i count result).ret = (ctx.readEvents i count result).events.length ∧
        (ctx.readEvents i count result).ret ≤ count) := by
  cases i with
  | kxtf9 => exact readEventsWith_ret length_readLoop_le _ _ hcount result
  | akm => exact readEventsWith_ret (length_akmLoop_le _) _ _ hcount result
  | islP => exact readEventsWith_ret length_readLoop_le _ _ hcount result
  | islL => exact readEventsWith_ret length_readLoop_le _ _ hcount result

variable {count : Int}

/-- The read of an input device returns whole events. -/
def ReadResult.whole {α : Type*} : ReadResult α → Bool
  | .events _ => true
  | .failed _ | .part => false

lemma readEventsWith_ret_nonneg {σ : Type} (drain : List InputEvent → Nat → σ → Drained σ)
    (state : σ) (queue : List InputEvent) {count : Int} (hcount : 0 < count)
    {result : ReadResult InputEvent} (hwhole : result.whole = true) :
    0 ≤ (readEventsWith drain state queue count result).ret := by
  have hfill : 0 ≤ (fillQueue readerSize queue result).2 := by
    unfold fillQueue
    cases result with
    | failed errno => cases hwhole
    | part => cases hwhole
    | events evs =>
      split_ifs
      · exact Int.le_refl 0
      · exact Int.natCast_nonneg _
  unfold readEventsWith
  rw [if_neg (by omega)]
  simp only
  rw [if_neg (by omega)]
  exact Int.natCast_nonneg _

lemma PollContext.readEvents_ret_nonneg (ctx : PollContext) (i : DriverId) (hcount : 0 < count)
    {result : ReadResult InputEvent} (hwhole : result.whole = true) :
    0 ≤ (ctx.readEvents i count result).ret := by
  cases i with
  | kxtf9 => exact readEventsWith_ret_nonneg (readLoop (kxtf9Step _)) _ _ hcount hwhole
  | akm => exact readEventsWith_ret_nonneg (akmLoop _) _ _ hcount hwhole
  | islP => exact readEventsWith_ret_nonneg (readLoop proximityStep) _ _ hcount hwhole
  | islL => exact readEventsWith_ret_nonneg (readLoop lightStep) _ _ hcount hwhole

/-- The variables of `pollEvents` while every read has returned a number of events. -/
structure PollState.Counts (count : Int) (s : PollState) : Prop where
  room : s.count = count - s.writes.length
  room_nonneg : 0 ≤ s.count
  nbEvents : s.nbEvents = s.writes.length
  data : s.data = s.writes.length
  inRange : ∀ w ∈ s.writes, 0 ≤ w.1 ∧ w.1 < count

lemma PollState.Counts.readDriver {s : PollState} (h : s.Counts count)
    {result : ReadResult InputEvent} (hwhole : result.whole = true) (i : DriverId) :
    (s.readDriver result i).Counts count := by
  unfold PollState.readDriver
  split_ifs with hc
  · have hpos : 0 < s.count := by
      have := h.room_nonneg
      omega
    have hnonneg := s.ctx.readEvents_ret_nonneg i hpos hwhole
    have hret := s.ctx.readEvents_ret i hpos result
    generalize s.ctx.readEvents i s.count result = r at hnonneg hret
    -- the read has not failed, so what it returns is the number of its events
    obtain ⟨hev, hle⟩ := hret.resolve_left fun hneg => by omega
    obtain ⟨hroom, hroom_nonneg, hnb, hdata, hrange⟩ := h
    have hlen : ((s.writes ++ placeFrom s.data r.events).length : Int) =
        s.writes.length + r.events.length := by simp
    refine ⟨?_, ?_, ?_, ?_, fun w hw => ?_⟩
    · simp only [hlen]
      omega
    · simp only
      omega
    · simp only [hlen]
      omega
    · simp only [hlen]
      omega
    · rcases mem_append.mp hw with hw | hw
      · exact hrange w hw
      · have := mem_placeFrom hw
        omega
  · exact h

lemma PollState.counts_pollEvents (ctx : PollContext) (hcount : 1 ≤ count)
    {rounds : List PollRound} (hwhole : ∀ r ∈ rounds, ∀ i, (r.reads i).whole = true) :
    (ctx.pollEvents count rounds).state.Counts count := by
  refine pollLoop_rule (fun s => s.Counts count) (fun _ result => result.whole = true) ?_ ?_ rounds
    hwhole ?_
  · exact fun s i result h hwhole => h.readDriver hwhole i
  · exact fun s revents h => ⟨h.1, h.2, h.3, h.4, h.5⟩
  · exact ⟨by simp, by simp only; omega, rfl, rfl, fun w hw => absurd hw not_mem_nil⟩

lemma PollOut.returnsNumber_of_counts {out : PollOut} (h : out.state.Counts count) :
    out.ReturnsNumber count := by
  obtain ⟨state, ended⟩ := out
  unfold PollOut.ReturnsNumber PollOut.ret
  match ended with
  | none => simp
  | some (.failed errno) => simp [errno.ret_neg]
  | some .done =>
    rintro ret ⟨⟩
    have hroom := h.room
    have hnonneg := h.room_nonneg
    have hnb := h.nbEvents
    simp only at hroom hnonneg hnb ⊢
    omega

/-! ## A read that fails -/

/-- What is found when the context is made, all system calls succeed and all sensors are off. -/
def sampleEnv : ContextEnv :=
  let good : IoctlEnv := ⟨true, none⟩
  ⟨good, false, ⟨0, 0, 0⟩, ⟨good, good, good⟩, fun _ => ⟨0, 0, 0, 0⟩, good, false, good, false⟩

/-- The context that is made then, with input for all drivers. -/
def sampleContext : PollContext := { PollContext.start sampleEnv with revents := fun _ => true }

/-- Input that is complete. -/
def syncInput : InputEvent := ⟨.syn, .other, 0, 0⟩

/-- What the reads of a round return: no event but for two drivers. -/
def sampleReads (i j : DriverId) (ri rj : ReadResult InputEvent) (k : DriverId) :
    ReadResult InputEvent :=
  if k = i then ri else if k = j then rj else .events []

/-- A read that fails leaves an empty queue as it is and returns a negative number. -/
lemma fillQueue_nil_of_not_whole {result : ReadResult InputEvent} (h : result.whole = false) :
    ∃ n : Nat, fillQueue readerSize [] result = ([], Int.negSucc n) := by
  cases result with
  | failed errno =>
    obtain ⟨_ | n, hpos⟩ := errno
    · exact absurd hpos (Nat.lt_irrefl 0)
    · exact ⟨n, rfl⟩
  | part => exact ⟨21, rfl⟩
  | events evs => cases h

/-- The proximity and the light sensor have input. -/
def sampleLit : PollContext :=
  { sampleContext with revents := fun i => i = .islP || i = .islL }

/-- A round in which the proximity sensor's read fails and light is delivered. -/
def failedRound (result : ReadResult InputEvent) : PollRound :=
  ⟨sampleReads .islP .islL result (.events [syncInput]), .ready 0 fun _ => false⟩

lemma writes_failedRound {result : ReadResult InputEvent} {n : Nat}
    (hfill : fillQueue readerSize [] result = ([], Int.negSucc n)) :
    (sampleLit.pollEvents 8 [failedRound result]).state.writes =
      [(Int.negSucc n, .blank .light 0)] := by
  have hread : sampleLit.readEvents .islP 8 result = ⟨sampleLit, [], Int.negSucc n, []⟩ := by
    have hqueue : sampleLit.islP.queue = [] := rfl
    simp only [PollContext.readEvents, IslSensor.readEvents, readEventsWith, hqueue, hfill,
      if_pos (Int.negSucc_lt_zero n)]
    rfl
  -- the room grows by what the failed read returns and the position goes below 0
  have hturn : (⟨sampleLit, 8, 0, 0, [], []⟩ : PollState).readDriver result .islP =
      ⟨{ sampleLit with revents := Function.update sampleLit.revents .islP false },
        (8 + n + 1 : Nat), Int.negSucc n, Int.negSucc n, [], []⟩ := by
    unfold PollState.readDriver
    rw [if_pos ⟨by decide, rfl⟩]
    simp only [hread]
    rw [if_pos (by omega)]
    rfl
  have hdrivers : ((⟨sampleLit, 8, 0, 0, [], []⟩ : PollState).readDrivers
      (failedRound result).reads).writes = [(Int.negSucc n, .blank .light 0)] :=
    calc
      _ = (((⟨sampleLit, 8, 0, 0, [], []⟩ : PollState).readDriver result .islP).readDriver
          (.events [syncInput]) .islL).writes := rfl
      _ = _ := by
        rw [hturn]
        rfl
  unfold PollContext.pollEvents pollLoop
  simp only
  split <;> exact hdrivers

/-- **A poll stays in the caller's array.**  If every read of an input device returns whole events,
the poll writes into the first `count` entries only, and returns an error or the number of events it
has written.  No other outcome of a read can be allowed beside these: for each there is a poll in
which it is the only one and an event is written before the array. -/
theorem poll_writes_in_range (ctx : PollContext) {count : Int} (hcount : 1 ≤ count)
    (rounds : List PollRound) : ((∀ r ∈ rounds, ∀ i, (r.reads i).whole = true) →
      (ctx.pollEvents count rounds).InRange count ∧
        (ctx.pollEvents count rounds).ReturnsNumber count) ∧
    ∀ result : ReadResult InputEvent, result.whole = false →
      ∃ (ctx : PollContext) (count : Int) (rounds : List PollRound), 1 ≤ count ∧
        (∀ r ∈ rounds, ∀ i, (r.reads i).whole = true ∨ r.reads i = result) ∧
        ¬(ctx.pollEvents count rounds).InRange count := by
  refine ⟨fun hwhole => ?_, fun result hresult => ?_⟩
  · have h := PollState.counts_pollEvents ctx hcount hwhole
    exact ⟨h.inRange, PollOut.returnsNumber_of_counts h⟩
  · obtain ⟨n, hfill⟩ := fillQueue_nil_of_not_whole hresult
    refine ⟨sampleLit, 8, [failedRound result], by decide, fun r hr i => ?_, fun hrange => ?_⟩
    · rw [mem_singleton.mp hr]
      cases i with
      | islP => exact .inr rfl
      | kxtf9 | akm | islL => exact .inl rfl
    · have hmem : (Int.negSucc n, SensorEvent.blank .light 0) ∈
          (sampleLit.pollEvents 8 [failedRound result]).state.writes := by
        rw [writes_failedRound hfill]
        exact mem_singleton_self _
      exact absurd (hrange _ hmem).1 (by omega)

/-- Every driver has input and there is room for one event. -/
theorem one_event_in_range :
    (sampleContext.pollEvents 1 [⟨fun _ => .events [syncInput], .ready 0 fun _ => false⟩]
      ).InRange 1 ∧
    (sampleContext.pollEvents 1 [⟨fun _ => .events [syncInput], .ready 0 fun _ => false⟩]
      ).ReturnsNumber 1 :=
  (poll_writes_in_range _ (by decide) _).1 (by
    intro r hr i
    rw [mem_singleton.mp hr]
    rfl)

/-- A read of the accelerometer's input fails and light is delivered: the event is written before
the array.  Two proximity events are delivered and a read of the light sensor's input fails: the
poll returns 1. -/
theorem failed_read_moves_events :
    (¬∀ (ctx : PollContext) (count : Int) (rounds : List PollRound), 1 ≤ count →
      (ctx.pollEvents count rounds).InRange count) ∧
    ¬∀ (ctx : PollContext) (count : Int) (rounds : List PollRound), 1 ≤ count →
      (ctx.pollEvents count rounds).ReturnsNumber count := by
  constructor
  · intro h
    have h := h sampleContext 8
      [⟨sampleReads .kxtf9 .islL (.failed ⟨5, by decide⟩) (.events [syncInput]),
        .ready 0 fun _ => false⟩] (by decide) (-5, .blank .light 0) (by decide +kernel)
    exact absurd h.1 (by decide)
  · intro h
    have h := h sampleContext 8
      [⟨sampleReads .islP .islL (.events [syncInput, syncInput]) (.failed ⟨1, by decide⟩),
        .ready 0 fun _ => false⟩] (by decide) 1 (by decide +kernel)
    exact absurd h (by decide +kernel)

end Solana.Sensors
