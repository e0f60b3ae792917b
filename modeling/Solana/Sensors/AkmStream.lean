import Solana.Sensors.Drivers
import Mathlib.Data.List.DropRight

/-!
# What the compass delivers

The kernel hands over one stream of input events.  A sync event closes the values before it, and is
to give one sensor event for each sensor of the compass that is enabled and got a value since the
previous sync (`expectedFrom`).

`AkmSensor::readEvents` reads the stream in pieces, and has room for so many sensor events in each
call: it stops where the room ends, also between the two sensors of a sync event, which it then
leaves in the reader.  `compass_delivers`: whatever the pieces and the rooms are, the calls deliver
the expected events in order, and all of those for the events read when a call has room left.
-/

namespace Solana.Sensors

open InputEvent AkmId AkmPending

/-! ## The expected events -/

/-- The codes that the values of a sensor come with. -/
structure AkmCodes where
  x : EvCode
  y : EvCode
  z : EvCode
  status : EvCode

/-- The codes of a sensor of the compass. -/
def AkmId.codes : AkmId → AkmCodes
  | .magneticField => ⟨.absHat0X, .absHat0Y, .absBrake, .absGas⟩
  | .orientation => ⟨.absRX, .absRY, .absRZ, .absRudder⟩

/-- An input event brings a value for a code. -/
def InputEvent.brings (ev : InputEvent) (code : EvCode) : Bool := ev.type = .abs ∧ ev.code = code

/-- An input event brings a value for a sensor. -/
def InputEvent.updates (ev : InputEvent) (i : AkmId) : Bool :=
  ev.brings i.codes.x || ev.brings i.codes.y || ev.brings i.codes.z || ev.brings i.codes.status

/-- The last value for a code. -/
def lastValue (evs : List InputEvent) (code : EvCode) : Option Int :=
  (evs.filter (·.brings code)).getLast?.map InputEvent.value

/-- The latest values of a sensor, after those it starts with. -/
def latest (evs : List InputEvent) (i : AkmId) (first : SensorData) : SensorData where
  x := (lastValue evs i.codes.x).getD first.x
  y := (lastValue evs i.codes.y).getD first.y
  z := (lastValue evs i.codes.z).getD first.z
  status := ((lastValue evs i.codes.status).map statusByte).getD first.status

/-- The events after the last sync event. -/
def sinceSync (evs : List InputEvent) : List InputEvent := evs.rtakeWhile (·.type ≠ .syn)

/-- What a sync event is to deliver for some of the sensors, after the events before it. -/
def syncEvents (enabled : AkmId → Bool) (first : AkmId → SensorData) (before : List InputEvent)
    (time : Int) (is : List AkmId) : List SensorEvent :=
  (is.filter fun i => enabled i && (sinceSync before).any (·.updates i)).map
    fun i => ⟨i.type, time, latest before i (first i)⟩

/-- What a stream is to deliver, after the events before it. -/
def expectedFrom (enabled : AkmId → Bool) (first : AkmId → SensorData) :
    List InputEvent → List InputEvent → List SensorEvent
  | _, [] => []
  | before, ev :: rest =>
    (if ev.type = .syn then syncEvents enabled first before ev.time AkmId.all else []) ++
      expectedFrom enabled first (before ++ [ev]) rest

/-! ## Calls -/

/-- What `read` finds on the input device. -/
inductive Supply
  | failed (errno : Errno)
  /-- The number of events that are there. -/
  | events (number : Nat)

/-- The compass, the part of the stream that it has not read, and all it has delivered. -/
structure AkmReading where
  sensor : AkmSensor
  stream : List InputEvent
  delivered : List SensorEvent

/-- What `read` returns. -/
def Supply.result (stream : List InputEvent) : Supply → ReadResult InputEvent
  | .failed errno => .failed errno
  | .events number => .events (stream.take number)

/-- The number of events that are taken from the stream. -/
def Supply.taken (room : Nat) (stream : List InputEvent) : Supply → Nat
  | .failed _ => 0
  | .events number => ((stream.take number).take room).length

/-- What a call of `readEvents` returns. -/
def AkmReading.read (s : AkmReading) (count : Int) (supply : Supply) : Read AkmSensor :=
  s.sensor.readEvents count (supply.result s.stream)

/-- A call of `readEvents`. -/
def AkmReading.next (s : AkmReading) (count : Int) (supply : Supply) : AkmReading where
  sensor := (s.read count supply).state
  stream := s.stream.drop (supply.taken (readerSize - s.sensor.queue.length) s.stream)
  delivered := s.delivered ++ (s.read count supply).events

/-- A sequence of calls, with their counts. -/
def AkmReading.run (s : AkmReading) : List (Int × Supply) → AkmReading
  | [] => s
  | (count, supply) :: calls => (s.next count supply).run calls

/-- The compass at the start, with some sensors enabled. -/
def AkmReading.start (controller : AkmAotController) (values : AkmId → SensorData)
    (enabled : AkmId → Bool) (stream : List InputEvent) : AkmReading :=
  ⟨{ AkmSensor.start controller values with enabled := enabled }, stream, []⟩

/-! ## Values and marks -/

variable {ev : InputEvent}

section Lists

variable {enabled : AkmId → Bool} {first : AkmId → SensorData} {before : List InputEvent}

lemma lastValue_concat (evs : List InputEvent) (ev : InputEvent) (code : EvCode) :
    lastValue (evs ++ [ev]) code =
      if ev.brings code then some ev.value else lastValue evs code := by
  unfold lastValue
  cases h : ev.brings code <;> simp [h]

lemma latest_concat_of_ne (h : ev.type ≠ .abs) (i : AkmId) (d : SensorData) :
    latest (before ++ [ev]) i d = latest before i d := by
  simp [latest, lastValue_concat, brings, h]

lemma updates_of_ne (h : ev.type ≠ .abs) (i : AkmId) : ev.updates i = false := by
  simp [updates, brings, h]

lemma sinceSync_sync (h : ev.type = .syn) : sinceSync (before ++ [ev]) = [] :=
  List.rtakeWhile_concat_neg _ _ _ (by simp [h])

lemma sinceSync_concat (h : ev.type ≠ .syn) :
    sinceSync (before ++ [ev]) = sinceSync before ++ [ev] :=
  List.rtakeWhile_concat_pos _ _ _ (by simp [h])

lemma expectedFrom_append (enabled : AkmId → Bool) (first : AkmId → SensorData) :
    ∀ (evs rest before : List InputEvent), expectedFrom enabled first before (evs ++ rest) =
        expectedFrom enabled first before evs ++ expectedFrom enabled first (before ++ evs) rest
  | [], rest, before => by simp [expectedFrom]
  | ev :: evs, rest, before => by
    have ih := expectedFrom_append enabled first evs rest (before ++ [ev])
    simp only [List.cons_append, expectedFrom, ih, List.append_assoc, List.nil_append]

lemma syncEvents_append (time : Int) (is js : List AkmId) :
    syncEvents enabled first before time (is ++ js) =
      syncEvents enabled first before time is ++ syncEvents enabled first before time js := by
  simp [syncEvents]

lemma syncEvents_singleton (time : Int) (i : AkmId) : syncEvents enabled first before time [i] =
      if enabled i && (sinceSync before).any (·.updates i) then
        [⟨i.type, time, latest before i (first i)⟩]
      else [] := by
  unfold syncEvents
  split_ifs with h <;> simp [h]

end Lists

/-! ## The pending events -/

/-- The pending events after the events `done`, when the sensors of `sent` had their turn at the
sync event after these, and those of `todo` did not. -/
structure AkmPending.Tracks (first : AkmId → SensorData) (done : List InputEvent)
    (sent todo : List AkmId) (p : AkmPending) : Prop where
  all : AkmId.all = sent ++ todo
  mask : ∀ i, p.mask i = (decide (i ∈ todo) && (sinceSync done).any (·.updates i))
  type : ∀ i, (p.events i).type = i.type
  data : ∀ i, (p.events i).data = latest done i (first i)

variable {enabled : AkmId → Bool} {first : AkmId → SensorData} {done : List InputEvent}
  {sent todo : List AkmId} {p : AkmPending}

open AkmReading

open Supply

lemma AkmId.mem_all (i : AkmId) : i ∈ AkmId.all := by
  cases i <;> decide

namespace AkmPending

lemma mask_processEvent (h : ev.type = .abs) (i : AkmId) :
    (p.processEvent ev).mask i = (p.mask i || ev.updates i) := by
  unfold processEvent updates brings
  cases hc : ev.code <;> cases i <;> simp [note, codes, h]

lemma type_processEvent (ev : InputEvent) (i : AkmId) :
    ((p.processEvent ev).events i).type = (p.events i).type := by
  unfold processEvent
  cases ev.code <;> cases i <;> simp [note]

lemma data_processEvent (h : ev.type = .abs) {i : AkmId} {d : SensorData}
    (hd : (p.events i).data = latest done i d) :
    ((p.processEvent ev).events i).data = latest (done ++ [ev]) i d := by
  unfold processEvent
  cases hc : ev.code <;> cases i <;>
    simp [note, hd, latest, lastValue_concat, brings, codes, h, hc]

lemma Tracks.abs (ht : p.Tracks first done [] AkmId.all) (h : ev.type = .abs) :
    (p.processEvent ev).Tracks first (done ++ [ev]) [] AkmId.all := by
  refine ⟨rfl, fun i => ?_, fun i => ?_, fun i => p.data_processEvent h (ht.data i)⟩
  · rw [p.mask_processEvent h, ht.mask, sinceSync_concat (by simp [h])]
    simp [mem_all]
  · rw [p.type_processEvent, ht.type]

lemma Tracks.skip (ht : p.Tracks first done [] AkmId.all) (habs : ev.type ≠ .abs)
    (hsyn : ev.type ≠ .syn) : p.Tracks first (done ++ [ev]) [] AkmId.all := by
  refine ⟨rfl, fun i => ?_, ht.type, fun i => ?_⟩
  · rw [ht.mask, sinceSync_concat hsyn]
    simp [updates_of_ne habs]
  · rw [ht.data, latest_concat_of_ne habs]

lemma Tracks.sync (ht : p.Tracks first done sent todo) (h : ev.type = .syn)
    (hmask : AkmId.all.any p.mask = false) : p.Tracks first (done ++ [ev]) [] AkmId.all := by
  refine ⟨rfl, fun i => ?_, ht.type, fun i => ?_⟩
  · have := List.any_eq_false.mp hmask i i.mem_all
    simp [this, sinceSync_sync h]
  · rw [ht.data, latest_concat_of_ne (by simp [h])]

end AkmPending

variable {is : List AkmId}

lemma AkmPending.Tracks.turn {i : AkmId} (ht : p.Tracks first done sent (i :: is)) {q : AkmPending}
    (hmask : ∀ j, q.mask j = if j = i then false else p.mask j)
    (htype : ∀ j, (q.events j).type = (p.events j).type)
    (hdata : ∀ j, (q.events j).data = (p.events j).data) :
    q.Tracks first done (sent ++ [i]) is := by
  have hnodup : (sent ++ i :: is).Nodup := ht.all ▸ by decide
  have hi : i ∉ is := (List.nodup_cons.mp (List.nodup_append.mp hnodup).2.1).1
  refine ⟨by simp [ht.all], fun j => ?_, fun j => ?_, fun j => ?_⟩
  · by_cases hj : j = i
    · subst hj
      simp [hmask, hi]
    · simp [hmask, hj, ht.mask]
  · rw [htype, ht.type]
  · rw [hdata, ht.data]

lemma AkmPending.Tracks.mask_head {i : AkmId} (ht : p.Tracks first done sent (i :: is)) :
    p.mask i = (sinceSync done).any (·.updates i) := by
  simp [ht.mask]

lemma akmSync_append {enabled : AkmId → Bool} {time : Int} {count : Nat} {p : AkmPending} :
    ∀ {sent : List AkmId}, (∀ i ∈ sent, p.mask i = false) →
      akmSync enabled time (sent ++ is) (count + 1) p = akmSync enabled time is (count + 1) p
  | [], _ => rfl
  | i :: sent, h => by
    have hi : p.mask i = false := h i List.mem_cons_self
    simp only [List.cons_append, akmSync, hi, Bool.false_eq_true, if_false]
    exact akmSync_append fun j hj => h j (List.mem_cons_of_mem i hj)

/-- The loop delivers what is expected of its sensors, or runs out of room. -/
lemma akmSync_tracks (time : Int) : ∀ (todo sent : List AkmId) (count : Nat) (p : AkmPending),
    p.Tracks first done sent todo →
    ∃ sent' todo', (akmSync enabled time todo count p).pending.Tracks first done sent' todo' ∧
      syncEvents enabled first done time sent' =
        syncEvents enabled first done time sent ++ (akmSync enabled time todo count p).events ∧
      (todo' = [] ∨ (akmSync enabled time todo count p).left = 0)
  | [], sent, count, p, ht => ⟨sent, [], ht, by simp [akmSync], .inl rfl⟩
  | i :: is, sent, 0, p, ht => ⟨sent, i :: is, ht, by simp [akmSync], .inr rfl⟩
  | i :: is, sent, count + 1, p, ht => by
    have hhead := ht.mask_head
    by_cases hm : p.mask i = true
    · have htake : (p.take i time).Tracks first done (sent ++ [i]) is := by
        refine ht.turn (fun j => ?_) (fun j => ?_) fun j => ?_
        · simp [take, Function.update_apply]
        · by_cases hj : j = i <;> simp [take, hj]
        · by_cases hj : j = i <;> simp [take, hj]
      by_cases he : enabled i = true
      · obtain ⟨sent', todo', ht', hev, hend⟩ :=
          akmSync_tracks time is (sent ++ [i]) count _ htake
        have hthis : (p.take i time).events i = ⟨i.type, time, latest done i (first i)⟩ := by
          simp [take, ← ht.type, ← ht.data]
        simp only [akmSync, hm, he, if_true]
        refine ⟨sent', todo', ht', ?_, hend⟩
        rw [hev, syncEvents_append, syncEvents_singleton, ← hhead, hm, he, hthis]
        simp
      · obtain ⟨sent', todo', ht', hev, hend⟩ :=
          akmSync_tracks time is (sent ++ [i]) (count + 1) _ htake
        simp only [akmSync, hm, he, if_true]
        refine ⟨sent', todo', ht', ?_, hend⟩
        rw [hev, syncEvents_append, syncEvents_singleton]
        simp [he]
    · have hnone : p.Tracks first done (sent ++ [i]) is := by
        refine ht.turn (fun j => ?_) (fun _ => rfl) fun _ => rfl
        by_cases hj : j = i <;> simp [hj, hm]
      obtain ⟨sent', todo', ht', hev, hend⟩ :=
        akmSync_tracks time is (sent ++ [i]) (count + 1) _ hnone
      simp only [akmSync, hm]
      refine ⟨sent', todo', ht', ?_, hend⟩
      rw [hev, syncEvents_append, syncEvents_singleton, ← hhead]
      simp [hm]

/-- The loop at a sync event, which passes over the sensors that had their turn. -/
lemma akmSync_all_tracks (time : Int) (count : Nat) (ht : p.Tracks first done sent todo) :
    ∃ sent' todo',
      (akmSync enabled time AkmId.all (count + 1) p).pending.Tracks first done sent' todo' ∧
      syncEvents enabled first done time sent' = syncEvents enabled first done time sent ++
          (akmSync enabled time AkmId.all (count + 1) p).events ∧
      (todo' = [] ∨ (akmSync enabled time AkmId.all (count + 1) p).left = 0) := by
  have hpassed : ∀ i ∈ sent, p.mask i = false := by
    intro i hi
    have hnodup : (sent ++ todo).Nodup := ht.all ▸ by decide
    have hi' : i ∉ todo := fun h => (List.nodup_append.mp hnodup).2.2 i hi i h rfl
    simp [ht.mask, hi']
  rw [ht.all, akmSync_append hpassed]
  exact akmSync_tracks time todo sent (count + 1) p ht

/-- What a sync event is to deliver when no event is left pending. -/
lemma AkmPending.Tracks.syncEvents_all (ht : p.Tracks first done sent todo)
    (hmask : AkmId.all.any p.mask = false) (time : Int) :
    syncEvents enabled first done time AkmId.all = syncEvents enabled first done time sent := by
  have hnone : syncEvents enabled first done time todo = [] := by
    simp only [syncEvents, List.map_eq_nil_iff, List.filter_eq_nil_iff]
    intro i hi
    have hoff := List.any_eq_false.mp hmask i i.mem_all
    simp only [ht.mask, hi, decide_true, Bool.true_and] at hoff
    simp [hoff]
  rw [ht.all, syncEvents_append, hnone, List.append_nil]

/-! ## The loop -/

/-- Where the deliveries are: after the events `seen`, of which `queue` is unread, and perhaps
between the sensors of the sync event at the head of it. -/
def Delivering (enabled : AkmId → Bool) (first : AkmId → SensorData) (seen queue : List InputEvent)
    (p : AkmPending) (delivered : List SensorEvent) : Prop :=
  ∃ done sent todo, seen = done ++ queue ∧ p.Tracks first done sent todo ∧
    ((sent = [] ∧ delivered = expectedFrom enabled first [] done) ∨
      ∃ ev rest, queue = ev :: rest ∧ ev.type = .syn ∧
        delivered =
          expectedFrom enabled first [] done ++ syncEvents enabled first done ev.time sent)

variable {seen queue : List InputEvent} {delivered : List SensorEvent}

lemma Delivering.append (h : Delivering enabled first seen queue p delivered)
    (evs : List InputEvent) :
    Delivering enabled first (seen ++ evs) (queue ++ evs) p delivered := by
  obtain ⟨done, sent, todo, rfl, ht, hd⟩ := h
  refine ⟨done, sent, todo, List.append_assoc _ _ _, ht, ?_⟩
  rcases hd with hd | ⟨ev, rest, rfl, hsyn, hd⟩
  · exact .inl hd
  · exact .inr ⟨ev, rest ++ evs, rfl, hsyn, hd⟩

lemma expectedFrom_concat (done : List InputEvent) (ev : InputEvent) :
    expectedFrom enabled first [] (done ++ [ev]) = expectedFrom enabled first [] done ++
      if ev.type = .syn then syncEvents enabled first done ev.time AkmId.all else [] := by
  rw [expectedFrom_append]
  simp [expectedFrom]

namespace Delivering

/-- What is delivered is the start of what is expected, and all of it when nothing is unread. -/
lemma isPrefix (h : Delivering enabled first seen queue p delivered) :
    delivered <+: expectedFrom enabled first [] seen := by
  obtain ⟨done, sent, todo, rfl, ht, hd⟩ := h
  rw [expectedFrom_append, List.nil_append]
  rcases hd with ⟨-, rfl⟩ | ⟨ev, rest, rfl, hsyn, rfl⟩
  · exact List.prefix_append _ _
  · simp only [expectedFrom, hsyn, if_true, ht.all, syncEvents_append, List.append_assoc]
    exact (List.prefix_append_right_inj _).mpr (List.prefix_append _ _)

lemma eq_expected (h : Delivering enabled first seen [] p delivered) :
    delivered = expectedFrom enabled first [] seen := by
  obtain ⟨done, sent, todo, rfl, ht, ⟨-, rfl⟩ | ⟨ev, rest, hq, -⟩⟩ := h
  · rw [List.append_nil]
  · cases hq

lemma pass {q : AkmPending} (hsyn : ev.type ≠ .syn)
    (hnext : ∀ done, p.Tracks first done [] AkmId.all → q.Tracks first (done ++ [ev]) [] AkmId.all)
    (h : Delivering enabled first seen (ev :: queue) p delivered) :
    Delivering enabled first seen queue q delivered := by
  obtain ⟨done, sent, todo, rfl, ht, ⟨rfl, rfl⟩ | ⟨ev', rest, hq, hsyn', -⟩⟩ := h
  · obtain rfl : AkmId.all = todo := ht.all
    refine ⟨done ++ [ev], [], AkmId.all, by simp, hnext done ht, .inl ⟨rfl, ?_⟩⟩
    rw [expectedFrom_concat, if_neg hsyn, List.append_nil]
  · cases hq
    exact absurd hsyn' hsyn

/-- The loop over the sensors at a sync event, which is passed if no event is left pending. -/
lemma sync (hsyn : ev.type = .syn) (count : Nat)
    (h : Delivering enabled first seen (ev :: queue) p delivered) :
    let r := akmSync enabled ev.time AkmId.all (count + 1) p
    (AkmId.all.any r.pending.mask = true →
      r.left = 0 ∧
        Delivering enabled first seen (ev :: queue) r.pending (delivered ++ r.events)) ∧
    (AkmId.all.any r.pending.mask = false →
      Delivering enabled first seen queue r.pending (delivered ++ r.events)) := by
  obtain ⟨done, sent, todo, rfl, ht, hd⟩ := h
  obtain ⟨sent', todo', ht', hev, hend⟩ := @akmSync_all_tracks enabled first done sent todo p
    ev.time count ht
  have hd' : delivered =
      expectedFrom enabled first [] done ++ syncEvents enabled first done ev.time sent := by
    rcases hd with ⟨rfl, rfl⟩ | ⟨ev', rest, hq, -, rfl⟩
    · simp [syncEvents]
    · cases hq
      rfl
  have hall : delivered ++ (akmSync enabled ev.time AkmId.all (count + 1) p).events =
      expectedFrom enabled first [] done ++ syncEvents enabled first done ev.time sent' := by
    rw [hd', hev, List.append_assoc]
  refine ⟨fun hmask => ⟨?_, done, sent', todo', rfl, ht', .inr ⟨ev, queue, rfl, hsyn, hall⟩⟩,
    fun hmask => ?_⟩
  · refine hend.resolve_left ?_
    rintro rfl
    obtain ⟨i, -, hi⟩ := List.any_eq_true.mp hmask
    simp [ht'.mask] at hi
  · refine ⟨done ++ [ev], [], AkmId.all, by simp, ht'.sync hsyn hmask, .inl ⟨rfl, ?_⟩⟩
    rw [hall, expectedFrom_concat, if_pos hsyn, ht'.syncEvents_all hmask]

/-- The loop keeps to the expected events, and leaves nothing unread if it has room left. -/
lemma loop : ∀ (queue : List InputEvent) (count : Nat) {p : AkmPending}
    {delivered : List SensorEvent}, Delivering enabled first seen queue p delivered →
      let d := akmLoop enabled queue count p
      Delivering enabled first seen d.queue d.state (delivered ++ d.events) ∧
        (d.events.length < count → d.queue = [])
  | [], count, p, delivered, h => by simpa [akmLoop] using h
  | ev :: queue, 0, p, delivered, h => by simpa [akmLoop] using h
  | ev :: queue, count + 1, p, delivered, h => by
    cases htype : ev.type with
    | abs =>
      simp only [akmLoop, htype]
      exact Delivering.loop queue (count + 1) (h.pass (by simp [htype]) fun _ ht => ht.abs htype)
    | msc | led | other =>
      simp only [akmLoop, htype]
      exact Delivering.loop queue (count + 1)
        (h.pass (by simp [htype]) fun _ ht => ht.skip (by simp [htype]) (by simp [htype]))
    | syn =>
      have hcount := akmSync_count enabled ev.time AkmId.all (count + 1) p
      obtain ⟨hkept, hpassed⟩ := h.sync htype count
      simp only [akmLoop, htype]
      by_cases hmask :
          AkmId.all.any (akmSync enabled ev.time AkmId.all (count + 1) p).pending.mask = true
      · obtain ⟨hleft, hd⟩ := hkept hmask
        simp only [hmask, if_true]
        exact ⟨hd, fun hlt => by omega⟩
      · obtain ⟨hd, hroom⟩ := Delivering.loop queue
          (akmSync enabled ev.time AkmId.all (count + 1) p).left
          (hpassed (by simpa using hmask))
        simp only [hmask, if_false, Bool.false_eq_true]
        refine ⟨by rwa [List.append_assoc] at hd, fun hlt => hroom ?_⟩
        rw [List.length_append] at hlt
        omega

end Delivering

/-! ## Runs -/

/-- The reader takes the next events of the stream. -/
lemma fillQueue_supply (queue stream : List InputEvent) (supply : Supply) :
    (fillQueue readerSize queue (supply.result stream)).1 =
      queue ++ stream.take (supply.taken (readerSize - queue.length) stream) := by
  unfold fillQueue
  cases supply with
  | failed errno =>
    simp only [result, taken, List.take_zero, List.append_nil]
    split_ifs <;> rfl
  | events number =>
    simp only [result, taken, List.take_take, List.length_take]
    split_ifs with hroom
    · simp [hroom]
    · exact congrArg (queue ++ ·) (List.take_eq_take_iff.mpr (by omega))

/-- The compass has read `seen`, and keeps to the events that it is to deliver. -/
structure AkmReading.Follows (enabled : AkmId → Bool) (first : AkmId → SensorData)
    (seen : List InputEvent) (s : AkmReading) : Prop where
  fixed : s.sensor.enabled = enabled
  delivering : Delivering enabled first seen s.sensor.queue s.sensor.pending s.delivered

lemma AkmReading.follows_start (controller : AkmAotController) (values : AkmId → SensorData)
    (enabled : AkmId → Bool) (stream : List InputEvent) :
    (start controller values enabled stream).Follows enabled
      (fun i => ((AkmSensor.start controller values).pending.events i).data) [] := by
  refine ⟨rfl, [], [], AkmId.all, rfl, ⟨rfl, fun i => ?_, fun i => rfl, fun i => rfl⟩,
    .inl ⟨rfl, rfl⟩⟩
  simp [start, AkmSensor.start, sinceSync]

variable {s : AkmReading}

/-- A call, which leaves nothing unread if it does not fail and has room left. -/
lemma AkmReading.Follows.next (h : s.Follows enabled first seen) {count : Int} (hcount : 1 ≤ count)
    (supply : Supply) : (s.next count supply).Follows enabled first
        (seen ++ s.stream.take (supply.taken (readerSize - s.sensor.queue.length) s.stream)) ∧
      (0 ≤ (s.read count supply).ret → (s.read count supply).ret < count →
        (s.next count supply).sensor.queue = []) := by
  obtain ⟨rfl, hd⟩ := h
  have hfill := fillQueue_supply s.sensor.queue s.stream supply
  have hd' := hd.append (s.stream.take (supply.taken (readerSize - s.sensor.queue.length) s.stream))
  rw [← hfill] at hd'
  simp only [next, read, AkmSensor.readEvents, readEventsWith,
    if_neg (show ¬count < 1 by omega)]
  by_cases hn : (fillQueue readerSize s.sensor.queue (supply.result s.stream)).2 < 0
  · simp only [if_pos hn]
    exact ⟨⟨rfl, by rwa [List.append_nil]⟩, fun hret => by omega⟩
  · obtain ⟨hloop, hroom⟩ := hd'.loop _ count.toNat
    simp only [if_neg hn]
    exact ⟨⟨rfl, hloop⟩, fun _ hlt => hroom (by omega)⟩

lemma AkmReading.Follows.run : ∀ (calls : List (Int × Supply)) {s : AkmReading}
    {seen : List InputEvent}, s.Follows enabled first seen → (∀ call ∈ calls, 1 ≤ call.1) →
      ∃ read, s.stream = read ++ (s.run calls).stream ∧
        (s.run calls).Follows enabled first (seen ++ read)
  | [], s, seen, h, _ => ⟨[], rfl, by rwa [List.append_nil]⟩
  | (count, supply) :: calls, s, seen, h, hcounts => by
    obtain ⟨hnext, -⟩ := h.next (hcounts _ List.mem_cons_self) supply
    obtain ⟨read, hread, hrun⟩ := AkmReading.Follows.run calls hnext
      fun call hcall => hcounts call (List.mem_cons_of_mem _ hcall)
    refine ⟨s.stream.take (supply.taken (readerSize - s.sensor.queue.length) s.stream) ++ read,
      ?_, by rwa [← List.append_assoc]⟩
    rw [List.append_assoc]
    simp only [AkmReading.run, ← hread]
    exact (List.take_append_drop _ _).symm

/-- **The compass delivers the expected events.**  For every set of enabled sensors, every stream of
input events, and every sequence of calls with positive counts that get any pieces of the stream,
the events delivered are the first of those that the sync events are to deliver, in order and each
once.  When nothing is unread they are all of those for the events that were read, and a further
call that does not fail leaves nothing unread if it has room left. -/
theorem compass_delivers (controller : AkmAotController) (values : AkmId → SensorData)
    (enabled : AkmId → Bool) (stream : List InputEvent) (calls : List (Int × Supply))
    (hcounts : ∀ call ∈ calls, 1 ≤ call.1) :
    let first := fun i => ((AkmSensor.start controller values).pending.events i).data
    let s := (AkmReading.start controller values enabled stream).run calls
    s.delivered <+: expectedFrom enabled first [] stream ∧
      (∃ read, stream = read ++ s.stream ∧
        (s.sensor.queue = [] → s.delivered = expectedFrom enabled first [] read)) ∧
      ∀ count supply, 1 ≤ count → 0 ≤ (s.read count supply).ret →
        (s.read count supply).ret < count → (s.next count supply).sensor.queue = [] := by
  intro first s
  obtain ⟨read, hread, hrun⟩ :=
    (follows_start controller values enabled stream).run calls hcounts
  rw [List.nil_append] at hrun
  refine ⟨?_, ⟨read, hread, fun hq => ?_⟩, fun count supply hcount => (hrun.next hcount supply).2⟩
  · rw [show stream = read ++ s.stream from hread, expectedFrom_append]
    exact hrun.delivering.isPrefix.trans (List.prefix_append _ _)
  · have hd := hrun.delivering
    rw [show ((start controller values enabled stream).run calls).sensor.queue = []
      from hq] at hd
    exact hd.eq_expected

/-- Two values for each sensor and a sync event. -/
def sampleStream : List InputEvent :=
  [⟨.abs, .absHat0X, 1, 0⟩, ⟨.abs, .absRX, 2, 0⟩, ⟨.abs, .absHat0X, 3, 0⟩, ⟨.syn, .other, 0, 7⟩]

/-- The compass with both sensors enabled, before that stream. -/
def sampleReading : AkmReading :=
  .start ⟨false, 0, 0, 0, false⟩ (fun _ => ⟨0, 0, 0, 0⟩) (fun _ => true) sampleStream

/-- The events of a sync event are delivered by two calls with room for one event each. -/
theorem compass_delivers_two :
    let s := sampleReading.run [(1, .events 3), (1, .events 1), (1, .events 0)]
    s.delivered.map SensorEvent.timestamp = [7, 7] ∧
      s.delivered <+: expectedFrom (fun _ => true)
        (fun i => (sampleReading.sensor.pending.events i).data) [] sampleStream :=
  ⟨by decide, (compass_delivers _ _ _ _ _ (by decide)).1⟩

end Solana.Sensors
