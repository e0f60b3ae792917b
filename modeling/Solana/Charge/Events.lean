import Solana.Charge.Session
import Solana.Lib.CString

/-!
# The events of charge-only mode

`ev_get` returns what the first descriptor with input gives: a key, or a battery event if the uevent
socket has a message from the driver of the charger.  All messages that are pending are received
into one buffer before it is searched, so each of them overwrites the one before, and the search
ends at the first zero byte.

`battery_reported_iff`: a message from the charger is noticed exactly if the last message is one.
Without any message the function searches what was in the memory before.
-/

namespace Solana.Charge

open List

/-! ## The function -/

/-- `CHARGER_DRIVER`. -/
def chargerDriver : List UInt8 := bytes "pm8921-charger"

/-- `strstr` finds the driver of the charger in the string that a pointer points to. -/
def namesCharger (s : List UInt8) : Bool := (strstr chargerDriver (cstr s)).isSome

/-- `sizeof(msg)`. -/
def msgSize : Nat := 1024

/-- The loop of `recv` over the messages that are pending; `buf` is the memory from `msg` on. -/
def drain : List (List UInt8) → List UInt8 → List UInt8
  | [], buf => buf
  | m :: ms, buf =>
    if m = [] then buf
    else drain ms (m.take msgSize ++ buf.drop (m.take msgSize).length)

/-- `struct input_event`. -/
structure InputEvent where
  type : Nat
  code : Nat
  value : Int

/-- The event of a key. -/
def keyEvent (ev : InputEvent) : Event :=
  -- `EV_KEY`, `KEY_VOLUMEDOWN`, `KEY_VOLUMEUP`, `KEY_POWER` and `KEY_CAMERA`
  match ev with
  | ⟨1, 116, 1⟩ => .powerKeyDown
  | ⟨1, 116, 0⟩ => .powerKeyUp
  | ⟨1, 114, 1⟩ => .volumedownKeyDown
  | ⟨1, 114, 0⟩ => .volumedownKeyUp
  | ⟨1, 115, 1⟩ => .volumeupKeyDown
  | ⟨1, 115, 0⟩ => .volumeupKeyUp
  | ⟨1, 212, 1⟩ => .cameraKeyDown
  | ⟨1, 212, 0⟩ => .cameraKeyUp
  | _ => .none

/-- A descriptor of `ev_fds` after `poll`: without input, a keyboard with the event that is read
from it, if the read gets a whole one, or the uevent socket with its messages. -/
inductive Polled
  | idle
  | keyboard (read : Option InputEvent)
  | uevent (queue : List (List UInt8))

/-- The loop of `ev_get` over its descriptors; `stack` is the memory from `msg` on. -/
def evGet (stack : List UInt8) : List Polled → Event
  | [] => .none
  | .idle :: fds => evGet stack fds
  | .keyboard none :: fds => evGet stack fds
  | .keyboard (some ev) :: _ => keyEvent ev
  | .uevent queue :: fds =>
    if namesCharger (drain queue stack) then .battery else evGet stack fds

/-! ## Battery events -/

/-- A message of the kernel: its header is terminated, and it is shorter than the buffer. -/
def IsUevent (m : List UInt8) : Prop := 0 ∈ m ∧ m.length < msgSize

variable {queue : List (List UInt8)} {stack : List UInt8}

lemma cstr_drain {last : List UInt8} : ∀ {queue : List (List UInt8)} {stack : List UInt8},
    (∀ m ∈ queue, IsUevent m) → queue.getLast? = some last → cstr (drain queue stack) = cstr last
  | m :: ms, stack, hq, hlast => by
    obtain ⟨hzero, hlen⟩ := hq m mem_cons_self
    rw [drain, if_neg (ne_nil_of_mem hzero), take_of_length_le (Nat.le_of_lt hlen)]
    cases ms with
    | nil =>
      obtain rfl := Option.some.inj hlast
      exact cstr_append_of_mem hzero _
    | cons m' ms =>
      rw [getLast?_cons_cons] at hlast
      exact cstr_drain (fun x hx => hq x (mem_cons_of_mem m hx)) hlast

lemma evGet_append : ∀ {before : List Polled}, (∀ x ∈ before, x = .idle ∨ x = .keyboard none) →
    ∀ fds, evGet stack (before ++ fds) = evGet stack fds
  | [], _, _ => rfl
  | x :: before, h, fds => by
    have ih := evGet_append (fun y hy => h y (mem_cons_of_mem x hy)) fds
    rcases h x mem_cons_self with rfl | rfl
    · exact ih
    · exact ih

/-- **When a battery event is reported.**  When `ev_get` comes to the uevent socket, which is the
last descriptor, it reports a battery event exactly if a message of the queue names the driver of
the charger in its header, if and only if the last message does so whenever one does, and if the
queue is empty, the memory of the buffer does not happen to name it. -/
theorem battery_reported_iff {before : List Polled}
    (hbefore : ∀ x ∈ before, x = .idle ∨ x = .keyboard none) (hq : ∀ m ∈ queue, IsUevent m)
    (stack : List UInt8) : (evGet stack (before ++ [.uevent queue]) = .battery ↔
        ∃ m ∈ queue, namesCharger m = true) ↔
      match queue.getLast? with
      | some last => (∃ m ∈ queue, namesCharger m = true) → namesCharger last = true
      | none => namesCharger stack = false := by
  have hget : evGet stack (before ++ [.uevent queue]) = .battery ↔
      namesCharger (drain queue stack) = true := by
    rw [evGet_append hbefore]
    simp [evGet]
  rw [hget]
  cases hlast : queue.getLast? with
  | some last =>
    have hnames : namesCharger (drain queue stack) = namesCharger last := by
      rw [namesCharger, cstr_drain hq hlast, namesCharger]
    rw [hnames]
    exact ⟨fun h => h.mpr, fun h => ⟨fun hn => ⟨last, mem_of_getLast? hlast, hn⟩, h⟩⟩
  | none =>
    rw [getLast?_eq_none_iff.mp hlast]
    simp [drain]

/-- A message with a header. -/
def sampleUevent (header : String) : List UInt8 := bytes header ++ 0 :: bytes "ACTION=change" ++ [0]

/-- The only message is from the charger. -/
theorem battery_reported_sample :
    evGet [] [.idle, .uevent [sampleUevent "change@/pm8921-charger"]] = .battery := by
  have hq : ∀ m ∈ [sampleUevent "change@/pm8921-charger"], IsUevent m := by
    simp only [forall_mem_singleton]
    exact ⟨by decide +kernel, by decide +kernel⟩
  refine ((@battery_reported_iff _ [.idle] (by simp) hq []).mpr ?_).mpr ?_
  · exact fun _ => by decide +kernel
  · exact ⟨_, mem_cons_self, by decide +kernel⟩

/-- A message from the charger is followed by another one, and no battery event is reported. -/
theorem battery_event_lost :
    evGet [] [.uevent [sampleUevent "change@/pm8921-charger", sampleUevent "add@/block"]] = .none ∧
      ∃ m ∈ [sampleUevent "change@/pm8921-charger", sampleUevent "add@/block"],
        namesCharger m = true := by decide +kernel

end Solana.Charge
