import Solana.Aplogd.Daemon
import Solana.Lib.CString

/-!
# Messages of the volume daemon

`vold` tells `aplogd` over a socket when a storage is mounted or goes away.  The messages are texts
that end with a zero byte.  `aplogd_io_read_data` reads once into a buffer on the stack, without
looking at how much was read, and takes what is in the buffer for a message.

The reaction to a message is that of `Daemon.vold`, by the tests that are made on the text.  What
the buffer holds before a read is arbitrary.
-/

namespace Solana.Aplogd

open Daemon List

/-! ## The tests -/

/-- `g_storage_path`. -/
abbrev StoragePaths := Storage → Option (List UInt8)

variable (paths : StoragePaths)

/-- `is_vold_msg_for`. -/
def isVoldMsgFor (storage : Storage) (msg : List UInt8) : Bool :=
  match paths storage with
  | none => false
  | some path =>
    match strstr path msg with
    | none => false
    | some msgPath =>
      match strchr 32 msgPath with
      | none => false
      | some spaceLoc => path.length == msgPath.length - spaceLoc.length

/-- The tests of a message for a storage and a text. -/
def isVoldMsg (text : String) (storage : Storage) (msg : List UInt8) : Bool :=
  isVoldMsgFor paths storage msg && (strstr (bytes text) msg).isSome

/-- `is_trans_to_mounted`. -/
def isTransToMounted : Storage → List UInt8 → Bool :=
  isVoldMsg paths "state changed from 3 (Checking) to 4 (Mounted)"

/-- `is_trans_to_unmounted`. -/
def isTransToUnmounted : Storage → List UInt8 → Bool :=
  isVoldMsg paths "state changed from 4 (Mounted) to 5 (Unmounting)"

/-- `is_bad_removal`. -/
def isBadRemoval : Storage → List UInt8 → Bool := isVoldMsg paths "bad removal"

/-- What the daemon takes a text for. -/
def voldMessage (msg : List UInt8) : VoldMessage where
  secondaryMounted := isTransToMounted paths .secondary msg
  secondaryGone := isTransToUnmounted paths .secondary msg || isBadRemoval paths .secondary msg
  externalMounted := isTransToMounted paths .external msg
  externalGone := isTransToUnmounted paths .external msg || isBadRemoval paths .external msg

/-- A message that is about no storage. -/
def VoldMessage.idle (m : VoldMessage) : Bool :=
  !(m.secondaryMounted || m.secondaryGone || m.externalMounted || m.externalGone)

/-! ## Reads -/

/-- The size of `buf`. -/
def voldBufSize : Nat := 4096

/-- A read: the bytes that it stores, none if it fails, and what the buffer holds before. -/
structure VoldRead where
  bytes : List UInt8
  stale : List UInt8
  bytes_le : bytes.length ≤ voldBufSize
  stale_eq : stale.length = voldBufSize

/-- `buf` after the read. -/
def VoldRead.buf (r : VoldRead) : List UInt8 :=
  (r.bytes ++ r.stale.drop r.bytes.length).set (voldBufSize - 1) 0

/-- What the daemon takes the buffer for. -/
def VoldRead.message (r : VoldRead) : VoldMessage := voldMessage paths (cstr r.buf)

/-- The storage that the daemon is on after each message that is about a storage.  The switches for
the `k`-th of these find `env k`. -/
def Daemon.switches (cfg : UserConfig) (env : Nat → VoldEnv) :
    Nat → Daemon → List VoldMessage → List Storage
  | _, _, [] => []
  | k, d, m :: ms =>
    if m.idle then switches cfg env k d ms
    else
      let d := d.vold cfg m (env k)
      d.currentStorage :: switches cfg env (k + 1) d ms

/-- The complete messages of a stream. -/
def messages : List UInt8 → List (List UInt8)
  | [] => []
  | b :: s =>
    if b = 0 then [] :: messages s
    else
      match messages s with
      | [] => []
      | m :: ms => (b :: m) :: ms

/-- The read returns complete messages, and all but the first of them are about no storage. -/
def VoldRead.Whole (r : VoldRead) : Prop :=
  r.bytes.getLast? = some 0 ∧
    ∀ m ∈ (messages r.bytes).tail, (voldMessage paths m).idle = true

/-! ## Messages in a stream -/

variable {paths} {s t m : List UInt8} {r : VoldRead} {cfg : UserConfig} {env : Nat → VoldEnv}

lemma messages_append_zero (h : 0 ∉ m) (s : List UInt8) :
    messages (m ++ 0 :: s) = m :: messages s := by
  induction m with
  | nil => rfl
  | cons b m ih =>
    obtain ⟨hb, hm⟩ := ne_and_not_mem_of_not_mem_cons h
    rw [cons_append, messages, if_neg hb.symm, ih hm]

lemma messages_append (hs : s.getLast? = some 0) (t : List UInt8) :
    messages (s ++ t) = messages s ++ messages t := by
  induction s with
  | nil => exact absurd hs.symm (Option.some_ne_none 0)
  | cons b s ih =>
    by_cases hne : s = []
    · subst hne
      obtain rfl : b = 0 := Option.some.inj hs
      rfl
    · rw [getLast?_cons_of_ne_nil hne] at hs
      obtain ⟨m, s', rfl, hm⟩ := eq_append_cons_of_mem (mem_of_getLast? hs)
      by_cases hb : b = 0
      · rw [cons_append, messages, if_pos hb, messages, if_pos hb, ih hs, cons_append]
      · rw [cons_append, messages, if_neg hb, messages, if_neg hb, ih hs, messages_append_zero hm]
        rfl

/-! ## One read -/

/-- A read that stores a complete message leaves it in the buffer, whatever was there before. -/
lemma cstr_buf (hr : r.bytes = m ++ 0 :: s) (hm : 0 ∉ m) : cstr r.buf = m := by
  have hle : m.length ≤ voldBufSize - 1 := by
    have hlen := r.bytes_le
    rw [hr, length_append, length_cons] at hlen
    omega
  obtain ⟨t, ht⟩ : ∃ t, (0 :: (s ++ r.stale.drop r.bytes.length)).set
      (voldBufSize - 1 - m.length) 0 = 0 :: t := by
    cases voldBufSize - 1 - m.length with
    | zero => exact ⟨_, rfl⟩
    | succ k => exact ⟨_, rfl⟩
  have hbuf : r.buf = m ++ 0 :: t := by
    rw [VoldRead.buf, ← ht, ← set_append_right _ _ hle, hr]
    simp
  rw [hbuf, cstr_append_zero hm]

lemma filter_message (h : r.Whole paths) : [r.message paths].filter (fun m => !m.idle) =
      ((messages r.bytes).map (voldMessage paths)).filter fun m => !m.idle := by
  obtain ⟨hlast, hidle⟩ := h
  obtain ⟨m, s, hr, hm⟩ := eq_append_cons_of_mem (mem_of_getLast? hlast)
  rw [hr, messages_append_zero hm, tail_cons] at hidle
  have hrest : ((messages s).map (voldMessage paths)).filter (fun m => !m.idle) = [] := by
    refine filter_eq_nil_iff.mpr ?_
    exact forall_mem_map.mpr fun m hm => by simp [hidle m hm]
  simp only [hr, messages_append_zero hm, map_cons, VoldRead.message, cstr_buf hr hm,
    filter_cons, hrest, filter_nil]

/-! ## All reads -/

lemma Daemon.switches_filter (ms : List VoldMessage) (k : Nat) (d : Daemon) :
    d.switches cfg env k ms = d.switches cfg env k (ms.filter fun m => !m.idle) := by
  induction ms generalizing k d with
  | nil => rfl
  | cons m ms ih =>
    cases hm : m.idle with
    | true => rw [switches, if_pos hm, ih, filter_cons_of_neg (by simp [hm])]
    | false =>
      rw [filter_cons_of_pos (by simp [hm])]
      simp only [switches, hm, if_neg Bool.false_ne_true, ih (k + 1)]

lemma filter_messages {reads : List VoldRead} (h : ∀ r ∈ reads, r.Whole paths) :
    (reads.map (VoldRead.message paths)).filter (fun m => !m.idle) =
      ((messages (reads.flatMap VoldRead.bytes)).map (voldMessage paths)).filter
        fun m => !m.idle := by
  induction reads with
  | nil => rfl
  | cons r reads ih =>
    obtain ⟨hr, hreads⟩ := forall_mem_cons.mp h
    rw [flatMap_cons, messages_append hr.1, map_append, filter_append,
      ← filter_message hr, ← ih hreads, map_cons, ← filter_append]
    rfl

/-- **The daemon reacts to the messages in order**, whatever the buffer held before each read, if
every read returns complete messages of which only the first is about a storage. -/
theorem switches_of_whole (cfg : UserConfig) (env : Nat → VoldEnv) (d : Daemon)
    {reads : List VoldRead} (h : ∀ r ∈ reads, r.Whole paths) :
    d.switches cfg env 0 (reads.map (VoldRead.message paths)) = d.switches cfg env 0
        ((messages (reads.flatMap VoldRead.bytes)).map (voldMessage paths)) := by
  rw [switches_filter, filter_messages h, ← switches_filter]

/-- The storages of the phone. -/
def samplePaths : StoragePaths
  | .userdata => some (bytes "/data")
  | .external => some (bytes "/mnt/sdcard")
  | .secondary => some (bytes "/mnt/sdcard-ext")

/-- How the messages about the external storage begin. -/
def sampleText : List UInt8 :=
  bytes "605 Volume sdcard " ++ bytes "/mnt/sdcard state " ++ bytes "changed from "

/-- The external storage was mounted. -/
def mountedText : List UInt8 := sampleText ++ bytes "3 (Checking) " ++ bytes "to 4 (Mounted)"

/-- The external storage is going away. -/
def unmountingText : List UInt8 := sampleText ++ bytes "4 (Mounted) " ++ bytes "to 5 (Unmounting)"

/-- A read into a buffer of zeros. -/
def freshRead (bytes : List UInt8) : VoldRead where
  bytes := bytes.take voldBufSize
  stale := List.replicate voldBufSize 0
  bytes_le := List.length_take_le ..
  stale_eq := List.length_replicate

/-- A read into the buffer that another read has left. -/
def VoldRead.then (r : VoldRead) (bytes : List UInt8) : VoldRead where
  bytes := bytes.take voldBufSize
  stale := r.buf
  bytes_le := List.length_take_le ..
  stale_eq := by
    have h₁ := r.bytes_le
    have h₂ := r.stale_eq
    simp only [VoldRead.buf, List.length_set, List.length_append, List.length_drop]
    omega

/-- Every storage can be used. -/
def openEnv : SwitchEnv := ⟨⟨true, fun _ => true⟩, ⟨true, fun _ => true⟩⟩

/-- Every switch succeeds. -/
def openVoldEnv : VoldEnv := ⟨openEnv, openEnv, openEnv, openEnv, openEnv⟩

/-- The two messages, each in a read of its own. -/
def wholeReads : List VoldRead :=
  let first := freshRead (mountedText ++ [0])
  [first, first.then (unmountingText ++ [0])]

theorem switches_wholeReads : Daemon.init.switches ⟨50, true⟩ (fun _ => openVoldEnv) 0
        (wholeReads.map (VoldRead.message samplePaths)) =
      Daemon.init.switches ⟨50, true⟩ (fun _ => openVoldEnv) 0
        ((messages (wholeReads.flatMap VoldRead.bytes)).map (voldMessage samplePaths)) := by
  refine switches_of_whole ⟨50, true⟩ (fun _ => openVoldEnv) init fun r hr => ?_
  unfold VoldRead.Whole
  rcases mem_cons.mp hr with rfl | hr
  · decide +kernel
  · rw [mem_singleton.mp hr]
    decide +kernel

/-- The same two messages, the second one in two reads. -/
def splitReads : List VoldRead :=
  let first := freshRead (mountedText ++ [0])
  let second := first.then sampleText
  [first, second, second.then (bytes "4 (Mounted) " ++ bytes "to 5 (Unmounting)" ++ [0])]

/-- The two messages in one read. -/
def joinedReads : List VoldRead :=
  [freshRead (mountedText ++ [0] ++ unmountingText ++ [0])]

/-- **A message is lost** if it comes in two reads, and the older one that is still in the buffer
counts again; it is also lost if it comes in one read with another message. -/
theorem splitReads_lose_message :
    splitReads.flatMap VoldRead.bytes = wholeReads.flatMap VoldRead.bytes ∧
    joinedReads.flatMap VoldRead.bytes = wholeReads.flatMap VoldRead.bytes ∧
    Daemon.init.switches ⟨50, true⟩ (fun _ => openVoldEnv) 0
        ((messages (wholeReads.flatMap VoldRead.bytes)).map (voldMessage samplePaths)) =
      [.external, .userdata] ∧ Daemon.init.switches ⟨50, true⟩ (fun _ => openVoldEnv) 0
        (splitReads.map (VoldRead.message samplePaths)) = [.external, .external] ∧
    Daemon.init.switches ⟨50, true⟩ (fun _ => openVoldEnv) 0
        (joinedReads.map (VoldRead.message samplePaths)) = [.external] := by
  refine ⟨?_, ?_, ?_, ?_, ?_⟩ <;> decide +kernel

end Solana.Aplogd
