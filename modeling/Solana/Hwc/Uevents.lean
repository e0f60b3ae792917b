import Solana.Hwc.System
import Solana.Lib.CString

/-!
# The uevents of `hdmi_thread`

`hdmi_thread` receives every uevent into one static buffer, behind which two zeros are kept, and
`handle_uevents` walks over the strings in it: the name of the event and its variables.  The walk
looks at the received length only behind a variable.  So the string at the end of the message
matters if no zero follows it, and so does the string behind a message that is only a name:
older messages have left bytes there, and the walk reads on into them.

`parseUevent_determined_iff` says exactly which messages are read from their own bytes alone.
-/

namespace Solana

open List Option

/-! ## The walk -/

/-- The events `handle_uevents` reacts to. -/
inductive UeventKind
  | dock
  | hdmi
  | vsync
deriving DecidableEq

/-- The names under which an event is announced. -/
def UeventKind.names : UeventKind → List (List UInt8)
  | .dock => [bytes "change@/devices/virtual/switch/dock"]
  | .hdmi => [bytes "change@/devices/virtual/switch/hdmi"]
  | .vsync => [bytes "change@/devices/platform/omapfb",
      bytes "change@/devices/virtual/switch/omapfb-vsync"]

/-- The event with a name. -/
def ueventKind (name : List UInt8) : Option UeventKind :=
  if name ∈ UeventKind.names .dock then some .dock
  else if name ∈ UeventKind.names .hdmi then some .hdmi
  else if name ∈ UeventKind.names .vsync then some .vsync
  else none

/-- The local variables `state` and `timestamp` of `handle_uevents`. -/
structure UeventVars where
  state : Int := 0
  timestamp : Nat := 0

/-- One round of the loop: the variable that a string sets. -/
def UeventVars.read (v : UeventVars) (s : List UInt8) : UeventVars :=
  if bytes "SWITCH_STATE=" <+: s then
    { v with state := atoi (s.drop (bytes "SWITCH_STATE=").length) }
  else if bytes "SWITCH_TIME=" <+: s then
    { v with timestamp := strtoull (s.drop (bytes "SWITCH_TIME=").length) }
  else if bytes "VSYNC=" <+: s then
    { v with timestamp := strtoull (s.drop (bytes "VSYNC=").length) }
  else v

/-- The loop of `handle_uevents`, with the pointer `s` at offset `pos` of the buffer. -/
def readVars (len pos : Nat) (s : List UInt8) (v : UeventVars) : UeventVars :=
  if h : s.headD 0 = 0 then v
  else
    let pos := pos + ((cstr s).length + 1)
    if len ≤ pos then v.read (cstr s) else readVars len pos (afterCstr s) (v.read (cstr s))
termination_by s.length
decreasing_by
  refine afterCstr_length_lt ?_
  rintro rfl
  exact h rfl

/-- An event with what has been extracted for it. -/
inductive Uevent
  | dock (state : Int)
  | hdmi (state : Int)
  | vsync (timestamp : Nat)
deriving DecidableEq

/-- The event of a kind, for the local variables behind the loop. -/
def UeventKind.event (v : UeventVars) : UeventKind → Uevent
  | .dock => .dock v.state
  | .hdmi => .hdmi v.state
  | .vsync => .vsync v.timestamp

/-- The event that `handle_uevents` recognises in a buffer with `len` received bytes. -/
def parseUevent (buff : List UInt8) (len : Nat) : Option Uevent :=
  (ueventKind (cstr buff)).map
    (UeventKind.event (readVars len ((cstr buff).length + 1) (afterCstr buff) {}))

/-- `handle_uevents`: the device afterwards, and the time of the `vsync` callback if there is
one. -/
def handleUevents (env : HotplugEnv) (procs : Bool) (dev : HwcDev) (buff : List UInt8)
    (len : Nat) : HwcDev × Option Nat :=
  match parseUevent buff len with
  | none => (dev, none)
  | some (.dock state) => (handleHotplug env ((Switch.dock (state = 1)).write dev), none)
  | some (.hdmi state) => (handleHotplug env ((Switch.hdmi (state = 1)).write dev), none)
  | some (.vsync timestamp) => (dev, if procs then some timestamp else none)

open UeventKind

/-! ## What a string contributes -/

/-- The keys of the variables that matter for an event. -/
def UeventKind.keys : UeventKind → List (List UInt8)
  | .dock => [bytes "SWITCH_STATE="]
  | .hdmi => [bytes "SWITCH_STATE="]
  | .vsync => [bytes "SWITCH_TIME=", bytes "VSYNC="]

/-- The number that a text behind one of the keys stands for. -/
def UeventKind.number : UeventKind → List UInt8 → Int
  | .dock, s => atoi s
  | .hdmi, s => atoi s
  | .vsync, s => strtoull s

/-- The local variable that matters for an event. -/
def UeventKind.value (v : UeventVars) : UeventKind → Int
  | .dock => v.state
  | .hdmi => v.state
  | .vsync => v.timestamp

variable {kind : UeventKind}

lemma UeventKind.event_eq_iff (v v' : UeventVars) :
    kind.event v = kind.event v' ↔ kind.value v = kind.value v' := by
  cases kind <;> simp [event, value]

lemma UeventVars.read_nil (v : UeventVars) : v.read [] = v := rfl

lemma ueventKey_unique {key key' s : List UInt8}
    (hkey : key ∈ [bytes "SWITCH_STATE=", bytes "SWITCH_TIME=", bytes "VSYNC="])
    (hkey' : key' ∈ [bytes "SWITCH_STATE=", bytes "SWITCH_TIME=", bytes "VSYNC="])
    (h : key <+: s) (h' : key' <+: s) : key = key' := by
  have hunique : ∀ k ∈ [bytes "SWITCH_STATE=", bytes "SWITCH_TIME=", bytes "VSYNC="],
      ∀ k' ∈ [bytes "SWITCH_STATE=", bytes "SWITCH_TIME=", bytes "VSYNC="],
      k <+: k' → k = k' := by decide +kernel
  rcases prefix_or_prefix_of_prefix h h' with hp | hp
  · exact hunique _ hkey _ hkey' hp
  · exact (hunique _ hkey' _ hkey hp).symm

lemma UeventKind.value_read_of_key {key : List UInt8} (hkey : key ∈ kind.keys) (v : UeventVars)
    (d : List UInt8) : kind.value (v.read (key ++ d)) = kind.number d := by
  have hprefix : key <+: key ++ d := prefix_append key d
  unfold UeventVars.read
  cases kind with
  | dock =>
    obtain rfl := mem_singleton.mp hkey
    rw [if_pos hprefix, drop_left]
    rfl
  | hdmi =>
    obtain rfl := mem_singleton.mp hkey
    rw [if_pos hprefix, drop_left]
    rfl
  | vsync =>
    have hstate : ¬bytes "SWITCH_STATE=" <+: key ++ d := by
      intro hs
      have heq := ueventKey_unique (by simp) (mem_cons_of_mem _ hkey) hs hprefix
      subst heq
      exact absurd hkey (by decide +kernel)
    rw [if_neg hstate]
    rcases mem_pair.mp hkey with rfl | rfl
    · rw [if_pos hprefix, drop_left]
      rfl
    · have htime : ¬bytes "SWITCH_TIME=" <+: bytes "VSYNC=" ++ d := by
        intro hs
        exact absurd (ueventKey_unique (by simp) (by simp) hs hprefix) (by decide +kernel)
      rw [if_neg htime, if_pos hprefix, drop_left]
      rfl

lemma UeventKind.value_read_of_no_key {s : List UInt8} (h : ∀ key ∈ kind.keys, ¬key <+: s)
    (v : UeventVars) : kind.value (v.read s) = kind.value v := by
  unfold UeventVars.read
  cases kind with
  | dock =>
    rw [if_neg (h _ (mem_singleton_self _))]
    split_ifs <;> rfl
  | hdmi =>
    rw [if_neg (h _ (mem_singleton_self _))]
    split_ifs <;> rfl
  | vsync =>
    rw [if_neg (h _ mem_cons_self), if_neg (h _ (mem_cons_of_mem _ (mem_singleton_self _)))]
    split_ifs <;> rfl

/-! ## The open end of a message -/

/-- The string without a terminating zero that the walk gets to, from some point of the message
on. -/
def openString (m : List UInt8) : Option (List UInt8) :=
  if m.head? = some 0 then none
  else if _h : 0 ∈ m then
    if afterCstr m = [] then none else openString (afterCstr m)
  else some m
termination_by m.length
decreasing_by exact afterCstr_length_lt (List.ne_nil_of_mem _h)

lemma zero_notMem_openString (m : List UInt8) :
    ∀ {u : List UInt8}, openString m = some u → 0 ∉ u := by
  fun_induction openString m with
  | case1 m hhead => exact fun h => absurd h (by simp)
  | case2 m hhead hmem hafter => exact fun h => absurd h (by simp)
  | case3 m hhead hmem hafter ih => exact ih
  | case4 m hhead hmem =>
    intro u h
    exact some.inj h ▸ hmem

section Walk

variable {len pos : Nat} {s : List UInt8} {v : UeventVars}

lemma readVars_of_zero (h : s.headD 0 = 0) : readVars len pos s v = v := by
  rw [readVars, dif_pos h]

lemma cstr_eq_nil_of_zero (h : s.headD 0 = 0) : cstr s = [] := by
  cases s with
  | nil => rfl
  | cons b s =>
    obtain rfl : b = 0 := h
    rfl

lemma readVars_of_le (h : len ≤ pos + ((cstr s).length + 1)) :
    readVars len pos s v = v.read (cstr s) := by
  by_cases hhead : s.headD 0 = 0
  · rw [readVars_of_zero hhead, cstr_eq_nil_of_zero hhead, UeventVars.read_nil]
  · rw [readVars, dif_neg hhead]
    exact if_pos h

lemma readVars_of_lt (hhead : s.headD 0 ≠ 0) (h : pos + ((cstr s).length + 1) < len) :
    readVars len pos s v =
      readVars len (pos + ((cstr s).length + 1)) (afterCstr s) (v.read (cstr s)) := by
  rw [readVars, dif_neg hhead]
  exact if_neg (Nat.not_le.mpr h)

/-- The walk over the rest `m` of a message, up to an open string. -/
lemma readVars_append (m : List UInt8) : ∀ {pos : Nat} {v : UeventVars}, pos + m.length = len →
    ∃ v', ∀ rest, readVars len pos (m ++ rest) v =
      (openString m).elim v' fun u => v'.read (u ++ cstr rest) := by
  fun_induction openString m with
  | case1 m hhead =>
    intro pos v hpos
    obtain ⟨m, rfl⟩ := head?_eq_some_iff.mp hhead
    exact ⟨v, fun rest => readVars_of_zero rfl⟩
  | case2 m hhead hmem hafter =>
    -- the last string ends with the message
    intro pos v hpos
    have hlen := length_cstr_add_length_afterCstr hmem
    rw [hafter, length_nil] at hlen
    refine ⟨v.read (cstr m), fun rest => ?_⟩
    rw [readVars_of_le (by rw [cstr_append_of_mem hmem]; omega), cstr_append_of_mem hmem]
    rfl
  | case3 m hhead hmem hafter ih =>
    intro pos v hpos
    have hlen := length_cstr_add_length_afterCstr hmem
    have hpos' : 0 < (afterCstr m).length := length_pos_iff.mpr hafter
    obtain ⟨v', hv'⟩ := @ih (pos + ((cstr m).length + 1)) (v.read (cstr m)) (by omega)
    refine ⟨v', fun rest => ?_⟩
    have hne : (m ++ rest).headD 0 ≠ 0 := by
      obtain ⟨b, m', rfl⟩ := exists_cons_of_ne_nil (ne_nil_of_mem hmem)
      exact fun h0 => hhead (congrArg some h0)
    rw [readVars_of_lt hne (by rw [cstr_append_of_mem hmem]; omega), cstr_append_of_mem hmem,
      afterCstr_append_of_mem hmem]
    exact hv' rest
  | case4 m hhead hmem =>
    -- the string goes on behind the message, so it is the last one, wherever it ends
    intro pos v hpos
    refine ⟨v, fun rest => ?_⟩
    have hcstr := cstr_append_of_notMem hmem rest
    rw [readVars_of_le (by rw [hcstr, length_append]; omega), hcstr]
    rfl

end Walk

/-! ## The messages that are read from their own bytes -/

/-- A string that has been received in part is read the same way however it goes on: it cannot
become a variable of the event, and if it is one, its number is complete. -/
def Unaffected (kind : UeventKind) (u : List UInt8) : Prop :=
  ∀ key ∈ kind.keys, ¬u <+: key ∧
    ∀ d, u = key ++ d → ∀ r, 0 ∉ r → kind.number (d ++ r) = kind.number d

/-- A message without a zero is not the beginning of a name, and a message with a name does not
leave an open string to the walk that the bytes behind it can affect. -/
def SelfContained (msg : List UInt8) : Prop :=
  (0 ∉ msg → ∀ kind : UeventKind, ∀ name ∈ kind.names, ¬msg <+: name) ∧
    (0 ∈ msg → ∀ kind, ueventKind (cstr msg) = some kind →
      ∀ u, openString (afterCstr msg) = some u → Unaffected kind u)

lemma zero_notMem_key {key : List UInt8} (h : key ∈ kind.keys) : 0 ∉ key := by
  cases kind <;> revert key <;> decide +kernel

lemma unaffected_iff (u : List UInt8) (v : UeventVars) : (∀ r r', 0 ∉ r → 0 ∉ r' →
      kind.value (v.read (u ++ r)) = kind.value (v.read (u ++ r'))) ↔ Unaffected kind u := by
  constructor
  · intro h key hkey
    refine ⟨?_, ?_⟩
    · -- the key may be completed, with one number or another
      rintro ⟨t, rfl⟩
      have ht : 0 ∉ t := fun h0 => zero_notMem_key hkey (mem_append_right u h0)
      have hdigit : ∀ b : UInt8, b ≠ 0 → 0 ∉ t ++ [b] := by
        intro b hb h0
        rcases mem_append.mp h0 with h0 | h0
        · exact ht h0
        · exact hb (mem_singleton.mp h0).symm
      have heq := h (t ++ [49]) (t ++ [50]) (hdigit 49 (by decide)) (hdigit 50 (by decide))
      rw [← append_assoc, ← append_assoc, value_read_of_key hkey, value_read_of_key hkey] at heq
      revert heq
      cases kind <;> decide +kernel
    · rintro d rfl r hr
      have heq := h r [] hr not_mem_nil
      rwa [append_assoc, append_assoc, value_read_of_key hkey,
        value_read_of_key hkey, append_nil] at heq
  · intro h
    -- both sides are what `u` alone gives
    suffices hone : ∀ r, 0 ∉ r → kind.value (v.read (u ++ r)) = kind.value (v.read u) from
      fun r r' hr hr' => (hone r hr).trans (hone r' hr').symm
    intro r hr
    by_cases hex : ∃ key ∈ kind.keys, key <+: u
    · obtain ⟨key, hkey, d, rfl⟩ := hex
      rw [append_assoc, value_read_of_key hkey, value_read_of_key hkey]
      exact (h key hkey).2 d rfl r hr
    · have hu : ∀ key ∈ kind.keys, ¬key <+: u := fun key hkey hp => hex ⟨key, hkey, hp⟩
      rw [value_read_of_no_key hu, value_read_of_no_key]
      intro key hkey hp
      rcases prefix_or_prefix_of_prefix hp (prefix_append u r) with hp | hp
      · exact hu key hkey hp
      · exact (h key hkey).1 hp

/-- The table of names: they belong to one event each, and are short strings without a zero. -/
lemma name_spec {name : List UInt8} (h : name ∈ kind.names) :
    ueventKind name = some kind ∧ 0 ∉ name ∧ name.length < 50 := by
  cases kind <;> revert name <;> decide +kernel

lemma ueventKind_eq_some {name : List UInt8} : ueventKind name = some kind ↔ name ∈ kind.names := by
  constructor
  · unfold ueventKind
    split_ifs with hdock hhdmi hvsync
    · exact fun h => some.inj h ▸ hdock
    · exact fun h => some.inj h ▸ hhdmi
    · exact fun h => some.inj h ▸ hvsync
    · exact fun h => absurd h (by simp)
  · exact fun h => (name_spec h).1

lemma parseUevent_open_iff {msg : List UInt8} (hmsg : 0 ∉ msg) :
    (∀ rest rest', parseUevent (msg ++ rest) msg.length = parseUevent (msg ++ rest') msg.length) ↔
      ∀ kind : UeventKind, ∀ name ∈ kind.names, ¬msg <+: name := by
  constructor
  · rintro h kind name hname ⟨t, rfl⟩
    have ht : 0 ∉ t := fun h0 => (name_spec hname).2.1 (mem_append_right msg h0)
    -- the name completed, and continued with something else
    have heq := h (t ++ [0]) (replicate 50 1)
    have hsome : ueventKind (cstr (msg ++ (t ++ [0]))) = some kind := by
      rw [cstr_append_of_notMem hmsg, cstr_append_zero ht]
      exact ueventKind_eq_some.mpr hname
    have hnone : ueventKind (cstr (msg ++ replicate 50 1)) = none := by
      refine eq_none_iff_forall_ne_some.mpr fun kind' hkind' => ?_
      have hlen := (name_spec (ueventKind_eq_some.mp hkind')).2.2
      rw [cstr_append_of_notMem hmsg, length_append,
        show (cstr (replicate 50 1)).length = 50 by decide +kernel] at hlen
      omega
    rw [parseUevent, parseUevent, hsome, hnone] at heq
    exact absurd heq (by simp)
  · intro h
    have hnone : ∀ rest, ueventKind (cstr (msg ++ rest)) = none := by
      intro rest
      refine eq_none_iff_forall_ne_some.mpr fun kind hkind => ?_
      refine h kind _ (ueventKind_eq_some.mp hkind) ?_
      rw [cstr_append_of_notMem hmsg]
      exact prefix_append msg _
    intro rest rest'
    rw [parseUevent, parseUevent, hnone, hnone]
    rfl

lemma parseUevent_named_iff {msg : List UInt8} (hmsg : 0 ∈ msg)
    (hkind : ueventKind (cstr msg) = some kind) :
    (∀ rest rest', parseUevent (msg ++ rest) msg.length = parseUevent (msg ++ rest') msg.length) ↔
      ∀ u, openString (afterCstr msg) = some u → Unaffected kind u := by
  obtain ⟨v, hv⟩ := @readVars_append msg.length (afterCstr msg) _ {}
    (length_cstr_add_length_afterCstr hmsg)
  have hparse : ∀ rest, parseUevent (msg ++ rest) msg.length =
      some (kind.event ((openString (afterCstr msg)).elim v fun u => v.read (u ++ cstr rest))) := by
    intro rest
    rw [parseUevent, cstr_append_of_mem hmsg, afterCstr_append_of_mem hmsg, hkind, hv rest]
    rfl
  cases hopen : openString (afterCstr msg) with
  | none =>
    rw [hopen] at hparse
    exact ⟨fun _ u hu => absurd hu (by simp), fun _ rest rest' => (hparse rest).trans
      (hparse rest').symm⟩
  | some u =>
    rw [hopen] at hparse
    have hu : 0 ∉ u := zero_notMem_openString _ hopen
    constructor
    · intro h u' hu'
      obtain rfl := some.inj hu'
      refine (unaffected_iff u v).mp fun r r' hr hr' => ?_
      have heq := h (r ++ [0]) (r' ++ [0])
      rw [hparse, hparse, cstr_append_zero hr, cstr_append_zero hr'] at heq
      exact (event_eq_iff _ _).mp (some.inj heq)
    · intro h rest rest'
      rw [hparse, hparse]
      refine congrArg some ((event_eq_iff _ _).mpr ?_)
      exact (unaffected_iff u v).mpr (h u rfl) _ _ (zero_notMem_cstr rest) (zero_notMem_cstr rest')

/-- **The uevents that are read from the received bytes alone**: whatever older bytes follow them
in the buffer, `handle_uevents` recognises the same event and extracts the same state. -/
theorem parseUevent_determined_iff (msg : List UInt8) :
    (∀ rest rest', parseUevent (msg ++ rest) msg.length = parseUevent (msg ++ rest') msg.length) ↔
      SelfContained msg := by
  by_cases hmsg : 0 ∈ msg
  · cases hkind : ueventKind (cstr msg) with
    | none =>
      have hnone : ∀ rest, parseUevent (msg ++ rest) msg.length = none := by
        intro rest
        rw [parseUevent, cstr_append_of_mem hmsg, hkind]
        rfl
      refine ⟨fun _ => ⟨fun h0 => absurd hmsg h0, fun _ kind hk => ?_⟩,
        fun _ rest rest' => (hnone rest).trans (hnone rest').symm⟩
      exact absurd (hkind.symm.trans hk) (by simp)
    | some kind =>
      rw [parseUevent_named_iff hmsg hkind]
      refine ⟨fun h => ⟨fun h0 => absurd hmsg h0, fun _ kind' hk => ?_⟩,
        fun h => h.2 hmsg kind hkind⟩
      obtain rfl := some.inj (hkind.symm.trans hk)
      exact h
  · rw [parseUevent_open_iff hmsg]
    exact ⟨fun h => ⟨fun _ => h, fun h0 => absurd h0 hmsg⟩, fun h => h.1 hmsg⟩

/-- A message that is only the name of the HDMI switch.  What it says depends on the bytes an
older message has left behind it. -/
theorem bare_uevent_reads_on :
    parseUevent (bytes "change@/devices/virtual/switch/hdmi\x00" ++ bytes "\x00\x00") 36 =
        some (.hdmi 0) ∧ parseUevent (bytes "change@/devices/virtual/switch/hdmi\x00" ++
        bytes "SWITCH_STATE=1\x00\x00") 36 = some (.hdmi 1) ∧
      (bytes "change@/devices/virtual/switch/hdmi\x00").length = 36 := by
  decide +kernel

lemma openString_of_terminated (m : List UInt8) (hne : m ≠ []) (hlast : m.getLast? = some 0) :
    openString m = none := by
  fun_induction openString m with
  | case1 m hhead => rfl
  | case2 m hhead hmem hafter => rfl
  | case3 m hhead hmem hafter ih =>
    refine ih hafter ?_
    obtain ⟨a, b, rfl, ha⟩ := eq_append_cons_of_mem hmem
    rw [afterCstr_append_zero ha] at hafter ⊢
    obtain ⟨c, b, rfl⟩ := exists_cons_of_ne_nil hafter
    rw [getLast?_append_of_ne_nil _ (cons_ne_nil _ _), getLast?_cons_cons] at hlast
    exact hlast
  | case4 m hhead hmem => exact absurd (mem_of_getLast? hlast) hmem

/-- **The messages of the kernel**, a name and at least one variable, all of them terminated, are
handled by what they say: the device and the callback do not depend on the bytes that an older
message has left behind them. -/
theorem handleUevents_of_terminated (env : HotplugEnv) (procs : Bool) (dev : HwcDev)
    {msg name vars : List UInt8} (hmsg : msg = name ++ 0 :: vars) (hname : 0 ∉ name)
    (hne : vars ≠ []) (hlast : vars.getLast? = some 0) (rest rest' : List UInt8) :
    handleUevents env procs dev (msg ++ rest) msg.length =
      handleUevents env procs dev (msg ++ rest') msg.length := by
  have hmem : 0 ∈ msg := hmsg ▸ mem_append_right _ mem_cons_self
  have hparse : parseUevent (msg ++ rest) msg.length = parseUevent (msg ++ rest') msg.length := by
    cases hkind : ueventKind (cstr msg) with
    | none => simp [parseUevent, cstr_append_of_mem hmem, hkind]
    | some kind =>
      refine (parseUevent_named_iff hmem hkind).mpr (fun u hu => ?_) rest rest'
      rw [hmsg, afterCstr_append_zero hname, openString_of_terminated vars hne hlast] at hu
      cases hu
  rw [handleUevents, hparse, handleUevents]

/-- The HDMI cable is plugged in, as the kernel says it. -/
def sampleUevent : List UInt8 :=
  bytes "change@/devices/virtual/switch/hdmi\x00SWITCH_STATE=1\x00"

theorem hdmi_uevent_handled :
    handleUevents sampleHotplug true (hwcDeviceOpen (sampleOpen false .disabled))
        (sampleUevent ++ bytes "SWITCH_STATE=0\x00") sampleUevent.length =
      handleUevents sampleHotplug true (hwcDeviceOpen (sampleOpen false .disabled))
        (sampleUevent ++ []) sampleUevent.length :=
  handleUevents_of_terminated _ _ _ (by decide +kernel : sampleUevent =
    bytes "change@/devices/virtual/switch/hdmi" ++ 0 :: bytes "SWITCH_STATE=1\x00")
    (by decide +kernel) (by decide +kernel) (by decide +kernel) _ _

end Solana
