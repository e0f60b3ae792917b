import Solana.Usbd.Invariants

/-!
# ADB in the alternate modes

In an alternate mode the daemon itself chooses the mode of the device, when a USB cable is attached
and when the driver reports that ADB or tethering was switched.  `adb_in_alternate_modes` says when
the mode it sets has ADB exactly if ADB is enabled: a cable that is attached needs a readable ADB
property, and in the debug mode a report on tethering must not contradict ADB, because
`usbd_alt_mode_set` takes tethering for ADB there.
-/

namespace Solana.Usbd

open Runs Daemon List

variable {c : Config} {d d' : Daemon} {env : Env}

/-! ## Driver messages -/

/-- The field for ADB of a driver message. -/
def adbField : Option Bool → List Char
  | none => "none".toList
  | some true => "adb_enable".toList
  | some false => "adb_disable".toList

/-- The field for tethering of a driver message. -/
def tetheringField : Option Bool → List Char
  | none => "none".toList
  | some true => "tethering_enable".toList
  | some false => "tethering_disable".toList

/-- A message of the driver without a request to switch the mode. -/
def driverMessage (adb tether : Option Bool) (enu : List Char) : List Char :=
  "none".toList ++ ':' :: (adbField adb ++ ':' :: (tetheringField tether ++ ':' :: enu))

/-- A text that fills a field. -/
def IsField (f : List Char) : Prop := f ≠ [] ∧ ∀ ch ∈ f, ch ≠ ':' ∧ ch ≠ Char.ofNat 0

/-- The test for a field, as a computation over the text. -/
lemma IsField.of_all {f : List Char}
    (h : (!f.isEmpty && f.all fun ch => ch != ':' && ch != Char.ofNat 0) = true) : IsField f := by
  simpa [IsField] using h

lemma isField_none : IsField "none".toList := .of_all (by decide)

lemma isField_adbField (adb : Option Bool) : IsField (adbField adb) := by
  refine .of_all ?_
  rcases adb with _ | _ | _ <;> decide

lemma isField_tetheringField (tether : Option Bool) : IsField (tetheringField tether) := by
  refine .of_all ?_
  rcases tether with _ | _ | _ <;> decide

lemma IsField.scanField {f : List Char} (hf : IsField f) (buf rest : List Char) :
    scanField buf (cString (f ++ ':' :: rest)) = f := by
  have hsep : cString (f ++ ':' :: rest) = f ++ ':' :: cString rest := by
    exact untilNul_append (fun h => (hf.2 _ h).2 rfl) (':' :: rest)
  have hfield : (f ++ ':' :: cString rest).takeWhile (· ≠ ':') = f := by
    rw [takeWhile_append_of_pos fun ch hch => by simpa using (hf.2 ch hch).1]
    simp
  unfold Usbd.scanField
  simp only [hsep, hfield, if_neg hf.1]

lemma drop_field (f rest : List Char) : (f ++ ':' :: rest).drop (f.length + 1) = rest := by
  rw [← drop_drop, drop_left]
  rfl

/-- The flag that `usbd_alt_mode_set` has for a field. -/
def flagOf : Option Bool → Int
  | none => -1
  | some b => if b then 1 else 0

lemma fieldFlag_adbField (adb : Option Bool) :
    fieldFlag (adbField adb) "adb_enable" "adb_disable" = flagOf adb := by
  rcases adb with _ | _ | _ <;> decide

lemma fieldFlag_tetheringField (tether : Option Bool) :
    fieldFlag (tetheringField tether) "tethering_enable" "tethering_disable" = flagOf tether := by
  rcases tether with _ | _ | _ <;> decide

/-- The daemon after it has read the fields of a message. -/
def Daemon.readMessage (d : Daemon) (adb tether : Option Bool) : Daemon :=
  { d with
    pcSwitchbuf := "none".toList
    adbEnablebuf := adbField adb
    tetheringEnablebuf := tetheringField tether }

lemma Daemon.device_driverMessage (hc : d.cable ≠ .factory) (env : Env)
    (adb tether : Option Bool) (enu : List Char) : ∃ enubuf,
      d.device c (driverMessage adb tether enu) env =
        (d.readMessage adb tether).deviceFields c env enubuf := by
  have hpc : scanField d.pcSwitchbuf (cString (driverMessage adb tether enu)) = "none".toList :=
    isField_none.scanField _ _
  have hrest : (driverMessage adb tether enu).drop ("none".toList.length + 1) =
      adbField adb ++ ':' :: (tetheringField tether ++ ':' :: enu) := drop_field _ _
  have hoff : (driverMessage adb tether enu).drop
      ("none".toList.length + (adbField adb).length + 2) =
        tetheringField tether ++ ':' :: enu := by
    have hadd : "none".toList.length + (adbField adb).length + 2 =
        "none".toList.length + 1 + ((adbField adb).length + 1) := by omega
    rw [hadd, ← drop_drop, hrest, drop_field]
  have hne : driverMessage adb tether enu ≠ [] := by simp [driverMessage]
  unfold device
  simp only [if_neg hne, if_neg hc, hpc, hrest, (isField_adbField adb).scanField, hoff,
    (isField_tetheringField tether).scanField]
  exact ⟨_, rfl⟩

/-! ## What an event writes -/

/-- Is ADB enabled, by the field of a message if it has one and else by the property? -/
def adbEnabled (adb : Option Bool) (env : Env) : Bool := adb.getD (env.adbProperty = "1")

/-- Every mode that was set between two states has ADB exactly if it is enabled. -/
def Daemon.SetsAdb (d d' : Daemon) (enabled : Bool) : Prop :=
  ∃ ws, d'.written = ws ++ d.written ∧
    ∀ a m, (a, DeviceWrite.setMode m) ∈ ws → m.hasAdb = enabled

lemma Daemon.setsAdb_of_written_eq (h : d'.written = d.written) (enabled : Bool) :
    d.SetsAdb d' enabled := ⟨[], h, fun _ _ hm => absurd hm not_mem_nil⟩

lemma Daemon.setsAdb_of_written_cons {a : Accy} {m : UsbMode} {enabled : Bool}
    (h : d'.written = (a, .setMode m) :: d.written) :
    d.SetsAdb d' enabled ↔ m.hasAdb = enabled := by
  constructor
  · rintro ⟨ws, hws, hall⟩
    rw [h, ← singleton_append] at hws
    obtain rfl := append_cancel_right hws
    exact hall a m mem_cons_self
  · intro hm
    refine ⟨[(a, .setMode m)], h, fun a' m' hmem => ?_⟩
    obtain ⟨-, rfl⟩ := by simpa using hmem
    exact hm

lemma Daemon.setUsbMode_written {m : UsbMode} (hm : m ≠ .min) :
    (d.setUsbMode c m).written = (d.cable, .setMode m) :: d.written := by
  unfold setUsbMode
  simp only [if_neg hm]

lemma Daemon.enumeration_written (d : Daemon) (enubuf : List Char) :
    (d.enumeration c env enubuf).written = d.written :=
  (does_enumeration (K := (· ≠ .mode)) nofun nofun nofun enubuf).eq_of written fun hk h =>
    (h.mode hk).2

/-! ## The modes that are set -/

/-- The modes other than the normal one in which a phone is started. -/
def ModeType.IsAlternate (mode : ModeType) : Prop :=
  mode = .debug ∨ mode = .bptools ∨ mode = .tablet

lemma ModeType.IsAlternate.altMode (h : c.usbdMode.IsAlternate) : c.altMode = true := by
  rcases h with h | h | h <;> simp [Config.altMode, h]

lemma usbAltModeTlb_hasAdb (mode : ModeType) (adbEn tetherEn : Bool) :
    (usbAltModeTlb mode adbEn tetherEn).hasAdb = adbEn := by
  cases mode <;> cases adbEn <;> cases tetherEn <;> rfl

lemma usbAltModeTlb_ne_min (mode : ModeType) (adbEn tetherEn : Bool) :
    usbAltModeTlb mode adbEn tetherEn ≠ .min := by
  cases mode <;> cases adbEn <;> cases tetherEn <;> exact nofun

/-- The default mode has ADB unless the property is readable and off. -/
lemma defaultMode_hasAdb {mode : ModeType} (h : mode.IsAlternate) (env : Env) :
    ∃ m, defaultMode mode env = some m ∧ m ≠ .min ∧
      m.hasAdb = decide (usbdGetAdbProperty env.adbProperty ≠ 0) := by
  rcases h with rfl | rfl | rfl <;>
    by_cases hadb : usbdGetAdbProperty env.adbProperty = 0 <;>
      simp [defaultMode, hadb, UsbMode.hasAdb]

lemma usbdGetAdbProperty_eq_one {value : String} : usbdGetAdbProperty value = 1 ↔ value = "1" := by
  unfold usbdGetAdbProperty
  split_ifs with h0 h1
  · simp only [false_iff]
    rintro rfl
    exact absurd h0 (by decide)
  · simp [h1]
  · simp [h1]

/-- The property, as `usbd_enumerate_default_mode` takes it, is right exactly if it is readable. -/
lemma decide_adbProperty_iff (value : String) :
    decide (usbdGetAdbProperty value ≠ 0) = decide (value = "1") ↔ value ≠ "" := by
  have hempty : value.length = 0 ↔ value = "" := String.length_eq_zero_iff
  unfold usbdGetAdbProperty
  split_ifs with h0 h1
  · obtain rfl := hempty.mp h0
    decide
  · simp [h1]
  · simp only [h1]
    simpa using mt hempty.mpr h0

lemma Daemon.enumerateDefaultMode_setsAdb (h : c.usbdMode.IsAlternate) (d : Daemon) (env : Env) :
    d.SetsAdb (d.enumerateDefaultMode c env) (adbEnabled none env) ↔ env.adbProperty ≠ "" := by
  obtain ⟨m, hm, hmin, hadb⟩ := defaultMode_hasAdb h env
  unfold enumerateDefaultMode
  rw [hm, setsAdb_of_written_cons (setUsbMode_written hmin), hadb]
  exact decide_adbProperty_iff env.adbProperty

/-- In the debug mode, tethering is enabled only if ADB is, and disabled by a message without a
field for ADB only if ADB is not enabled. -/
def TetheringAgrees (mode : ModeType) (adb tether : Option Bool) (env : Env) : Prop :=
  mode = .debug →
    (tether = some true → adbEnabled adb env = true) ∧
    (tether = some false → adb = none → adbEnabled adb env = false)

/-- The flag that selects the row of the table. -/
lemma adbFlag_eq_one (adb : Option Bool) (env : Env) :
    (if flagOf adb < 0 then usbdGetAdbProperty env.adbProperty else flagOf adb) = 1 ↔
      adbEnabled adb env = true := by
  rcases adb with _ | _ | _
  · exact usbdGetAdbProperty_eq_one.trans decide_eq_true_iff.symm
  · simp [flagOf, adbEnabled]
  · simp [flagOf, adbEnabled]

/-- The choice of the mode in `usbd_alt_mode_set`. -/
lemma altNewMode_hasAdb {mode : ModeType} (h : mode.IsAlternate) {adb tether : Option Bool}
    (env : Env) (t : Bool) (hne : ¬(adb = none ∧ tether = none)) :
    (altNewMode mode env (flagOf adb) (flagOf tether) t = none ∧
      TetheringAgrees mode adb tether env) ∨
    ∃ m, altNewMode mode env (flagOf adb) (flagOf tether) t = some m ∧ m ≠ .min ∧
      (m.hasAdb = adbEnabled adb env ↔ TetheringAgrees mode adb tether env) := by
  by_cases hd : mode = .debug
  · subst hd
    refine .inr ⟨_, rfl, ?_, ?_⟩
    · split_ifs <;> exact nofun
    · unfold TetheringAgrees adbEnabled flagOf
      rcases adb with _ | _ | _ <;> rcases tether with _ | _ | _ <;>
        simp_all [UsbMode.hasAdb]
  · have hagree : TetheringAgrees mode adb tether env := fun h => absurd h hd
    have htable : altNewMode mode env (flagOf adb) (flagOf tether) t =
        if (if flagOf adb < 0 then usbdGetAdbProperty env.adbProperty else flagOf adb) < 0 then none
        else some (usbAltModeTlb mode (adbEnabled adb env) t) := by
      have hrow : decide ((if flagOf adb < 0 then usbdGetAdbProperty env.adbProperty
          else flagOf adb) = 1) = adbEnabled adb env := by
        rw [Bool.eq_iff_iff, decide_eq_true_iff, adbFlag_eq_one]
      rw [← hrow]
      rcases h with rfl | rfl | rfl
      exacts [absurd rfl hd, rfl, rfl]
    rw [htable]
    by_cases hneg :
        (if flagOf adb < 0 then usbdGetAdbProperty env.adbProperty else flagOf adb) < 0
    · rw [if_pos hneg]
      exact .inl ⟨rfl, hagree⟩
    · rw [if_neg hneg]
      exact .inr ⟨_, rfl, usbAltModeTlb_ne_min _ _ _,
          iff_of_true (usbAltModeTlb_hasAdb _ _ _) hagree⟩

/-- The driver reports on ADB and tethering. -/
lemma Daemon.altModeSet_setsAdb (h : c.usbdMode.IsAlternate) (d : Daemon) (adb tether : Option Bool)
    (env : Env) :
    d.SetsAdb (d.altModeSet c env (adbField adb) (tetheringField tether)) (adbEnabled adb env) ↔
      TetheringAgrees c.usbdMode adb tether env := by
  have hflags : ∀ f : Option Bool, flagOf f < 0 ↔ f = none := by
    rintro (_ | _ | _) <;> decide
  unfold altModeSet
  simp only [fieldFlag_adbField, fieldFlag_tetheringField]
  by_cases hnone : tether = none ∧ adb = none
  · obtain ⟨rfl, rfl⟩ := hnone
    rw [if_pos (by decide)]
    exact iff_of_true (setsAdb_of_written_eq rfl _) fun _ => ⟨nofun, nofun⟩
  · rw [if_neg (by rwa [hflags, hflags])]
    obtain ⟨hwritten, hcable⟩ : (d.rememberTethering (flagOf tether)).written = d.written ∧
        (d.rememberTethering (flagOf tether)).cable = d.cable := by
      unfold rememberTethering
      split_ifs <;> exact ⟨rfl, rfl⟩
    rcases altNewMode_hasAdb h env (d.rememberTethering (flagOf tether)).tetheringEnabled
      (mt And.symm hnone) with ⟨hm, hagree⟩ | ⟨m, hm, hmin, hagree⟩
    · rw [hm]
      exact iff_of_true (setsAdb_of_written_eq hwritten _) hagree
    · rw [hm]
      refine (setsAdb_of_written_cons (a := d.cable) (m := m) ?_).trans hagree
      rw [setUsbMode_written hmin, hcable, hwritten]

/-- Without a request to switch the mode, only `usbd_alt_mode_set` writes to the device. -/
lemma Daemon.deviceFields_written (ha : c.altMode = true) (hc : d.cable = .usb)
    (ho : d.online = true) (hpc : d.pcSwitchbuf = "none".toList) (env : Env) (enubuf : List Char) :
    (d.deviceFields c env enubuf).written =
      (d.altModeSet c env d.adbEnablebuf d.tetheringEnablebuf).written := by
  have hset : d.Does c env (· ≠ .texts)
      (d.altModeSet c env d.adbEnablebuf d.tetheringEnablebuf) :=
    does_altModeSet nofun nofun (allows_of_usb hc) _ _
  have hpc' := (hset.eq_of pcSwitchbuf fun hk h => h.pcSwitchbuf hk).trans hpc
  unfold deviceFields
  simp only [if_pos (And.intro ha ho), hpc', ne_eq, not_true_eq_false, if_false]
  split_ifs
  · exact enumeration_written _ _
  · rfl

/-- **ADB in the alternate modes.**  When the daemon starts with a USB cable or one is attached, the
mode it sets has ADB exactly if ADB is enabled by the property, if and only if the property can be
read.  When the driver reports on ADB or tethering with a USB cable online, the same holds by the
field of the message or else by the property, if and only if, in the debug mode, the report on
tethering agrees with ADB. -/
theorem adb_in_alternate_modes {c : Config} (h : c.usbdMode.IsAlternate) :
    (∀ mem env d, Daemon.start c mem (some '1') env = some d →
      ((Daemon.boot mem).SetsAdb d (adbEnabled none env) ↔ env.adbProperty ≠ "")) ∧
    (∀ (d : Daemon) (u : Uevent) (env : Env), u.accepted = true → u.switchState = some '1' →
      (d.SetsAdb (d.uevent c u env) (adbEnabled none env) ↔ env.adbProperty ≠ "")) ∧
    (∀ (d : Daemon) (adb tether : Option Bool) (enu : List Char) (env : Env),
      d.cable = .usb → d.online = true →
      (d.SetsAdb (d.device c (driverMessage adb tether enu) env) (adbEnabled adb env) ↔
        TetheringAgrees c.usbdMode adb tether env)) := by
  refine ⟨fun mem env d hs => ?_, fun d u env hu hsw => ?_, fun d adb tether enu env hc ho => ?_⟩
  · have hd : d = enumerateDefaultMode c { boot mem with
        cable := .usb, online := true, state := .cableAttached } env := by
      unfold start at hs
      simpa [readUsbSwitchState, h.altMode] using hs.symm
    rw [hd]
    exact enumerateDefaultMode_setsAdb h _ env
  · have hd : d.uevent c u env = enumerateDefaultMode c
        { d.changeCable .usb with tetheringEnabled := false } env := by
      unfold uevent
      simp [hu, hsw, readUsbSwitchState, changeCable, handleCableStatusChange, h.altMode]
    rw [hd]
    exact enumerateDefaultMode_setsAdb h
      { d.changeCable .usb with tetheringEnabled := false } env
  · obtain ⟨enubuf, hd⟩ := device_driverMessage (c := c) (d := d)
      (by rw [hc]; exact nofun) env adb tether enu
    have hw := deviceFields_written (d := d.readMessage adb tether) h.altMode hc ho rfl env
      enubuf
    rw [hd]
    unfold Daemon.SetsAdb
    rw [hw]
    exact altModeSet_setsAdb h (d.readMessage adb tether) adb tether env

/-- A phone that was started in debug mode. -/
def debugPhone : Config :=
  let build : Build := ⟨false, false, false⟩
  ⟨build, usbdGetStartupMode build "debug" "0" "normal"⟩

/-- A phone in debug mode whose driver reports that ADB was enabled. -/
theorem adb_enabled_in_debug_mode : ∃ d : Daemon, d.cable = .usb ∧ d.online = true ∧
      d.SetsAdb (d.device debugPhone (driverMessage (some true) none "none".toList)
        (sampleEnv "0" "0")) true := by
  obtain ⟨d, -, hcable, honline⟩ : ∃ d,
      start debugPhone sampleMemory (some '1') (sampleEnv "0" "0") = some d ∧
        d.cable = .usb ∧ d.online = true := by decide +kernel
  exact ⟨d, hcable, honline, ((adb_in_alternate_modes (.inl (by decide))).2.2 d (some true) none
    "none".toList (sampleEnv "0" "0") hcable honline).mpr fun _ => ⟨nofun, nofun⟩⟩

/-- In the debug mode a report that tethering was enabled exposes ADB, though ADB is off, and one
that it was disabled removes ADB, though ADB is on. -/
theorem tethering_switches_adb :
    ∃ d d' : Daemon, Daemon.Reachable debugPhone d ∧ Daemon.Reachable debugPhone d' ∧
      d.usbMode = .msc ∧ (d.device debugPhone (driverMessage none (some true) "none".toList)
        (sampleEnv "0" "0")).usbMode = .mscAdb ∧ d'.usbMode = .mscAdb ∧
      (d'.device debugPhone (driverMessage none (some false) "none".toList)
        (sampleEnv "1" "0")).usbMode = .msc := by
  obtain ⟨d, hr, hmode, hadb⟩ : ∃ d, Daemon.Reachable debugPhone d ∧ d.usbMode = .msc ∧
      (d.device debugPhone (driverMessage none (some true) "none".toList)
        (sampleEnv "0" "0")).usbMode = .mscAdb :=
    exists_of_start (fun _ h => ⟨sampleMemory, some '1', sampleEnv "0" "0", h⟩) []
      (by decide +kernel)
  obtain ⟨d', hr', hv⟩ : ∃ d, Daemon.Reachable debugPhone d ∧ d.usbMode = .mscAdb ∧
      (d.device debugPhone (driverMessage none (some false) "none".toList)
        (sampleEnv "1" "0")).usbMode = .msc :=
    exists_of_start (fun _ h => ⟨sampleMemory, some '1', sampleEnv "1" "0", h⟩) []
      (by decide +kernel)
  exact ⟨d, d', hr, hr', hmode, hadb, hv⟩

end Solana.Usbd
