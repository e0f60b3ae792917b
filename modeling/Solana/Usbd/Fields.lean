import Solana.Usbd.Alternate

/-!
# The fields of a driver message

A driver message has four fields with colons between them.  The main loop reads the first three by
`sscanf` with `%[^:]` into buffers that live as long as the loop, and finds each next field by the
lengths of the texts in the buffers.  `sscanf` stores nothing for an empty field, so the text of an
earlier message stays in its place, and the fields behind it are looked for in the wrong place; and
it stores a field that is longer than its buffer behind the end of the buffer.

`fields_independent`: what the daemon does on a message depends on nothing that earlier messages
left in the buffers exactly if the message is empty or its three fields are there and fit, and the
fields of a message are read as they are exactly if the first three are not empty.
-/

namespace Solana.Usbd

open Runs Daemon List

variable {c : Config} {d d' : Daemon} {env : Env}

/-! ## Reading a message -/

/-- The texts in the buffers for the first three fields. -/
structure Texts where
  pc : List Char
  adb : List Char
  tether : List Char

/-- Empty buffers. -/
def Texts.blank : Texts := ⟨[], [], []⟩

/-- The fields of a message as the daemon has read them; `enum` is the text in `enubuf`. -/
structure Fields extends Texts where
  enum : List Char

/-- Read a message, with the texts that are in the buffers. -/
def Texts.scan (old : Texts) (read : List Char) : Fields :=
  let pc := scanField old.pc (cString read)
  let adb := scanField old.adb (cString (read.drop (pc.length + 1)))
  let offset := pc.length + adb.length + 2
  let tether := scanField old.tether (cString (read.drop offset))
  let length := (cString read).length - pc.length - adb.length - tether.length - 2
  ⟨⟨pc, adb, tether⟩, cString ((read.drop (offset + tether.length + 1)).take length)⟩

/-- The texts fit into `pcSwitchbuf`, `adbEnablebuf` and `tetheringEnablebuf`; with a factory cable
the third field is not read. -/
def Texts.Fit (t : Texts) (cable : Accy) : Prop :=
  t.pc.length < 50 ∧ t.adb.length < 20 ∧ (cable ≠ .factory → t.tether.length < 20)

instance (t : Texts) (cable : Accy) : Decidable (t.Fit cable) :=
  inferInstanceAs (Decidable (_ ∧ _))

/-- No field is empty. -/
def Texts.Full (t : Texts) : Prop := t.pc ≠ [] ∧ t.adb ≠ [] ∧ t.tether ≠ []

def Daemon.texts (d : Daemon) : Texts := ⟨d.pcSwitchbuf, d.adbEnablebuf, d.tetheringEnablebuf⟩

/-- The daemon with other texts in the buffers. -/
def Daemon.withTexts (d : Daemon) (t : Texts) : Daemon :=
  { d with pcSwitchbuf := t.pc, adbEnablebuf := t.adb, tetheringEnablebuf := t.tether }

/-- The part of the main loop for a message of the device driver, unless it writes behind the end of
a buffer. -/
def Daemon.deviceBounded (c : Config) (d : Daemon) (read : List Char) (env : Env) :
    Option Daemon :=
  if read = [] ∨ (d.texts.scan read).Fit d.cable then some (d.device c read env) else none

/-- Two daemons are the same but for the texts in the buffers. -/
def Daemon.SameButTexts (d d' : Daemon) : Prop := d.withTexts .blank = d'.withTexts .blank

/-- What the daemon does on a message does not depend on the texts in the buffers. -/
def ActsOnMessage (read : List Char) : Prop :=
  ∀ (c : Config) (d d' : Daemon) (env : Env), Daemon.Reachable c d → Daemon.Reachable c d' →
    d.SameButTexts d' → ∃ r r', d.deviceBounded c read env = some r ∧
      d'.deviceBounded c read env = some r' ∧ r.SameButTexts r'

/-- A message that is empty, or whose first three fields are not empty and fit into their
buffers. -/
def Plain (read : List Char) : Prop :=
  read = [] ∨ (Texts.blank.scan read).Full ∧ (Texts.blank.scan read).Fit .usb

/-- A message of four fields. -/
def message (p a t e : List Char) : List Char := p ++ ':' :: (a ++ ':' :: (t ++ ':' :: e))

/-! ## Texts -/

open Texts

lemma scanField_of_ne {text : List Char} (h : scanField [] text ≠ []) (buf : List Char) :
    scanField buf text = scanField [] text := by
  unfold scanField at *
  simp only at *
  split_ifs at * with hfield
  · exact absurd rfl h
  · rfl

lemma scanField_of_nil {text : List Char} (h : scanField [] text = []) (buf : List Char) :
    scanField buf text = buf := by
  unfold scanField at *
  simp only at *
  split_ifs at * with hfield
  · rfl
  · exact absurd h hfield

section Scan

variable {read : List Char}

lemma Texts.scan_pc_of_nil (old : Texts) (hpc : (blank.scan read).pc = []) :
    (old.scan read).pc = old.pc :=
  scanField_of_nil hpc old.pc

lemma Texts.scan_adb_of_nil (old : Texts) (hpc : (blank.scan read).pc ≠ [])
    (hadb : (blank.scan read).adb = []) : (old.scan read).adb = old.adb := by
  simp only [scan, blank] at *
  rw [scanField_of_ne hpc old.pc]
  exact scanField_of_nil hadb old.adb

lemma Texts.scan_tether_of_nil (old : Texts) (hpc : (blank.scan read).pc ≠ [])
    (hadb : (blank.scan read).adb ≠ []) (htether : (blank.scan read).tether = []) :
    (old.scan read).tether = old.tether := by
  simp only [scan, blank] at *
  rw [scanField_of_ne hpc old.pc, scanField_of_ne hadb old.adb]
  exact scanField_of_nil htether old.tether

lemma Texts.scan_of_full (old : Texts) (h : (blank.scan read).Full) :
    old.scan read = blank.scan read := by
  obtain ⟨hpc, hadb, htether⟩ := h
  simp only [scan, blank] at *
  rw [scanField_of_ne hpc old.pc, scanField_of_ne hadb old.adb, scanField_of_ne htether old.tether]

end Scan

/-! ## Messages of four fields -/

section Message

variable {p a t e : List Char}

/-- A text without a colon, and without the zero that ends a text. -/
def IsText (f : List Char) : Prop := ∀ ch ∈ f, ch ≠ ':' ∧ ch ≠ Char.ofNat 0

lemma cString_eq {f : List Char} (h : ∀ ch ∈ f, ch ≠ Char.ofNat 0) : cString f = f := by
  unfold cString untilNul
  rw [takeWhile_eq_self_iff]
  intro ch hch
  simpa using h ch hch

lemma drop_two_fields (p a rest : List Char) :
    (p ++ ':' :: (a ++ ':' :: rest)).drop (p.length + a.length + 2) = rest := by
  have hadd : p.length + a.length + 2 = p.length + 1 + (a.length + 1) := by omega
  rw [hadd, ← drop_drop, drop_field, drop_field]

lemma length_message (p a t e : List Char) :
    (message p a t e).length = p.length + a.length + t.length + e.length + 3 := by
  simp only [message, length_append, length_cons]
  omega

lemma Texts.scan_message (old : Texts) (hp : IsField p) (ha : IsField a) (ht : IsField t)
    (he : IsText e) : old.scan (message p a t e) = ⟨⟨p, a, t⟩, e⟩ := by
  have hpc : scanField old.pc (cString (message p a t e)) = p := hp.scanField _ _
  have hadb : scanField old.adb (cString ((message p a t e).drop (p.length + 1))) = a := by
    rw [message, drop_field]
    exact ha.scanField _ _
  have htether : scanField old.tether
      (cString ((message p a t e).drop (p.length + a.length + 2))) = t := by
    rw [message, drop_two_fields]
    exact ht.scanField _ _
  have hrest : (message p a t e).drop (p.length + a.length + 2 + t.length + 1) = e := by
    rw [message, Nat.add_assoc (p.length + a.length + 2), ← drop_drop, drop_two_fields,
      drop_field]
  have hlength : (cString (message p a t e)).length = (message p a t e).length := by
    rw [cString_eq]
    intro ch hch
    simp only [message, mem_append, mem_cons] at hch
    rcases hch with hch | rfl | hch | rfl | hch | rfl | hch
    · exact (hp.2 ch hch).2
    · decide
    · exact (ha.2 ch hch).2
    · decide
    · exact (ht.2 ch hch).2
    · decide
    · exact (he ch hch).2
  have htake : e.take ((message p a t e).length - p.length - a.length - t.length - 2) = e := by
    refine take_of_length_le ?_
    rw [length_message]
    omega
  unfold scan
  simp only [hpc, hadb, htether, hrest, hlength, htake, cString_eq fun ch hch => (he ch hch).2]

lemma Texts.full_of_scan_message (hp : IsText p) (ha : IsText a)
    (h : ∀ old : Texts, old.scan (message p a t e) = ⟨⟨p, a, t⟩, e⟩) :
    p ≠ [] ∧ a ≠ [] ∧ t ≠ [] := by
  -- an empty field leaves what is in its buffer
  have hpne : p ≠ [] := by
    rintro rfl
    have hpc : ['x'] = [] := congrArg (fun f : Fields => f.pc) (h ⟨['x'], [], []⟩)
    cases hpc
  have hane : a ≠ [] := by
    rintro rfl
    have hadb := congrArg (fun f : Fields => f.adb) (h ⟨[], ['x'], []⟩)
    simp only [scan, message, IsField.scanField ⟨hpne, hp⟩, drop_field] at hadb
    cases hadb
  refine ⟨hpne, hane, ?_⟩
  rintro rfl
  have htether := congrArg (fun f : Fields => f.tether) (h ⟨[], [], ['x']⟩)
  simp only [scan, message, IsField.scanField ⟨hpne, hp⟩, drop_field,
    IsField.scanField ⟨hane, ha⟩, drop_two_fields] at htether
  cases htether

end Message

/-! ## Messages that are plain -/

lemma Daemon.SameButTexts.withTexts (h : d.SameButTexts d') (t : Texts) :
    d.withTexts t = d'.withTexts t := by
  have hsame : (d.withTexts .blank).withTexts t = (d'.withTexts .blank).withTexts t := by rw [h]
  exact hsame

lemma Daemon.SameButTexts.eq_of {α : Type} (h : d.SameButTexts d') (f : Daemon → α)
    (hf : ∀ d t, f (Daemon.withTexts d t) = f d) : f d = f d' := by
  rw [← hf d .blank, ← hf d' .blank, h]

lemma Daemon.setUsbMode_withTexts (d : Daemon) (m : UsbMode) (t : Texts) :
    (d.withTexts t).setUsbMode c m = (d.setUsbMode c m).withTexts t := by
  unfold setUsbMode
  simp only
  split_ifs <;> rfl

lemma Daemon.SameButTexts.setUsbMode (h : d.SameButTexts d') (m : UsbMode) :
    (d.setUsbMode c m).SameButTexts (d'.setUsbMode c m) := by
  unfold Daemon.SameButTexts
  rw [← setUsbMode_withTexts, ← setUsbMode_withTexts, h.withTexts]

lemma Daemon.SameButTexts.factoryDevice (h : d.SameButTexts d')
    (hadb : d.adbEnablebuf = d'.adbEnablebuf) :
    (d.factoryDevice c env).SameButTexts (d'.factoryDevice c env) := by
  unfold Daemon.factoryDevice
  rw [hadb]
  split_ifs
  exacts [h.setUsbMode _, h.setUsbMode _, h]

lemma Daemon.device_eq (d : Daemon) {read : List Char} (hne : read ≠ []) : d.device c read env =
      if d.cable = .factory then
        (d.withTexts ⟨(d.texts.scan read).pc, (d.texts.scan read).adb,
          d.tetheringEnablebuf⟩).factoryDevice c env
      else
        (d.withTexts (d.texts.scan read).toTexts).deviceFields c env (d.texts.scan read).enum := by
  unfold device
  rw [if_neg hne]
  rfl

lemma Plain.actsOnMessage {read : List Char} (h : Plain read) : ActsOnMessage read := by
  intro c d d' env _ _ hsame
  rcases h with rfl | ⟨hfull, hfit⟩
  · exact ⟨d, d', if_pos (.inl rfl), if_pos (.inl rfl), hsame⟩
  · have hscan := fun old : Texts => old.scan_of_full hfull
    have hbounded : ∀ d : Daemon, d.deviceBounded c read env = some (d.device c read env) := by
      intro d
      refine if_pos (.inr ?_)
      rw [hscan d.texts]
      exact ⟨hfit.1, hfit.2.1, fun _ => hfit.2.2 (by decide)⟩
    refine ⟨_, _, hbounded d, hbounded d', ?_⟩
    by_cases hne : read = []
    · subst hne
      exact hsame
    · rw [d.device_eq hne, d'.device_eq hne, hscan d.texts, hscan d'.texts,
        hsame.eq_of Daemon.cable fun _ _ => rfl]
      split_ifs
      · exact Daemon.SameButTexts.factoryDevice hsame rfl
      · rw [hsame.withTexts]
        rfl

/-! ## Messages that are not plain -/

/-- A daemon that starts with a cable and with some texts in the buffers. -/
def Daemon.attached (c : Config) (ch : Char) (t : Texts) : Daemon :=
  (Daemon.start c ⟨true, t.pc, t.adb, t.tether⟩ (some ch) (sampleEnv "0" "0")).getD
    (.boot sampleMemory)

section Necessary

variable {read : List Char}

/-- What the daemon does with two texts in the buffers. -/
lemma ActsOnMessage.attached (h : ActsOnMessage read) (hne : read ≠ []) (c : Config) (ch : Char)
    (t t' : Texts) (hsame : (Daemon.attached c ch t).SameButTexts (.attached c ch t')) :
    ((Daemon.attached c ch t).texts.scan read).Fit (Daemon.attached c ch t).cable ∧
      ((Daemon.attached c ch t).device c read (sampleEnv "0" "0")).SameButTexts
        ((Daemon.attached c ch t').device c read (sampleEnv "0" "0")) := by
  have hreach : ∀ t, Daemon.Reachable c (.attached c ch t) := fun t =>
    .start ⟨⟨true, t.pc, t.adb, t.tether⟩, some ch, sampleEnv "0" "0", rfl⟩
  obtain ⟨r, r', hr, hr', hsame⟩ := h c _ _ (sampleEnv "0" "0") (hreach t) (hreach t') hsame
  obtain ⟨hfit, hr⟩ := Option.ite_none_right_eq_some.mp hr
  obtain ⟨-, hr'⟩ := Option.ite_none_right_eq_some.mp hr'
  rw [Option.some.inj hr, Option.some.inj hr']
  exact ⟨hfit.resolve_left hne, hsame⟩

/-- In the normal mode only a request to switch the mode sets one. -/
lemma Daemon.deviceFields_usbMode (ha : c.altMode = false) (hcable : d.cable = .usb)
    (honline : d.online = true) (happ : d.app = none) (enubuf : List Char) :
    (d.deviceFields c env enubuf).usbMode =
      (if d.pcSwitchbuf ≠ "none".toList then d.usbReqModeSwitch c env d.pcSwitchbuf
        else d).usbMode := by
  have hstatus : d.sendStatus d.adbEnablebuf d.tetheringEnablebuf = d := by
    unfold sendStatus
    rw [happ]
  unfold deviceFields
  simp only [ha, hstatus, hcable, honline, and_self, if_true, Bool.false_eq_true, false_and,
    if_false]
  exact (does_enumeration (K := (· ≠ .mode)) nofun nofun nofun enubuf).eq_of usbMode fun hk h =>
    (h.mode hk).1

/-- With an empty first field, an old request to switch the mode is made again. -/
lemma ActsOnMessage.pc_ne (h : ActsOnMessage read) (hne : read ≠ []) :
    (blank.scan read).pc ≠ [] := by
  intro hpc
  obtain ⟨-, hsame⟩ := h.attached hne samplePhone '1' ⟨"none".toList, [], []⟩
    ⟨"cdrom2".toList, [], []⟩ rfl
  have hmode : ∀ t : Texts, ((Daemon.attached samplePhone '1' t).device samplePhone read
      (sampleEnv "0" "0")).usbMode = (if t.pc ≠ "none".toList then
        ((Daemon.attached samplePhone '1' t).withTexts (t.scan read).toTexts).usbReqModeSwitch
          samplePhone (sampleEnv "0" "0") t.pc else .boot sampleMemory).usbMode := by
    intro t
    rw [device_eq _ hne, if_neg (by exact nofun),
      deviceFields_usbMode (by decide) rfl rfl rfl]
    change (if (t.scan read).pc ≠ "none".toList then usbReqModeSwitch samplePhone _ _
      (t.scan read).pc else _).usbMode = _
    rw [t.scan_pc_of_nil hpc]
    split_ifs <;> rfl
  have hswitch : ∀ d : Daemon, (d.usbReqModeSwitch samplePhone (sampleEnv "0" "0")
      "cdrom2".toList).usbMode = .cdrom2 := by
    intro d
    have henabled : ¬usbdGetAdbProperty (sampleEnv "0" "0").switchAdbProperty < 0 := by decide
    have hrequest : switchRequest samplePhone.build "cdrom2".toList = none := by decide +kernel
    obtain ⟨params, written, heq⟩ := d.setUsbMode_eq samplePhone .cdrom2
    unfold usbReqModeSwitch
    simp only [if_neg henabled, hrequest, if_true, heq]
  have hmodes := hsame.eq_of usbMode fun _ _ => rfl
  rw [hmode, hmode, if_neg (by decide), if_pos (by decide), hswitch] at hmodes
  cases hmodes

/-- With an empty second field and a factory cable, ADB is switched on again. -/
lemma ActsOnMessage.adb_ne (h : ActsOnMessage read) (hne : read ≠ [])
    (hpc : (blank.scan read).pc ≠ []) : (blank.scan read).adb ≠ [] := by
  intro hadb
  obtain ⟨-, hsame⟩ := h.attached hne samplePhone '2' ⟨[], "none".toList, []⟩
    ⟨[], "adb_disable".toList, []⟩ rfl
  have hwritten : ∀ t : Texts, ((Daemon.attached samplePhone '2' t).device samplePhone read
      (sampleEnv "0" "0")).written = if t.adb = "adb_disable".toList then
        [(.factory, .setMode .network), (.factory, .setMode .network)]
        else [(.factory, .setMode .network)] := by
    intro t
    have hcable : (Daemon.attached samplePhone '2' t).cable = .factory := rfl
    have hoff : usbdFactorycableAdbEnabled (sampleEnv "0" "0") = false := by decide
    rw [device_eq _ hne, if_pos hcable]
    unfold Daemon.factoryDevice
    simp only [hoff, Bool.false_eq_true, false_and, if_false]
    change (if (t.scan read).adb = "adb_disable".toList then _ else _ : Daemon).written = _
    rw [t.scan_adb_of_nil hpc hadb]
    split_ifs
    · exact setUsbMode_written (by decide)
    · rfl
  have hkept := (hwritten ⟨[], "none".toList, []⟩).trans (if_neg (by decide))
  have hset := (hwritten ⟨[], "adb_disable".toList, []⟩).trans (if_pos rfl)
  have hlists := hkept.symm.trans ((hsame.eq_of written fun _ _ => rfl).trans hset)
  exact absurd (congrArg length hlists) (by decide)

/-- In an alternate mode, the third field says whether tethering is enabled. -/
lemma Daemon.deviceFields_tethering (ha : c.altMode = true) (honline : d.online = true)
    (enubuf : List Char) : (d.deviceFields c env enubuf).tetheringEnabled =
      (d.rememberTethering (fieldFlag d.tetheringEnablebuf "tethering_enable"
        "tethering_disable")).tetheringEnabled := by
  have hset : (d.altModeSet c env d.adbEnablebuf d.tetheringEnablebuf).tetheringEnabled =
      (d.rememberTethering (fieldFlag d.tetheringEnablebuf "tethering_enable"
        "tethering_disable")).tetheringEnabled := by
    unfold altModeSet
    generalize fieldFlag d.tetheringEnablebuf "tethering_enable" "tethering_disable" = tetherEn
    simp only
    split_ifs with hnone
    · rw [rememberTethering, if_neg (Int.not_le.mpr hnone.1)]
    · split
      · rfl
      · rename_i m _
        obtain ⟨params, written, heq⟩ := (d.rememberTethering tetherEn).setUsbMode_eq c m
        rw [heq]
  have henum : ∀ d : Daemon, (d.enumeration c env enubuf).tetheringEnabled = d.tetheringEnabled :=
    fun d => (does_enumeration (K := (· ≠ .tethering)) nofun nofun nofun enubuf).eq_of
      tetheringEnabled fun hk h => h.tethering hk
  unfold deviceFields
  simp only [ha, honline, and_self, if_true]
  generalize d.altModeSet c env d.adbEnablebuf d.tetheringEnablebuf = d₁ at hset
  split_ifs with husb
  · have hswitch : d₁.Does c env (· ≠ .tethering) (d₁.usbReqModeSwitch c env d₁.pcSwitchbuf) :=
      does_usbReqModeSwitch nofun (fun _ _ => nofun) (allows_of_usb husb.1) _
    rw [henum, hswitch.eq_of tetheringEnabled fun hk h => h.tethering hk, hset]
  · rw [henum, hset]
  · exact hset

/-- With an empty third field, tethering is switched on again. -/
lemma ActsOnMessage.tether_ne (h : ActsOnMessage read) (hne : read ≠ [])
    (hpc : (blank.scan read).pc ≠ []) (hadb : (blank.scan read).adb ≠ []) :
    (blank.scan read).tether ≠ [] := by
  intro htether
  obtain ⟨-, hsame⟩ := h.attached hne debugPhone '1' ⟨[], [], "none".toList⟩
    ⟨[], [], "tethering_enable".toList⟩ rfl
  have hremembered : ∀ t : Texts, ((Daemon.attached debugPhone '1' t).device debugPhone read
      (sampleEnv "0" "0")).tetheringEnabled =
        ((boot sampleMemory).rememberTethering
          (fieldFlag t.tether "tethering_enable" "tethering_disable")).tetheringEnabled := by
    intro t
    rw [device_eq _ hne, if_neg (by exact nofun),
      deviceFields_tethering (by decide) rfl]
    change (rememberTethering _ (fieldFlag (t.scan read).tether _ _)).tetheringEnabled = _
    rw [t.scan_tether_of_nil hpc hadb htether]
    unfold rememberTethering
    split_ifs <;> rfl
  have hoff : fieldFlag "none".toList "tethering_enable" "tethering_disable" = -1 := by decide
  have hon : fieldFlag "tethering_enable".toList "tethering_enable" "tethering_disable" = 1 := by
    decide
  have hflags := hsame.eq_of tetheringEnabled fun _ _ => rfl
  rw [hremembered, hremembered, hoff, hon] at hflags
  exact Bool.false_ne_true hflags

lemma ActsOnMessage.plain (h : ActsOnMessage read) : Plain read := by
  by_cases hne : read = []
  · exact .inl hne
  have hpc := h.pc_ne hne
  have hadb := h.adb_ne hne hpc
  have htether := h.tether_ne hne hpc hadb
  obtain ⟨hfit, -⟩ := h.attached hne samplePhone '1' .blank .blank rfl
  rw [scan_of_full _ ⟨hpc, hadb, htether⟩] at hfit
  exact .inr ⟨⟨hpc, hadb, htether⟩, hfit⟩

end Necessary

/-- **What is left over from earlier messages.**  What the daemon does on a driver message depends
on the message and its own state but on no text of an earlier message, and it stays in the bounds of
its buffers, exactly if the message is empty or its first three fields are not empty and fit.  The
fields of a message of four fields are read as they are, whatever is in the buffers, exactly if the
first three are not empty. -/
theorem fields_independent (read : List Char) : (ActsOnMessage read ↔ Plain read) ∧
    ∀ p a t e : List Char, IsText p → IsText a → IsText t → IsText e →
      p.length < 50 → a.length < 20 → t.length < 20 → (message p a t e).length < 90 →
      ((∀ old : Texts, old.scan (message p a t e) = ⟨⟨p, a, t⟩, e⟩) ↔
        p ≠ [] ∧ a ≠ [] ∧ t ≠ []) := by
  refine ⟨⟨ActsOnMessage.plain, Plain.actsOnMessage⟩, ?_⟩
  intro p a t e hp ha ht he _ _ _ _
  refine ⟨full_of_scan_message hp ha, ?_⟩
  rintro ⟨hpne, hane, htne⟩ old
  exact old.scan_message ⟨hpne, hp⟩ ⟨hane, ha⟩ ⟨htne, ht⟩ he

/-- A message of the driver is read as it is, also after a request to switch the mode. -/
theorem fields_of_sample_message : (Texts.scan ⟨"cdrom2".toList, "adb_enable".toList, "none".toList⟩
      (message "none".toList "none".toList "none".toList "get_desc".toList)).enum =
        "get_desc".toList := by
  have hnone : IsText "none".toList := isField_none.2
  have hdesc : IsText "get_desc".toList := (IsField.of_all (by decide)).2
  have hscan := ((fields_independent []).2 "none".toList "none".toList "none".toList
    "get_desc".toList hnone hnone hnone hdesc (by decide) (by decide) (by decide) (by decide)).mpr
    ⟨by decide, by decide, by decide⟩ ⟨"cdrom2".toList, "adb_enable".toList, "none".toList⟩
  rw [hscan]

/-- The uevent for a change of the cable. -/
def cableUevent (ch : Char) : Uevent := ⟨64, 1, 0, some 0, true, some ch⟩

/-- A phone gets a message without a cable, then a USB cable and a message without a first field. -/
def leftoverRun (first : String) : Option Daemon :=
  Daemon.runFrom samplePhone sampleMemory (some '0') (sampleEnv "0" "0")
    [.device first.toList (sampleEnv "0" "0"), .uevent (cableUevent '1') (sampleEnv "0" "0"),
      .device ":none:none:none".toList (sampleEnv "0" "0")]

/-- A request that came while there was no cable is carried out on a message that has none. -/
theorem leftover_request : ¬ActsOnMessage ":none:none:none".toList ∧
      (leftoverRun "none:none:none:none").map (fun d => d.usbMode) = some .min ∧
      (leftoverRun "cdrom2:none:none:none").map (fun d => d.usbMode) = some .cdrom2 := by
  refine ⟨fun h => ?_, by decide +kernel, by decide +kernel⟩
  exact h.pc_ne (by decide) (by decide)

end Solana.Usbd
