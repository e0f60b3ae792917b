import Solana.Usbd.Daemon

/-!
# What the handlers of the USB daemon change

Each handler of the main loop is a sequence of a few elementary changes: it sets a mode, calls the
hook after an enumeration, remembers a setting, stores the fields of a message, moves to another
state, or writes to the application.  `Daemon.Makes` lists them with the conditions under which they
are made, and `Daemon.Does` is a sequence of changes of given kinds.  The handlers are gone through
once, here; what they leave as it is and what they keep follows from the elementary changes.
-/

namespace Solana.Usbd

open ModeData Option

/-! ## Elementary changes -/

/-- The kinds of changes. -/
inductive Change
  | mode
  | hook
  | tethering
  | texts
  | state
  | write (text : String)

/-- The texts of the status messages, the result of whose write is not checked. -/
def statusTexts : List String :=
  ["usbd_adb_status_on", "usbd_adb_status_off", "usbd_tethering_status_on",
    "usbd_tethering_status_off"]

/-- The modes for a factory cable. -/
def UsbMode.isFactory (m : UsbMode) : Prop := m = .network ∨ m = .networkAdb

/-- When a mode is set: with a cable, unless it is the unload mode, and only a factory mode with a
factory cable. -/
structure Daemon.Allows (d : Daemon) (m : UsbMode) : Prop where
  cable : m = .min ∨ d.online = true ∨ d.cable ≠ .unknown
  factory : d.cable = .factory → m.isFactory

/-- A change of a kind. -/
inductive Daemon.Makes (c : Config) (env : Env) (d : Daemon) : Change → Daemon → Prop
  | set {m : UsbMode} (h : d.Allows m) : Makes c env d .mode (d.setUsbMode c m)
  | enable : Makes c env d .hook
      { d with params := callHook (usbModeList c.build d.usbMode).enableDone d.params }
  | tether (b : Bool) : Makes c env d .tethering { d with tetheringEnabled := b }
  | read (pc adb tether : List Char) : Makes c env d .texts
      { d with pcSwitchbuf := pc, adbEnablebuf := adb, tetheringEnablebuf := tether }
  | enum (n : Nat) (s : UsbdState) :
      Makes c env d .state { d with getDesCount := n, state := s }
  | send {fd : Nat} {text : String} (happ : d.app = some fd) (ht : text ∈ statusTexts) :
      Makes c env d (.write text) (d.send fd text)
  | sendOrDrop {fd : Nat} {text : String} (happ : d.app = some fd) (ht : text ∉ statusTexts) :
      Makes c env d (.write text) (d.sendOrDrop env fd text)

/-- Changes of given kinds, one after the other. -/
def Daemon.Does (c : Config) (env : Env) (K : Change → Prop) : Daemon → Daemon → Prop :=
  Relation.ReflTransGen fun d d' => ∃ k, K k ∧ d.Makes c env k d'

variable {c : Config} {d d' : Daemon} {env : Env} {k : Change} {K : Change → Prop}

lemma Daemon.Makes.does (h : d.Makes c env k d') (hk : K k) : d.Does c env K d' :=
  .single ⟨k, hk, h⟩

/-! ## What changes keep -/

/-- The mode, its parameters, the cable and the writes to the device are the same. -/
@[mk_iff]
structure Daemon.SameGadget (d d' : Daemon) : Prop where
  usbMode : d'.usbMode = d.usbMode
  params : d'.params = d.params
  cable : d'.cable = d.cable
  written : d'.written = d.written

/-- What a change of a kind leaves as it is. -/
structure Daemon.Keeps (k : Change) (d d' : Daemon) : Prop where
  online : d'.online = d.online
  cable : d'.cable = d.cable
  conns : d'.conns = d.conns
  gadget : k ≠ .mode → k ≠ .hook → d.SameGadget d'
  mode : k ≠ .mode → d'.usbMode = d.usbMode ∧ d'.written = d.written
  pcSwitchbuf : k ≠ .texts → d'.pcSwitchbuf = d.pcSwitchbuf
  tethering : k ≠ .tethering → d'.tetheringEnabled = d.tetheringEnabled
  count : k ≠ .state → d'.getDesCount = d.getDesCount ∧ d'.state = d.state
  app : (∀ text, k ≠ .write text) → d'.app = d.app ∧ d'.sent = d.sent

namespace Daemon

lemma setUsbMode_eq (c : Config) (d : Daemon) (m : UsbMode) : ∃ params written,
    d.setUsbMode c m = { d with params := params, usbMode := m, written := written } := by
  unfold setUsbMode
  simp only
  split_ifs <;> exact ⟨_, _, rfl⟩

lemma sendOrDrop_eq (d : Daemon) (env : Env) (fd : Nat) (text : String) : ∃ app,
    d.sendOrDrop env fd text = { d with app := app, sent := (fd, text) :: d.sent } := by
  unfold sendOrDrop
  split_ifs <;> exact ⟨_, rfl⟩

lemma Makes.keeps (h : d.Makes c env k d') : d.Keeps k d' := by
  cases h with
  | @set m h =>
    obtain ⟨params, written, heq⟩ := d.setUsbMode_eq c m
    constructor <;> simp [heq]
  | enable => constructor <;> simp
  | tether b => constructor <;> simp [sameGadget_iff]
  | read pc adb tether => constructor <;> simp [sameGadget_iff]
  | enum n s => constructor <;> simp [sameGadget_iff]
  | send happ ht => constructor <;> simp [Daemon.send, sameGadget_iff]
  | @sendOrDrop fd text happ ht =>
    obtain ⟨app, heq⟩ := d.sendOrDrop_eq env fd text
    constructor <;> simp [heq, sameGadget_iff]

/-- What every change of the given kinds keeps, a sequence of them keeps. -/
lemma Does.eq_of {α : Type} (f : Daemon → α) (h : d.Does c env K d')
    (hf : ∀ {k : Change} {d d' : Daemon}, K k → d.Keeps k d' → f d' = f d) : f d' = f d := by
  induction h with
  | refl => rfl
  | tail _ hstep ih =>
    obtain ⟨k, hk, hmakes⟩ := hstep
    exact (hf hk hmakes.keeps).trans ih

lemma Does.online (h : d.Does c env K d') : d'.online = d.online :=
  h.eq_of Daemon.online fun _ hk => hk.online

lemma Does.cable (h : d.Does c env K d') : d'.cable = d.cable :=
  h.eq_of Daemon.cable fun _ hk => hk.cable

/-- **The rule for properties of the gadget**: setting an allowed mode and the hook keep them, and
they depend on nothing else. -/
theorem Does.gadget_rule {P : Daemon → Prop} (h : d.Does c env K d') (hd : P d)
    (hset : ∀ d₁ m, d.Does c env K d₁ → d₁.Allows m → P d₁ → P (d₁.setUsbMode c m))
    (henable : ∀ d₁, P d₁ →
      P { d₁ with params := callHook (usbModeList c.build d₁.usbMode).enableDone d₁.params })
    (hframe : ∀ d₁ d₂, Daemon.SameGadget d₁ d₂ → P d₁ → P d₂) : P d' := by
  induction h with
  | refl => exact hd
  | tail hdoes hstep ih =>
    obtain ⟨k, -, hmakes⟩ := hstep
    have hkeeps := hmakes.keeps
    cases hmakes with
    | set hallows => exact hset _ _ hdoes hallows ih
    | enable => exact henable _ ih
    | _ => exact hframe _ _ (hkeeps.gadget nofun nofun) ih

end Daemon

/-! ## Texts -/

/-- The texts of the table of modes are no status messages. -/
lemma ModeData.text_checked {b : Build} {m : UsbMode} {text : String}
    (h : (usbModeList b m).modeDone = some text ∨ (usbModeList b m).switchReq = some text ∨
      (usbModeList b m).respOk = some text) : text ∉ statusTexts ∧ text ≠ "get_descriptor" := by
  cases m <;> rcases h with h | h | h <;> cases h <;> decide

/-- What `switchRequest` finds is a text of the table. -/
lemma switchRequest_checked {b : Build} {tag : List Char} {text : String}
    (h : switchRequest b tag = some text) : text ∉ statusTexts ∧ text ≠ "get_descriptor" := by
  obtain ⟨m, -, hm⟩ := bind_eq_some_iff.mp h
  exact text_checked (.inr (.inl hm))

lemma UsbdState.notification_checked {s : UsbdState} {text : String}
    (h : s.notification = some text) : text ∉ statusTexts := by
  cases s <;> cases h <;> decide

/-! ## Handlers -/

lemma Daemon.allows_of_online (hon : d.online = true) (hc : d.cable ≠ .factory) (m : UsbMode) :
    d.Allows m :=
  ⟨.inr (.inl hon), fun hf => absurd hf hc⟩

lemma Daemon.allows_of_usb (hc : d.cable = .usb) (m : UsbMode) : d.Allows m :=
  ⟨.inr (.inr (by rw [hc]; decide)), fun hf => by cases hc.symm.trans hf⟩

lemma Daemon.allows_of_factory (hc : d.cable = .factory) {m : UsbMode} (hm : m.isFactory) :
    d.Allows m :=
  ⟨.inr (.inr (by rw [hc]; decide)), fun _ => hm⟩

section Modes

variable (hmode : K .mode)

include hmode

lemma Daemon.does_enumerateDefaultMode (h : ∀ m, d.Allows m) :
    d.Does c env K (d.enumerateDefaultMode c env) := by
  unfold enumerateDefaultMode
  split
  · exact .refl
  · exact (Makes.set (h _)).does hmode

lemma Daemon.does_setFactoryMode (hc : d.cable = .factory) :
    d.Does c env K (d.setFactoryMode c env) := by
  unfold setFactoryMode
  split_ifs
  · exact (Makes.set (allows_of_factory hc (.inr rfl))).does hmode
  · exact (Makes.set (allows_of_factory hc (.inl rfl))).does hmode

lemma Daemon.does_factoryDevice (hc : d.cable = .factory) :
    d.Does c env K (d.factoryDevice c env) := by
  unfold factoryDevice
  split_ifs
  · exact (Makes.set (allows_of_factory hc (.inr rfl))).does hmode
  · exact (Makes.set (allows_of_factory hc (.inl rfl))).does hmode
  · exact .refl

lemma Daemon.does_altModeSet (htether : K .tethering) (h : ∀ m, d.Allows m)
    (adbBuf tetherBuf : List Char) : d.Does c env K (d.altModeSet c env adbBuf tetherBuf) := by
  have hremember : ∀ flag, d.Does c env K (d.rememberTethering flag) := by
    intro flag
    unfold rememberTethering
    split_ifs
    · exact (Makes.tether _).does htether
    · exact .refl
  have hallows : ∀ flag m, (d.rememberTethering flag).Allows m := by
    intro flag m
    have hallows := h m
    have hdoes := hremember flag
    exact ⟨by rw [hdoes.online, hdoes.cable]; exact hallows.cable,
      by rw [hdoes.cable]; exact hallows.factory⟩
  unfold altModeSet
  simp only
  split_ifs
  · exact .refl
  · split
    · exact hremember _
    · exact (hremember _).trans ((Makes.set (hallows _ _)).does hmode)

lemma Daemon.does_usbReqModeSwitch
    (hwrite : ∀ text, text ≠ "get_descriptor" → K (.write text)) (h : ∀ m, d.Allows m)
    (tag : List Char) : d.Does c env K (d.usbReqModeSwitch c env tag) := by
  unfold usbReqModeSwitch
  cases hreq : switchRequest c.build tag with
  | none =>
    simp only
    split_ifs
    · exact .refl
    · exact (Makes.set (h _)).does hmode
    · exact .refl
  | some text =>
    simp only
    split_ifs
    · exact .refl
    · exact (Makes.set (h _)).does hmode
    · split
      · exact .refl
      · rename_i fd happ
        obtain ⟨hchecked, hne⟩ := switchRequest_checked hreq
        exact (Makes.sendOrDrop happ hchecked).does (hwrite text hne)

end Modes

namespace Daemon

lemma does_sendStatus (hwrite : ∀ text ∈ statusTexts, K (.write text))
    (adbBuf tetherBuf : List Char) : d.Does c env K (d.sendStatus adbBuf tetherBuf) := by
  have hadb : ∀ {d : Daemon} {fd : Nat}, d.app = some fd → ∀ en,
      d.Does c env K (d.sendAdbStatus fd en) := by
    intro d fd happ en
    unfold sendAdbStatus
    have ht : (if en = 1 then "usbd_adb_status_on" else "usbd_adb_status_off") ∈ statusTexts := by
      split_ifs <;> decide
    exact (Makes.send happ ht).does (hwrite _ ht)
  have htether : ∀ {d : Daemon} {fd : Nat}, d.app = some fd → ∀ en,
      d.Does c env K (d.sendTetheringStatus fd en) := by
    intro d fd happ en
    unfold sendTetheringStatus
    have ht : (if en = 1 then "usbd_tethering_status_on" else "usbd_tethering_status_off") ∈
        statusTexts := by
      split_ifs <;> decide
    exact (Makes.send happ ht).does (hwrite _ ht)
  unfold sendStatus
  split
  · exact .refl
  · rename_i fd happ
    simp only
    split_ifs
    · exact (hadb happ _).trans (htether (d := d.sendAdbStatus fd _) happ _)
    · exact htether happ _
    · exact hadb happ _
    · exact .refl

lemma does_enumProcess (hhook : K .hook) (hwrite : ∀ text, K (.write text)) :
    d.Does c env K (d.enumProcess c env) := by
  unfold enumProcess
  simp only
  split
  · rename_i fd text happ hdone
    exact (Makes.enable.does hhook).tail
      ⟨_, hwrite _, .sendOrDrop happ (text_checked (.inl hdone)).1⟩
  · exact Makes.enable.does hhook

lemma does_enumeration (hhook : K .hook) (hstate : K .state)
    (hwrite : ∀ text, K (.write text)) (enubuf : List Char) :
    d.Does c env K (d.enumeration c env enubuf) := by
  unfold enumeration
  simp only
  split_ifs
  · split
    · exact (Makes.enum _ _).does hstate
    · rename_i fd happ
      exact ((Makes.enum _ _).does hstate).tail ⟨_, hwrite _, .sendOrDrop happ (by decide)⟩
  · exact (Makes.enum _ _).does hstate
  · exact ((Makes.enum _ _).does hstate).trans (does_enumProcess hhook hwrite)
  · exact .refl

lemma does_deviceFields (hc : d.cable ≠ .factory) (enubuf : List Char) :
    d.Does c env (fun _ => True) (d.deviceFields c env enubuf) := by
  unfold deviceFields
  simp only
  have hfields : d.Does c env (fun _ => True) (if c.altMode ∧ d.online then
      d.altModeSet c env d.adbEnablebuf d.tetheringEnablebuf
      else d.sendStatus d.adbEnablebuf d.tetheringEnablebuf) := by
    split_ifs with halt
    · exact does_altModeSet trivial trivial (allows_of_online halt.2 hc) _ _
    · exact does_sendStatus (fun _ _ => trivial) _ _
  generalize (if c.altMode ∧ d.online then
      d.altModeSet c env d.adbEnablebuf d.tetheringEnablebuf
      else d.sendStatus d.adbEnablebuf d.tetheringEnablebuf) = d₁ at hfields
  have henum : ∀ d : Daemon, d.Does c env (fun _ => True) (d.enumeration c env enubuf) :=
    fun d => does_enumeration trivial trivial (fun _ => trivial) enubuf
  split_ifs with husb
  · exact (hfields.trans (does_usbReqModeSwitch trivial (fun _ _ => trivial)
      (allows_of_usb husb.1) _)).trans (henum _)
  · exact hfields.trans (henum _)
  · exact hfields

lemma does_device (read : List Char) : d.Does c env (fun _ => True) (d.device c read env) := by
  unfold device
  simp only
  split_ifs with _ hc
  · exact .refl
  · exact ((Makes.read _ _ d.tetheringEnablebuf).does trivial).trans
      (does_factoryDevice trivial hc)
  · refine ((Makes.read _ _ _).does trivial).trans (does_deviceFields ?_ _)
    exact hc

lemma does_handleCableStatusChange :
    d.Does c env (· ≠ .state) (d.handleCableStatusChange c env) := by
  unfold handleCableStatusChange
  split_ifs with hfactory _ husb
  · exact does_setFactoryMode nofun hfactory
  · split
    · rename_i happ htext
      exact (Makes.sendOrDrop happ (UsbdState.notification_checked htext)).does nofun
    · exact .refl
  · exact ((Makes.tether false).does nofun).trans
      (does_enumerateDefaultMode nofun (allows_of_usb husb))
  · exact .refl

lemma does_enterMode {fd : Nat} (happ : d.app = some fd) (hc : d.cable ≠ .factory)
    (m : UsbMode) : d.Does c env (· ≠ .state) (d.enterMode c env fd m) := by
  unfold enterMode
  split_ifs with _ hon
  · exact (Makes.set (allows_of_online hon hc m)).does nofun
  · exact .refl
  · split
    · exact .refl
    · rename_i hdone
      exact (Makes.sendOrDrop happ (text_checked (.inl hdone)).1).does nofun

lemma does_request {fd : Nat} (happ : d.app = some fd) (bytes : List Char) :
    d.Does c env (· ≠ .state) (d.socketEvent c fd (.data bytes) env) := by
  unfold socketEvent
  simp only
  split_ifs with hc
  · exact .refl
  · split
    · exact .refl
    · exact (Makes.set ⟨.inl rfl, fun hf => absurd hf hc⟩).does nofun
    · split
      · exact does_enterMode happ hc _
      · rename_i text hresp
        have hsend : d.Does c env (· ≠ .state) (d.sendOrDrop env fd text) :=
          (Makes.sendOrDrop happ (text_checked (.inr (.inr hresp))).1).does nofun
        unfold sendOrDrop at hsend
        split_ifs at hsend ⊢
        · exact hsend.trans (does_enterMode (d := d.send fd text) happ hc _)
        · exact hsend

end Daemon

/-! ## Events -/

/-- What an event finds in its environment. -/
def Event.environment : Event → Env
  | .uevent _ env | .device _ env | .connect env | .app _ env => env

/-- The cable that an event announces. -/
def Event.newCable : Event → Option Accy
  | .uevent u _ => if u.accepted then readUsbSwitchState u.switchState else none
  | .device _ _ | .connect _ | .app _ _ => none

/-- An event that neither announces a cable nor brings a message of the driver. -/
def Event.Other (e : Event) : Prop := e.newCable = none ∧ ∀ read env, e ≠ .device read env

/-- Nothing but the connections changes. -/
def Daemon.Reconnects (d d' : Daemon) : Prop :=
  ∃ app conns sent, d' = { d with app := app, conns := conns, sent := sent }

/-- What an event does. -/
inductive Daemon.Handles (c : Config) (d : Daemon) : Event → Daemon → Prop
  | cable {e : Event} {cable : Accy} (h : e.newCable = some cable) :
      Handles c d e ((d.changeCable cable).handleCableStatusChange c e.environment)
  | device (read : List Char) (env : Env) :
      Handles c d (.device read env) (d.device c read env)
  | does {e : Event} {d' : Daemon} (h : e.Other)
      (hdoes : d.Does c e.environment (· ≠ .state) d') : Handles c d e d'
  | reconnects {e : Event} {d' : Daemon} (h : e.Other) (hd : d.Reconnects d') :
      Handles c d e d'

lemma Daemon.uevent_cases (c : Config) (d : Daemon) (u : Uevent) (env : Env) :
    (Event.newCable (.uevent u env) = none ∧ d.uevent c u env = d) ∨
    ∃ cable, Event.newCable (.uevent u env) = some cable ∧
      d.uevent c u env = (d.changeCable cable).handleCableStatusChange c env := by
  unfold Event.newCable uevent
  cases hread : readUsbSwitchState u.switchState with
  | none => exact .inl (by simp [hread])
  | some cable =>
    by_cases haccepted : u.accepted = true
    · exact .inr ⟨cable, by simp [haccepted, hread]⟩
    · exact .inl (by simp [haccepted])

lemma Daemon.handles {e : Event} (hn : d.next c e = some d') : d.Handles c e d' := by
  cases e with
  | uevent u env =>
    obtain rfl := some.inj hn
    obtain ⟨hcable, heq⟩ | ⟨cable, hcable, heq⟩ := d.uevent_cases c u env
    · rw [heq]
      exact .does ⟨hcable, nofun⟩ .refl
    · rw [heq]
      exact .cable hcable
  | device read env =>
    obtain rfl := some.inj hn
    exact .device read env
  | connect env =>
    obtain rfl := some.inj (ite_none_left_eq_some.mp hn).2
    refine .reconnects ⟨rfl, nofun⟩ ?_
    unfold connect accept
    simp only
    split
    · split_ifs <;> exact ⟨_, _, _, rfl⟩
    · exact ⟨_, _, _, rfl⟩
  | app read env =>
    obtain ⟨fd, happ, rfl⟩ := map_eq_some_iff.mp (ite_none_left_eq_some.mp hn).2
    cases read with
    | failed => exact .reconnects ⟨rfl, nofun⟩ ⟨_, _, _, rfl⟩
    | closed => exact .reconnects ⟨rfl, nofun⟩ ⟨_, _, _, rfl⟩
    | data bytes => exact .does ⟨rfl, nofun⟩ (does_request happ bytes)

end Solana.Usbd
