import Solana.Usbd.Handlers

/-!
# Invariants of the USB daemon

Modes are set from several handlers, under conditions of their own.  What setting a mode and the
hook after an enumeration keep, and what depends on nothing else a handler changes, is kept by all
of them (`Does.gadget_rule`).

Two invariants are shown here.  `parameters_fit_mode`: the kernel parameters are always those of the
current mode.  `factory_cable_network_only`: as long as a factory cable is attached, the modes set
in the kernel are those of the factory.
-/

namespace Solana.Usbd

open Runs Daemon

variable {c : Config} {d d' : Daemon} {env : Env}

lemma Daemon.Reconnects.sameGadget (h : d.Reconnects d') : d.SameGadget d' := by
  obtain ⟨app, conns, sent, rfl⟩ := h
  exact ⟨rfl, rfl, rfl, rfl⟩

/-- What a change of the cable, the handlers and a new connection keep, every event keeps. -/
lemma Daemon.next_rule {P : Daemon → Prop} {e : Event} (hn : d.next c e = some d') (h : P d)
    (hcable : ∀ a, P (d.changeCable a)) (hreconnects : ∀ {d₁ : Daemon}, d.Reconnects d₁ → P d₁)
    (hdoes : ∀ {d₁ d₂ : Daemon} {env : Env} {K : Change → Prop}, d₁.Does c env K d₂ →
      P d₁ → P d₂) : P d' := by
  cases handles hn with
  | cable _ => exact hdoes does_handleCableStatusChange (hcable _)
  | device read env => exact hdoes (does_device read) h
  | does _ hd => exact hdoes hd h
  | reconnects _ hd => exact hreconnects hd

variable {switchState : Option Char} {mem : Memory}

lemma Daemon.start_eq (h : start c mem switchState env = some d) :
    ∃ cable online state, (online = false ↔ cable = .unknown) ∧
      let d₀ := { boot mem with cable := cable, online := online, state := state }
      (cable = .factory ∧ d = d₀.setFactoryMode c env) ∨
      (cable ≠ .factory ∧ d = d₀) ∨
      (cable = .usb ∧ d = d₀.enumerateDefaultMode c env) := by
  obtain ⟨cable, -, rfl⟩ := Option.map_eq_some_iff.mp h
  cases cable with
  | factory => exact ⟨.factory, true, .cableAttached, by decide, .inl ⟨rfl, rfl⟩⟩
  | unknown => exact ⟨.unknown, false, .cableDefault, by decide, .inr (.inl ⟨nofun, rfl⟩)⟩
  | usb =>
    refine ⟨.usb, true, .cableAttached, by decide, .inr ?_⟩
    cases halt : c.altMode with
    | false => exact .inl ⟨nofun, rfl⟩
    | true => exact .inr ⟨rfl, rfl⟩

/-- From the cable to the main loop, the daemon at most sets a mode. -/
lemma Daemon.start_does (h : start c mem switchState env = some d) :
    ∃ cable online state, (online = false ↔ cable = .unknown) ∧ Daemon.Does c env (· = .mode)
        { boot mem with cable := cable, online := online, state := state } d := by
  obtain ⟨cable, online, state, hon, hd⟩ := start_eq h
  refine ⟨cable, online, state, hon, ?_⟩
  rcases hd with ⟨hf, rfl⟩ | ⟨-, rfl⟩ | ⟨hu, rfl⟩
  · exact does_setFactoryMode rfl hf
  · exact .refl
  · exact does_enumerateDefaultMode rfl (allows_of_usb hu)

/-! ## Parameters -/

/-- The parameters are those of the current mode. -/
def Daemon.ParamsFit (c : Config) (d : Daemon) : Prop := d.params.Fit c.build d.usbMode

lemma Daemon.ParamsFit.setUsbMode (h : d.ParamsFit c) (m : UsbMode) :
    (d.setUsbMode c m).ParamsFit c := by
  obtain ⟨hc, hs⟩ := h.disableHooks
  unfold Daemon.setUsbMode
  simp only
  split_ifs with hm
  · subst hm
    -- the unload mode has no hook to set the parameters
    exact Params.fit_preEnable c.build .min hc hs
  · exact Params.fit_preEnable c.build m hc hs

lemma Daemon.ParamsFit.does {K : Change → Prop} (h : d.ParamsFit c) (hdoes : d.Does c env K d') :
    d'.ParamsFit c := by
  refine hdoes.gadget_rule h (fun _ m _ _ h₁ => h₁.setUsbMode m) (fun _ h₁ => h₁.enableDone) ?_
  intro d₁ d₂ hg h₁
  unfold Daemon.ParamsFit at *
  rwa [hg.usbMode, hg.params]

lemma Daemon.ParamsFit.changeCable (h : d.ParamsFit c) (a : Accy) :
    (d.changeCable a).ParamsFit c := by
  unfold Daemon.changeCable
  split_ifs <;> exact h

lemma Daemon.ParamsFit.next (h : d.ParamsFit c) {e : Event} (hn : d.next c e = some d') :
    d'.ParamsFit c := by
  refine next_rule hn h (fun a => h.changeCable a) ?_ fun hdoes h₁ => h₁.does hdoes
  rintro _ ⟨app, conns, sent, rfl⟩
  exact h

lemma Daemon.paramsFit_start (h : start c mem switchState env = some d) : d.ParamsFit c := by
  have hboot : Params.Fit ⟨false, mem.allowEject, false⟩ c.build .min :=
    Params.fit_preEnable c.build .min rfl rfl
  obtain ⟨cable, online, state, -, hdoes⟩ := start_does h
  refine Daemon.ParamsFit.does ?_ hdoes
  exact hboot

/-- **The parameters are those of the mode.**  At every point of every run the kernel parameter
`cdrom` is set exactly if the mode is a CD-ROM mode, or the mass storage mode of a build where that
one has a CD-ROM, and mass storage is enabled only in a mode that has it. -/
theorem parameters_fit_mode (hr : Daemon.Reachable c d) :
    (d.params.cdrom = true ↔ d.usbMode = .cdrom ∨ d.usbMode = .cdrom2 ∨
      (c.build.msdCdromEnabled = true ∧ d.usbMode = .msc)) ∧ (d.params.massStorage = true →
      d.usbMode = .msc ∨ d.usbMode = .mscOnly ∨ d.usbMode = .mscAdb) := by
  have hfit : d.ParamsFit c := by
    refine hr.invariant (Daemon.ParamsFit c) ?_ ?_
    · rintro d ⟨mem, switchState, env, hs⟩
      exact paramsFit_start hs
    · rintro d e d' hd ⟨-, hn⟩
      exact hd.next hn
  constructor
  · rw [hfit.cdrom]
    simp [UsbMode.usesCdrom, or_assoc]
  · intro h
    have hm := hfit.massStorage h
    simpa [UsbMode.isMassStorage, or_assoc] using hm

/-- A run of events from the start of the daemon. -/
def Daemon.runFrom (c : Config) (mem : Memory) (switchState : Option Char) (env : Env)
    (events : List Event) : Option Daemon :=
  (Daemon.start c mem switchState env).bind fun d =>
    runWith (Daemon.next c) (fun _ _ => true) d events

/-- A phone that was started in normal mode. -/
def samplePhone : Config :=
  let build : Build := ⟨false, false, false⟩
  ⟨build, usbdGetStartupMode build "normal" "0" "normal"⟩

def sampleMemory : Memory := ⟨true, [], [], []⟩

/-- All writes succeed. -/
def sampleEnv (adbProperty factoryAllowAdb : String) : Env :=
  ⟨adbProperty, adbProperty, factoryAllowAdb, fun _ => true⟩

/-- An application has mass storage started, and the driver enumerates the device. -/
theorem mass_storage_enabled : ∃ d : Daemon, d.usbMode = .msc ∧ d.params = ⟨false, true, true⟩ ∧
      (d.params.massStorage = true →
        d.usbMode = .msc ∨ d.usbMode = .mscOnly ∨ d.usbMode = .mscAdb) := by
  obtain ⟨d, hr, hmode, hparams⟩ : ∃ d, Daemon.Reachable samplePhone d ∧ d.usbMode = .msc ∧
      d.params = ⟨false, true, true⟩ :=
    exists_of_start (fun _ h => ⟨sampleMemory, some '1', sampleEnv "0" "0", h⟩)
      [.connect (sampleEnv "0" "0"), .app (.data "usb_mode_msc".toList) (sampleEnv "0" "0"),
        .device "none:none:none:enumerated".toList (sampleEnv "0" "0")] (by decide +kernel)
  exact ⟨d, hmode, hparams, (parameters_fit_mode hr).2⟩

/-! ## The factory cable -/

/-- What was written to the device while a factory cable was attached set a factory mode. -/
def Daemon.FactoryWrites (d : Daemon) : Prop :=
  ∀ w, (Accy.factory, w) ∈ d.written → ∃ m : UsbMode, m.isFactory ∧ w = .setMode m

/-- With a factory cable, the mode is a factory mode and was written last. -/
structure Daemon.FactoryOk (d : Daemon) : Prop where
  writes : d.FactoryWrites
  current : d.cable = .factory →
    d.usbMode.isFactory ∧ d.written.head? = some (.factory, .setMode d.usbMode)

namespace Daemon

lemma FactoryWrites.cons (h : d.FactoryWrites) {a : Accy} {w : DeviceWrite}
    (ha : a ≠ .factory) : ({ d with written := (a, w) :: d.written } : Daemon).FactoryWrites := by
  intro w' hw
  rcases List.mem_cons.mp hw with he | hw
  · exact absurd (Prod.mk.inj he).1.symm ha
  · exact h w' hw

lemma FactoryWrites.setUsbMode (h : d.FactoryWrites) (hc : d.cable ≠ .factory)
    (m : UsbMode) : (d.setUsbMode c m).FactoryWrites := by
  unfold Daemon.setUsbMode
  simp only
  split_ifs
  · exact h
  · exact h.cons hc

lemma FactoryWrites.factoryOk (h : d.FactoryWrites) (hc : d.cable = .factory)
    {m : UsbMode} (hm : m.isFactory) : (d.setUsbMode c m).FactoryOk := by
  have hmin : m ≠ .min := by rintro rfl; rcases hm with h | h <;> cases h
  have hset : (d.setUsbMode c m).written = (.factory, .setMode m) :: d.written ∧
      (d.setUsbMode c m).usbMode = m := by
    unfold Daemon.setUsbMode
    simp only [if_neg hmin, hc, and_self]
  refine ⟨fun w hw => ?_, fun _ => ?_⟩
  · rw [hset.1] at hw
    rcases List.mem_cons.mp hw with he | hw
    · exact ⟨m, hm, (Prod.mk.inj he).2⟩
    · exact h w hw
  · rw [hset.1, hset.2]
    exact ⟨hm, rfl⟩

lemma FactoryOk.frame (h : d.FactoryOk) (hg : d.SameGadget d') : d'.FactoryOk := by
  refine ⟨?_, ?_⟩
  · unfold Daemon.FactoryWrites
    rw [hg.written]
    exact h.writes
  · rw [hg.cable, hg.usbMode, hg.written]
    exact h.current

lemma FactoryOk.does {K : Change → Prop} (h : d.FactoryOk) (hdoes : d.Does c env K d') :
    d'.FactoryOk := by
  refine hdoes.gadget_rule h (fun d₁ m _ hallows h₁ => ?_) (fun _ h₁ => ⟨h₁.writes, h₁.current⟩)
    fun _ _ hg h₁ => h₁.frame hg
  by_cases hc : d₁.cable = .factory
  · exact h₁.writes.factoryOk hc (hallows.factory hc)
  · have hkeeps : d₁.Keeps .mode (d₁.setUsbMode c m) :=
      (Makes.set hallows : d₁.Makes c env _ _).keeps
    exact ⟨h₁.writes.setUsbMode hc m, fun hf => absurd (hkeeps.cable.symm.trans hf) hc⟩

lemma FactoryWrites.setFactoryMode (h : d.FactoryWrites) (hc : d.cable = .factory) :
    (d.setFactoryMode c env).FactoryOk := by
  unfold Daemon.setFactoryMode
  split_ifs
  · exact h.factoryOk hc (.inr rfl)
  · exact h.factoryOk hc (.inl rfl)

lemma FactoryWrites.changeCable (h : d.FactoryWrites) (a : Accy) :
    (d.changeCable a).FactoryWrites ∧ (d.changeCable a).cable = a := by
  unfold Daemon.changeCable
  split_ifs with ha
  · exact ⟨h, rfl⟩
  · refine ⟨?_, rfl⟩
    rw [not_not] at ha
    exact h.cons (by rw [ha]; exact nofun)

lemma FactoryOk.next (h : d.FactoryOk) {e : Event} (hn : d.next c e = some d') : d'.FactoryOk := by
  cases handles hn with
  | @cable _ a _ =>
    obtain ⟨hw, ha⟩ := h.writes.changeCable a
    by_cases hf : a = .factory
    · unfold handleCableStatusChange
      rw [if_pos (ha.trans hf)]
      exact hw.setFactoryMode (ha.trans hf)
    · have hok : (d.changeCable a).FactoryOk := ⟨hw, fun hc => absurd (ha.symm.trans hc) hf⟩
      exact hok.does does_handleCableStatusChange
  | device read env => exact h.does (does_device read)
  | does _ hdoes => exact h.does hdoes
  | reconnects _ hd => exact h.frame hd.sameGadget

lemma factoryOk_start (h : start c mem switchState env = some d) : d.FactoryOk := by
  obtain ⟨cable, online, state, -, hd⟩ := start_eq h
  have hd₀ : Daemon.FactoryWrites
      { boot mem with cable := cable, online := online, state := state } :=
    fun w hw => absurd hw List.not_mem_nil
  have hok : cable ≠ .factory → Daemon.FactoryOk
      { boot mem with cable := cable, online := online, state := state } :=
    fun hne => ⟨hd₀, fun hf => absurd hf hne⟩
  rcases hd with ⟨hf, rfl⟩ | ⟨hf, rfl⟩ | ⟨hu, rfl⟩
  · exact hd₀.setFactoryMode hf
  · exact hok hf
  · exact (hok (by simp [hu])).does
      (does_enumerateDefaultMode (K := (· = .mode)) rfl (allows_of_usb hu))

end Daemon

/-- **A factory cable allows only the factory modes.**  Whatever the daemon writes to the device
while a factory cable is attached sets the network mode or the one with ADB, and at any such point
the current mode is the one that was set last, under that cable. -/
theorem factory_cable_network_only (hr : Daemon.Reachable c d) :
    (∀ w, (Accy.factory, w) ∈ d.written → w = .setMode .network ∨ w = .setMode .networkAdb) ∧
    (d.cable = .factory → (d.usbMode = .network ∨ d.usbMode = .networkAdb) ∧
      d.written.head? = some (.factory, .setMode d.usbMode)) := by
  have hok : d.FactoryOk := by
    refine hr.invariant Daemon.FactoryOk ?_ ?_
    · rintro d ⟨mem, switchState, env, hs⟩
      exact factoryOk_start hs
    · rintro d e d' hd ⟨-, hn⟩
      exact hd.next hn
  refine ⟨fun w hw => ?_, hok.current⟩
  obtain ⟨m, rfl | rfl, rfl⟩ := hok.writes w hw
  exacts [.inl rfl, .inr rfl]

/-- With a factory cable, a request of the application is ignored and ADB is switched on. -/
theorem factory_cable_request_ignored : ∃ d : Daemon, d.cable = .factory ∧ d.usbMode = .networkAdb ∧
      d.written.head? = some (.factory, .setMode d.usbMode) := by
  obtain ⟨d, hr, hcable, hmode⟩ : ∃ d, Daemon.Reachable samplePhone d ∧ d.cable = .factory ∧
      d.usbMode = .networkAdb :=
    exists_of_start (fun _ h => ⟨sampleMemory, some '2', sampleEnv "0" "0", h⟩)
      [.connect (sampleEnv "0" "0"), .app (.data "usb_mode_msc".toList) (sampleEnv "0" "0"),
        .device "none:adb_enable:none:none".toList (sampleEnv "0" "1")] (by decide +kernel)
  exact ⟨d, hcable, hmode, ((factory_cable_network_only hr).2 hcable).2⟩

end Solana.Usbd
