import Solana.Usbd.Invariants

/-!
# The USB daemon without a cable

Whether a cable is there is recorded twice, as the type of the cable and as a flag, and the handlers
that set a mode ask for the one or the other.  The two agree in every state (`Daemon.SetOnline`),
and then no handler sets a mode other than `USB_MODE_MIN` without a cable (`mode_kept_offline`).
-/

namespace Solana.Usbd

open Runs Daemon

variable {c : Config} {d d' : Daemon} {env : Env}

/-! ## The flag -/

/-- The flag says whether there is a cable. -/
def Daemon.Agrees (d : Daemon) : Prop := d.online = false ↔ d.cable = .unknown

lemma Daemon.agrees_changeCable (d : Daemon) (a : Accy) : (d.changeCable a).Agrees := by
  unfold changeCable Agrees
  split_ifs with ha
  · simp [ha]
  · simpa using ha

lemma Daemon.Agrees.does {K : Change → Prop} (h : d.Agrees) (hdoes : d.Does c env K d') :
    d'.Agrees := by
  unfold Agrees
  rw [hdoes.online, hdoes.cable]
  exact h

/-! ## Without a cable -/

lemma Daemon.Does.usbMode_offline {K : Change → Prop} (h : d.Does c env K d')
    (hoff : d.online = false) (hcable : d.cable = .unknown) :
    d'.usbMode = d.usbMode ∨ d'.usbMode = .min := by
  refine h.gadget_rule (P := fun d₁ => d₁.usbMode = d.usbMode ∨ d₁.usbMode = .min) (.inl rfl)
    (fun d₁ m hdoes hallows _ => ?_) (fun _ h₁ => h₁) fun _ _ hg h₁ => by rwa [hg.usbMode]
  obtain ⟨params, written, heq⟩ := d₁.setUsbMode_eq c m
  rw [heq]
  rcases hallows.cable with hmin | hon | hne
  · exact .inr hmin
  · exact absurd (hoff.symm.trans (hdoes.online.symm.trans hon)) Bool.false_ne_true
  · exact absurd (hdoes.cable.trans hcable) hne

lemma Daemon.usbMode_next (h : d.Agrees) {e : Event} (hn : d.next c e = some d')
    (hoff : d'.online = false) : d'.usbMode = d.usbMode ∨ d'.usbMode = .min := by
  cases handles hn with
  | @cable _ a _ =>
    have hsame : (d.changeCable a).usbMode = d.usbMode := by
      unfold changeCable
      split_ifs <;> rfl
    rw [does_handleCableStatusChange.online] at hoff
    rw [← hsame]
    exact does_handleCableStatusChange.usbMode_offline hoff ((d.agrees_changeCable a).mp hoff)
  | device read env =>
    rw [(does_device read).online] at hoff
    exact (does_device read).usbMode_offline hoff (h.mp hoff)
  | does _ hdoes =>
    rw [hdoes.online] at hoff
    exact hdoes.usbMode_offline hoff (h.mp hoff)
  | reconnects _ hd => exact .inl hd.sameGadget.usbMode

/-- The flag is right, and every mode that was set was set with a cable. -/
structure Daemon.SetOnline (d : Daemon) : Prop where
  agrees : d.Agrees
  written : ∀ a m, (a, .setMode m) ∈ d.written → a ≠ .unknown

lemma Daemon.SetOnline.does {K : Change → Prop} (h : d.SetOnline) (hdoes : d.Does c env K d') :
    d'.SetOnline := by
  refine ⟨h.agrees.does hdoes, hdoes.gadget_rule
    (P := fun d₁ => ∀ a m, (a, DeviceWrite.setMode m) ∈ d₁.written → a ≠ .unknown) h.written
    (fun d₁ m hdoes hallows h₁ => ?_) (fun _ h₁ => h₁) fun _ _ hg h₁ => by rwa [hg.written]⟩
  unfold setUsbMode
  simp only
  split_ifs with hmin
  · exact h₁
  · intro a m' hm
    rcases List.mem_cons.mp hm with heq | hm
    · rw [(Prod.mk.inj heq).1]
      rcases hallows.cable with hmin' | hon | hne
      · exact absurd hmin' hmin
      · exact fun hc => by simp [(h.agrees.does hdoes).mpr hc] at hon
      · exact hne
    · exact h₁ a m' hm

lemma Daemon.SetOnline.next (h : d.SetOnline) {e : Event} (hn : d.next c e = some d') :
    d'.SetOnline := by
  refine next_rule hn h (fun a => ?_) ?_ fun hdoes h₁ => h₁.does hdoes
  · refine ⟨d.agrees_changeCable a, fun a' m hm => h.written a' m ?_⟩
    unfold changeCable at hm
    split_ifs at hm
    · exact hm
    · simpa using hm
  · rintro _ ⟨app, conns, sent, rfl⟩
    exact ⟨h.agrees, h.written⟩

lemma Daemon.setOnline_start {mem : Memory} {switchState : Option Char}
    (h : start c mem switchState env = some d) : d.SetOnline := by
  obtain ⟨cable, online, state, hon, hdoes⟩ := start_does h
  have hset : SetOnline
      { boot mem with cable := cable, online := online, state := state } :=
    ⟨hon, fun _ _ hm => absurd hm List.not_mem_nil⟩
  exact hset.does hdoes

/-- **No mode is set without a cable.**  In every run, every mode that was set in the kernel was
set while there was a cable, and an event after which no cable is online leaves the mode as it was
or unloads it. -/
theorem mode_kept_offline (hr : Daemon.Reachable c d) : (d.online = false ↔ d.cable = .unknown) ∧
    (∀ a m, (a, .setMode m) ∈ d.written → a ≠ .unknown) ∧
    ∀ e d', d.next c e = some d' → d'.online = false →
      d'.usbMode = d.usbMode ∨ d'.usbMode = .min := by
  have h : d.SetOnline := by
    refine hr.invariant Daemon.SetOnline ?_ ?_
    · rintro d ⟨mem, switchState, env, hs⟩
      exact setOnline_start hs
    · rintro d e d' hd ⟨-, hn⟩
      exact hd.next hn
  exact ⟨h.agrees, h.written, fun e d' hn hoff => usbMode_next h.agrees hn hoff⟩

/-- Mass storage is on when the cable is pulled, and then the application asks for another mode. -/
theorem request_without_cable_ignored : ∃ d d' : Daemon,
      d.next samplePhone (.app (.data "usb_mode_mtp".toList) (sampleEnv "0" "0")) = some d' ∧
      d.usbMode = .msc ∧ d'.online = false ∧ (d'.usbMode = d.usbMode ∨ d'.usbMode = .min) := by
  obtain ⟨d, hr, hmode, d', hn, hoff⟩ : ∃ d, Daemon.Reachable samplePhone d ∧ d.usbMode = .msc ∧
      ∃ d', d.next samplePhone (.app (.data "usb_mode_mtp".toList) (sampleEnv "0" "0")) = some d' ∧
        d'.online = false :=
    exists_of_start (fun _ h => ⟨sampleMemory, some '1', sampleEnv "0" "0", h⟩)
      [.connect (sampleEnv "0" "0"), .app (.data "usb_mode_msc".toList) (sampleEnv "0" "0"),
        .uevent ⟨64, 1, 0, some 0, true, some '0'⟩ (sampleEnv "0" "0")] (by decide +kernel)
  exact ⟨d, d', hn, hmode, hoff, (mode_kept_offline hr).2.2 _ d' hn hoff⟩

end Solana.Usbd
