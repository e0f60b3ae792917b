import Solana.Usbd.Invariants

/-!
# The connections of the USB daemon

The daemon tracks one application.  A connection that is accepted while another one is tracked is
neither tracked nor closed, and a connection that fails is only forgotten; the daemon closes a
connection in one place, when the application has closed it.

What a handler does with connections is `Daemon.Talks`: it writes to the application and forgets it
when a write fails whose result it checks.

`connections_settled`: while connections come one at a time and nothing fails, each of them is
tracked or was closed, once; a closed one is never used again.
-/

namespace Solana.Usbd

open Ledgers Runs Ledger.Balanced Daemon Multiset Option

variable {c : Config} {d d' d'' : Daemon} {env : Env} {T : String → Prop} {K : Change → Prop}

/-! ## Writes -/

/-- The daemon does not find that the write of a text fails. -/
def Env.Passes (env : Env) (text : String) : Prop := text ∈ statusTexts ∨ env.writeOk text = true

instance (env : Env) (text : String) : Decidable (env.Passes text) :=
  inferInstanceAs (Decidable (_ ∨ _))

/-- What a handler does with connections: it writes some texts to the application, and forgets it if
one of the writes is found to fail. -/
def Daemon.Talks (env : Env) (T : String → Prop) (d d' : Daemon) : Prop :=
  ∃ new : List (Nat × String), d'.conns = d.conns ∧ d'.sent = new ++ d.sent ∧
    (∀ w ∈ new, d.app = some w.1 ∧ T w.2) ∧
    d'.app = if ∀ w ∈ new, env.Passes w.2 then d.app else none

namespace Daemon.Talks

lemma of_eq (hconns : d'.conns = d.conns) (hsent : d'.sent = d.sent) (happ : d'.app = d.app) :
    d.Talks env T d' :=
  ⟨[], hconns, hsent, fun _ h => absurd h List.not_mem_nil, by simp [happ]⟩

lemma trans (h : d.Talks env T d') (h' : d'.Talks env T d'') : d.Talks env T d'' := by
  obtain ⟨new, hconns, hsent, hnew, happ⟩ := h
  obtain ⟨new', hconns', hsent', hnew', happ'⟩ := h'
  refine ⟨new' ++ new, hconns'.trans hconns, ?_, ?_, ?_⟩
  · rw [hsent', hsent, List.append_assoc]
  · intro w hw
    rcases List.mem_append.mp hw with hw | hw
    · obtain ⟨happ'', hT⟩ := hnew' w hw
      rw [happ] at happ''
      exact ⟨(ite_none_right_eq_some.mp happ'').2, hT⟩
    · exact hnew w hw
  · by_cases hpass : ∀ w ∈ new, env.Passes w.2
    · rw [if_pos hpass] at happ
      rw [happ', happ]
      congr 1
      simp only [List.mem_append, eq_iff_iff]
      exact ⟨fun h w hw => hw.elim (h w) (hpass w), fun h w hw => h w (.inl hw)⟩
    · rw [if_neg hpass] at happ
      rw [happ', happ, ite_self, if_neg fun h => hpass fun w hw => h w (List.mem_append_right _ hw)]

lemma send {fd : Nat} {text : String} (happ : d.app = some fd) (hT : T text)
    (hstatus : text ∈ statusTexts) : d.Talks env T (d.send fd text) := by
  refine ⟨[(fd, text)], rfl, rfl, ?_, ?_⟩
  · intro w hw
    obtain rfl := List.mem_singleton.mp hw
    exact ⟨happ, hT⟩
  · rw [if_pos]
    · rfl
    · intro w hw
      obtain rfl := List.mem_singleton.mp hw
      exact .inl hstatus

lemma sendOrDrop {fd : Nat} {text : String} (happ : d.app = some fd) (hT : T text)
    (hchecked : text ∉ statusTexts) : d.Talks env T (d.sendOrDrop env fd text) := by
  have hnew : ∀ w ∈ [(fd, text)], d.app = some w.1 ∧ T w.2 := by
    intro w hw
    obtain rfl := List.mem_singleton.mp hw
    exact ⟨happ, hT⟩
  unfold Daemon.sendOrDrop
  split_ifs with hok
  · refine ⟨[(fd, text)], rfl, rfl, hnew, ?_⟩
    rw [if_pos]
    · rfl
    · intro w hw
      obtain rfl := List.mem_singleton.mp hw
      exact .inr hok
  · refine ⟨[(fd, text)], rfl, rfl, hnew, ?_⟩
    rw [if_neg]
    · rfl
    · exact fun h => (h _ (List.mem_singleton.mpr rfl)).elim hchecked hok

end Daemon.Talks

lemma Daemon.Does.talks (h : d.Does c env K d') (hT : ∀ text, K (.write text) → T text) :
    d.Talks env T d' := by
  induction h with
  | refl => exact .of_eq rfl rfl rfl
  | tail _ hstep ih =>
    obtain ⟨k, hk, hmakes⟩ := hstep
    have hkeeps := hmakes.keeps
    refine ih.trans ?_
    cases hmakes with
    | send happ ht => exact .send happ (hT _ hk) ht
    | sendOrDrop happ ht => exact .sendOrDrop happ (hT _ hk) ht
    | _ => exact .of_eq hkeeps.conns (hkeeps.app nofun).2 (hkeeps.app nofun).1

lemma Daemon.talks_uevent (d : Daemon) (env : Env) (u : Uevent) :
    d.Talks env (fun _ => True) (d.uevent c u env) := by
  obtain ⟨-, heq⟩ | ⟨cable, -, heq⟩ := d.uevent_cases c u env
  · rw [heq]
    exact .of_eq rfl rfl rfl
  · rw [heq]
    refine .trans ?_ (does_handleCableStatusChange.talks fun _ _ => trivial)
    unfold changeCable
    split_ifs <;> exact .of_eq rfl rfl rfl

/-! ## Events -/

/-- The writes to applications in an event, latest first. -/
def Daemon.writes (c : Config) (d : Daemon) (e : Event) : List (Nat × String) :=
  match d.next c e with
  | none => []
  | some d' => d'.sent.take (d'.sent.length - d.sent.length)

/-- The connections that an event reads from or writes to. -/
def Daemon.uses (c : Config) (d : Daemon) (e : Event) : List Nat :=
  (match e with
    | .app _ _ => d.app.toList
    | .uevent _ _ | .device _ _ | .connect _ => []) ++ (d.writes c e).map Prod.fst

/-- No connection is lost in an event: an application connects only if there is none, reading from
it does not fail, and no write to it is found to fail. -/
def Event.KeepsTrack (c : Config) (d : Daemon) : Event → Prop
  | .connect _ => d.app = none
  | .app .failed _ => False
  | e => ∀ w ∈ d.writes c e, e.environment.Passes w.2

instance (c : Config) (d : Daemon) : (e : Event) → Decidable (e.KeepsTrack c d)
  | .connect _ => inferInstanceAs (Decidable (d.app = none))
  | .app .failed _ => inferInstanceAs (Decidable False)
  | .app .closed env =>
    inferInstanceAs (Decidable (∀ w ∈ d.writes c (.app .closed env), env.Passes w.2))
  | .app (.data bytes) env =>
    inferInstanceAs (Decidable (∀ w ∈ d.writes c (.app (.data bytes) env), env.Passes w.2))
  | .uevent u env =>
    inferInstanceAs (Decidable (∀ w ∈ d.writes c (.uevent u env), env.Passes w.2))
  | .device read env =>
    inferInstanceAs (Decidable (∀ w ∈ d.writes c (.device read env), env.Passes w.2))

lemma Daemon.writes_eq {e : Event} {new : List (Nat × String)} (hn : d.next c e = some d')
    (hsent : d'.sent = new ++ d.sent) : d.writes c e = new := by
  simp [writes, hn, hsent]

/-- Each connection is tracked or was closed, once. -/
def Daemon.Settled (d : Daemon) : Prop := d.conns.Balanced (heldIn d.app)

namespace Daemon.Settled

lemma open_app (h : d.Settled) {fd : Nat} (happ : d.app = some fd) : fd ∉ d.conns.released := by
  refine not_released h ?_
  rw [happ]
  exact mem_singleton_self fd

lemma talks (h : d.Settled) {e : Event} (hn : d.next c e = some d')
    (ht : d.Talks e.environment (fun _ => True) d') : (∀ w ∈ d.writes c e, w.1 ∉ d.conns.released) ∧
      (d'.Settled ↔ ∀ w ∈ d.writes c e, e.environment.Passes w.2) := by
  obtain ⟨new, hconns, hsent, hnew, happ⟩ := ht
  rw [writes_eq hn hsent]
  refine ⟨fun w hw => h.open_app (hnew w hw).1, ?_⟩
  unfold Daemon.Settled
  by_cases hpass : ∀ w ∈ new, e.environment.Passes w.2
  · rw [hconns, happ, if_pos hpass]
    exact iff_of_true h hpass
  · -- the application is forgotten and was not closed
    rw [hconns, happ, if_neg hpass]
    refine iff_of_false (fun hlost => ?_) hpass
    have hw : ∃ w, w ∈ new := by
      by_contra hnone
      exact hpass fun w hw => absurd ⟨w, hw⟩ hnone
    obtain ⟨w, hw⟩ := hw
    have hheld := held_eq h hlost
    rw [(hnew w hw).1] at hheld
    exact singleton_ne_zero w.1 hheld

lemma connect (h : d.Settled) (hn : d.next c (.connect env) = some d') :
    (∀ w ∈ d.writes c (.connect env), w.1 ∉ d.conns.released) ∧ (d'.Settled ↔ d.app = none) := by
  obtain rfl := some.inj (ite_none_left_eq_some.mp hn).2
  have hconnect : (d.connect env).conns = d.conns.acquire ∧
      (d.connect env).app = d.app.or (some d.conns.acquired) ∧
      ∃ new : List (Nat × String), (d.connect env).sent = new ++ d.sent ∧
        ∀ w ∈ new, w.1 = d.conns.acquired := by
    unfold connect accept
    simp only
    split
    · split_ifs
      · exact ⟨rfl, rfl, [(_, _), (_, _)], rfl, by simp⟩
      · exact ⟨rfl, rfl, [(_, _)], rfl, by simp⟩
    · exact ⟨rfl, rfl, [(_, _)], rfl, by simp⟩
  obtain ⟨hconns, happ, new, hsent, hnew⟩ := hconnect
  refine ⟨fun w hw hmem => ?_, ?_⟩
  · rw [writes_eq hn hsent] at hw
    rw [hnew w hw] at hmem
    exact (lt_of_released h hmem).false
  · have hacquire := acquire h
    unfold Daemon.Settled
    rw [hconns, happ]
    cases hold : d.app with
    | none =>
      rw [hold] at hacquire
      exact iff_of_true hacquire rfl
    | some fd =>
      -- the new connection is in no place
      rw [hold] at hacquire
      refine iff_of_false (fun hlost => ?_) (some_ne_none fd)
      have hcard := congrArg card (held_eq hacquire hlost)
      simp at hcard

/-- An event keeps the daemon settled exactly if it loses no connection, and uses none that was
closed. -/
lemma next (h : d.Settled) {e : Event} (hn : d.next c e = some d') :
    (∀ fd ∈ d.uses c e, fd ∉ d.conns.released) ∧ (d'.Settled ↔ e.KeepsTrack c d) := by
  have huses : (∀ w ∈ d.writes c e, w.1 ∉ d.conns.released) →
      ∀ fd ∈ d.uses c e, fd ∉ d.conns.released := by
    intro hwrites fd hfd
    rcases List.mem_append.mp hfd with hfd | hfd
    · cases e with
      | app read env => exact h.open_app (mem_toList.mp hfd)
      | uevent u env => cases hfd
      | device read env => cases hfd
      | connect env => cases hfd
    · obtain ⟨w, hw, rfl⟩ := List.mem_map.mp hfd
      exact hwrites w hw
  cases e with
  | uevent u env =>
    obtain rfl := some.inj hn
    exact (h.talks hn (d.talks_uevent env u)).imp_left huses
  | device read env =>
    obtain rfl := some.inj hn
    exact (h.talks hn ((does_device read).talks fun _ _ => trivial)).imp_left huses
  | connect env => exact (h.connect hn).imp_left huses
  | app read env =>
    obtain ⟨fd, happ, rfl⟩ := map_eq_some_iff.mp (ite_none_left_eq_some.mp hn).2
    cases read with
    | failed =>
      have hwrites : d.writes c (.app .failed env) = [] := writes_eq hn rfl
      refine ⟨huses ?_, iff_of_false (fun hlost => ?_) not_false⟩
      · rw [hwrites]
        exact fun _ hw => absurd hw List.not_mem_nil
      · have hheld := held_eq h hlost
        rw [happ] at hheld
        exact singleton_ne_zero fd hheld
    | closed =>
      have hwrites : d.writes c (.app .closed env) = [] := writes_eq hn rfl
      refine ⟨huses ?_, iff_of_true ?_ ?_⟩
      · rw [hwrites]
        exact fun _ hw => absurd hw List.not_mem_nil
      · unfold Daemon.Settled at h
        rw [happ] at h
        exact release h
      · intro w hw
        rw [hwrites] at hw
        exact absurd hw List.not_mem_nil
    | data bytes =>
      have htalks : d.Talks env (fun _ => True) (d.socketEvent c fd (.data bytes) env) :=
        (does_request happ bytes).talks fun _ _ => trivial
      exact (h.talks hn htalks).imp_left huses

end Daemon.Settled

lemma Daemon.settled_start {mem : Memory} {switchState : Option Char}
    (h : start c mem switchState env = some d) : d.Settled := by
  obtain ⟨cable, online, state, -, hdoes⟩ := start_does h
  unfold Daemon.Settled
  rw [hdoes.eq_of conns fun _ hk => hk.conns, hdoes.eq_of app fun hk h => (h.app (hk ▸ nofun)).1]
  exact balanced_empty

/-- **No connection is lost.**  In a run in which applications connect one at a time, reading from
the application does not fail and no write to it is found to fail, each connection is tracked or was
closed, and once; the next event uses no connection that was closed, and leaves this so exactly if
it loses no connection itself. -/
theorem connections_settled (hr : Daemon.ReachableWith c (fun d e => e.KeepsTrack c d) d)
    {e : Event} (hn : d.next c e = some d') :
    d.conns.Balanced (heldIn d.app) ∧ (∀ fd ∈ d.uses c e, fd ∉ d.conns.released) ∧
      (d'.conns.Balanced (heldIn d'.app) ↔ e.KeepsTrack c d) := by
  have h : d.Settled := by
    refine hr.invariant Daemon.Settled ?_ ?_
    · rintro d ⟨mem, switchState, env, hs⟩
      exact settled_start hs
    · rintro d e d' hd ⟨hc, hn⟩
      exact (hd.next hn).2.mpr hc
  exact ⟨h, h.next hn⟩

/-- An application asks for a mode and goes, and another one connects. -/
theorem second_application_tracked :
    ∃ d : Daemon, d.conns = ⟨2, [0]⟩ ∧ d.app = some 1 ∧ d.conns.Balanced (heldIn d.app) := by
  obtain ⟨d, hr, hconns, happ⟩ : ∃ d,
      Daemon.ReachableWith samplePhone (fun d e => e.KeepsTrack samplePhone d) d ∧
        d.conns = ⟨2, [0]⟩ ∧ d.app = some 1 :=
    exists_of_start (fun _ h => ⟨sampleMemory, some '1', sampleEnv "0" "0", h⟩)
      [.connect (sampleEnv "0" "0"), .app (.data "usb_mode_msc".toList) (sampleEnv "0" "0"),
        .app .closed (sampleEnv "0" "0"), .connect (sampleEnv "0" "0")] (by decide +kernel)
  have hn : d.next samplePhone (.connect (sampleEnv "0" "0")) =
      some (d.connect (sampleEnv "0" "0")) := rfl
  exact ⟨d, hconns, happ, (connections_settled hr hn).1⟩

/-- A second connection is neither tracked nor closed. -/
theorem second_connection_lost :
    ¬∀ (c : Config) (d : Daemon), Daemon.Reachable c d → d.conns.Balanced (heldIn d.app) := by
  intro h
  obtain ⟨d, hr, hconns, happ⟩ : ∃ d, Daemon.Reachable samplePhone d ∧ d.conns = ⟨2, []⟩ ∧
      d.app = some 0 :=
    exists_of_start (fun _ h => ⟨sampleMemory, some '1', sampleEnv "0" "0", h⟩)
      [.connect (sampleEnv "0" "0"), .connect (sampleEnv "0" "0")] (by decide +kernel)
  have hbalanced := h _ d hr
  rw [hconns, happ] at hbalanced
  exact absurd (congrArg card hbalanced) (by decide)

end Solana.Usbd
