import Solana.Aplogd.Daemon
import Mathlib.Tactic.SplitIfs

/-!
# The RAM buffers of the log daemon

Buffers are filled in two loops and written from three places.  A property of the buffers and
outputs that the few operations on them keep is `Kept`, and the lemmas after it carry such a
property through the handlers of the main loop, provided that the results of all writes are
`Allowed`.

`buffers_in_bounds`: in every run no buffer overflows.  `output_follows_buffer`: as long as no write
to a stream's file is short, the file and the buffer together hold what the buffer accepted; a write
that is short is continued from the beginning of the buffer again.
-/

namespace Solana.Aplogd

open Runs Daemon VoldEnv Option List

variable {cfg : UserConfig} {d d' : Daemon}

/-! ## Rules for the handlers -/

section Rules

variable {P : Daemon → Prop}

lemma Daemon.outputStreams_rule {env : FlushEnv} (hout : ∀ (i : StreamId) (d d' : Daemon), P d →
      d.rambufOutput i (env.results i) (env.setup i) = some d' → P d') :
    ∀ (is : List StreamId) {d d' : Daemon}, P d → outputStreams env is d = some d' → P d'
  | [], d, d', hd, hn => by
    obtain rfl := some.inj hn
    exact hd
  | i :: is, d, d', hd, hn => by
    obtain ⟨d₁, h₁, h₂⟩ := bind_eq_some_iff.mp hn
    exact outputStreams_rule hout is (hout i d d₁ hd h₁) h₂

lemma Daemon.readLogger_rule {i : StreamId} (Ok : FlushEnv → Prop)
    (hstop : ∀ d : Daemon, P d → P { d with running := false })
    (hfilter : ∀ (d : Daemon) (entry : LogEntry), P d → P (d.logfilterAndBuffering i entry).1)
    (haccount : ∀ (size : Nat) (env : FlushEnv), Ok env → ∀ d d' : Daemon, P d →
      d.account size env = some d' → P d') :
    ∀ (reads : List LoggerRead) {size : Int} {d d' : Daemon},
      (∀ entry env, .entry entry env ∈ reads → Ok env) → P d →
      d.readLogger i reads size = some d' → P d'
  | [], size, d, d', ha, hd, hn => by
    obtain rfl := some.inj (ite_none_right_eq_some.mp hn).2
    exact hd
  | r :: reads, size, d, d', ha, hd, hn => by
    have ha' : ∀ entry env, .entry entry env ∈ reads → Ok env :=
      fun entry env hm => ha entry env (mem_cons_of_mem r hm)
    unfold readLogger at hn
    by_cases hsize : size ≤ 0
    · rw [if_pos hsize] at hn
      obtain rfl := some.inj hn
      exact hd
    rw [if_neg hsize] at hn
    cases r with
    | eintr => exact readLogger_rule Ok hstop hfilter haccount reads ha' hd hn
    | eagain =>
      obtain rfl := some.inj hn
      exact hd
    | failed | eof =>
      obtain rfl := some.inj hn
      exact hstop d hd
    | entry entry env =>
      have hd₁ := hfilter d entry hd
      simp only at hn
      by_cases hp : entry.processed = false
      · rw [if_pos hp] at hn
        obtain rfl := some.inj hn
        exact hd
      rw [if_neg hp] at hn
      by_cases hret : (d.logfilterAndBuffering i entry).2 < 0
      · rw [if_pos hret] at hn
        obtain rfl := some.inj hn
        exact hd₁
      · rw [if_neg hret] at hn
        obtain ⟨d₂, h₂, hn⟩ := bind_eq_some_iff.mp hn
        exact readLogger_rule Ok hstop hfilter haccount reads ha'
          (haccount _ env (ha entry env mem_cons_self) _ d₂ hd₁ h₂) hn

lemma Daemon.readKernel_rule (Ok : FlushEnv → Prop)
    (hnote : ∀ d : Daemon, P d → P (d.noteSpace .kernel))
    (hcopy : ∀ (d : Daemon) (bytes : List UInt8), P d →
      0 < d.rambufSpace .kernel ∧ bytes.length ≤ d.rambufSpace .kernel ∧ bytes.length ≤ 255 →
      P ((d.noteSpace .kernel).copy .kernel bytes))
    (haccount : ∀ (size : Nat) (env : FlushEnv), Ok env → ∀ d d' : Daemon, P d →
      d.account size env = some d' → P d') :
    ∀ (reads : List (List UInt8 × FlushEnv)) {d d' : Daemon},
      (∀ bytes env, (bytes, env) ∈ reads → Ok env) → P d → d.readKernel reads = some d' → P d'
  | [], d, d', ha, hd, hn => by
    obtain rfl := some.inj hn
    exact hd
  | (bytes, env) :: reads, d, d', ha, hd, hn => by
    unfold readKernel at hn
    by_cases hempty : bytes = []
    · rw [if_pos hempty] at hn
      obtain rfl := some.inj hn
      exact hd
    rw [if_neg hempty] at hn
    by_cases hfit : 0 < d.rambufSpace .kernel ∧ bytes.length ≤ d.rambufSpace .kernel ∧
        bytes.length ≤ 255
    · simp only [if_pos hfit] at hn
      obtain ⟨d₂, h₂, hn⟩ := bind_eq_some_iff.mp hn
      exact readKernel_rule Ok hnote hcopy haccount reads
        (fun b env hm => ha b env (mem_cons_of_mem _ hm))
        (haccount _ env (ha bytes env mem_cons_self) _ d₂ (hcopy d bytes hd hfit) h₂) hn
    · simp only [if_neg hfit] at hn
      obtain rfl := some.inj hn
      exact hnote d hd

/-- The switches of the storage that the handling of a message can make. -/
def VoldEnv.switches (env : VoldEnv) (msg : VoldMessage) : List SwitchEnv :=
  (if msg.secondaryMounted then [env.toSecondary] else []) ++
  (if msg.secondaryGone then [env.secondaryToExternal, env.secondaryToUserdata] else []) ++
  (if msg.externalMounted then [env.toExternal] else []) ++
  (if msg.externalGone then [env.externalToUserdata] else [])

lemma Daemon.vold_rule {msg : VoldMessage} {env : VoldEnv}
    (hswitch : ∀ s ∈ env.switches msg, ∀ (d : Daemon) (old new : Storage), P d →
      P (d.switchStorage cfg old new s)) (hd : P d) : P (d.vold cfg msg env) := by
  have hite : ∀ (b : Bool) (f : Daemon → Daemon) (d : Daemon), (b = true → P d → P (f d)) →
      P d → P (if b then f d else d) := by
    intro b f d hf hd
    split_ifs with hb
    exacts [hf hb hd, hd]
  have hsecMounted : msg.secondaryMounted = true → ∀ d : Daemon, P d →
      P (d.secondaryMounted cfg env) := fun hm d hd => by
    unfold secondaryMounted
    split_ifs
    exacts [hswitch _ (by simp [switches, hm]) _ _ _ hd, hd]
  have hsecGone : msg.secondaryGone = true → ∀ d : Daemon, P d →
      P (d.secondaryGone cfg env) := fun hm d hd => by
    have h₁ := hswitch env.secondaryToExternal (by simp [switches, hm]) d
      .secondary .external hd
    unfold secondaryGone
    simp only
    split_ifs
    exacts [hswitch _ (by simp [switches, hm]) _ _ _ h₁, h₁, hd]
  have hextMounted : msg.externalMounted = true → ∀ d : Daemon, P d →
      P (d.externalMounted cfg env) := fun hm d hd => by
    unfold externalMounted
    split_ifs
    exacts [hswitch _ (by simp [switches, hm]) _ _ _ hd, hd]
  have hextGone : msg.externalGone = true → ∀ d : Daemon, P d →
      P (d.externalGone cfg env) := fun hm d hd => by
    unfold externalGone
    split_ifs
    exacts [hswitch _ (by simp [switches, hm]) _ _ _ hd, hd]
  unfold vold
  exact hite _ (·.externalGone cfg env) _ (fun hm => hextGone hm _)
    (hite _ (·.externalMounted cfg env) _ (fun hm => hextMounted hm _)
      (hite _ (·.secondaryGone cfg env) _ (fun hm => hsecGone hm _)
        (hite _ (·.secondaryMounted cfg env) _ (fun hm => hsecMounted hm _) hd)))

end Rules

/-! ## Properties of the buffers -/

/-- The buffers, the outputs and the two records are the same. -/
structure Daemon.SameBuffers (d d' : Daemon) : Prop where
  streams : d'.streams = d.streams
  spaceFailed : d'.spaceFailed = d.spaceFailed
  overrun : d'.overrun = d.overrun

/-- Some outputs were closed or opened anew. -/
structure Daemon.Reopened (d d' : Daemon) : Prop where
  buf : ∀ i, (d'.streams i).buf = (d.streams i).buf
  output : ∀ i out, (d'.streams i).output = some out →
    (d.streams i).output = some out ∨ ∃ storage, out = ⟨storage, [], (d.streams i).buf⟩
  spaceFailed : d'.spaceFailed = d.spaceFailed
  overrun : d'.overrun = d.overrun

@[simp] lemma Daemon.setStream_self (d : Daemon) (i : StreamId) (s : Stream) :
    (d.setStream i s).streams i = s := Function.update_self ..

lemma Daemon.setStream_of_ne (d : Daemon) {i j : StreamId} (h : j ≠ i) (s : Stream) :
    (d.setStream i s).streams j = d.streams j := Function.update_of_ne h ..

lemma Daemon.SameBuffers.reopened (h : d.SameBuffers d') : d.Reopened d' :=
  ⟨fun i => by rw [h.streams], fun i out hout => .inl (by rwa [h.streams] at hout), h.spaceFailed,
    h.overrun⟩

lemma Daemon.reopened_closeOutput (d : Daemon) : d.Reopened d.closeOutput :=
  ⟨fun _ => rfl, fun _ _ hout => absurd hout nofun, rfl, rfl⟩

lemma Daemon.reopened_outputSetup (d : Daemon) (storage : Storage) (env : SetupEnv) :
    d.Reopened (d.outputSetup storage env).1 := by
  unfold outputSetup
  split_ifs
  · refine ⟨fun i => ?_, fun i out hout => ?_, rfl, rfl⟩
    · simp only
      split_ifs <;> rfl
    · simp only at hout
      split_ifs at hout
      exact .inr ⟨storage, (some.inj hout).symm⟩
  · exact ⟨fun _ => rfl, fun _ _ hout => .inl hout, rfl, rfl⟩

lemma Daemon.reopened_closeOne (d : Daemon) (i : StreamId) :
    d.Reopened (d.setStream i ⟨(d.streams i).buf, none⟩) := by
  refine ⟨fun j => ?_, fun j out hout => ?_, rfl, rfl⟩
  · by_cases hj : j = i
    · rw [hj, setStream_self]
    · rw [d.setStream_of_ne hj]
  · by_cases hj : j = i
    · rw [hj, setStream_self] at hout
      cases hout
    · rw [d.setStream_of_ne hj] at hout
      exact .inl hout

/-- A property that the operations on buffers and outputs keep, for writes with allowed results. -/
structure Kept (Allowed : StreamId → List WriteResult → Prop) (P : Daemon → Prop) : Prop where
  bound : ∀ {d : Daemon}, P d → ∀ i, (d.streams i).buf.length ≤ ramBuffSize
  reopened : ∀ {d d' : Daemon}, P d → d.Reopened d' → P d'
  noteSpace : ∀ {d : Daemon} (i : StreamId), P d → P (d.noteSpace i)
  copy : ∀ {d : Daemon} (i : StreamId) (msg : List UInt8), P d →
    (d.streams i).buf.length + msg.length ≤ ramBuffSize → P (d.copy i msg)
  /-- The buffer is given up, as there is no output. -/
  drop : ∀ {d : Daemon} (i : StreamId), P d → (d.streams i).output = none →
    P (d.setStream i ⟨[], none⟩)
  /-- The buffer is written. -/
  wrote : ∀ {d : Daemon} (i : StreamId) {results : List WriteResult} {out : Output}
    {bytes : List UInt8}, P d → Allowed i results → (d.streams i).output = some out →
    writeLoop (d.streams i).buf (d.streams i).buf.length results = some (bytes, none) →
    P (d.setStream i ⟨[], some { out with appended := out.appended ++ bytes }⟩)
  /-- Writing the buffer ends with an error. -/
  failed : ∀ {d : Daemon} (i : StreamId) {results : List WriteResult} {out : Output}
    {bytes : List UInt8} {errno : Errno}, P d → Allowed i results →
    (d.streams i).output = some out →
    writeLoop (d.streams i).buf (d.streams i).buf.length results = some (bytes, some errno) →
    P (d.setStream i ⟨(d.streams i).buf, some { out with appended := out.appended ++ bytes }⟩)

/-- All results are allowed. -/
def FlushEnv.Allowed (Allowed : StreamId → List WriteResult → Prop) (env : FlushEnv) : Prop :=
  ∀ i, Allowed i (env.results i)

/-- The results of all writes that an event may make are allowed. -/
def Event.Allowed (Allowed : StreamId → List WriteResult → Prop) : Event → Prop
  | .timeout env => env.Allowed Allowed
  | .logger _ _ reads => ∀ entry env, .entry entry env ∈ reads → env.Allowed Allowed
  | .kernel reads => ∀ bytes env, (bytes, env) ∈ reads → env.Allowed Allowed
  | .vold _ _ | .configChanged _ => True

namespace Kept

variable {Allowed : StreamId → List WriteResult → Prop} {P : Daemon → Prop} {env : FlushEnv}

section

variable (h : Kept Allowed P)
include h

lemma frame (hd : P d) (hs : d.SameBuffers d') : P d' :=
  h.reopened hd hs.reopened

lemma close (hd : P d) : P d.closeOutput :=
  h.reopened hd d.reopened_closeOutput

lemma setup (storage : Storage) (env : SetupEnv) (hd : P d) :
    P (d.outputSetup storage env).1 := h.reopened hd (d.reopened_outputSetup storage env)

lemma rambufOutput (i : StreamId) {results : List WriteResult} (setup : SetupEnv)
    (ha : Allowed i results) (hd : P d) (hn : d.rambufOutput i results setup = some d') : P d' := by
  unfold Daemon.rambufOutput at hn
  simp only at hn
  by_cases hempty : (d.streams i).buf = []
  · rw [if_pos hempty] at hn
    obtain rfl := some.inj hn
    exact hd
  rw [if_neg hempty] at hn
  cases hout : (d.streams i).output with
  | none =>
    rw [hout] at hn
    obtain rfl := some.inj hn
    exact h.drop i hd hout
  | some out =>
    rw [hout] at hn
    obtain ⟨⟨bytes, error⟩, hw, rfl⟩ := map_eq_some_iff.mp hn
    unfold written
    cases error with
    | some errno =>
      have hd₁ : P { d.setStream i ⟨(d.streams i).buf,
          some { out with appended := out.appended ++ bytes }⟩ with
          totalWriteSize := (d.totalWriteSize + bytes.length) % 2 ^ 32 } :=
        h.frame (h.failed i hd ha hout hw) ⟨rfl, rfl, rfl⟩
      cases errno with
      | enospc => exact h.close hd₁
      | ebadf =>
        have hclosed := h.reopened hd₁ (reopened_closeOne _ i)
        simpa only [setStream, Function.update_self] using hclosed
      | other => exact hd₁
    | none =>
      have hd₁ : P { d.setStream i ⟨[], some { out with appended := out.appended ++ bytes }⟩ with
          totalWriteSize := (d.totalWriteSize + bytes.length) % 2 ^ 32 } :=
        h.frame (h.wrote i hd ha hout hw) ⟨rfl, rfl, rfl⟩
      simp only
      split_ifs
      · exact h.frame (h.setup _ setup (h.close hd₁)) ⟨rfl, rfl, rfl⟩
      · exact hd₁

lemma outputStreams (ha : env.Allowed Allowed) (is : List StreamId) (hd : P d)
    (hn : outputStreams env is d = some d') : P d' :=
  outputStreams_rule (fun i _ _ hd hn => h.rambufOutput i (env.setup i) (ha i) hd hn) is
    hd hn

lemma flush (ha : env.Allowed Allowed) (hd : P d) (hn : d.flush env = some d') : P d' := by
  obtain ⟨d₁, h₁, rfl⟩ := map_eq_some_iff.mp hn
  exact h.frame (h.outputStreams ha StreamId.all hd h₁) ⟨rfl, rfl, rfl⟩

lemma account (ha : env.Allowed Allowed) (size : Nat) (hd : P d)
    (hn : d.account size env = some d') : P d' := by
  have hd : P { d with unwrittenBytes := d.unwrittenBytes + size } :=
    h.frame hd ⟨rfl, rfl, rfl⟩
  unfold Daemon.account at hn
  simp only at hn
  split_ifs at hn
  · exact h.flush ha hd hn
  · obtain rfl := some.inj hn
    exact h.frame hd ⟨rfl, rfl, rfl⟩

end

lemma sizeT_rambufSpace (hb : ∀ i, (d.streams i).buf.length ≤ ramBuffSize) (i : StreamId) :
    sizeT (d.rambufSpace i) = ramBuffSize - (d.streams i).buf.length := by
  have hi := hb i
  unfold sizeT rambufSpace
  rw [if_neg (by omega)]
  unfold ramBuffSize at *
  omega

section

variable (h : Kept Allowed P)
include h

lemma logfilterAndBuffering (i : StreamId) (entry : LogEntry) (hd : P d) :
    P (d.logfilterAndBuffering i entry).1 := by
  unfold Daemon.logfilterAndBuffering
  split_ifs
  · exact hd
  · split
    · exact hd
    · rename_i line _
      have hd' := h.noteSpace i hd
      split_ifs with hlen
      · rw [sizeT_rambufSpace (h.bound hd)] at hlen
        exact h.copy i line hd' (by change (d.streams i).buf.length + _ ≤ _; omega)
      · exact hd'

lemma readLogger (i : StreamId) {reads : List LoggerRead} {size : Int}
    (ha : ∀ entry env, .entry entry env ∈ reads → env.Allowed Allowed) (hd : P d)
    (hn : d.readLogger i reads size = some d') : P d' :=
  readLogger_rule _ (fun _ hd => h.frame hd ⟨rfl, rfl, rfl⟩)
    (fun _ entry hd => h.logfilterAndBuffering i entry hd)
    (fun size _ ha _ _ hd hn => h.account ha size hd hn) reads ha hd hn

lemma readKernel {reads : List (List UInt8 × FlushEnv)}
    (ha : ∀ bytes env, (bytes, env) ∈ reads → env.Allowed Allowed) (hd : P d)
    (hn : d.readKernel reads = some d') : P d' := by
  refine readKernel_rule _ (fun _ hd => h.noteSpace .kernel hd) (fun d bytes hd hfit => ?_)
    (fun size _ ha _ _ hd hn => h.account ha size hd hn) reads ha hd hn
  refine h.copy .kernel bytes (h.noteSpace .kernel hd) ?_
  change (d.streams .kernel).buf.length + bytes.length ≤ ramBuffSize
  have hb := h.bound hd .kernel
  unfold rambufSpace at hfit
  rw [if_neg (by omega)] at hfit
  omega

lemma switchStorage (old new : Storage) (env : SwitchEnv) (hd : P d) :
    P (d.switchStorage cfg old new env) := by
  have hd₁ : P { d with logfileMax := getFilesize cfg new } :=
    h.frame hd ⟨rfl, rfl, rfl⟩
  have hd₂ := h.setup new env.new (h.close hd₁)
  unfold Daemon.switchStorage
  simp only
  split_ifs
  · exact h.frame hd₂ ⟨rfl, rfl, rfl⟩
  · exact h.frame (h.setup old env.old hd₂) ⟨rfl, rfl, rfl⟩

lemma vold (msg : VoldMessage) (env : VoldEnv) (hd : P d) : P (d.vold cfg msg env) :=
  vold_rule (fun s _ _ old new hd => h.switchStorage old new s hd) hd

lemma configChanged (env : SwitchEnv) (hd : P d) : P (d.configChanged cfg env) := by
  unfold Daemon.configChanged
  simp only
  split_ifs
  · exact h.frame (h.switchStorage _ _ env hd) ⟨rfl, rfl, rfl⟩
  · exact h.frame hd ⟨rfl, rfl, rfl⟩

lemma next {e : Event} (ha : e.Allowed Allowed) (hd : P d) (hn : d.next cfg e = some d') :
    P d' := by
  obtain ⟨-, hn⟩ := ite_none_right_eq_some.mp hn
  cases e with
  | timeout env => exact h.flush ha hd (ite_none_right_eq_some.mp hn).2
  | logger i size reads => exact h.readLogger i ha hd (ite_none_left_eq_some.mp hn).2
  | kernel reads => exact h.readKernel ha hd hn
  | vold msg env =>
    obtain rfl := some.inj hn
    exact h.vold msg env hd
  | configChanged env =>
    obtain rfl := some.inj hn
    exact h.configChanged env hd

lemma bootStorage (storage next : Storage) (writable : Bool) (env : SetupEnv) (hd : P d) :
    P (d.bootStorage storage next writable env).1 := by
  have hd₁ := h.setup storage env hd
  unfold Daemon.bootStorage
  simp only
  split_ifs
  · exact hd₁
  · exact h.frame hd₁ ⟨rfl, rfl, rfl⟩
  · exact h.frame hd ⟨rfl, rfl, rfl⟩
  · exact hd

/-- **The invariant rule.**  A property that is kept and holds at the start holds in all runs whose
writes have allowed results. -/
theorem of_reachable (h0 : P .init)
    (hr : Daemon.ReachableWith cfg (fun _ e => e.Allowed Allowed) d) : P d := by
  refine hr.invariant P ?_ ?_
  · rintro d ⟨env, hb⟩
    unfold bootFinish at hb
    obtain rfl := some.inj (ite_none_right_eq_some.mp hb).2
    refine h.bootStorage _ _ _ _ (h.bootStorage _ _ _ _ (h.bootStorage _ _ _ _ ?_))
    exact h.frame h0 ⟨rfl, rfl, rfl⟩
  · rintro d e d' hd ⟨ha, hn⟩
    exact h.next ha hd hn

end

end Kept

lemma Daemon.ReachableWith.imp {Cond Cond' : Daemon → Event → Prop}
    (hr : Daemon.ReachableWith cfg Cond d) (h : ∀ d e, Cond d e → Cond' d e) :
    Daemon.ReachableWith cfg Cond' d :=
  Reachable.mono (fun _ hi => hi) (fun _ _ _ hs => ⟨h _ _ hs.1, hs.2⟩) hr

/-! ## Sample runs -/

/-- The logs are kept on the user data partition. -/
def sampleConfig : UserConfig := ⟨50, false⟩

/-- All directories are writable, and all files can be opened. -/
def sampleSetup : SetupEnv := ⟨true, fun _ => true⟩

def sampleBoot : BootEnv := ⟨true, sampleSetup, sampleSetup, sampleSetup, true⟩

/-- Writes of each stream have the given results. -/
def sampleFlush (results : List WriteResult) : FlushEnv := ⟨fun _ => results, fun _ => sampleSetup⟩

/-- The line `abc` arrives in the main log, and the buffers are written some time later. -/
def sampleEvents (results : List WriteResult) : List Event :=
  [.logger .main 3 [.entry ⟨true, true, some [97, 98, 99]⟩ (sampleFlush [])],
    .timeout (sampleFlush results)]

/-! ## Bounds -/

/-- No buffer is overfull, and none was when it was looked at or copied to. -/
structure Daemon.InBounds (d : Daemon) : Prop where
  bound : ∀ i, (d.streams i).buf.length ≤ ramBuffSize
  spaceFailed : d.spaceFailed = false
  overrun : d.overrun = false

lemma Daemon.InBounds.setStream (h : d.InBounds) (i : StreamId) {s : Stream}
    (hs : s.buf.length ≤ ramBuffSize) : (d.setStream i s).InBounds := by
  refine ⟨fun j => ?_, h.spaceFailed, h.overrun⟩
  by_cases hj : j = i
  · rw [hj, setStream_self]
    exact hs
  · rw [d.setStream_of_ne hj]
    exact h.bound j

lemma kept_inBounds (Allowed : StreamId → List WriteResult → Prop) :
    Kept Allowed Daemon.InBounds where
  bound h := h.bound
  reopened h hr :=
    ⟨fun i => by rw [hr.buf]; exact h.bound i, hr.spaceFailed.trans h.spaceFailed,
      hr.overrun.trans h.overrun⟩
  noteSpace {d} i h := by
    have hi := h.bound i
    refine ⟨h.bound, ?_, h.overrun⟩
    have hspace : ¬d.rambufSpace i < 0 := by
      unfold rambufSpace
      rw [if_neg (by omega)]
      omega
    simp [noteSpace, h.spaceFailed, hspace]
  copy {d} i msg h hlen := by
    refine ⟨(h.setStream i (by simpa using hlen)).bound, h.spaceFailed, ?_⟩
    simp [copy, h.overrun, hlen]
  drop i h _ := h.setStream i (Nat.zero_le _)
  wrote i _ _ _ h _ _ _ := h.setStream i (Nat.zero_le _)
  failed i _ _ _ _ h _ _ _ := h.setStream i (h.bound i)

lemma Daemon.inBounds_init : init.InBounds := ⟨fun _ => Nat.zero_le _, rfl, rfl⟩

/-- **The buffers are in bounds.**  In every run each stream's buffer holds at most 8192 bytes,
every message that was copied had room, and `aplogd_rambuf_space` never returned an error. -/
theorem buffers_in_bounds (hr : Daemon.ReachableWith cfg (fun _ _ => True) d) :
    (∀ i, (d.streams i).buf.length ≤ 8192) ∧ d.overrun = false ∧ d.spaceFailed = false := by
  have hall : ∀ e : Event, e.Allowed fun _ _ => True := fun e => by
    cases e <;> simp [Event.Allowed, FlushEnv.Allowed]
  have h := (kept_inBounds _).of_reachable inBounds_init (hr.imp fun _ e _ => hall e)
  exact ⟨h.bound, h.overrun, h.spaceFailed⟩

/-- A write fails, and the line stays in the buffer. -/
theorem buffer_kept_after_error : ∃ d : Daemon, (d.streams .main).buf = [97, 98, 99] ∧
      (∀ i, (d.streams i).buf.length ≤ 8192) ∧ d.overrun = false ∧ d.spaceFailed = false := by
  obtain ⟨d, hr, hbuf⟩ : ∃ d, Daemon.ReachableWith sampleConfig (fun _ _ => True) d ∧
      (d.streams .main).buf = [97, 98, 99] :=
    exists_of_start (fun _ h => ⟨sampleBoot, h⟩) (sampleEvents [.failed .other]) (by decide +kernel)
  exact ⟨d, hbuf, buffers_in_bounds hr⟩

/-! ## Output -/

/-- No write is short, or it writes nothing at all. -/
def noShort (results : List WriteResult) : Bool :=
  results.all fun r => match r with
    | .short size => size = 0
    | .all | .failed _ => true

/-- No write to the file of a stream is short in an event. -/
def Event.noShort (i : StreamId) : Event → Bool
  | .timeout env => Aplogd.noShort (env.results i)
  | .logger _ _ reads => reads.all fun r => match r with
      | .entry _ env => Aplogd.noShort (env.results i)
      | .eintr | .eagain | .failed | .eof => true
  | .kernel reads => reads.all fun r => Aplogd.noShort (r.2.results i)
  | .vold _ _ | .configChanged _ => true

lemma Event.allowed_of_noShort {i : StreamId} {e : Event} (h : e.noShort i = true) :
    e.Allowed fun j results => j = i → Aplogd.noShort results = true := by
  cases e with
  | timeout env =>
    rintro j rfl
    exact h
  | logger k size reads =>
    rintro entry env hm j rfl
    exact all_eq_true.mp h _ hm
  | kernel reads =>
    rintro bytes env hm j rfl
    exact all_eq_true.mp h _ hm
  | vold msg env => trivial
  | configChanged env => trivial

/-- Without short writes, the buffer is written as a whole or not at all. -/
lemma writeLoop_of_noShort {buf : List UInt8} : ∀ {need : Nat} {results : List WriteResult}
    {bytes : List UInt8} {error : Option Errno}, noShort results = true →
      writeLoop buf need results = some (bytes, error) →
      bytes = if error = none then buf.take need else []
  | 0, results, bytes, error, _, h => by
    simp only [writeLoop, some.injEq, Prod.mk.injEq] at h
    obtain ⟨rfl, rfl⟩ := h
    simp
  | need + 1, .all :: results, bytes, error, _, h => by
    simp only [writeLoop, some.injEq, Prod.mk.injEq] at h
    obtain ⟨rfl, rfl⟩ := h
    simp
  | need + 1, .failed errno :: results, bytes, error, _, h => by
    simp only [writeLoop, some.injEq, Prod.mk.injEq] at h
    obtain ⟨rfl, rfl⟩ := h
    simp
  | need + 1, .short size :: results, bytes, error, hs, h => by
    obtain ⟨rfl, hrest⟩ : size = 0 ∧ noShort results = true := by
      simpa [noShort] using hs
    simp only [writeLoop, Nat.zero_le, if_true] at h
    obtain ⟨⟨bytes', error'⟩, hw, he⟩ := map_eq_some_iff.mp h
    obtain ⟨rfl, rfl⟩ := Prod.mk.inj he
    rw [Nat.sub_zero] at hw
    simpa using writeLoop_of_noShort hrest hw

/-- What was appended to the file and what is in the buffer make up what the buffer accepted. -/
def Daemon.Follows (i : StreamId) (d : Daemon) : Prop :=
  ∀ out, (d.streams i).output = some out → out.appended ++ (d.streams i).buf = out.accepted

lemma Daemon.Follows.setStream_of_ne {i j : StreamId} (h : d.Follows i) (hj : i ≠ j)
    (s : Stream) : (d.setStream j s).Follows i := by
  unfold Daemon.Follows
  rw [d.setStream_of_ne hj]
  exact h

lemma Daemon.follows_setStream {i : StreamId} {s : Stream}
    (h : ∀ out, s.output = some out → out.appended ++ s.buf = out.accepted) :
    (d.setStream i s).Follows i := by
  unfold Daemon.Follows
  rwa [setStream_self]

lemma kept_follows (i : StreamId) :
    Kept (fun j results => j = i → noShort results = true) fun d => d.InBounds ∧ d.Follows i where
  bound h := h.1.bound
  reopened h hr := by
    refine ⟨(kept_inBounds fun _ _ => True).reopened h.1 hr, fun out hout => ?_⟩
    rw [hr.buf]
    rcases hr.output i out hout with hout | ⟨storage, rfl⟩
    · exact h.2 out hout
    · rfl
  noteSpace j h := ⟨(kept_inBounds fun _ _ => True).noteSpace j h.1, h.2⟩
  copy {d} j msg h hlen := by
    refine ⟨(kept_inBounds fun _ _ => True).copy j msg h.1 hlen, ?_⟩
    by_cases hj : i = j
    · subst hj
      refine follows_setStream fun out hout => ?_
      obtain ⟨out', hout', rfl⟩ := map_eq_some_iff.mp hout
      rw [← append_assoc, h.2 out' hout']
    · exact h.2.setStream_of_ne hj _
  drop {d} j h hout := by
    refine ⟨(kept_inBounds fun _ _ => True).drop j h.1 hout, ?_⟩
    by_cases hj : i = j
    · subst hj
      exact follows_setStream nofun
    · exact h.2.setStream_of_ne hj _
  wrote {d} j results out bytes h ha hout hw := by
    refine ⟨(kept_inBounds fun _ _ => True).wrote j h.1 trivial hout hw, ?_⟩
    by_cases hj : i = j
    · subst hj
      have hbytes := writeLoop_of_noShort (ha rfl) hw
      simp only [if_true, take_length] at hbytes
      refine follows_setStream fun out' hout' => ?_
      obtain rfl := some.inj hout'
      rw [append_nil, hbytes]
      exact h.2 out hout
    · exact h.2.setStream_of_ne hj _
  failed {d} j results out bytes errno h ha hout hw := by
    refine ⟨(kept_inBounds fun _ _ => True).failed j h.1 trivial hout hw, ?_⟩
    by_cases hj : i = j
    · subst hj
      have hbytes := writeLoop_of_noShort (ha rfl) hw
      simp only [reduceCtorEq, if_false] at hbytes
      refine follows_setStream fun out' hout' => ?_
      obtain rfl := some.inj hout'
      rw [hbytes, append_nil]
      exact h.2 out hout
    · exact h.2.setStream_of_ne hj _

/-- **The output follows the buffer.**  In every run without short writes to a stream's file, as
long as the file is open what was appended to it is a prefix of what the buffer accepted, and what
is left in the buffer is the rest. -/
theorem output_follows_buffer {i : StreamId}
    (hr : Daemon.ReachableWith cfg (fun _ e => e.noShort i = true) d) {out : Output}
    (hout : (d.streams i).output = some out) :
    out.appended <+: out.accepted ∧ out.appended ++ (d.streams i).buf = out.accepted := by
  have h := (kept_follows i).of_reachable
    ⟨inBounds_init, fun _ hout => absurd hout nofun⟩
    (hr.imp fun _ _ => Event.allowed_of_noShort)
  have heq := h.2 out hout
  exact ⟨⟨_, heq⟩, heq⟩

/-- The buffer is written in one go. -/
theorem line_written_once : ∃ (d : Daemon) (out : Output), (d.streams .main).output = some out ∧
      out.accepted = [97, 98, 99] ∧ out.appended <+: out.accepted ∧
      out.appended ++ (d.streams .main).buf = out.accepted := by
  obtain ⟨d, hr, hout⟩ : ∃ d,
      Daemon.ReachableWith sampleConfig (fun _ e => e.noShort .main = true) d ∧
        (d.streams .main).output = some ⟨.userdata, [97, 98, 99], [97, 98, 99]⟩ :=
    exists_of_start (fun _ h => ⟨sampleBoot, h⟩) (sampleEvents [.all]) (by decide +kernel)
  exact ⟨d, _, hout, rfl, output_follows_buffer hr hout⟩

/-- A write of one byte is followed by one of the two bytes that are left to write, which are taken
from the beginning of the buffer: the file has `aab`. -/
theorem short_write_repeats_bytes :
    ¬∀ (d : Daemon) (out : Output), Daemon.ReachableWith sampleConfig (fun _ _ => True) d →
      (d.streams .main).output = some out →
      out.appended <+: out.accepted ∧ out.appended ++ (d.streams .main).buf = out.accepted := by
  intro h
  obtain ⟨d, hr, hout⟩ : ∃ d, Daemon.ReachableWith sampleConfig (fun _ _ => True) d ∧
      (d.streams .main).output = some ⟨.userdata, [97, 97, 98], [97, 98, 99]⟩ :=
    exists_of_start (fun _ h => ⟨sampleBoot, h⟩) (sampleEvents [.short 1, .all]) (by decide +kernel)
  exact absurd (h d _ hr hout).1 (by decide)

end Solana.Aplogd
