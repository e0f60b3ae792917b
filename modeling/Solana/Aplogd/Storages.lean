import Solana.Aplogd.Buffers

/-!
# Where the log files are

The daemon remembers a current storage, on which it starts new files when the old ones are full and
by which it decides whether to move.  `switch_storage` falls back to the old storage when some of
the files cannot be opened on the new one, without closing those that could; and a change of the
configuration records the preferred storage even if the switch to it failed.

`outputs_on_currentStorage`: in every run in which these two cases do not arise, all open files are
on the current storage.  `recorded_storage_without_files` has a run with the second.
-/

namespace Solana.Aplogd

open Runs Daemon SetupEnv Option

variable {cfg : UserConfig} {d d' : Daemon}

/-! ## Files on the current storage -/

/-- All open files are on the current storage. -/
def Daemon.OnStorage (d : Daemon) : Prop :=
  ∀ i out, (d.streams i).output = some out → out.storage = d.currentStorage

/-- `aplogd_output_setup` opens all files. -/
def SetupEnv.opensAll (env : SetupEnv) : Bool := env.writable && StreamId.all.all env.opened

/-- `aplogd_output_setup` opens no file. -/
def SetupEnv.opensNone (env : SetupEnv) : Bool := !env.writable || StreamId.all.all (!env.opened ·)

lemma StreamId.mem_all (i : StreamId) : i ∈ StreamId.all := by
  cases i <;> decide

variable {env : SetupEnv}

lemma SetupEnv.opened_of_opensAll (h : env.opensAll = true) :
    env.writable = true ∧ StreamId.all.all env.opened = true := Bool.and_eq_true_iff.mp h

lemma SetupEnv.opened_eq_false (h : env.opensNone = true) (hw : env.writable = true)
    (i : StreamId) : env.opened i = false := by
  rw [opensNone, hw] at h
  simpa using List.all_eq_true.mp h i i.mem_all

variable {i : StreamId} {storage : Storage}

/-- Where the files are after a setup of the outputs in a writable directory. -/
lemma Daemon.storage_of_outputSetup (hw : env.writable = true) {out : Output}
    (hout : ((d.outputSetup storage env).1.streams i).output = some out) :
    out.storage = storage ∧ env.opened i = true := by
  unfold outputSetup at hout
  rw [if_pos hw] at hout
  simp only at hout
  split_ifs at hout with hi
  obtain rfl := some.inj hout
  exact ⟨rfl, hi⟩

lemma Daemon.outputSetup_of_not_writable (hw : env.writable = false) :
    d.outputSetup storage env = (d, false) := by
  unfold outputSetup
  rw [if_neg (by simp [hw])]

@[simp] lemma Daemon.currentStorage_outputSetup (d : Daemon) (storage : Storage)
    (env : SetupEnv) : (d.outputSetup storage env).1.currentStorage = d.currentStorage := by
  unfold outputSetup
  split_ifs <;> rfl

lemma Daemon.outputSetup_ok : (d.outputSetup storage env).2 = env.opensAll := by
  unfold outputSetup opensAll
  cases env.writable <;> rfl

/-- With no file open, a setup on the current storage leaves none elsewhere. -/
lemma Daemon.OnStorage.outputSetup (h : d.OnStorage) (env : SetupEnv) :
    (d.outputSetup d.currentStorage env).1.OnStorage := by
  intro i out hout
  rw [currentStorage_outputSetup]
  by_cases hw : env.writable = true
  · exact (storage_of_outputSetup hw hout).1
  · rw [outputSetup_of_not_writable (by simpa using hw)] at hout
    exact h i out hout

lemma Daemon.onStorage_closeOutput (d : Daemon) : d.closeOutput.OnStorage :=
  fun _ _ hout => absurd hout nofun

section

variable (h : d.OnStorage)
include h

namespace Daemon.OnStorage

lemma setStream {s : Stream} (hs : ∀ out, s.output = some out → out.storage = d.currentStorage) :
    (d.setStream i s).OnStorage := by
  intro j out hout
  by_cases hj : j = i
  · rw [hj, setStream_self] at hout
    exact hs out hout
  · rw [d.setStream_of_ne hj] at hout
    exact h j out hout

/-! ## Reading and writing -/

lemma copy (i : StreamId) (msg : List UInt8) : (d.copy i msg).OnStorage := by
  refine h.setStream fun out hout => ?_
  obtain ⟨out', hout', rfl⟩ := map_eq_some_iff.mp hout
  exact h i out' hout'

lemma written {out : Output} (hout : (d.streams i).output = some out)
    (setup : SetupEnv) (bytes : List UInt8) (error : Option Errno) :
    (d.written i out setup bytes error).OnStorage := by
  have hkeep : ∀ buf : List UInt8,
      (d.setStream i ⟨buf, some { out with appended := out.appended ++ bytes }⟩).OnStorage := by
    refine fun buf => h.setStream fun out' hout' => ?_
    obtain rfl := some.inj hout'
    exact h i out hout
  unfold Daemon.written
  cases error with
  | some errno =>
    cases errno with
    | enospc => exact onStorage_closeOutput _
    | ebadf => exact (hkeep _).setStream nofun
    | other => exact hkeep _
  | none =>
    simp only
    split_ifs
    · exact (onStorage_closeOutput _).outputSetup setup
    · exact hkeep _

lemma rambufOutput {results : List WriteResult} {setup : SetupEnv}
    (hn : d.rambufOutput i results setup = some d') : d'.OnStorage := by
  unfold Daemon.rambufOutput at hn
  simp only at hn
  by_cases hempty : (d.streams i).buf = []
  · rw [if_pos hempty] at hn
    obtain rfl := some.inj hn
    exact h
  rw [if_neg hempty] at hn
  cases hout : (d.streams i).output with
  | none =>
    rw [hout] at hn
    obtain rfl := some.inj hn
    exact h.setStream nofun
  | some out =>
    rw [hout] at hn
    obtain ⟨w, -, rfl⟩ := map_eq_some_iff.mp hn
    exact h.written hout setup w.1 w.2

lemma flush {env : FlushEnv} (hn : d.flush env = some d') : d'.OnStorage := by
  obtain ⟨d₁, h₁, rfl⟩ := map_eq_some_iff.mp hn
  have hd₁ : d₁.OnStorage := outputStreams_rule (fun _ _ _ hd hn => hd.rambufOutput hn)
    StreamId.all h h₁
  exact hd₁

lemma account {size : Nat} {env : FlushEnv} (hn : d.account size env = some d') : d'.OnStorage := by
  have h₁ : { d with unwrittenBytes := d.unwrittenBytes + size }.OnStorage := h
  unfold Daemon.account at hn
  simp only at hn
  split_ifs at hn
  · exact h₁.flush hn
  · obtain rfl := some.inj hn
    exact h

lemma logfilterAndBuffering (i : StreamId) (entry : LogEntry) :
    (d.logfilterAndBuffering i entry).1.OnStorage := by
  have hnote : (d.noteSpace i).OnStorage := h
  unfold Daemon.logfilterAndBuffering
  split_ifs
  · exact h
  · split
    · exact h
    · split_ifs
      · exact hnote.copy i _
      · exact hnote

lemma readLogger {reads : List LoggerRead} {size : Int}
    (hn : d.readLogger i reads size = some d') : d'.OnStorage :=
  readLogger_rule (P := OnStorage) (fun _ => True) (fun _ hd => hd)
    (fun _ entry hd => hd.logfilterAndBuffering i entry) (fun _ _ _ _ _ hd hn => hd.account hn)
    reads (fun _ _ _ => trivial) h hn

lemma readKernel {reads : List (List UInt8 × FlushEnv)}
    (hn : d.readKernel reads = some d') : d'.OnStorage := by
  refine readKernel_rule (P := OnStorage) (fun _ => True) (fun _ hd => hd)
    (fun d bytes hd _ => ?_) (fun _ _ _ _ _ hd hn => hd.account hn)
    reads (fun _ _ _ => trivial) h hn
  have hnote : (d.noteSpace .kernel).OnStorage := hd
  exact hnote.copy .kernel bytes

end Daemon.OnStorage

end

/-! ## Switching -/

/-- The files that `switch_storage` leaves open are on the storage that it returns: it opens all
files on the new storage or none, or it gets to open them on the old one. -/
def SwitchEnv.settles (env : SwitchEnv) : Bool :=
  env.new.opensAll || env.new.opensNone || env.old.writable

/-- After a change of the configuration the files that `switch_storage` leaves open are on the
preferred storage: it opens all of them there, or none on the old one. -/
def SwitchEnv.settlesNew (env : SwitchEnv) : Bool := env.new.opensAll || env.old.opensNone

/-- The switches of the storage settle. -/
def Event.settles (cfg : UserConfig) (d : Daemon) : Event → Bool
  | .timeout _ | .logger _ _ _ | .kernel _ => true
  | .vold msg env => (env.switches msg).all (·.settles)
  | .configChanged env => d.currentStorage = calcStoragePref cfg || env.settlesNew

namespace Daemon

lemma switchStorage_of_opensAll (cfg : UserConfig) (d : Daemon) (old new : Storage)
    {env : SwitchEnv} (hok : env.new.opensAll = true) :
    (d.switchStorage cfg old new env).currentStorage = new ∧
      (d.switchStorage cfg old new env).OnStorage := by
  have hw := (opened_of_opensAll hok).1
  unfold switchStorage
  simp only [outputSetup_ok, hok, if_true]
  exact ⟨trivial, fun i out hout => (storage_of_outputSetup hw hout).1⟩

lemma switchStorage_of_not_opensAll (cfg : UserConfig) (d : Daemon) (old new : Storage)
    {env : SwitchEnv} (hok : ¬env.new.opensAll = true) :
    ∃ d₁ : Daemon, d.switchStorage cfg old new env =
        { (d₁.outputSetup old env.old).1 with currentStorage := old } ∧
      ∀ i out, (d₁.streams i).output = some out →
        out.storage = new ∧ env.new.opensNone = false := by
  refine ⟨(({ d with logfileMax := getFilesize cfg new }).closeOutput.outputSetup new
    env.new).1, ?_, fun i out hout => ?_⟩
  · unfold switchStorage
    simp only [outputSetup_ok, if_neg hok]
  · by_cases hw : env.new.writable = true
    · obtain ⟨hs, hi⟩ := storage_of_outputSetup hw hout
      refine ⟨hs, ?_⟩
      by_contra hnone
      rw [opened_eq_false (by simpa using hnone) hw i] at hi
      cases hi
    · rw [outputSetup_of_not_writable (by simpa using hw)] at hout
      cases hout

lemma onStorage_switchStorage {old new : Storage} {env : SwitchEnv}
    (h : env.settles = true) : (d.switchStorage cfg old new env).OnStorage := by
  by_cases hok : env.new.opensAll = true
  · exact (switchStorage_of_opensAll cfg d old new hok).2
  obtain ⟨d₁, heq, hd₁⟩ := switchStorage_of_not_opensAll cfg d old new hok
  rw [heq]
  intro i out hout
  by_cases hw : env.old.writable = true
  · exact (storage_of_outputSetup hw hout).1
  · have hnone : env.new.opensNone = true := by simpa [SwitchEnv.settles, hok, hw] using h
    simp only [outputSetup_of_not_writable (Bool.eq_false_iff.mpr hw)] at hout
    rw [(hd₁ i out hout).2] at hnone
    cases hnone

lemma OnStorage.configChanged (h : d.OnStorage) {env : SwitchEnv}
    (hs : (Event.configChanged env).settles cfg d = true) :
    (d.configChanged cfg env).OnStorage := by
  unfold Daemon.configChanged
  simp only
  by_cases hcur : d.currentStorage = calcStoragePref cfg
  · rw [if_neg (by simp [hcur])]
    intro i out hout
    exact (h i out hout).trans hcur
  rw [if_pos hcur]
  have hs : env.settlesNew = true := by simpa [Event.settles, hcur] using hs
  by_cases hok : env.new.opensAll = true
  · obtain ⟨hnew, hd⟩ := switchStorage_of_opensAll cfg d d.currentStorage
      (calcStoragePref cfg) hok
    intro i out hout
    exact (hd i out hout).trans hnew
  have hnone : env.old.opensNone = true := by simpa [SwitchEnv.settlesNew, hok] using hs
  obtain ⟨d₁, heq, hd₁⟩ := switchStorage_of_not_opensAll cfg d d.currentStorage
    (calcStoragePref cfg) hok
  rw [heq]
  intro i out hout
  by_cases hw : env.old.writable = true
  · have hi := (storage_of_outputSetup hw hout).2
    rw [opened_eq_false hnone hw i] at hi
    cases hi
  · -- the files that were opened on the preferred storage are still there
    change (((d₁.outputSetup d.currentStorage env.old).1.streams i).output = some out) at hout
    rw [outputSetup_of_not_writable (Bool.eq_false_iff.mpr hw)] at hout
    exact (hd₁ i out hout).1

/-! ## Runs -/

/-- The boot goes to the next storage, or all files are on the current one. -/
lemma bootStorage_onStorage {storage next : Storage} {writable : Bool}
    (h : d.currentStorage ≠ storage → d.OnStorage) :
    ((d.bootStorage storage next writable env).2 = true →
      (d.bootStorage storage next writable env).1.OnStorage) ∧
    ((d.bootStorage storage next writable env).1.currentStorage ≠ next →
      (d.bootStorage storage next writable env).1.OnStorage) := by
  unfold bootStorage
  simp only
  by_cases hcur : d.currentStorage = storage
  · rw [if_pos hcur]
    split_ifs with hw hok
    · have hd : (d.outputSetup storage env).1.OnStorage := by
        intro i out hout
        rw [currentStorage_outputSetup, hcur]
        rw [outputSetup_ok] at hok
        exact (storage_of_outputSetup (opened_of_opensAll hok).1 hout).1
      exact ⟨fun _ => hd, fun _ => hd⟩
    · exact ⟨nofun, fun hne => absurd rfl hne⟩
    · exact ⟨nofun, fun hne => absurd rfl hne⟩
  · rw [if_neg hcur]
    exact ⟨fun _ => h hcur, fun _ => h hcur⟩

lemma onStorage_bootFinish {env : BootEnv} (hb : bootFinish cfg env = some d) : d.OnStorage := by
  unfold bootFinish at hb
  simp only at hb
  obtain ⟨hok, hb⟩ := ite_none_right_eq_some.mp hb
  obtain rfl := some.inj hb
  have hinit : (init.configLoad cfg).OnStorage := fun _ _ hout => absurd hout nofun
  exact (bootStorage_onStorage (bootStorage_onStorage (bootStorage_onStorage
    fun _ => hinit).2).2).1 (Bool.and_eq_true_iff.mp hok).1

lemma OnStorage.next (h : d.OnStorage) {e : Event} (hs : e.settles cfg d = true)
    (hn : d.next cfg e = some d') : d'.OnStorage := by
  obtain ⟨-, hn⟩ := ite_none_right_eq_some.mp hn
  cases e with
  | timeout env => exact h.flush (ite_none_right_eq_some.mp hn).2
  | logger i size reads => exact h.readLogger (ite_none_left_eq_some.mp hn).2
  | kernel reads => exact h.readKernel hn
  | vold msg env =>
    obtain rfl := some.inj hn
    exact vold_rule (P := OnStorage)
      (fun s hm _ _ _ _ => onStorage_switchStorage (List.all_eq_true.mp hs s hm)) h
  | configChanged env =>
    obtain rfl := some.inj hn
    exact h.configChanged hs

end Daemon

/-- **The files are on the current storage.**  In every run whose switches of the storage settle,
each output file that is open is on the storage that is recorded as the current one. -/
theorem outputs_on_currentStorage
    (hr : Daemon.ReachableWith cfg (fun d e => e.settles cfg d = true) d) {i : StreamId}
    {out : Output} (hout : (d.streams i).output = some out) : out.storage = d.currentStorage := by
  have h : d.OnStorage := by
    refine hr.invariant Daemon.OnStorage ?_ ?_
    · rintro d ⟨env, hb⟩
      exact onStorage_bootFinish hb
    · rintro d e d' hd ⟨hs, hn⟩
      exact hd.next hs hn
  exact h i out hout

/-- The logs are kept on the secondary storage if there is one. -/
def externalConfig : UserConfig := ⟨50, true⟩

/-- The directory is not writable. -/
def missingSetup : SetupEnv := ⟨false, fun _ => false⟩

/-- The daemon starts while there is no secondary storage. -/
def missingBoot : BootEnv := ⟨false, missingSetup, sampleSetup, sampleSetup, true⟩

/-- `vold` says that the secondary storage was mounted. -/
def mountedMessage : VoldMessage := ⟨true, false, false, false⟩

/-- All switches of the storage are alike. -/
def sampleVold (env : SwitchEnv) : VoldEnv := ⟨env, env, env, env, env⟩

/-- The secondary storage is mounted, and the files are moved to it. -/
theorem files_moved_to_secondary : ∃ (d : Daemon) (out : Output), d.currentStorage = .secondary ∧
      (d.streams .main).output = some out ∧ out.storage = d.currentStorage := by
  obtain ⟨d, hr, hcur, hout⟩ : ∃ d,
      Daemon.ReachableWith externalConfig (fun d e => e.settles externalConfig d = true) d ∧
        d.currentStorage = .secondary ∧ (d.streams .main).output = some ⟨.secondary, [], []⟩ :=
    exists_of_start (fun _ h => ⟨missingBoot, h⟩)
      [.vold mountedMessage (sampleVold ⟨sampleSetup, sampleSetup⟩)] (by decide +kernel)
  exact ⟨d, _, hcur, hout, outputs_on_currentStorage hr hout⟩

/-- The daemon writes to the external storage, as there is no secondary one.  It is told that the
configuration changed, the secondary storage is still missing, and the files are opened on the
external storage again; but the secondary storage is recorded. -/
theorem recorded_storage_without_files : ¬∀ (d : Daemon) (i : StreamId) (out : Output),
      Daemon.ReachableWith externalConfig (fun _ _ => True) d →
      (d.streams i).output = some out → out.storage = d.currentStorage := by
  intro h
  obtain ⟨d, hr, hcur, hout⟩ : ∃ d, Daemon.ReachableWith externalConfig (fun _ _ => True) d ∧
      d.currentStorage = .secondary ∧ (d.streams .main).output = some ⟨.external, [], []⟩ :=
    exists_of_start (fun _ h => ⟨missingBoot, h⟩) [.configChanged ⟨missingSetup, sampleSetup⟩]
      (by decide +kernel)
  have hbad := h d .main _ hr hout
  rw [hcur] at hbad
  cases hbad

end Solana.Aplogd
