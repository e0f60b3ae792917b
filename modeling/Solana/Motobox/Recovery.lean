import Mathlib.Data.List.Basic
import Solana.Lib.Runs

/-!
# The recovery command file

`setconfig` and `masterclear` ask the recovery system to do something at the next boot.  If the
bootloader message is clean they write it; if it already says `boot-recovery`, they append their
commands to `/cache/recovery/command`.  `masterclear` ends each of its commands with a newline,
`setconfig` does not.

A run may fail at any of its calls; a write that fails may have written a part of its text.  The
commands that successful runs have appended are kept in `requested`.
-/

namespace Solana.Motobox

open Runs List

/-! ## Lines -/

/-- The lines of a text, with an empty last one if the text ends with a newline. -/
def lines (data : List Char) : List (List Char) := data.splitOn '\n'

/-- The text consists of lines that end with a newline. -/
def terminated (data : List Char) : Bool := data.getLast?.all (· = '\n')

/-- After lines that end with a newline, a text has its own lines. -/
lemma mem_lines_append {data text cmd : List Char} (h : terminated data = true) (hne : cmd ≠ []) :
    cmd ∈ lines (data ++ text) ↔ cmd ∈ lines data ∨ cmd ∈ lines text := by
  rcases eq_nil_or_concat data with rfl | ⟨pre, c, rfl⟩
  · simp [lines, hne]
  · obtain rfl : c = '\n' := by simpa [terminated] using h
    have happend : ∀ xs : List Char, lines (pre ++ '\n' :: xs) = lines pre ++ lines xs := fun xs =>
      splitOn_append_cons_self pre xs
    rw [concat_eq_append, append_assoc, singleton_append, happend text, happend []]
    simp [lines, hne]

/-! ## Messages and commands -/

/-- `MULTICONFIG_COMMAND`. -/
def multiconfigCommand : List Char := "--update_package=CACHE:update_config.zip".toList

/-- `RECOVERY_COMMAND`. -/
def recoveryCommand : List Char := "recovery\n--update_package=CACHE:update_config.zip".toList

/-- The texts that `set_wipe_command` appends, and `masterclear_main` puts after the word
`recovery`. -/
def wipeCommand (shreddingEnabled : Bool) : List Char :=
  if shreddingEnabled then "--wipe_data\n--wipe_sdcard\n--silent\n".toList
  else "--wipe_data\n".toList

/-- The commands in the text: to wipe the data, and the SD card if that is enabled. -/
def wipeRequests (shreddingEnabled : Bool) : List (List Char) :=
  if shreddingEnabled then ["--wipe_data".toList, "--wipe_sdcard".toList]
  else ["--wipe_data".toList]

/-- `struct bootloader_message`, as far as it is used: the texts of two of its fields. -/
structure BootloaderMessage where
  command : List Char
  recovery : List Char

/-- The first character of the command is 0 or 255. -/
def BootloaderMessage.clean (boot : BootloaderMessage) : Bool :=
  boot.command.head?.all fun c => c = '\x00' ∨ c = '\xff'

/-- The bootloader message, the command file and the commands that were appended. -/
structure Recovery where
  message : BootloaderMessage
  commandFile : Option (List Char)
  requested : List (List Char)

/-! ## Appending -/

/-- The outcomes of the calls that append a command.  `folderOk` says that the folder is there or
could be made; `written` is the result of `write`. -/
structure AppendEnv where
  folderOk : Bool
  statOk : Bool
  createOk : Bool
  openOk : Bool
  written : Nat

/-- `set_cache_command` and `set_wipe_command`, for a text and the commands in it. -/
def appendCommand (env : AppendEnv) (text : List Char) (cmds : List (List Char)) (s : Recovery) :
    Recovery × Bool :=
  if !env.folderOk || !env.statOk || s.commandFile.isNone && !env.createOk then (s, false)
  else
    let old := s.commandFile.getD []
    if !env.openOk then ({ s with commandFile := some old }, false)
    else if env.written < text.length then
      ({ s with commandFile := some (old ++ text.take env.written) }, false)
    else
      ({ s with commandFile := some (old ++ text), requested := s.requested ++ cmds }, true)

/-- `set_cache_command`. -/
def setCacheCommand (env : AppendEnv) (s : Recovery) : Recovery × Bool :=
  appendCommand env multiconfigCommand [multiconfigCommand] s

/-- `set_wipe_command`. -/
def setWipeCommand (shreddingEnabled : Bool) (env : AppendEnv) (s : Recovery) : Recovery × Bool :=
  appendCommand env (wipeCommand shreddingEnabled) (wipeRequests shreddingEnabled) s

/-! ## The two programs -/

/-- The outcomes of reading and writing the bootloader message. -/
structure MessageEnv where
  getOk : Bool
  setOk : Bool

/-- Set the bootloader message, or append if it is set to recovery already. -/
def orAppend (env : MessageEnv) (recovery : List Char) (append : Recovery → Recovery × Bool)
    (boot : BootloaderMessage) (s : Recovery) : Recovery × Bool :=
  if !boot.clean then
    if boot.command = "boot-recovery".toList then append s else (s, false)
  else if env.setOk then ({ s with message := ⟨"boot-recovery".toList, recovery⟩ }, true)
  else (s, false)

/-- `set_recovery`. -/
def setRecovery (env : MessageEnv) (append : AppendEnv) (s : Recovery) : Recovery × Bool :=
  if !env.getOk then (s, false)
  else orAppend env recoveryCommand (setCacheCommand append) s.message s

/-- `masterclear_main`, which does not look at the result of `get_bootloader_message`. -/
def masterclearMain (shreddingEnabled : Bool) (env : MessageEnv) (append : AppendEnv)
    (s : Recovery) : Recovery × Bool :=
  orAppend env ("recovery\n".toList ++ wipeCommand shreddingEnabled)
    (setWipeCommand shreddingEnabled append) (if env.getOk then s.message else ⟨[], []⟩) s

/-- A run of one of the programs.  `prepared` says that `setconfig_main` has got past its
arguments, the copy of the package and the configuration file; `isSetRecovery` is false with
the argument `-norecovery`. -/
inductive Program
  | setconfig (prepared isSetRecovery : Bool) (env : MessageEnv) (append : AppendEnv)
  | masterclear (shreddingEnabled : Bool) (env : MessageEnv) (append : AppendEnv)

/-- The end of `setconfig_main`, and `masterclear_main`. -/
def Program.run (s : Recovery) : Program → Recovery × Bool
  | .setconfig prepared isSetRecovery env append =>
    if !prepared then (s, false)
    else if isSetRecovery then setRecovery env append s
    else setCacheCommand append s
  | .masterclear shreddingEnabled env append => masterclearMain shreddingEnabled env append s

/-- What a run leaves, whether it succeeds or not. -/
def Recovery.after (s : Recovery) (c : Program) : Option Recovery := some (c.run s).1

/-- The states of all sequences of runs that satisfy a condition.  At the start the command file
is absent or consists of lines that end with a newline. -/
def Recovery.ReachableWith (Cond : Recovery → Program → Prop) : Recovery → Prop :=
  Reachable (fun s => s.requested = [] ∧ terminated (s.commandFile.getD []) = true)
    fun s c s' => Cond s c ∧ s.after c = some s'

/-- The run tries to append. -/
def Program.appends (s : Recovery) : Program → Bool
  | .setconfig prepared isSetRecovery env _ =>
    prepared && (!isSetRecovery || env.getOk && s.message.command = "boot-recovery".toList)
  | .masterclear _ env _ => env.getOk && s.message.command = "boot-recovery".toList

/-- What a run has to meet: if it appends, the file has no line without a newline. -/
def Recovery.orderly (s : Recovery) (c : Program) : Bool :=
  !c.appends s || terminated (s.commandFile.getD [])

/-! ## Requested commands -/

/-- Every command that was asked for is a line of the file. -/
def Recovery.Listed (s : Recovery) : Prop :=
  ∀ cmd ∈ s.requested, cmd ≠ [] ∧ cmd ∈ lines (s.commandFile.getD [])

/-- What the file gets and what is requested with it.  A part of a text may have been written. -/
lemma Recovery.Listed.append {s : Recovery} (h : s.Listed)
    (hterm : terminated (s.commandFile.getD []) = true) {env : AppendEnv} {text : List Char}
    {cmds : List (List Char)} (hcmds : ∀ cmd ∈ cmds, cmd ≠ [] ∧ cmd ∈ lines text) :
    (appendCommand env text cmds s).1.Listed := by
  have hold : ∀ text' : List Char, ∀ cmd ∈ s.requested, cmd ≠ [] ∧
      cmd ∈ lines (s.commandFile.getD [] ++ text') := fun text' cmd hcmd =>
    ⟨(h cmd hcmd).1, (mem_lines_append hterm (h cmd hcmd).1).mpr (.inl (h cmd hcmd).2)⟩
  simp only [appendCommand]
  split_ifs
  · exact h
  · exact h
  · exact hold _
  · intro cmd hcmd
    rcases mem_append.mp hcmd with hcmd | hcmd
    · exact hold text cmd hcmd
    · obtain ⟨hne, hline⟩ := hcmds cmd hcmd
      exact ⟨hne, (mem_lines_append hterm hne).mpr (.inr hline)⟩

lemma mem_lines_multiconfigCommand :
    ∀ cmd ∈ [multiconfigCommand], cmd ≠ [] ∧ cmd ∈ lines multiconfigCommand := by
  decide +kernel

lemma mem_lines_wipeCommand : ∀ shreddingEnabled, ∀ cmd ∈ wipeRequests shreddingEnabled,
    cmd ≠ [] ∧ cmd ∈ lines (wipeCommand shreddingEnabled) := by
  decide +kernel

lemma Recovery.Listed.orAppend {s : Recovery} (h : s.Listed) {env : MessageEnv}
    {recovery : List Char} {append : Recovery → Recovery × Bool} {boot : BootloaderMessage}
    (happend : boot.command = "boot-recovery".toList → (append s).1.Listed) :
    (Motobox.orAppend env recovery append boot s).1.Listed := by
  simp only [Motobox.orAppend]
  split_ifs with hclean hcommand hset
  · exact happend hcommand
  · exact h
  · exact h
  · exact h

lemma Recovery.Listed.run {s : Recovery} (h : s.Listed) {c : Program}
    (hc : s.orderly c = true) : (c.run s).1.Listed := by
  have hterm : c.appends s = true → terminated (s.commandFile.getD []) = true := by
    intro happends
    simpa [Recovery.orderly, happends] using hc
  cases c with
  | setconfig prepared isSetRecovery env append =>
    simp only [Program.run, setRecovery]
    split_ifs with hprepared hset hget
    · exact h
    · exact h
    · refine h.orAppend fun hcommand => h.append (hterm ?_) mem_lines_multiconfigCommand
      simp only [Bool.not_eq_true, Bool.not_eq_false'] at hprepared hget
      simp [Program.appends, hprepared, hget, hcommand]
    · refine h.append (hterm ?_) mem_lines_multiconfigCommand
      simp only [Bool.not_eq_true, Bool.not_eq_false'] at hprepared hset
      simp [Program.appends, hprepared, hset]
  | masterclear shreddingEnabled env append =>
    refine h.orAppend fun hcommand => h.append (hterm ?_) (mem_lines_wipeCommand _)
    cases hget : env.getOk with
    | true =>
      rw [hget, if_pos rfl] at hcommand
      simp [Program.appends, hget, hcommand]
    | false =>
      rw [hget, if_neg Bool.false_ne_true] at hcommand
      exact absurd hcommand (by decide)

/-- **Requested commands.**  If every run that appends finds a file without an unfinished line,
each command that was requested so far is a line of its own. -/
theorem requested_commands_listed {s : Recovery}
    (hr : Recovery.ReachableWith (fun s c => s.orderly c = true) s) :
    ∀ cmd ∈ s.requested, cmd ∈ lines (s.commandFile.getD []) := by
  have h : s.Listed := by
    refine hr.invariant Recovery.Listed ?_ ?_
    · rintro s ⟨hnone, -⟩ cmd hcmd
      simp [hnone] at hcmd
    · rintro s c s' h ⟨hc, hs⟩
      obtain rfl := Option.some.inj hs
      exact h.run hc
  exact fun cmd hcmd => (h cmd hcmd).2

/-- The phone boots to recovery already, and there is no command file. -/
def sampleRecovery : Recovery := ⟨⟨"boot-recovery".toList, recoveryCommand⟩, none, []⟩

/-- A run in which every call succeeds. -/
def sampleAppend : AppendEnv := ⟨true, true, true, true, 100⟩

/-- The data and the SD card are wiped and then a package is installed. -/
theorem wipe_then_update_listed : ∃ s : Recovery, s.requested.length = 3 ∧
      ∀ cmd ∈ s.requested, cmd ∈ lines (s.commandFile.getD []) := by
  obtain ⟨s, hr, hlength⟩ : ∃ s, Recovery.ReachableWith (fun s c => s.orderly c = true) s ∧
      s.requested.length = 3 :=
    exists_of_run (s := sampleRecovery) ⟨rfl, rfl⟩
      [.masterclear true ⟨true, true⟩ sampleAppend, .setconfig true true ⟨true, true⟩ sampleAppend]
      (by decide +kernel)
  exact ⟨s, hlength, requested_commands_listed hr⟩

/-- A package is installed and then the data are wiped: both runs succeed, and the file has one
line that is neither of the two commands. -/
theorem update_then_wipe_joined :
    ∃ s, Recovery.ReachableWith (fun s c => (c.run s).2 = true ∧ c.appends s = true) s ∧
      s.requested = [multiconfigCommand, "--wipe_data".toList] ∧
      ∀ cmd ∈ s.requested, cmd ∉ lines (s.commandFile.getD []) := by
  exact exists_of_run (s := sampleRecovery) ⟨rfl, rfl⟩
    [.setconfig true true ⟨true, true⟩ sampleAppend, .masterclear false ⟨true, true⟩ sampleAppend]
    (by decide +kernel)

end Solana.Motobox
