import Mathlib.Data.List.Basic
import Solana.Lib.CString
import Solana.Lib.Runs

/-!
# The boot mode

At every boot `mot_boot_mode` decides whether the phone comes up in charge-only mode: if the boot
reason is charging, or after an abnormal reset if a file says that the phone was in charge-only
mode.  A session of charge-only mode writes the file when it starts and empties it before it
powers off, restarts or ends.

The phone can go down at any point of a session.  What was written and not yet synchronised may
then be lost: `file` is what programs see and `disk` what survives.  A boot never changes the
file, because each branch of `check_com_reset` returns before the call of `ftruncate`.  So a mode
that a session has left behind is still there after a boot into normal operation, and the next
abnormal reset takes the phone to charge-only mode: `stale_mode_selects_charge_only`.
-/

namespace Solana.Charge

open Runs

/-! ## Boot information -/

/-- The value that `check_bootinfo` finds for a field. -/
def bootinfoValue (data field : List UInt8) : List UInt8 :=
  match (strstr field data).bind (strstr (bytes ": ")) with
  | none => []
  | some x => ((x.drop 2).takeWhile fun c => !isSpace c).take 31

/-- `check_bootinfo`, with the contents of `/proc/bootinfo` if it can be read. -/
def checkBootinfo (bootinfo : Option (List UInt8)) (field value : String) : Bool :=
  match bootinfo with
  | none => false
  | some data => bootinfoValue (cstr (data.take 1023)) (bytes field) = bytes value

/-- What a boot finds: the property `ro.bootmode`, the boot information, and whether the file can
be opened and read. -/
structure BootEnv where
  bootmode : List UInt8
  bootinfo : Option (List UInt8)
  readable : Bool

/-- `strncmp` of the property `ro.bootmode` with a text. -/
def BootEnv.bootmodeIs (env : BootEnv) (text : String) : Bool :=
  (bytes text).isPrefixOf env.bootmode

/-- `check_abnormal_reboot`. -/
def checkAbnormalReboot (env : BootEnv) : Bool :=
  env.bootmodeIs "kpanic" || env.bootmodeIs "wdreset" || env.bootmodeIs "wdcpcap" ||
    checkBootinfo env.bootinfo "POWERUPREASON" "0x00020000" ||
    checkBootinfo env.bootinfo "POWERUPREASON" "0x00008000" ||
    checkBootinfo env.bootinfo "POWERUPREASON" "0x00040000"

/-- The boot reason is charging. -/
def BootEnv.charging (env : BootEnv) : Bool :=
  env.bootmodeIs "charger" || checkBootinfo env.bootinfo "POWERUPREASON" "0x00000100"

/-- `check_cid_recover_boot`. -/
def checkCidRecoverBoot (env : BootEnv) : Bool :=
  env.bootmodeIs "cidtcmd" || checkBootinfo env.bootinfo "\nCID_RECOVER_BOOT" "0x01"

/-! ## The file -/

/-- The text that `save_mode` writes, with its null character. -/
def modeText : List UInt8 := bytes "charging" ++ [0]

/-- The comparison in `check_com_reset`, after at most `COM_MAX_MODE_LENGTH` characters have been
read. -/
def saysCharging (file : Option (List UInt8)) : Bool :=
  (bytes "charging").isPrefixOf ((file.getD []).take 20)

/-- `check_com_reset`. -/
def checkComReset (readable : Bool) (file : Option (List UInt8)) : Bool :=
  readable && file.isSome && saysCharging file

/-- `boot_reason_charge_only`. -/
def bootReasonChargeOnly (env : BootEnv) (file : Option (List UInt8)) : Bool :=
  env.charging || checkAbnormalReboot env && checkComReset env.readable file

/-- What `main` of `mot_boot_mode` decides.  `check_data_12m` is never true. -/
inductive BootMode
  | cidRecover
  | chargeOnly
  | normal
  deriving DecidableEq

/-- `main` of `mot_boot_mode`. -/
def motBootMode (env : BootEnv) (file : Option (List UInt8)) : BootMode :=
  if checkCidRecoverBoot env then .cidRecover
  else if bootReasonChargeOnly env file then .chargeOnly
  else .normal

/-- Write to the start of a file. -/
def overwrite (data : List UInt8) (file : Option (List UInt8)) : Option (List UInt8) :=
  file.map fun old => data ++ old.drop data.length

/-! ## Runs -/

/-- Where the program of charge-only mode is: before `save_mode`, between its `open` and its
`write`, after it, and in `clear_mode` before and after its `sync`. -/
inductive Stage
  | starting
  | opened
  | running
  | truncated
  | cleared
  deriving DecidableEq

/-- The phone is down, and whether it was in charge-only mode when it went down; or it is up, in
charge-only mode or in another one. -/
inductive Power
  | down (wasChargeOnly : Bool)
  | chargeOnly (stage : Stage)
  | other
  deriving DecidableEq

/-- The phone, with the file as it is seen and as it would survive. -/
structure Phone where
  power : Power
  file : Option (List UInt8)
  disk : Option (List UInt8)

/-- A phone that was never used. -/
def Phone.init : Phone := ⟨.down false, none, none⟩

/-- What can happen.  `openMode` and `writeMode` are the two parts of `save_mode`, with the number
of characters that were written; `truncateMode` and `syncMode` are those of `clear_mode`.
Afterwards the program may be started again, or go on if the phone did not restart.  `writeBack`
and `goDown` (a reset or a loss of power) can happen at any time. -/
inductive Action
  | boot (env : BootEnv)
  | openMode (ok : Bool)
  | writeMode (n : Nat)
  | truncateMode (ok : Bool)
  | syncMode
  | restart
  | resume
  | writeBack
  | goDown

/-- The power after a boot. -/
def BootMode.power : BootMode → Power
  | .chargeOnly => .chargeOnly .starting
  | .cidRecover | .normal => .other

/-- The phone was in charge-only mode. -/
def Power.isChargeOnly : Power → Bool
  | .chargeOnly _ => true
  | .down _ | .other => false

/-- What the program of charge-only mode does, at each stage. -/
def Phone.program (p : Phone) : Stage → Action → Option Phone
  | .starting, .openMode true =>
    some { p with power := .chargeOnly .opened, file := some (p.file.getD []) }
  | .starting, .openMode false => some { p with power := .chargeOnly .running }
  | .opened, .writeMode n =>
    some { p with power := .chargeOnly .running, file := overwrite (modeText.take n) p.file }
  | .running, .truncateMode ok =>
    some { p with
      power := .chargeOnly .truncated
      file := if ok then p.file.map fun _ => [] else p.file }
  | .truncated, .syncMode => some { p with power := .chargeOnly .cleared, disk := p.file }
  | .cleared, .restart => some { p with power := .chargeOnly .starting }
  | .cleared, .resume => some { p with power := .chargeOnly .running }
  | _, _ => none

/-- One step. -/
def Phone.next (p : Phone) : Action → Option Phone
  | .boot env =>
    match p.power with
    | .down _ => some { p with power := (motBootMode env p.file).power }
    | .chargeOnly _ | .other => none
  | .writeBack => some { p with disk := p.file }
  | .goDown =>
    match p.power with
    | .down _ => none
    | .chargeOnly _ | .other =>
      some { p with power := .down p.power.isChargeOnly, file := p.disk }
  | a =>
    match p.power with
    | .chargeOnly stage => p.program stage a
    | .down _ | .other => none

/-- The states of all runs whose steps satisfy a condition. -/
def Phone.ReachableWith (Cond : Phone → Action → Prop) : Phone → Prop :=
  Reachable (· = Phone.init) fun p a p' => Cond p a ∧ p.next a = some p'

/-- A boot that takes the phone to charge-only mode if the file says so. -/
def BootEnv.heedsFile (env : BootEnv) : Bool :=
  !checkCidRecoverBoot env && (env.charging || checkAbnormalReboot env && env.readable)

/-- What a step has to meet: a boot that finds the mode of an earlier session heeds it. -/
def Phone.orderly (p : Phone) : Action → Bool
  | .boot env => !saysCharging p.file || env.heedsFile
  | _ => true

/-! ## Decisions -/

variable {file : Option (List UInt8)}

open Phone

open Power

lemma isSome_of_saysCharging (h : saysCharging file = true) : file.isSome = true := by
  cases file with
  | none => exact absurd h (by decide)
  | some data => rfl

variable {env : BootEnv}

lemma motBootMode_eq_chargeOnly_iff (hfile : saysCharging file = true) :
    motBootMode env file = .chargeOnly ↔ env.heedsFile = true := by
  have hcom : checkComReset env.readable file = env.readable := by
    simp [checkComReset, hfile, isSome_of_saysCharging hfile]
  unfold motBootMode BootEnv.heedsFile bootReasonChargeOnly
  rw [hcom]
  cases checkCidRecoverBoot env with
  | true => simp
  | false =>
    cases env.charging || checkAbnormalReboot env && env.readable <;> simp

/-- Charge-only mode is selected for the boot reason, or for the file after an abnormal reset. -/
lemma of_motBootMode_eq_chargeOnly (h : motBootMode env file = .chargeOnly) :
    env.charging = true ∨ (checkAbnormalReboot env = true ∧ saysCharging file = true) := by
  unfold motBootMode at h
  split_ifs at h with hcid hreason
  simp only [bootReasonChargeOnly, checkComReset, Bool.or_eq_true, Bool.and_eq_true] at hreason
  exact hreason.imp_right fun ⟨habnormal, _, hfile⟩ => ⟨habnormal, hfile⟩

variable {stage : Stage}

lemma BootMode.power_eq_chargeOnly {m : BootMode} (h : m.power = .chargeOnly stage) :
    m = .chargeOnly := by
  cases m <;> simp_all [BootMode.power]

/-! ## Steps -/

variable {p p' : Phone} {a : Action}

lemma Phone.program_power (h : p.program stage a = some p') :
    ∃ stage', p'.power = .chargeOnly stage' := by
  unfold program at h
  split at h
  all_goals first
    | (obtain rfl := Option.some.inj h; exact ⟨_, rfl⟩)
    | cases h

lemma Phone.next_boot (h : p.next (.boot env) = some p') :
    ∃ b, p.power = .down b ∧ p' = { p with power := (motBootMode env p.file).power } := by
  cases hpower : p.power with
  | down b =>
    simp only [next, hpower] at h
    exact ⟨b, rfl, (Option.some.inj h).symm⟩
  | chargeOnly stage => simp [next, hpower] at h
  | other => simp [next, hpower] at h

/-- What a step does to the file, as far as charge-only mode is not running. -/
inductive Phone.Step (p : Phone) : Action → Phone → Prop
  | boot {b : Bool} (env : BootEnv) (h : p.power = .down b) :
      Step p (.boot env) { p with power := (motBootMode env p.file).power }
  | writeBack : Step p .writeBack { p with disk := p.file }
  | goDown (h : ∀ b, p.power ≠ .down b) :
      Step p .goDown { p with power := .down p.power.isChargeOnly, file := p.disk }
  | program {a : Action} {p' : Phone} {stage : Stage} (h : p'.power = .chargeOnly stage) :
      Step p a p'

lemma Phone.step_of_next (hp : p.next a = some p') : p.Step a p' := by
  cases a with
  | boot env =>
    obtain ⟨b, hpower, rfl⟩ := next_boot hp
    exact .boot env hpower
  | writeBack =>
    obtain rfl := Option.some.inj hp
    exact .writeBack
  | goDown =>
    have hup : ∀ b, p.power ≠ .down b := by
      intro b hb
      simp [next, hb] at hp
    have hdown : p' = { p with power := .down p.power.isChargeOnly, file := p.disk } := by
      cases hpower : p.power <;> simp_all [next]
    rw [hdown]
    exact .goDown hup
  | openMode | writeMode | truncateMode | syncMode | restart | resume =>
    cases hpower : p.power with
    | down b => simp [next, hpower] at hp
    | chargeOnly stage =>
      simp only [next, hpower] at hp
      obtain ⟨stage', hstage⟩ := program_power hp
      exact .program hstage
    | other => simp [next, hpower] at hp

/-! ## What the file says while the phone is not in charge-only mode -/

/-- The file of a phone that is down is the one that survived. -/
def Phone.Settled (p : Phone) : Prop := ∀ b, p.power = .down b → p.file = p.disk

lemma Phone.Settled.step (h : p.Step a p') : p'.Settled := by
  cases h with
  | boot env hdown =>
    intro b hb
    cases hmode : motBootMode env p.file <;> simp [hmode, BootMode.power] at hb
  | writeBack => exact fun _ _ => rfl
  | goDown hup => exact fun _ _ => rfl
  | program hstage =>
    intro b hb
    exact absurd (hstage.symm.trans hb) (by simp)

lemma Phone.settled_of_reachable {Cond : Phone → Action → Prop} {p : Phone}
    (hr : Phone.ReachableWith Cond p) : p.Settled := by
  refine hr.invariant Phone.Settled ?_ ?_
  · rintro _ rfl _ _
    rfl
  · rintro p a p' _ ⟨-, hp⟩
    exact .step (step_of_next hp)

/-- The phone is in another mode, or it was when it went down. -/
def Power.outside : Power → Bool
  | .down wasChargeOnly => !wasChargeOnly
  | .chargeOnly _ => false
  | .other => true

/-- Outside charge-only mode the file does not say that the phone is charging. -/
structure Phone.Fresh (p : Phone) : Prop where
  file : p.power.outside = true → saysCharging p.file = false
  disk : p.power.outside = true → saysCharging p.disk = false

lemma Phone.Fresh.of_chargeOnly {p : Phone} (h : p.power = .chargeOnly stage) : p.Fresh := by
  constructor <;> simp [h, outside]

/-- A phone that comes up outside charge-only mode has found a file that does not say so. -/
lemma Phone.Fresh.boot {p : Phone} (hsettled : p.Settled) {b : Bool} (hdown : p.power = .down b)
    (hc : p.orderly (.boot env) = true) :
    ({ p with power := (motBootMode env p.file).power } : Phone).Fresh := by
  by_cases hfile : saysCharging p.file = true
  · have henv : env.heedsFile = true := by simpa [orderly, hfile] using hc
    have hmode := (motBootMode_eq_chargeOnly_iff hfile).mpr henv
    exact .of_chargeOnly (by rw [hmode]; rfl)
  · have hno : saysCharging p.file = false := by simpa using hfile
    refine ⟨fun _ => hno, fun _ => ?_⟩
    rw [← hsettled b hdown]
    exact hno

lemma Phone.Fresh.step (h : p.Fresh) (hsettled : p.Settled) (hc : p.orderly a = true)
    (hstep : p.Step a p') : p'.Fresh := by
  cases hstep with
  | boot env hdown => exact .boot hsettled hdown hc
  | writeBack => exact ⟨h.file, h.file⟩
  | goDown hup =>
    -- If the phone goes down outside charge-only mode, then it was outside.
    have hdisk : (down p.power.isChargeOnly).outside = true → saysCharging p.disk = false := by
      intro hout
      cases hpower : p.power with
      | chargeOnly stage => simp [hpower, isChargeOnly, outside] at hout
      | other => exact h.disk (by rw [hpower]; rfl)
      | down b => exact absurd hpower (hup b)
    exact ⟨hdisk, hdisk⟩
  | program hstage => exact .of_chargeOnly hstage

lemma Phone.fresh_of_reachable {p : Phone}
    (hr : Phone.ReachableWith (fun p a => p.orderly a = true) p) : p.Fresh := by
  obtain ⟨-, h⟩ : p.Settled ∧ p.Fresh := by
    refine hr.invariant (fun p => p.Settled ∧ p.Fresh) ?_ ?_
    · rintro _ rfl
      exact ⟨fun _ _ => rfl, fun _ => rfl, fun _ => rfl⟩
    · rintro p a p' ⟨hsettled, h⟩ ⟨hc, hp⟩
      have hstep := step_of_next hp
      exact ⟨.step hstep, h.step hsettled hc hstep⟩
  exact h

/-- **Charge-only mode after a reset.**  In every run in which each boot that finds the mode of an
earlier session heeds it, a boot selects charge-only mode only if the boot reason is charging, or
after an abnormal reset of a phone that was in charge-only mode. -/
theorem charge_only_selected {p p' : Phone}
    (hr : Phone.ReachableWith (fun p a => p.orderly a = true) p) {env : BootEnv}
    (hboot : p.next (.boot env) = some p') {stage : Stage} (hmode : p'.power = .chargeOnly stage) :
    env.charging = true ∨ (checkAbnormalReboot env = true ∧ p.power = .down true) := by
  have hfresh := fresh_of_reachable hr
  obtain ⟨b, hpower, rfl⟩ := next_boot hboot
  have hselected := of_motBootMode_eq_chargeOnly (BootMode.power_eq_chargeOnly hmode)
  refine hselected.imp_right fun ⟨habnormal, hfile⟩ => ⟨habnormal, ?_⟩
  cases b with
  | true => exact hpower
  | false =>
    have hno := hfresh.file (by rw [hpower]; rfl)
    exact absurd (hno.symm.trans hfile) Bool.false_ne_true

/-- **A mode that was left behind.**  Whenever a boot finds the mode of an earlier session and does
not heed it, and the phone goes down in the mode it has come up in, the next boot that heeds the
file selects charge-only mode. -/
theorem stale_mode_selects_charge_only {Cond : Phone → Action → Prop} {p p₁ : Phone}
    (hr : Phone.ReachableWith Cond p) {env env' : BootEnv} (hc : p.orderly (.boot env) = false)
    (hboot : p.next (.boot env) = some p₁) (henv' : env'.heedsFile = true) :
    ∃ p₂ p₃, p₁.next .goDown = some p₂ ∧ p₂.power = .down false ∧
      p₂.next (.boot env') = some p₃ ∧ p₃.power = .chargeOnly .starting := by
  obtain ⟨hfile, henv⟩ : saysCharging p.file = true ∧ env.heedsFile = false := by
    simpa [orderly] using hc
  obtain ⟨b, hpower, rfl⟩ := next_boot hboot
  have hother : (motBootMode env p.file).power = .other := by
    have hne : motBootMode env p.file ≠ .chargeOnly := by
      rw [ne_eq, motBootMode_eq_chargeOnly_iff hfile, henv]
      exact Bool.false_ne_true
    cases hmode : motBootMode env p.file with
    | chargeOnly => exact absurd hmode hne
    | cidRecover => rfl
    | normal => rfl
  have hdisk : saysCharging p.disk = true := by
    rw [← settled_of_reachable hr b hpower]
    exact hfile
  have hmode' := (motBootMode_eq_chargeOnly_iff hdisk).mpr henv'
  refine ⟨⟨.down false, p.disk, p.disk⟩, ⟨.chargeOnly .starting, p.disk, p.disk⟩, ?_, rfl, ?_, rfl⟩
  · simp [next, hother, isChargeOnly]
  · simp [next, hmode', BootMode.power]

/-- The property `ro.bootmode` of a boot, without boot information. -/
def sampleBoot (bootmode : String) : BootEnv := ⟨bytes bootmode, none, true⟩

/-- The battery is taken out in a session; the phone is then switched on and off, and panics. -/
theorem stale_mode_outlives_boot : ∃ p₁ p₂ p₃ : Phone, p₁.power = .other ∧
    p₁.next .goDown = some p₂ ∧ p₂.next (.boot (sampleBoot "kpanic")) = some p₃ ∧
      p₃.power = .chargeOnly .starting := by
  obtain ⟨p, hr, hc, p₁, hboot, hother⟩ : ∃ p, Phone.ReachableWith (fun _ _ => True) p ∧
      p.orderly (.boot (sampleBoot "normal")) = false ∧
      ∃ p₁, p.next (.boot (sampleBoot "normal")) = some p₁ ∧ p₁.power = .other :=
    exists_of_run rfl [.boot (sampleBoot "charger"), .openMode true, .writeMode 9, .writeBack,
      .goDown] (by decide +kernel)
  obtain ⟨p₂, p₃, hdown, -, hnext, hpower⟩ :=
    stale_mode_selects_charge_only hr hc hboot
      (by decide +kernel : (sampleBoot "kpanic").heedsFile = true)
  exact ⟨p₁, p₂, p₃, hother, hdown, hnext, hpower⟩

/-- A session that is reset by the watchdog is continued. -/
theorem watchdog_reset_in_session :
    ∃ p p' : Phone, p.next (.boot (sampleBoot "wdreset")) = some p' ∧
      p'.power = .chargeOnly .starting ∧ (sampleBoot "wdreset").charging = false ∧
      p.power = .down true := by
  obtain ⟨p, hr, p', hp', hpower⟩ : ∃ p, Phone.ReachableWith (fun p a => p.orderly a = true) p ∧
      ∃ p', p.next (.boot (sampleBoot "wdreset")) = some p' ∧ p'.power = .chargeOnly .starting :=
    exists_of_run rfl [.boot (sampleBoot "charger"), .openMode true, .writeMode 9, .writeBack,
      .goDown] (by decide +kernel)
  have hno : (sampleBoot "wdreset").charging = false := by decide +kernel
  have hselected := charge_only_selected hr hp' hpower
  exact ⟨p, p', hp', hpower, hno,
    (hselected.resolve_left (by rw [hno]; exact Bool.false_ne_true)).2⟩

/-- The battery is taken out in a session, the phone is switched on and panics: it comes up in
charge-only mode. -/
theorem panic_selects_charge_only : ∃ p p' : Phone, Phone.ReachableWith (fun _ _ => True) p ∧
      p.next (.boot (sampleBoot "kpanic")) = some p' ∧ p'.power = .chargeOnly .starting ∧
      (sampleBoot "kpanic").charging = false ∧ p.power = .down false := by
  obtain ⟨p, hr, hdown, p', hp', hpower⟩ : ∃ p, Phone.ReachableWith (fun _ _ => True) p ∧
      p.power = .down false ∧
      ∃ p', p.next (.boot (sampleBoot "kpanic")) = some p' ∧ p'.power = .chargeOnly .starting :=
    exists_of_run rfl [.boot (sampleBoot "charger"), .openMode true, .writeMode 9, .writeBack,
      .goDown, .boot (sampleBoot "normal"), .goDown] (by decide +kernel)
  exact ⟨p, p', hr, hp', hpower, by decide +kernel, hdown⟩

end Solana.Charge
