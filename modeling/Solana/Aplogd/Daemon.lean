import Solana.Lib.Runs
import Mathlib.Algebra.Group.Int.Defs
import Mathlib.Algebra.Group.Nat.Defs
import Mathlib.Logic.Function.Basic

/-!
# The log daemon

The main loop of `aplogd`: it reads the log devices and the kernel log into a RAM buffer per
stream, writes the buffers to the output files when enough has come together or nothing came for a
while, starts new files when the old ones are full, and moves to another storage when `vold` says
that one was mounted or is going away or when the configuration changes.

The results of the system calls are the `…Env` structures and the arguments of the events.  A
stream's buffer is the list of the bytes in it.  An open output has the bytes that were appended
since it was opened, and beside them, which the source does not have, the bytes that went through
the buffer in that time: those it held when the output was opened, and the messages accepted since.
`spaceFailed` and `overrun`, not variables of the source either, record that `aplogd_rambuf_space`
returned an error and that a message was copied that did not fit.

Not modelled are the polled descriptors and the files on the storages apart from what is written to
them here.
-/

namespace Solana.Aplogd

open Runs

/-! ## State -/

/-- The streams, in the order of `enum aplogd_poll_indexes`. -/
inductive StreamId
  | main
  | radio
  | events
  | system
  | kernel
  deriving DecidableEq

/-- The streams up to `APLOGD_INPUT_LAST`. -/
def StreamId.all : List StreamId := [.main, .radio, .events, .system, .kernel]

/-- `STORAGE_T`. -/
inductive Storage
  | userdata
  | external
  | secondary
  deriving DecidableEq

/-- `aplogd_ram_buff_size`. -/
def ramBuffSize : Nat := 8 * 1024

/-- `aplogd_output_buffering`. -/
def outputBuffering : Nat := 4 * 1024

/-- The user's configuration, as far as the loop reads it. -/
structure UserConfig where
  /-- `usr_cfg_size`, as an `int` -/
  size : Int
  /-- `usr_cfg_ext` -/
  ext : Bool

/-- An output file that is open. -/
structure Output where
  storage : Storage
  /-- What was appended to the file since it was opened. -/
  appended : List UInt8
  /-- What the buffer held when the file was opened, and the messages accepted since then. -/
  accepted : List UInt8
  deriving DecidableEq

/-- An entry of `aplogd_io_array`. -/
structure Stream where
  /-- The bytes from `input_buf_base` to `input_buf`. -/
  buf : List UInt8
  /-- `output_fd`, unless it is -1 -/
  output : Option Output
  deriving DecidableEq

/-- The variables of the daemon. -/
structure Daemon where
  streams : StreamId → Stream
  totalWriteSize : Nat
  logfileMax : Nat
  unwrittenBytes : Nat
  pollTimeout : Int
  currentStorage : Storage
  running : Bool
  spaceFailed : Bool
  overrun : Bool

/-- Change the entry of a stream. -/
def Daemon.setStream (d : Daemon) (i : StreamId) (s : Stream) : Daemon :=
  { d with streams := Function.update d.streams i s }

/-! ## Storages -/

/-- `aplogd_get_filesize`. -/
def getFilesize (cfg : UserConfig) : Storage → Nat
  | .secondary | .external =>
    if cfg.size ≤ 0 ∨ 1000 < cfg.size then 50 * 1024 * 1024 else cfg.size.toNat * 1024 * 1024
  | .userdata => 10 * 1024 * 1024

/-- `aplogd_calc_storage_pref`. -/
def calcStoragePref (cfg : UserConfig) : Storage := if cfg.ext then .secondary else .userdata

/-- What `aplogd_output_setup` finds: is the directory writable, once it was made if need be, and
which files can be opened? -/
structure SetupEnv where
  writable : Bool
  opened : StreamId → Bool

/-- `aplogd_close_output`. -/
def Daemon.closeOutput (d : Daemon) : Daemon :=
  { d with streams := fun i => { d.streams i with output := none } }

/-- An output that was just opened. -/
def Stream.open (s : Stream) (storage : Storage) : Stream :=
  { s with output := some ⟨storage, [], s.buf⟩ }

/-- `aplogd_output_setup`, with whether it succeeds. -/
def Daemon.outputSetup (d : Daemon) (storage : Storage) (env : SetupEnv) : Daemon × Bool :=
  if env.writable then
    ({ d with streams := fun i =>
        if env.opened i then (d.streams i).open storage
        else { d.streams i with output := none } },
      StreamId.all.all env.opened)
  else (d, false)

/-- What `switch_storage` finds on the new and on the old storage. -/
structure SwitchEnv where
  new : SetupEnv
  old : SetupEnv

/-- `switch_storage`, with the storage that it returns. -/
def Daemon.switchStorage (cfg : UserConfig) (d : Daemon) (old new : Storage) (env : SwitchEnv) :
    Daemon :=
  let d := { d with logfileMax := getFilesize cfg new }
  let (d, ok) := d.closeOutput.outputSetup new env.new
  if ok then { d with currentStorage := new }
  else { (d.outputSetup old env.old).1 with currentStorage := old }

/-! ## The RAM buffer -/

/-- `aplogd_rambuf_space`. -/
def Daemon.rambufSpace (d : Daemon) (i : StreamId) : Int :=
  if ramBuffSize < (d.streams i).buf.length then -1 else ramBuffSize - (d.streams i).buf.length

/-- Record whether `aplogd_rambuf_space` fails. -/
def Daemon.noteSpace (d : Daemon) (i : StreamId) : Daemon :=
  { d with spaceFailed := d.spaceFailed || decide (d.rambufSpace i < 0) }

/-- Copy a message to the end of the buffer. -/
def Daemon.copy (d : Daemon) (i : StreamId) (msg : List UInt8) : Daemon :=
  let s := d.streams i
  { d.setStream i
      ⟨s.buf ++ msg, s.output.map fun out => { out with accepted := out.accepted ++ msg }⟩ with
    overrun := d.overrun || decide (ramBuffSize < s.buf.length + msg.length) }

/-- The errors of `write` that the daemon distinguishes. -/
inductive Errno
  | enospc
  | ebadf
  | other
  deriving DecidableEq

/-- The result of a `write`: all that was asked for, less, or an error. -/
inductive WriteResult
  | all
  | short (size : Nat)
  | failed (errno : Errno)
  deriving DecidableEq

/-- The loop of `aplogd_rambuf_output`: the bytes that get to the file, and the error if there is
one.  It has not returned if the results run out. -/
def writeLoop (buf : List UInt8) : Nat → List WriteResult → Option (List UInt8 × Option Errno)
  | 0, _ => some ([], none)
  | _ + 1, [] => none
  | need + 1, .all :: _ => some (buf.take (need + 1), none)
  | need + 1, .short size :: results =>
    if size ≤ need then
      -- each write starts at the beginning of the buffer
      (writeLoop buf (need + 1 - size) results).map fun w => (buf.take size ++ w.1, w.2)
    else none
  | _ + 1, .failed errno :: _ => some ([], some errno)

/-- What happens to a stream whose buffer was written, with or without an error. -/
def Daemon.written (d : Daemon) (i : StreamId) (out : Output) (setup : SetupEnv)
    (bytes : List UInt8) (error : Option Errno) : Daemon :=
  let out := { out with appended := out.appended ++ bytes }
  let total := (d.totalWriteSize + bytes.length) % 2 ^ 32
  let buf := (d.streams i).buf
  match error with
  | some errno =>
    let d := { d.setStream i ⟨buf, some out⟩ with totalWriteSize := total }
    match errno with
    | .enospc => d.closeOutput
    | .ebadf => d.setStream i ⟨buf, none⟩
    | .other => d
  | none =>
    let d := { d.setStream i ⟨[], some out⟩ with totalWriteSize := total }
    if d.logfileMax ≤ total then
      { (d.closeOutput.outputSetup d.currentStorage setup).1 with totalWriteSize := 0 }
    else d

/-- `aplogd_rambuf_output`. -/
def Daemon.rambufOutput (d : Daemon) (i : StreamId) (results : List WriteResult)
    (setup : SetupEnv) : Option Daemon :=
  let s := d.streams i
  if s.buf = [] then some d
  else
    match s.output with
    | none => some (d.setStream i ⟨[], none⟩)
    | some out =>
      (writeLoop s.buf s.buf.length results).map fun w => d.written i out setup w.1 w.2

/-- The results of the writes of each stream, and what is found if new files are started after
it. -/
structure FlushEnv where
  results : StreamId → List WriteResult
  setup : StreamId → SetupEnv

/-- A loop over streams that calls `aplogd_rambuf_output`. -/
def Daemon.outputStreams (env : FlushEnv) : List StreamId → Daemon → Option Daemon
  | [], d => some d
  | i :: is, d => (d.rambufOutput i (env.results i) (env.setup i)).bind (outputStreams env is)

/-- `aplogd_rambuf_outputall`. -/
def Daemon.outputAll (d : Daemon) (env : FlushEnv) : Option Daemon :=
  Daemon.outputStreams env StreamId.all d

/-- `aplogd_rambuf_outputall` and what its callers do after it. -/
def Daemon.flush (d : Daemon) (env : FlushEnv) : Option Daemon :=
  (d.outputAll env).map fun d => { d with pollTimeout := -1, unwrittenBytes := 0 }

/-! ## Reading the logs -/

/-- Count the bytes that were accepted, and write the buffers if it is time. -/
def Daemon.account (d : Daemon) (size : Nat) (env : FlushEnv) : Option Daemon :=
  let d := { d with unwrittenBytes := d.unwrittenBytes + size }
  if outputBuffering ≤ d.unwrittenBytes then d.flush env else some { d with pollTimeout := 60000 }

/-- An entry of a log device, as the log library processes it. -/
structure LogEntry where
  /-- Can the entry be parsed? -/
  processed : Bool
  /-- `android_log_shouldPrintLine` -/
  shouldPrint : Bool
  /-- The line that `android_log_formatLogLine` returns, if it is not null. -/
  line : Option (List UInt8)

/-- An `int` as a `size_t`. -/
def sizeT (n : Int) : Nat := (n % 2 ^ 32).toNat

/-- `LogfilterAndBuffering`. -/
def Daemon.logfilterAndBuffering (d : Daemon) (i : StreamId) (entry : LogEntry) : Daemon × Int :=
  if entry.shouldPrint = false then (d, 0)
  else
    match entry.line with
    | none => (d, -1)
    | some line =>
      if line.length < sizeT (d.rambufSpace i) then ((d.noteSpace i).copy i line, line.length)
      else (d.noteSpace i, -1)

/-- The result of a `read` from a log device. -/
inductive LoggerRead
  | eintr
  | eagain
  | failed
  | eof
  | entry (entry : LogEntry) (env : FlushEnv)

/-- The loop of `aplogd_io_read_data` for a log device. -/
def Daemon.readLogger (i : StreamId) : List LoggerRead → Int → Daemon → Option Daemon
  | [], size, d => if size ≤ 0 then some d else none
  | r :: reads, size, d =>
    if size ≤ 0 then some d
    else
      match r with
      | .eintr => readLogger i reads size d
      | .eagain => some d
      | .failed | .eof => some { d with running := false }
      | .entry entry env =>
        if entry.processed = false then some d
        else
          let (d, ret) := d.logfilterAndBuffering i entry
          if ret < 0 then some d
          else (d.account ret.toNat env).bind (readLogger i reads (size - ret))

/-- The loop of `aplogd_io_read_data` for the kernel log, over what is read. -/
def Daemon.readKernel : List (List UInt8 × FlushEnv) → Daemon → Option Daemon
  | [], d => some d
  | (bytes, env) :: reads, d =>
    if bytes = [] then some d
    else
      let len := d.rambufSpace .kernel
      let d := d.noteSpace .kernel
      if 0 < len ∧ bytes.length ≤ len ∧ bytes.length ≤ 255 then
        ((d.copy .kernel bytes).account bytes.length env).bind (readKernel reads)
      else some d

/-! ## Storage changes -/

/-- What a message of `vold` says, by the tests that the daemon makes on it. -/
structure VoldMessage where
  secondaryMounted : Bool
  /-- Unmounted, or removed without that. -/
  secondaryGone : Bool
  externalMounted : Bool
  externalGone : Bool

/-- What the switches of the storage find. -/
structure VoldEnv where
  toSecondary : SwitchEnv
  secondaryToExternal : SwitchEnv
  secondaryToUserdata : SwitchEnv
  toExternal : SwitchEnv
  externalToUserdata : SwitchEnv

/-- The secondary storage was mounted. -/
def Daemon.secondaryMounted (cfg : UserConfig) (d : Daemon) (env : VoldEnv) : Daemon :=
  if calcStoragePref cfg = .secondary then
    d.switchStorage cfg d.currentStorage .secondary env.toSecondary
  else d

/-- The secondary storage is going away. -/
def Daemon.secondaryGone (cfg : UserConfig) (d : Daemon) (env : VoldEnv) : Daemon :=
  if d.currentStorage = .secondary then
    let d := d.switchStorage cfg .secondary .external env.secondaryToExternal
    if d.currentStorage = .secondary then
      d.switchStorage cfg .secondary .userdata env.secondaryToUserdata
    else d
  else d

/-- The external storage was mounted. -/
def Daemon.externalMounted (cfg : UserConfig) (d : Daemon) (env : VoldEnv) : Daemon :=
  if calcStoragePref cfg ≠ .userdata ∧ d.currentStorage = .userdata then
    d.switchStorage cfg d.currentStorage .external env.toExternal
  else d

/-- The external storage is going away. -/
def Daemon.externalGone (cfg : UserConfig) (d : Daemon) (env : VoldEnv) : Daemon :=
  if d.currentStorage = .external then
    d.switchStorage cfg .external .userdata env.externalToUserdata
  else d

/-- The part of `aplogd_io_read_data` for a message of `vold`. -/
def Daemon.vold (cfg : UserConfig) (d : Daemon) (msg : VoldMessage) (env : VoldEnv) : Daemon :=
  let d := if msg.secondaryMounted then d.secondaryMounted cfg env else d
  let d := if msg.secondaryGone then d.secondaryGone cfg env else d
  let d := if msg.externalMounted then d.externalMounted cfg env else d
  if msg.externalGone then d.externalGone cfg env else d

/-- The part of `aplogd_config_load` about the storage. -/
def Daemon.configLoad (cfg : UserConfig) (d : Daemon) : Daemon :=
  { d with
    currentStorage := calcStoragePref cfg
    logfileMax := getFilesize cfg (calcStoragePref cfg) }

/-- The part of the main loop for a change of the configuration. -/
def Daemon.configChanged (cfg : UserConfig) (d : Daemon) (env : SwitchEnv) : Daemon :=
  let pref := calcStoragePref cfg
  let d := if d.currentStorage ≠ pref then d.switchStorage cfg d.currentStorage pref env else d
  d.configLoad cfg

/-! ## Runs -/

/-- What the daemon finds when it starts. -/
structure BootEnv where
  /-- `is_storage_writable` for the secondary storage. -/
  secondaryWritable : Bool
  secondary : SetupEnv
  external : SetupEnv
  userdata : SetupEnv
  /-- `aplogd_input_setup` succeeds. -/
  inputs : Bool

/-- Before the daemon loads its configuration. -/
def Daemon.init : Daemon where
  streams := fun _ => ⟨[], none⟩
  totalWriteSize := 0
  logfileMax := 10 * 1024 * 1024
  unwrittenBytes := 0
  pollTimeout := -1
  currentStorage := .userdata
  running := true
  spaceFailed := false
  overrun := false

/-- Set up the outputs on a storage if it is the current one, or take the next one. -/
def Daemon.bootStorage (d : Daemon) (storage next : Storage) (writable : Bool) (env : SetupEnv) :
    Daemon × Bool :=
  if d.currentStorage = storage then
    if writable then
      let (d, ok) := d.outputSetup storage env
      if ok then (d, true) else ({ d with currentStorage := next }, false)
    else ({ d with currentStorage := next }, false)
  else (d, true)

/-- `aplogd_io_boot_finish`; the daemon exits if it fails. -/
def Daemon.bootFinish (cfg : UserConfig) (env : BootEnv) : Option Daemon :=
  let d := Daemon.init.configLoad cfg
  let d := (d.bootStorage .secondary .external env.secondaryWritable env.secondary).1
  let d := (d.bootStorage .external .userdata true env.external).1
  let (d, ok) := d.bootStorage .userdata .userdata true env.userdata
  if ok && env.inputs then some d else none

/-- An event of the main loop. -/
inductive Event
  | timeout (env : FlushEnv)
  | logger (i : StreamId) (size : Int) (reads : List LoggerRead)
  | kernel (reads : List (List UInt8 × FlushEnv))
  | vold (msg : VoldMessage) (env : VoldEnv)
  | configChanged (env : SwitchEnv)

/-- The daemon after an event, if the event is possible and its handling ends. -/
def Daemon.next (cfg : UserConfig) (d : Daemon) (e : Event) : Option Daemon :=
  if d.running then
    match e with
    | .timeout env => if 0 ≤ d.pollTimeout then d.flush env else none
    | .logger i size reads => if i = .kernel then none else d.readLogger i reads size
    | .kernel reads => d.readKernel reads
    | .vold msg env => some (d.vold cfg msg env)
    | .configChanged env => some (d.configChanged cfg env)
  else none

/-- The states of the main loop in runs whose events meet a condition. -/
def Daemon.ReachableWith (cfg : UserConfig) (Cond : Daemon → Event → Prop) : Daemon → Prop :=
  Reachable (fun d => ∃ env, Daemon.bootFinish cfg env = some d)
    fun d e d' => Cond d e ∧ d.next cfg e = some d'

end Solana.Aplogd
