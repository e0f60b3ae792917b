import Solana.Lib.CString
import Solana.Lib.Ledger
import Solana.Lib.Runs
import Solana.Usbd.Modes

/-!
# The USB daemon

The main loop of `usbd`.  It waits for four kinds of events and handles each by a function of its
own: a uevent of the kernel that may announce a change of the cable, a message of the USB device
driver, an application that connects, and a message or the end of the connected application.  A
pass of the loop handles some of them one after the other, so a run of the loop is a run of events.

The daemon keeps the fields of the last driver message in buffers that it does not clear; `sscanf`
leaves a buffer as it is when its field is empty.  Memory after the end of a message reads as
zero, as the daemon clears the buffer before each message.  The lengths of the buffers are not
modelled.

Connections are numbered in the order in which they were accepted, and `conns` records which of
them were closed.  Disks attached to the device, which the daemon only reports to the application,
and the version text of the CD-ROM are left out.
-/

namespace Solana.Usbd

open Ledgers Runs

/-! ## State -/

/-- `MOTO_ACCY_TYPE_T`, the cable. -/
inductive Accy
  | usb
  | factory
  | unknown
  deriving DecidableEq

/-- `MOTO_MODE_TYPE_T`, the mode in which the phone was started. -/
inductive ModeType
  | normal
  | debug
  | bptools
  | tablet
  | unknown
  deriving DecidableEq

/-- `USBD_STATE_T`. -/
inductive UsbdState
  | cableDefault
  | cableDetached
  | cableAttached
  | enumInProgress
  | enumerated
  deriving DecidableEq

/-- What does not change while the daemon runs. -/
structure Config where
  build : Build
  usbdMode : ModeType

/-- `usb_alt_mode`. -/
def Config.altMode (c : Config) : Bool := c.usbdMode ≠ .normal

/-- `usbd_get_startup_mode`, from the values of `ro.usb_mode`, `persist.usb.android_config` and
`ro.bootmode`. -/
def usbdGetStartupMode (b : Build) (usbMode androidConfig bootmode : String) : ModeType :=
  if usbMode = "debug" then .debug
  else if androidConfig = "1" then .debug
  else if bootmode = "bp-tools" then .bptools
  else if b.usbdTabletMode then .tablet
  else .normal

/-- What the daemon writes to `/dev/usb_device_mode`: the name of a mode, or the message that the
cable was detached. -/
inductive DeviceWrite
  | setMode (m : UsbMode)
  | cableDetach
  deriving DecidableEq

/-- The variables of the daemon, the kernel parameters, and what was written so far. -/
structure Daemon where
  /-- `usbd_curr_usb_mode` -/
  usbMode : UsbMode
  /-- `usbd_current_state` -/
  state : UsbdState
  /-- `usbd_curr_cable_status` -/
  cable : Accy
  /-- `current_usb_online` -/
  online : Bool
  /-- `usb_get_des_count` -/
  getDesCount : Nat
  tetheringEnabled : Bool
  /-- `usbd_app_fd`, unless it is -1 -/
  app : Option Nat
  pcSwitchbuf : List Char
  adbEnablebuf : List Char
  tetheringEnablebuf : List Char
  params : Params
  /-- The connections. -/
  conns : Ledger
  /-- The writes to the device, latest first, each with the cable at that time. -/
  written : List (Accy × DeviceWrite)
  /-- The writes to applications, latest first, whether or not they succeeded. -/
  sent : List (Nat × String)

/-- What a handler finds in its environment. -/
structure Env where
  /-- The value of `persist.service.adb.enable`, empty if it can not be read. -/
  adbProperty : String
  /-- The same when it is read once more, for a request to switch the mode. -/
  switchAdbProperty : String
  /-- The value of `persist.factory.allow_adb`. -/
  factoryAllowAdb : String
  /-- Does a write of a text to the application succeed? -/
  writeOk : String → Bool

/-- `usbd_get_adb_property`. -/
def usbdGetAdbProperty (value : String) : Int :=
  if value.length = 0 then -1 else if value = "1" then 1 else 0

/-- `usbd_factorycable_adb_enabled`. -/
def usbdFactorycableAdbEnabled (env : Env) : Bool := env.factoryAllowAdb = "1"

/-! ## Setting a mode -/

/-- `usbd_set_usb_mode`. -/
def Daemon.setUsbMode (c : Config) (d : Daemon) (newMode : UsbMode) : Daemon :=
  let params := disableHooks c.build d.usbMode d.params
  if newMode = .min then { d with params := params, usbMode := newMode }
  else
    { d with
      params := callHook (usbModeList c.build newMode).preEnable params
      usbMode := newMode
      written := (d.cable, .setMode newMode) :: d.written }

/-- `usb_alt_mode_tlb`. -/
def usbAltModeTlb (mode : ModeType) (adbEn tetherEn : Bool) : UsbMode :=
  match mode with
  | .bptools =>
    match adbEn, tetherEn with
    | false, false => .bptoolsEth
    | false, true => .rndisBptoolsEth
    | true, false => .bptoolsEthAdb
    | true, true => .rndisBptoolsEthAdb
  | _ =>
    match adbEn, tetherEn with
    | false, _ => .cdrom
    | true, false => .tabletNetworkMtpAdb
    | true, true => .rndisAdb

/-- The meaning of a field of a driver message: 1 or 0 for one of two texts, -1 for any other. -/
def fieldFlag (buf : List Char) (enable disable : String) : Int :=
  if buf = enable.toList then 1 else if buf = disable.toList then 0 else -1

/-- `alt_new_mode` in `usbd_alt_mode_set`, unless the function returns before it sets a mode. -/
def altNewMode (mode : ModeType) (env : Env) (adbEn tetherEn : Int) (tetheringEnabled : Bool) :
    Option UsbMode :=
  match mode with
  | .debug => some (if adbEn = 1 ∨ tetherEn = 1 then .mscAdb else .msc)
  | .bptools | .tablet =>
    let adbEn := if adbEn < 0 then usbdGetAdbProperty env.adbProperty else adbEn
    if adbEn < 0 then none
    else some (usbAltModeTlb mode (decide (adbEn = 1)) tetheringEnabled)
  | .normal | .unknown => none

/-- Remember whether tethering is enabled, if a message says so. -/
def Daemon.rememberTethering (d : Daemon) (tetherEn : Int) : Daemon :=
  if 0 ≤ tetherEn then { d with tetheringEnabled := decide (tetherEn = 1) } else d

/-- `usbd_alt_mode_set`. -/
def Daemon.altModeSet (c : Config) (d : Daemon) (env : Env) (adbBuf tetherBuf : List Char) :
    Daemon :=
  let adbEn := fieldFlag adbBuf "adb_enable" "adb_disable"
  let tetherEn := fieldFlag tetherBuf "tethering_enable" "tethering_disable"
  if tetherEn < 0 ∧ adbEn < 0 then d
  else
    let d := d.rememberTethering tetherEn
    match altNewMode c.usbdMode env adbEn tetherEn d.tetheringEnabled with
    | none => d
    | some m => d.setUsbMode c m

/-- The mode that `usbd_enumerate_default_mode` sets. -/
def defaultMode (mode : ModeType) (env : Env) : Option UsbMode :=
  let adb := usbdGetAdbProperty env.adbProperty
  match mode with
  | .debug => some (if adb ≠ 0 then .mscAdb else .msc)
  | .bptools => some (if adb ≠ 0 then .bptoolsEthAdb else .bptoolsEth)
  | .tablet => some (if adb ≠ 0 then .tabletNetworkMtpAdb else .cdrom)
  | .normal | .unknown => none

/-- `usbd_enumerate_default_mode`. -/
def Daemon.enumerateDefaultMode (c : Config) (d : Daemon) (env : Env) : Daemon :=
  match defaultMode c.usbdMode env with
  | none => d
  | some m => d.setUsbMode c m

/-- The mode for a factory cable. -/
def Daemon.setFactoryMode (c : Config) (d : Daemon) (env : Env) : Daemon :=
  if usbdFactorycableAdbEnabled env then d.setUsbMode c .networkAdb else d.setUsbMode c .network

/-! ## Writing to applications -/

/-- A write to a connection. -/
def Daemon.send (d : Daemon) (fd : Nat) (text : String) : Daemon :=
  { d with sent := (fd, text) :: d.sent }

/-- Forget the application. -/
def Daemon.dropApp (d : Daemon) : Daemon := { d with app := none }

/-- A write to a connection; the application is forgotten if the write fails. -/
def Daemon.sendOrDrop (d : Daemon) (env : Env) (fd : Nat) (text : String) : Daemon :=
  if env.writeOk text then d.send fd text else (d.send fd text).dropApp

/-- `usbd_send_adb_status`. -/
def Daemon.sendAdbStatus (d : Daemon) (fd : Nat) (enFlag : Int) : Daemon :=
  d.send fd (if enFlag = 1 then "usbd_adb_status_on" else "usbd_adb_status_off")

/-- `usbd_send_tethering_status`. -/
def Daemon.sendTetheringStatus (d : Daemon) (fd : Nat) (enFlag : Int) : Daemon :=
  d.send fd (if enFlag = 1 then "usbd_tethering_status_on" else "usbd_tethering_status_off")

/-- The text by which `usbd_notify_current_status` reports a state. -/
def UsbdState.notification : UsbdState → Option String
  | .cableAttached => some "cable_connected"
  | .cableDetached => some "cable_disconnected"
  | .enumInProgress => some "get_descriptor"
  | .enumerated => some "usb_enumerated"
  | .cableDefault => none

/-! ## Cable changes -/

/-- `readUsbSwitchState`: the first character of the file, if it can be read. -/
def readUsbSwitchState (state : Option Char) : Option Accy :=
  state.map fun ch => if ch = '1' then .usb else if ch = '2' then .factory else .unknown

/-- A message on the uevent socket. -/
structure Uevent where
  /-- What `recvmsg` returns. -/
  count : Int
  nlGroups : Nat
  nlPid : Nat
  /-- The user of the sender, if its credentials were received. -/
  uid : Option Nat
  /-- Does the text contain both `usb_connected` and `switch`? -/
  usbSwitch : Bool
  /-- The first character of the switch's state file, if it can be read. -/
  switchState : Option Char

/-- Does the daemon read a cable change from the message? -/
def Uevent.accepted (u : Uevent) : Bool :=
  0 < u.count && u.nlGroups = 1 && u.nlPid = 0 && u.uid = some 0 && u.count < 64 * 1024 - 1 &&
    u.usbSwitch

/-- The part of `process_usb_uevent_message` after a new state of the cable was read. -/
def Daemon.changeCable (d : Daemon) (cable : Accy) : Daemon :=
  if cable ≠ .unknown then { d with cable := cable, online := true, state := .cableAttached }
  else
    { d with
      cable := cable
      online := false
      state := .cableDetached
      getDesCount := 0
      written := (cable, .cableDetach) :: d.written }

/-- `usbd_handle_cable_status_change`. -/
def Daemon.handleCableStatusChange (c : Config) (d : Daemon) (env : Env) : Daemon :=
  if d.cable = .factory then d.setFactoryMode c env
  else if c.altMode = false then
    match d.app, d.state.notification with
    | some fd, some text => d.sendOrDrop env fd text
    | _, _ => d
  else if d.cable = .usb then
    Daemon.enumerateDefaultMode c { d with tetheringEnabled := false } env
  else d

/-- A message on the uevent socket: `process_usb_uevent_message`, and what the main loop does if it
returns 1. -/
def Daemon.uevent (c : Config) (d : Daemon) (u : Uevent) (env : Env) : Daemon :=
  if u.accepted then
    match readUsbSwitchState u.switchState with
    | none => d
    | some cable => (d.changeCable cable).handleCableStatusChange c env
  else d

/-! ## Messages of the device driver -/

/-- The text in memory that starts with some characters and then has zeros. -/
def cString (bytes : List Char) : List Char := untilNul (Char.ofNat 0) bytes

/-- `sscanf` with `%[^:]`, into a buffer. -/
def scanField (buf : List Char) (text : List Char) : List Char :=
  let field := text.takeWhile (· ≠ ':')
  if field = [] then buf else field

/-- The text that asks the application to switch to a mode the driver has named. -/
def switchRequest (b : Build) (tag : List Char) : Option String :=
  (UsbMode.all.find? fun m =>
    decide ((usbModeList b m).name.toList = tag) && (usbModeList b m).switchReq.isSome).bind
      fun m => (usbModeList b m).switchReq

/-- The mode that follows a CD-ROM mode. -/
def modeAfterCdrom (mode : ModeType) (enFlag : Int) (tetheringEnabled : Bool) : UsbMode :=
  if mode = .tablet then
    if enFlag = 0 then if tetheringEnabled then .rndis else .tabletNetworkMtp
    else if tetheringEnabled then .rndisAdb else .tabletNetworkMtpAdb
  else if enFlag = 0 then .ngp else .ngpAdb

/-- `usb_req_mode_switch`. -/
def Daemon.usbReqModeSwitch (c : Config) (d : Daemon) (env : Env) (tag : List Char) : Daemon :=
  let enFlag := usbdGetAdbProperty env.switchAdbProperty
  if enFlag < 0 then d
  else
    match switchRequest c.build tag with
    | none => if tag = "cdrom2".toList then d.setUsbMode c .cdrom2 else d
    | some text =>
      if d.usbMode = .cdrom ∨ d.usbMode = .cdrom2 then
        d.setUsbMode c (modeAfterCdrom c.usbdMode enFlag d.tetheringEnabled)
      else
        match d.app with
        | none => d
        | some fd => d.sendOrDrop env fd text

/-- `usbd_enum_process`, with what the main loop does when it fails. -/
def Daemon.enumProcess (c : Config) (d : Daemon) (env : Env) : Daemon :=
  let row := usbModeList c.build d.usbMode
  let d := { d with params := callHook row.enableDone d.params }
  match d.app, row.modeDone with
  | some fd, some text => d.sendOrDrop env fd text
  | _, _ => d

/-- The status messages for an application. -/
def Daemon.sendStatus (d : Daemon) (adbBuf tetherBuf : List Char) : Daemon :=
  match d.app with
  | none => d
  | some fd =>
    let adbEn := fieldFlag adbBuf "adb_enable" "adb_disable"
    let tetherEn := fieldFlag tetherBuf "tethering_enable" "tethering_disable"
    let d := if 0 ≤ adbEn then d.sendAdbStatus fd adbEn else d
    if 0 ≤ tetherEn then d.sendTetheringStatus fd tetherEn else d

/-- The handling of the last field of a driver message. -/
def Daemon.enumeration (c : Config) (d : Daemon) (env : Env) (enubuf : List Char) : Daemon :=
  if "get_desc".toList.isPrefixOf enubuf then
    let d := { d with getDesCount := d.getDesCount + 1 }
    if d.getDesCount = 1 then
      let d := { d with state := .enumInProgress }
      match d.app with
      | none => d
      | some fd => d.sendOrDrop env fd "get_descriptor"
    else d
  else if "enumerated".toList.isPrefixOf enubuf then
    Daemon.enumProcess c { d with state := .enumerated } env
  else d

/-- The part of the main loop for a driver message and a factory cable. -/
def Daemon.factoryDevice (c : Config) (d : Daemon) (env : Env) : Daemon :=
  if usbdFactorycableAdbEnabled env ∧ d.adbEnablebuf = "adb_enable".toList then
    d.setUsbMode c .networkAdb
  else if d.adbEnablebuf = "adb_disable".toList then d.setUsbMode c .network
  else d

/-- The part of the main loop for the fields of a driver message and any other cable. -/
def Daemon.deviceFields (c : Config) (d : Daemon) (env : Env) (enubuf : List Char) : Daemon :=
  let d₁ :=
    if c.altMode ∧ d.online then d.altModeSet c env d.adbEnablebuf d.tetheringEnablebuf
    else d.sendStatus d.adbEnablebuf d.tetheringEnablebuf
  if d₁.cable = .usb ∧ d₁.online then
    let d₂ :=
      if d₁.pcSwitchbuf ≠ "none".toList then d₁.usbReqModeSwitch c env d₁.pcSwitchbuf else d₁
    d₂.enumeration c env enubuf
  else d₁

/-- The part of the main loop for a message of the device driver, of which it has read some
characters. -/
def Daemon.device (c : Config) (d : Daemon) (read : List Char) (env : Env) : Daemon :=
  if read = [] then d
  else
    let pc := scanField d.pcSwitchbuf (cString read)
    let adb := scanField d.adbEnablebuf (cString (read.drop (pc.length + 1)))
    let d := { d with pcSwitchbuf := pc, adbEnablebuf := adb }
    if d.cable = .factory then d.factoryDevice c env
    else
      let offset := pc.length + adb.length + 2
      let tether := scanField d.tetheringEnablebuf (cString (read.drop offset))
      let length := (cString read).length - pc.length - adb.length - tether.length - 2
      let enubuf := cString ((read.drop (offset + tether.length + 1)).take length)
      Daemon.deviceFields c { d with tetheringEnablebuf := tether } env enubuf

/-! ## Applications -/

/-- An application connects. -/
def Daemon.accept (d : Daemon) (env : Env) : Daemon × Nat :=
  let newfd := d.conns.acquired
  -- the connection is not closed if there is an application already
  let d := { d with conns := d.conns.acquire, app := d.app.or (some newfd) }
  (d.sendAdbStatus newfd (usbdGetAdbProperty env.adbProperty), newfd)

/-- The part of the main loop for an application that connects. -/
def Daemon.connect (d : Daemon) (env : Env) : Daemon :=
  let (d, newfd) := d.accept env
  match d.state.notification with
  | some text => if d.cable ≠ .factory then d.send newfd text else d
  | none => d

/-- What reading from an application returns. -/
inductive AppRead
  | failed
  | closed
  | data (bytes : List Char)

/-- The mode that a request names. -/
def requestedMode (b : Build) (buf : List Char) : Option UsbMode :=
  UsbMode.all.find? fun m => (usbModeList b m).modeReq.any fun req => req.toList = buf

/-- The part of `usbd_socket_event` after a request for a mode other than `USB_MODE_MIN` was
acknowledged. -/
def Daemon.enterMode (c : Config) (d : Daemon) (env : Env) (fd : Nat) (m : UsbMode) : Daemon :=
  if d.usbMode ≠ m then if d.online then d.setUsbMode c m else d
  else
    match (usbModeList c.build m).modeDone with
    | none => d
    | some text => d.sendOrDrop env fd text

/-- `usbd_socket_event`, with what the main loop does when it fails. -/
def Daemon.socketEvent (c : Config) (d : Daemon) (fd : Nat) (read : AppRead) (env : Env) :
    Daemon :=
  match read with
  | .failed => d.dropApp
  | .closed => { d with conns := d.conns.release fd }.dropApp
  | .data bytes =>
    if d.cable = .factory then d
    else
      match requestedMode c.build (cString bytes) with
      | none => d
      | some .min => d.setUsbMode c .min
      | some m =>
        match (usbModeList c.build m).respOk with
        | none => d.enterMode c env fd m
        | some text =>
          if env.writeOk text then (d.send fd text).enterMode c env fd m
          else (d.send fd text).dropApp

/-! ## Runs -/

/-- An event of the main loop. -/
inductive Event
  | uevent (u : Uevent) (env : Env)
  | device (read : List Char) (env : Env)
  | connect (env : Env)
  | app (read : AppRead) (env : Env)

/-- The daemon after an event.  Applications can not connect in an alternate mode. -/
def Daemon.next (c : Config) (d : Daemon) : Event → Option Daemon
  | .uevent u env => some (d.uevent c u env)
  | .device read env => some (d.device c read env)
  | .connect env => if c.altMode then none else some (d.connect env)
  | .app read env =>
    if c.altMode then none else d.app.map fun fd => d.socketEvent c fd read env

/-- The kernel's parameters and the contents of the buffers when the daemon starts. -/
structure Memory where
  allowEject : Bool
  pcSwitchbuf : List Char
  adbEnablebuf : List Char
  tetheringEnablebuf : List Char

/-- The daemon before it reads the cable.  The parameters of the modes are off. -/
def Daemon.boot (mem : Memory) : Daemon where
  usbMode := .min
  state := .cableDefault
  cable := .unknown
  online := false
  getDesCount := 0
  tetheringEnabled := false
  app := none
  pcSwitchbuf := mem.pcSwitchbuf
  adbEnablebuf := mem.adbEnablebuf
  tetheringEnablebuf := mem.tetheringEnablebuf
  params := ⟨false, mem.allowEject, false⟩
  conns := .empty
  written := []
  sent := []

/-- The daemon when it enters its main loop; it exits if it can not read the cable. -/
def Daemon.start (c : Config) (mem : Memory) (switchState : Option Char) (env : Env) :
    Option Daemon :=
  (readUsbSwitchState switchState).map fun cable =>
    let d := { Daemon.boot mem with cable := cable }
    if cable ≠ .unknown then
      let d := { d with online := true, state := .cableAttached }
      if cable = .factory then d.setFactoryMode c env
      else if c.altMode then d.enumerateDefaultMode c env
      else d
    else d

/-- The states of the main loop in runs whose events meet a condition. -/
def Daemon.ReachableWith (c : Config) (Cond : Daemon → Event → Prop) : Daemon → Prop :=
  Runs.Reachable (fun d => ∃ mem switchState env, Daemon.start c mem switchState env = some d)
    fun d e d' => Cond d e ∧ d.next c e = some d'

/-- The states of the main loop. -/
def Daemon.Reachable (c : Config) : Daemon → Prop := Daemon.ReachableWith c fun _ _ => True

end Solana.Usbd
