import Mathlib.Tactic.Lemma

/-!
# The modes of the USB daemon

The table `usb_mode_list` with the hooks and the texts of each mode, and the kernel parameters
that the hooks write.  The rows of the table are in the order of the enumeration, so the source's
`usb_mode_list[m]` is the row of the mode `m` here.

The hooks that mount the CD-ROM image (`cdrom_partition_mount`) write no parameter; they are the
identity here, as are the empty hooks of the source.
-/

namespace Solana.Usbd

/-- `USB_MODE_T`, without its end `USB_MODE_MAX`. -/
inductive UsbMode
  | min
  | ngp
  | cdrom
  | mtp
  | msc
  | mscOnly
  | hid
  | ngpAdb
  | mtpAdb
  | mscAdb
  | adb
  | network
  | modem
  | modemAdb
  | networkAdb
  | chargeOnly
  | chargeAdb
  | rndis
  | rndisAdb
  | cdrom2
  | bptoolsEth
  | bptoolsEthAdb
  | rndisBptoolsEth
  | rndisBptoolsEthAdb
  | tabletNetworkMtp
  | tabletNetworkMtpAdb
  deriving DecidableEq

/-- The modes from `USB_MODE_MIN` up to `USB_MODE_MAX`, in the order of the loops over them. -/
def UsbMode.all : List UsbMode :=
  [.min, .ngp, .cdrom, .mtp, .msc, .mscOnly, .hid, .ngpAdb, .mtpAdb, .mscAdb, .adb, .network,
    .modem, .modemAdb, .networkAdb, .chargeOnly, .chargeAdb, .rndis, .rndisAdb, .cdrom2,
    .bptoolsEth, .bptoolsEthAdb, .rndisBptoolsEth, .rndisBptoolsEthAdb, .tabletNetworkMtp,
    .tabletNetworkMtpAdb]

/-- Does the mode have the ADB function? -/
def UsbMode.hasAdb : UsbMode → Bool
  | .ngpAdb | .mtpAdb | .mscAdb | .adb | .modemAdb | .networkAdb | .chargeAdb | .rndisAdb
  | .bptoolsEthAdb | .rndisBptoolsEthAdb | .tabletNetworkMtpAdb => true
  | _ => false

/-- The flags of a build. -/
structure Build where
  /-- `MSD_CDROM_ENABLED` -/
  msdCdromEnabled : Bool
  /-- `AT_RELAY` -/
  atRelay : Bool
  /-- `USBD_TABLET_MODE` -/
  usbdTabletMode : Bool

/-! ## Hooks -/

/-- The kernel parameters that the hooks write. -/
structure Params where
  /-- `/sys/module/g_mot_android/parameters/cdrom` -/
  cdrom : Bool
  /-- `/sys/module/g_mot_android/parameters/allow_eject` -/
  allowEject : Bool
  /-- `/sys/devices/virtual/usb_composite/usb_mass_storage/enable` -/
  massStorage : Bool
  deriving DecidableEq

/-- A hook of a mode. -/
def Hook := Params → Params

/-- A hook that writes no parameter. -/
def emptyHook : Hook := id

/-- Call a hook unless it is null. -/
def callHook (h : Option Hook) (p : Params) : Params :=
  match h with
  | none => p
  | some h => h p

def cdromPreEnable : Hook := fun p => { p with cdrom := true }

def cdromDisableDone : Hook := fun p => { p with cdrom := false }

def mscPreEnable (b : Build) : Hook := fun p =>
  if b.msdCdromEnabled then { p with cdrom := true, allowEject := false } else p

def mscDisableDone (b : Build) : Hook := fun p =>
  if b.msdCdromEnabled then { p with cdrom := false, allowEject := true } else p

/-- `msc_enable_done`, `msc_only_enable_done` and `msc_adb_enable_done`. -/
def mscEnableDone : Hook := fun p => { p with massStorage := true }

/-- `msc_pre_disable`, `msc_only_pre_disable` and `msc_adb_pre_disable`. -/
def mscPreDisable : Hook := fun p => { p with massStorage := false }

/-! ## The table -/

/-- `struct usb_mode_data`, without `resp_fail`, which nothing reads. -/
structure ModeData where
  name : String
  preEnable : Option Hook := none
  enableDone : Option Hook := none
  preDisable : Option Hook := none
  disableDone : Option Hook := none
  modeReq : Option String := none
  modeDone : Option String := none
  switchReq : Option String := none
  respOk : Option String := none

/-- `usb_mode_list`. -/
def usbModeList (b : Build) : UsbMode → ModeData
  | .min => { name := "unuse", modeReq := some "usb_unload_driver" }
  | .ngp =>
    { name := "acm_eth_mtp"
      preEnable := some emptyHook
      enableDone := some emptyHook
      preDisable := some emptyHook
      modeDone := some "usbd_start_ngp"
      switchReq := some "usbd_req_switch_ngp" }
  | .cdrom =>
    { name := "cdrom"
      preEnable := some cdromPreEnable
      enableDone := some emptyHook
      preDisable := some emptyHook
      disableDone := some cdromDisableDone
      modeReq := some "usb_mode_ngp"
      respOk := some "usb_mode_ngp:ok" }
  | .mtp =>
    { name := "mtp"
      enableDone := some emptyHook
      modeReq := some "usb_mode_mtp"
      modeDone := some "usbd_start_mtp"
      switchReq := some "usbd_req_switch_mtp"
      respOk := some "usb_mode_mtp:ok" }
  | .msc =>
    { name := "msc"
      preEnable := some (mscPreEnable b)
      enableDone := some mscEnableDone
      preDisable := some mscPreDisable
      disableDone := some (mscDisableDone b)
      modeReq := some "usb_mode_msc"
      modeDone := some "usbd_start_msc_mount"
      switchReq := some "usbd_req_switch_msc"
      respOk := some "usb_mode_msc:ok" }
  | .mscOnly =>
    { name := "msc_only"
      enableDone := some mscEnableDone
      preDisable := some mscPreDisable
      modeReq := some "usb_mode_msc_only"
      modeDone := some "usbd_start_msc_mount"
      respOk := some "usb_mode_msc:ok" }
  | .hid =>
    { name := "hid"
      modeReq := some "usb_mode_hid"
      switchReq := some "usbd_req_switch_hid"
      respOk := some "usb_mode_hid:ok" }
  | .ngpAdb =>
    { name := if b.atRelay then "acm_acm1_eth_mtp_adb" else "acm_eth_mtp_adb"
      preEnable := some emptyHook
      enableDone := some emptyHook
      preDisable := some emptyHook
      modeReq := some "usb_mode_ngp_adb"
      modeDone := some "usbd_start_ngp"
      switchReq := some "usbd_req_switch_ngp"
      respOk := some "usb_mode_ngp:ok" }
  | .mtpAdb =>
    { name := "mtp_adb"
      preEnable := some emptyHook
      enableDone := some emptyHook
      preDisable := some emptyHook
      modeReq := some "usb_mode_mtp_adb"
      modeDone := some "usbd_start_mtp"
      switchReq := some "usbd_req_switch_mtp"
      respOk := some "usb_mode_mtp:ok" }
  | .mscAdb =>
    { name := "msc_adb"
      enableDone := some mscEnableDone
      preDisable := some mscPreDisable
      modeReq := some "usb_mode_msc_adb"
      modeDone := some "usbd_start_msc_mount"
      switchReq := some "usbd_req_switch_msc"
      respOk := some "usb_mode_msc:ok" }
  | .adb =>
    { name := "android_adb_only"
      preEnable := some emptyHook
      preDisable := some emptyHook
      modeReq := some "usb_mode_adb"
      switchReq := some "usbd_req_switch_hid"
      respOk := some "usb_mode_hid:ok" }
  | .network =>
    { name := "eth", enableDone := some emptyHook, preDisable := some emptyHook }
  | .modem =>
    { name := "acm"
      enableDone := some emptyHook
      preDisable := some emptyHook
      modeReq := some "usb_mode_modem"
      switchReq := some "usbd_req_switch_modem"
      respOk := some "usb_mode_modem:ok" }
  | .modemAdb =>
    { name := "modem_adb"
      preEnable := some emptyHook
      enableDone := some emptyHook
      preDisable := some emptyHook
      modeReq := some "usb_mode_modem_adb"
      switchReq := some "usbd_req_switch_modem"
      respOk := some "usb_mode_modem:ok" }
  | .networkAdb =>
    { name := if b.atRelay then "acm1_eth_adb" else "eth_adb"
      enableDone := some emptyHook
      preDisable := some emptyHook }
  | .chargeOnly =>
    { name := "charge_only"
      modeReq := some "usb_mode_charge_only"
      switchReq := some "usbd_req_switch_none"
      respOk := some "usb_mode_msc:ok" }
  | .chargeAdb =>
    { name := "charge_adb"
      modeReq := some "usb_mode_charge_adb"
      switchReq := some "usbd_req_switch_none"
      respOk := some "usb_mode_msc:ok" }
  | .rndis =>
    { name := "rndis"
      modeReq := some "usb_mode_rndis"
      switchReq := some "usbd_req_switch_rndis"
      respOk := some "usb_mode_rndis:ok" }
  | .rndisAdb =>
    { name := "rndis_adb"
      modeReq := some "usb_mode_rndis_adb"
      switchReq := some "usbd_req_switch_rndis"
      respOk := some "usb_mode_rndis:ok" }
  | .cdrom2 =>
    { name := "cdrom2"
      preEnable := some cdromPreEnable
      enableDone := some emptyHook
      preDisable := some emptyHook
      disableDone := some cdromDisableDone }
  | .bptoolsEth =>
    { name := "acm_acm1_acm2_acm3_eth"
      modeReq := some "usb_mode_acm_acm1_acm2_acm3_eth"
      switchReq := some "usbd_req_switch_bptools"
      respOk := some "usb_mode_bptools:ok" }
  | .bptoolsEthAdb =>
    { name := "acm_acm1_acm2_acm3_eth_adb"
      modeReq := some "usb_mode_acm_acm1_acm2_acm3_eth_adb"
      switchReq := some "usbd_req_switch_bptools"
      respOk := some "usb_mode_bptools:ok" }
  | .rndisBptoolsEth =>
    { name := "rndis_acm_acm1_acm2_acm3_eth"
      modeReq := some "usb_mode_rndis_acm_acm1_acm2_acm3_eth"
      switchReq := some "usbd_req_switch_bptools"
      respOk := some "usb_mode_bptools:ok" }
  | .rndisBptoolsEthAdb =>
    { name := "rndis_acm_acm1_acm2_acm3_eth_adb"
      modeReq := some "usb_mode_rndis_acm_acm1_acm2_acm3_eth_adb"
      switchReq := some "usbd_req_switch_bptools"
      respOk := some "usb_mode_bptools:ok" }
  | .tabletNetworkMtp => { name := "eth_mtp" }
  | .tabletNetworkMtpAdb => { name := "eth_mtp_adb" }

/-! ## What the hooks do to the parameters -/

/-- Does the kernel parameter `cdrom` belong to the mode? -/
def UsbMode.usesCdrom (b : Build) (m : UsbMode) : Bool :=
  m = .cdrom || m = .cdrom2 || (b.msdCdromEnabled && m = .msc)

/-- Does the mode have the mass storage function? -/
def UsbMode.isMassStorage (m : UsbMode) : Bool := m = .msc || m = .mscOnly || m = .mscAdb

/-- The hooks that `usbd_set_usb_mode` calls for the mode it leaves. -/
def disableHooks (b : Build) (m : UsbMode) (p : Params) : Params :=
  callHook (usbModeList b m).disableDone (callHook (usbModeList b m).preDisable p)

/-- The parameters are those of a mode: `cdrom` is set exactly if it belongs to the mode, and the
mass storage function is enabled only if the mode has it. -/
structure Params.Fit (p : Params) (b : Build) (m : UsbMode) : Prop where
  cdrom : p.cdrom = m.usesCdrom b
  massStorage : p.massStorage = true → m.isMassStorage = true

open UsbMode

/-- The hooks of the mode that is left clear both parameters. -/
lemma Params.Fit.disableHooks {p : Params} {b : Build} {m : UsbMode} (h : p.Fit b m) :
    (disableHooks b m p).cdrom = false ∧ (disableHooks b m p).massStorage = false := by
  obtain ⟨hc, hs⟩ := h
  cases hb : b.msdCdromEnabled <;> cases m <;>
    simp_all [Usbd.disableHooks, usbModeList, callHook, emptyHook, cdromDisableDone, mscPreDisable,
      mscDisableDone, usesCdrom, isMassStorage]

/-- The hook of the mode that is entered sets `cdrom` if it belongs to the mode. -/
lemma Params.fit_preEnable {p : Params} (b : Build) (m : UsbMode) (hc : p.cdrom = false)
    (hs : p.massStorage = false) : (callHook (usbModeList b m).preEnable p).Fit b m := by
  constructor <;> cases hb : b.msdCdromEnabled <;> cases m <;>
    simp_all [usbModeList, callHook, emptyHook, cdromPreEnable, mscPreEnable, usesCdrom,
      isMassStorage]

/-- The hook after the enumeration enables mass storage only if the mode has it. -/
lemma Params.Fit.enableDone {p : Params} {b : Build} {m : UsbMode} (h : p.Fit b m) :
    (callHook (usbModeList b m).enableDone p).Fit b m := by
  obtain ⟨hc, hs⟩ := h
  constructor <;> cases m <;>
    simp_all [usbModeList, callHook, emptyHook, mscEnableDone, isMassStorage]

end Solana.Usbd
