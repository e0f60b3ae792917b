import Solana.Lib.Fallible

/-!
# The EDID parser

`edid_parser_init` reads the 256 bytes of an EDID with one extension block.  It searches the
extension's data blocks for the first video block, whose payload lists the supported modes, and
for the vendor block, whose payload describes the support of stereoscopic formats.

All accesses to the EDID, to the table of modes and to the list of parsed modes are checked here:
one out of range stops the parser with a `Fault`.  The search for a data block adds block lengths
to an offset of eight bits and need not end, so it has a bound on its steps, and running out of it
is told apart from a fault.  Allocations are taken to succeed; the format fields of the memory that
`malloc` returns for the list of stereoscopic formats are an argument.
-/

namespace Solana.Edid

/-! ## Accesses -/

/-- `EDID_SIZE`. -/
def edidSize : Nat := 256

/-- The bytes of an EDID. -/
abbrev RawEdid := Fin edidSize → Fin 256

/-- An access out of range. -/
inductive Fault
  | edidData (offset : Nat)
  | svdTable (code : Nat)
  | svdList (pos : Nat)
  deriving DecidableEq

/-- Why the parser stopped. -/
inductive Stop
  | fault (f : Fault)
  | outOfSteps
  deriving DecidableEq

/-- `edid_data[off]`. -/
def readEdid (e : RawEdid) (off : Nat) : Except Stop Nat :=
  if h : off < edidSize then .ok (e ⟨off, h⟩) else .error (.fault (.edidData off))

/-! ## Data blocks -/

/-- `enum datablock_id`. -/
inductive DatablockId
  | audio
  | video
  | vendor
  | speakers
  deriving DecidableEq

/-- The number of the type. -/
def DatablockId.code : DatablockId → Nat
  | .audio => 1
  | .video => 2
  | .vendor => 3
  | .speakers => 4

/-- The loop of `edid_get_datablock_offset`. -/
def searchDatablock (e : RawEdid) (type : DatablockId) (bound : Nat) :
    Nat → Nat → Except Stop (Option Nat)
  | 0, _ => .error .outOfSteps
  | fuel + 1, offset =>
    if offset < bound then do
      let val ← readEdid e offset
      if val >>> 5 = type.code then pure (some offset)
      else searchDatablock e type bound fuel ((offset + (val &&& 0x1F) + 1) % 256)
    else pure none

/-- `edid_get_datablock_offset`: the offset of the block, if there is one. -/
def edidGetDatablockOffset (fuel : Nat) (e : RawEdid) (type : DatablockId) :
    Except Stop (Option Nat) := do
  let ext ← readEdid e 0x7e
  if ext = 0 then pure none
  else
    let extLength ← readEdid e 0x82
    if extLength = 4 then pure none
    else searchDatablock e type (0x80 + extLength) fuel 0x84

/-! ## Short video descriptors -/

/-- `enum hdmi_scan_type`. -/
inductive ScanType
  | progressive
  | interlaced
  deriving DecidableEq

/-- `struct svd_info_t`. -/
structure SvdInfo where
  xres : Nat
  yres : Nat
  hz : Nat
  scanType : ScanType
  name : String
  deriving DecidableEq

/-- `svd_table`. -/
def svdTable : List SvdInfo :=
  [⟨0, 0, 0, .progressive, "reserved"⟩, ⟨640, 480, 60, .progressive, "DMT0659"⟩,
    ⟨720, 480, 60, .progressive, "480p"⟩, ⟨720, 480, 60, .progressive, "480pH"⟩,
    ⟨1280, 720, 60, .progressive, "720p"⟩, ⟨1920, 1080, 60, .interlaced, "1080i"⟩,
    ⟨720, 480, 60, .interlaced, "480i"⟩, ⟨720, 480, 60, .interlaced, "480iH"⟩,
    ⟨720, 240, 60, .progressive, "240p"⟩, ⟨1280, 720, 60, .progressive, "240pH"⟩,
    ⟨720, 480, 60, .interlaced, "480i4x"⟩, ⟨720, 480, 60, .interlaced, "480i4xH"⟩,
    ⟨720, 240, 60, .progressive, "240p4x"⟩, ⟨720, 240, 60, .progressive, "240p4xH"⟩,
    ⟨720, 480, 60, .progressive, "480p2x"⟩, ⟨720, 480, 60, .progressive, "480p2xH"⟩,
    ⟨1920, 1080, 60, .progressive, "1080p"⟩, ⟨720, 576, 50, .progressive, "576p"⟩,
    ⟨720, 576, 50, .progressive, "576pH"⟩, ⟨1280, 720, 50, .progressive, "720p50"⟩,
    ⟨1920, 1080, 50, .interlaced, "1080i25"⟩, ⟨720, 576, 50, .interlaced, "576i"⟩,
    ⟨720, 576, 50, .interlaced, "576iH"⟩, ⟨720, 288, 50, .progressive, "288p"⟩,
    ⟨720, 288, 50, .progressive, "288pH"⟩, ⟨720, 576, 50, .interlaced, "576i4x"⟩,
    ⟨720, 576, 50, .interlaced, "576i4xH"⟩, ⟨720, 288, 50, .progressive, "288p4x"⟩,
    ⟨720, 288, 50, .progressive, "288p4xH"⟩, ⟨720, 576, 50, .progressive, "576p2x"⟩,
    ⟨720, 576, 50, .progressive, "576p2xH"⟩, ⟨1920, 1080, 50, .progressive, "1080p50"⟩,
    ⟨1920, 1080, 24, .progressive, "1080p24"⟩, ⟨1920, 1080, 25, .progressive, "1080p25"⟩,
    ⟨1920, 1080, 30, .progressive, "1080p30"⟩, ⟨720, 480, 60, .progressive, "480p4x"⟩,
    ⟨720, 480, 60, .progressive, "480p4xH"⟩, ⟨720, 576, 50, .progressive, "576p4x"⟩,
    ⟨720, 576, 50, .progressive, "576p4xH"⟩, ⟨1920, 1080, 50, .interlaced, "1080i25"⟩,
    ⟨1920, 1080, 100, .interlaced, "1080i50"⟩, ⟨1280, 720, 100, .progressive, "720p100"⟩,
    ⟨720, 576, 100, .progressive, "576p100"⟩, ⟨720, 576, 100, .progressive, "576p100H"⟩,
    ⟨720, 576, 100, .interlaced, "576i50"⟩, ⟨720, 576, 100, .interlaced, "576i50H"⟩,
    ⟨1920, 1080, 120, .interlaced, "1080i60"⟩, ⟨1280, 720, 120, .progressive, "720p120"⟩,
    ⟨720, 480, 120, .progressive, "480p120"⟩, ⟨720, 480, 120, .progressive, "480p120H"⟩,
    ⟨720, 480, 120, .interlaced, "480i60"⟩, ⟨720, 480, 120, .interlaced, "480i60H"⟩,
    ⟨720, 576, 200, .progressive, "576p200"⟩, ⟨720, 576, 200, .progressive, "576p200H"⟩,
    ⟨720, 576, 200, .interlaced, "576i100"⟩, ⟨720, 576, 200, .interlaced, "576i100H"⟩,
    ⟨720, 480, 240, .progressive, "480p240"⟩, ⟨720, 480, 240, .progressive, "480p240H"⟩,
    ⟨720, 480, 240, .interlaced, "480i120"⟩, ⟨720, 480, 240, .interlaced, "480i120H"⟩,
    ⟨1280, 720, 24, .progressive, "720p24"⟩, ⟨1280, 720, 25, .progressive, "720p25"⟩,
    ⟨1280, 720, 30, .progressive, "720p30"⟩, ⟨1920, 1080, 120, .progressive, "1080p120"⟩]

/-- `NUM_SVD_ENTRIES`. -/
def numSvdEntries : Nat := svdTable.length

/-- `struct svd_t`. -/
structure Svd where
  code : Nat
  native : Bool
  info : SvdInfo
  deriving DecidableEq

/-- `edid_fill_svd_info`. -/
def edidFillSvdInfo (code : Nat) : Except Stop SvdInfo :=
  let code := if code > numSvdEntries then 0 else code
  match svdTable[code]? with
  | some info => .ok info
  | none => .error (.fault (.svdTable code))

/-- A turn of the loop of `edid_parse_svds`. -/
def parseSvd (e : RawEdid) (offset i : Nat) : Except Stop Svd := do
  let val ← readEdid e (offset + i)
  let code := val &&& 0x7F
  let info ← edidFillSvdInfo code
  pure ⟨code, decide (val &&& 0x80 = 0x80), info⟩

/-- `edid_parse_svds`: the list of the descriptors. -/
def edidParseSvds (fuel : Nat) (e : RawEdid) : Except Stop (List Svd) := do
  match ← edidGetDatablockOffset fuel e .video with
  | none => pure []
  | some offset =>
    let val ← readEdid e offset
    (List.range (val &&& 0x1F)).mapM (parseSvd e offset)

/-! ## Stereoscopic formats -/

/-- `HDMI_TOPBOTTOM`. -/
def hdmiTopbottom : Nat := 6

/-- `HDMI_SIDE_BY_SIDE_HALF`. -/
def hdmiSideBySideHalf : Nat := 8

/-- `HDMI_SS_VERTICAL`. -/
def hdmiSsVertical : Nat := 0xF0000

/-- `HDMI_SS_NONE`. -/
def hdmiSsNone : Nat := 0xF0001

/-- `struct hdmi_s3d_format_vic_info_t`. -/
structure VicInfo where
  vicPos : Nat
  subsampling : Nat
  deriving DecidableEq

/-- `struct hdmi_s3d_format_info_t`, with its valid `vic_info`. -/
structure S3dFormat where
  format : Nat
  vicInfo : List VicInfo
  deriving DecidableEq

/-- `struct edid_t`. -/
structure EdidT where
  s3dCapable : Bool
  s3dFormatList : List S3dFormat
  svdList : List Svd
  deriving DecidableEq

/-- The loop of `count_set_bits`; a value of sixteen bits takes at most sixteen turns. -/
def countSetBits : Nat → Nat → Nat
  | 0, _ => 0
  | turns + 1, value => if value = 0 then 0 else countSetBits turns (value &&& (value - 1)) + 1

/-- `set_s3d_format_bits`.  The length is signed: an entry of two bytes may end one after it. -/
def setS3dFormatBits (e : RawEdid) : Nat → Nat → Nat → Except Stop Nat
  | 0, _, bits => pure bits
  | 1, off, bits => do
    let val ← readEdid e off
    pure (bits ||| 1 <<< (val &&& 0x0F))
  | len + 2, off, bits => do
    let val ← readEdid e off
    let bits := bits ||| 1 <<< (val &&& 0x0F)
    if hdmiSideBySideHalf ≤ val &&& 0x0F then setS3dFormatBits e len (off + 2) bits
    else setS3dFormatBits e (len + 1) (off + 1) bits

/-- The subsampling of a format that is signalled by the bit masks.  For `HDMI_SIDE_BY_SIDE_HALF`
without either of its bits the variable is not set; it is not used then. -/
def maskSubsampling (structAll format : Nat) : Nat :=
  if format = hdmiSideBySideHalf then
    if structAll.testBit 15 && structAll.testBit 8 then 0
    else if structAll.testBit 15 then 6
    else 1
  else if format = hdmiTopbottom then hdmiSsVertical
  else hdmiSsNone

/-- The list of formats as the bit masks signal it. -/
def maskFormats (garbage : Nat → Nat) (structAll structBits vicPosBits : Nat) : List S3dFormat :=
  let formats := (List.range (hdmiSideBySideHalf + 1)).filter fun i => structBits.testBit i
  (List.range (countSetBits 16 structBits)).map fun i =>
    let format := formats[i]?.getD (garbage i)
    { format := format
      vicInfo := ((List.range 16).filter fun j =>
        structAll.testBit format && vicPosBits.testBit j).map fun j =>
          ⟨j, maskSubsampling structAll format⟩ }

/-- Set the subsampling of a position, at the end of the list if it is not there. -/
def setVicInfo (vicPos subsampling : Nat) (infos : List VicInfo) : List VicInfo :=
  match infos.findIdx? fun v => v.vicPos = vicPos with
  | some ix => infos.set ix ⟨vicPos, subsampling⟩
  | none => infos ++ [⟨vicPos, subsampling⟩]

/-- `update_s3d_format`. -/
def updateS3dFormat (edid : EdidT) (format vicPos subsampling : Nat) : EdidT :=
  if vicPos > edid.svdList.length then edid
  else
    match edid.s3dFormatList.findIdx? fun f => f.format = format with
    | none => edid
    | some ix =>
      { edid with
        s3dFormatList := edid.s3dFormatList.modify ix fun f =>
          { f with vicInfo := setVicInfo vicPos subsampling f.vicInfo } }

/-- The last loop of `edid_parse_s3d_support`.  The length has eight bits here. -/
def parseVicEntries (e : RawEdid) : Nat → Nat → Nat → EdidT → Except Stop EdidT
  | 0, _, _, _ => .error .outOfSteps
  | fuel + 1, off, len, edid =>
    if 0 < len then do
      let val ← readEdid e off
      let vicPos := (val &&& 0xF0) >>> 4
      let format := val &&& 0x0F
      if hdmiSideBySideHalf ≤ format then
        let detail ← readEdid e (off + 1)
        let edid := updateS3dFormat edid format vicPos ((detail &&& 0xF0) >>> 4)
        parseVicEntries e fuel (off + 2) ((len + 254) % 256) edid
      else
        let subsampling := if format = hdmiTopbottom then hdmiSsVertical else hdmiSsNone
        let edid := updateS3dFormat edid format vicPos subsampling
        parseVicEntries e fuel (off + 1) ((len + 255) % 256) edid
    else pure edid

/-- A mask of two bytes. -/
def readMask (e : RawEdid) (off : Nat) : Except Stop Nat := do
  let hi ← readEdid e off
  let lo ← readEdid e (off + 1)
  pure (hi <<< 8 ||| lo)

/-- The part of `edid_parse_s3d_support` after the masks were read. -/
def parseFormats (fuel : Nat) (garbage : Nat → Nat) (e : RawEdid) (edid : EdidT)
    (structAll vicPosBits off len : Nat) : Except Stop EdidT := do
  let structBits ← setS3dFormatBits e len off (structAll &&& 0x7FFF)
  let formats := maskFormats garbage structAll structBits vicPosBits
  parseVicEntries e fuel off len { edid with s3dFormatList := formats }

/-- The part of `edid_parse_s3d_support` from the byte with `3D_Present` on. -/
def parse3d (fuel : Nat) (garbage : Nat → Nat) (e : RawEdid) (edid : EdidT) (off : Nat) :
    Except Stop EdidT := do
  let val ← readEdid e off
  if val &&& 0x80 = 0 then pure edid
  else
    let edid := { edid with s3dCapable := true }
    let multi := (val &&& 0x60) >>> 5
    let lens ← readEdid e (off + 1)
    let off := off + 2 + ((lens &&& 0xE0) >>> 5)
    let len := lens &&& 0x1F
    if multi = 1 then
      let structAll ← readMask e off
      parseFormats fuel garbage e edid structAll 0xFFFF (off + 2) ((len + 254) % 256)
    else if multi = 2 then
      let structAll ← readMask e off
      let vicPosBits ← readMask e (off + 2)
      parseFormats fuel garbage e edid structAll vicPosBits (off + 4) ((len + 252) % 256)
    else parseFormats fuel garbage e edid 0 0 off len

/-- `edid_parse_s3d_support`. -/
def edidParseS3dSupport (fuel : Nat) (garbage : Nat → Nat) (e : RawEdid) (edid : EdidT) :
    Except Stop EdidT := do
  match ← edidGetDatablockOffset fuel e .vendor with
  | none => pure edid
  | some off =>
    let val ← readEdid e (off + 8)
    if val &&& 0x20 = 0 then pure edid
    else
      let off := off + 9 + (if val &&& 0x80 ≠ 0 then 2 else 0) + if val &&& 0x40 ≠ 0 then 2 else 0
      parse3d fuel garbage e edid off

/-- `edid_parser_init`. -/
def edidParserInit (fuel : Nat) (garbage : Nat → Nat) (e : RawEdid) : Except Stop EdidT := do
  let svds ← edidParseSvds fuel e
  edidParseS3dSupport fuel garbage e ⟨false, [], svds⟩

/-! ## Accessors -/

/-- `edid_get_svd_list`. -/
def EdidT.getSvdList (edid : EdidT) : List Svd × Nat := (edid.svdList, edid.svdList.length)

/-- `edid_get_svd_descriptor`, and a read through the pointer it returns. -/
def EdidT.getSvdDescriptor (edid : EdidT) (vicPos : Nat) : Except Stop (Option Svd) :=
  if vicPos > edid.svdList.length then .ok none
  else
    match edid.svdList[vicPos]? with
    | some svd => .ok (some svd)
    | none => .error (.fault (.svdList vicPos))

end Solana.Edid
