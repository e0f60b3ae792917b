import Solana.Lib.Words
import Solana.Rpc.Listener

/-!
# The packets of the parameter and configuration stubs

`RPC_SetParameter`, `RPC_GetParameter`, `RPC_SetConfig` and `RPC_GetConfig` send the structure of
the caller in a packet of `RPC_PACKET_SIZE` bytes.  Behind the header of the packet stand whether a
buffer in the structure has to be mapped, the offset of the field with the buffer, the component,
the index and the structure itself.  Each field is written at a running position; the offset is
computed apart from it, from the sizes of the fields before the structure.

How much is copied is what the caller's structure says at its start, which nobody checks
(`structure_behind_packet`).  `RPC_SetParameter` leaves out the first field when the number of
buffers is neither one nor two, so that all the other fields move up.  `packet_sound_iff` says when
everything is written inside the packet and the offset is where the field was written.
-/

namespace Solana.Rpc

open Words

/-! ## Packets -/

/-- `RPC_PACKET_SIZE`. -/
def rpcPacketSize : Nat := 300

/-- The size of the header of a packet, `struct omx_packet`. -/
def packetHeaderSize : Nat := 20

/-- A packet that is being filled: the memory from its start on, what has been written, as positions
and lengths, and `nPos`, the position behind the header for the next field. -/
structure Packet where
  mem : Nat → UInt8
  writes : List (Nat × Nat)
  nPos : Nat

/-- Write at a position of the packet. -/
def Packet.write (p : Packet) (pos : Nat) (src : Nat → UInt8) (n : Nat) : Packet :=
  { p with mem := store p.mem pos src n, writes := (pos, n) :: p.writes }

/-- `RPC_SETFIELDCOPYGEN`. -/
def Packet.setFieldCopyGen (p : Packet) (src : Nat → UInt8) (n : Nat) : Packet :=
  { p.write (packetHeaderSize + p.nPos) src n with nPos := p.nPos + n }

/-- `RPC_SETFIELDVALUE` for the types of four bytes. -/
def Packet.setFieldValue (p : Packet) (value : Nat) : Packet := p.setFieldCopyGen (byteOf value) 4

/-- `RPC_getPacket` and `RPC_initPacket`. -/
def Packet.init (nFxnIdx : Nat) : Packet :=
  let p : Packet := ⟨store (fun _ => 0) 0 (fun _ => 0) rpcPacketSize, [(0, rpcPacketSize)], 0⟩
  let p := p.write 0 (byteOf 0x100) 2
  let p := p.write 2 (byteOf 0) 2
  let p := p.write 4 (byteOf 0x8000) 4
  let p := p.write 8 (byteOf (nFxnIdx ||| 0x80000000)) 4
  let p := p.write 12 (byteOf 0) 4
  p.write 16 (byteOf rpcPacketSize) 4

/-! ## The stubs -/

/-- The arguments: the handle of the component, the index, the pointers to the structure and to the
field with the buffer, and the bytes of the structure. -/
structure StubArgs where
  hComp : BitVec 32
  nIndex : BitVec 32
  pStruct : BitVec 32
  pLocBufNeedMap : BitVec 32
  bytes : Nat → UInt8

/-- `RPC_UTIL_GETSTRUCTSIZE`. -/
def StubArgs.structSize (a : StubArgs) : Nat := load a.bytes 0 4

/-- The position of the buffer in the structure, if there is one: the difference of the pointers,
which is signed, is not negative. -/
def StubArgs.locBuf (a : StubArgs) : Option Nat :=
  if a.pLocBufNeedMap ≠ 0 ∧ 0 ≤ (a.pLocBufNeedMap - a.pStruct).toInt then
    some (a.pLocBufNeedMap - a.pStruct).toNat
  else none

/-- `nOffset` for a buffer at a position: the sizes of the four fields before the structure are
added. -/
def bufferOffset (pos : Nat) : Nat := pos + 4 + 4 + 4 + 4

/-- The three fields before the structure. -/
def Packet.fields (p : Packet) (nOffset : Nat) (a : StubArgs) : Packet :=
  ((p.setFieldValue nOffset).setFieldValue a.hComp.toNat).setFieldValue a.nIndex.toNat

/-- The fields before the structure, as three of the stubs write them: `RPC_OMX_MAP_INFO_ONE_BUF` or
`RPC_OMX_MAP_INFO_NONE` first. -/
def oneBufferFields (nFxnIdx : Nat) (a : StubArgs) : Packet :=
  match a.locBuf with
  | some pos => ((Packet.init nFxnIdx).setFieldValue 1).fields (bufferOffset pos) a
  | none => ((Packet.init nFxnIdx).setFieldValue 0).fields 0 a

/-- The fields before the structure in `RPC_GetParameter`. -/
def rpcGetParameterFields (a : StubArgs) : Packet := oneBufferFields 2 a

/-- The fields before the structure in `RPC_SetConfig`. -/
def rpcSetConfigFields (a : StubArgs) : Packet := oneBufferFields 5 a

/-- The fields before the structure in `RPC_GetConfig`. -/
def rpcGetConfigFields (a : StubArgs) : Packet := oneBufferFields 6 a

/-- The fields before the structure in `RPC_SetParameter`.  With another number of buffers than one
or two nothing is written for it. -/
def rpcSetParameterFields (nNumOfLocalBuf : Nat) (a : StubArgs) : Packet :=
  let p := Packet.init 1
  match a.locBuf with
  | some pos =>
    let p := if nNumOfLocalBuf = 1 then p.setFieldValue 1
      else if nNumOfLocalBuf = 2 then p.setFieldValue 2
      else p
    p.fields (bufferOffset pos) a
  | none => (p.setFieldValue 0).fields 0 a

/-- The stubs. -/
inductive Stub
  | setParameter (nNumOfLocalBuf : Nat)
  | getParameter
  | setConfig
  | getConfig

/-- The fields before the structure. -/
def Stub.fields (a : StubArgs) : Stub → Packet
  | .setParameter nNumOfLocalBuf => rpcSetParameterFields nNumOfLocalBuf a
  | .getParameter => rpcGetParameterFields a
  | .setConfig => rpcSetConfigFields a
  | .getConfig => rpcGetConfigFields a

/-- The packet that a stub sends. -/
def Stub.packet (stub : Stub) (a : StubArgs) : Packet :=
  (stub.fields a).setFieldCopyGen a.bytes a.structSize

/-- The first field of a packet, which announces a buffer unless it is `RPC_OMX_MAP_INFO_NONE`. -/
def Packet.mapInfo (p : Packet) : Nat := load p.mem packetHeaderSize 4

/-- The second field of a packet. -/
def Packet.offset (p : Packet) : Nat := load p.mem (packetHeaderSize + 4) 4

/-- A stub writes inside the packet only, and the offset of a buffer that it announces is the
position to which the field with the buffer was copied. -/
structure Stub.Sound (stub : Stub) (a : StubArgs) : Prop where
  inside : ∀ w ∈ (stub.packet a).writes, w.1 + w.2 ≤ rpcPacketSize
  offset : (stub.packet a).mapInfo ≠ 0 → ∃ pos, a.locBuf = some pos ∧ pos + 4 ≤ a.structSize ∧
    (stub.packet a).offset = (stub.fields a).nPos + pos

/-! ## What is written where -/

variable {p : Packet} {a : StubArgs}

/-- Everything was written inside the packet. -/
def Packet.Inside (p : Packet) : Prop := ∀ w ∈ p.writes, w.1 + w.2 ≤ rpcPacketSize

open Packet

lemma inside_setFieldCopyGen {src : Nat → UInt8} {n : Nat} : (p.setFieldCopyGen src n).Inside ↔
      packetHeaderSize + p.nPos + n ≤ rpcPacketSize ∧ p.Inside := by
  simp [Packet.Inside, setFieldCopyGen, write]

lemma load_setFieldCopyGen {src : Nat → UInt8} {n pos w : Nat}
    (h : pos + w ≤ packetHeaderSize + p.nPos) :
    load (p.setFieldCopyGen src n).mem pos w = load p.mem pos w :=
  load_store_of_disjoint (.inl h)

lemma load_setFieldValue (p : Packet) (value : Nat) :
    load (p.setFieldValue value).mem (packetHeaderSize + p.nPos) 4 = value % 2 ^ 32 :=
  load_store_byteOf

@[simp] lemma setFieldValue_nPos (p : Packet) (value : Nat) :
    (p.setFieldValue value).nPos = p.nPos + 4 := rfl

@[simp] lemma fields_nPos (p : Packet) (nOffset : Nat) (a : StubArgs) :
    (p.fields nOffset a).nPos = p.nPos + 12 := rfl

@[simp] lemma init_nPos (nFxnIdx : Nat) : (init nFxnIdx).nPos = 0 := rfl

lemma init_inside (nFxnIdx : Nat) : (init nFxnIdx).Inside := by
  simp [Packet.Inside, init, write, rpcPacketSize]

lemma inside_setFieldValue {value : Nat} (hp : p.Inside) (hpos : p.nPos ≤ 16) :
    (p.setFieldValue value).Inside := by
  refine inside_setFieldCopyGen.mpr ⟨?_, hp⟩
  unfold packetHeaderSize rpcPacketSize
  omega

lemma inside_fields {nOffset : Nat} (hp : p.Inside) (hpos : p.nPos ≤ 4) :
    (p.fields nOffset a).Inside := by
  have h1 : (p.setFieldValue nOffset).Inside := inside_setFieldValue hp (by omega)
  have h2 : ((p.setFieldValue nOffset).setFieldValue a.hComp.toNat).Inside :=
    inside_setFieldValue h1 (by simp only [setFieldValue_nPos]; omega)
  exact inside_setFieldValue h2 (by simp only [setFieldValue_nPos]; omega)

/-- The three fields leave what is before them, and the first two can be read back. -/
lemma load_fields (p : Packet) (nOffset : Nat) (a : StubArgs) :
    load (p.fields nOffset a).mem (packetHeaderSize + p.nPos) 4 = nOffset % 2 ^ 32 ∧
      load (p.fields nOffset a).mem (packetHeaderSize + p.nPos + 4) 4 = a.hComp.toNat ∧
      ∀ pos w, pos + w ≤ packetHeaderSize + p.nPos →
        load (p.fields nOffset a).mem pos w = load p.mem pos w := by
  have hhandle : a.hComp.toNat % 2 ^ 32 = a.hComp.toNat := Nat.mod_eq_of_lt a.hComp.isLt
  refine ⟨?_, ?_, fun pos w h => ?_⟩
  · unfold fields
    rw [setFieldValue, load_setFieldCopyGen (by simp only [setFieldValue_nPos]; omega),
      setFieldValue, load_setFieldCopyGen (by simp only [setFieldValue_nPos]; omega)]
    exact load_setFieldValue p nOffset
  · unfold fields
    rw [setFieldValue, load_setFieldCopyGen (by simp only [setFieldValue_nPos]; omega)]
    exact (load_setFieldValue (p.setFieldValue nOffset) a.hComp.toNat).trans hhandle
  · unfold fields
    rw [setFieldValue, load_setFieldCopyGen (by simp only [setFieldValue_nPos]; omega),
      setFieldValue, load_setFieldCopyGen (by simp only [setFieldValue_nPos]; omega),
      setFieldValue, load_setFieldCopyGen h]

/-- The bytes behind the fields leave the first two alone. -/
lemma packet_eq (hp : p.Inside) (hpos : p.nPos ≤ 4) {nOffset : Nat} {q : Packet}
    (hq : (p.fields nOffset a).setFieldCopyGen a.bytes a.structSize = q) :
    (q.Inside ↔ a.structSize ≤ 268 - p.nPos) ∧ q.mapInfo = (p.fields nOffset a).mapInfo ∧
      q.offset = (p.fields nOffset a).offset := by
  subst hq
  refine ⟨?_, load_setFieldCopyGen ?_, load_setFieldCopyGen ?_⟩
  · rw [inside_setFieldCopyGen, and_iff_left (inside_fields hp (by omega)), fields_nPos]
    unfold packetHeaderSize rpcPacketSize
    omega
  all_goals
    rw [fields_nPos]
    omega

/-- A packet whose first field was written. -/
lemma packet_of_mapped (hp : p.Inside) (hpos : p.nPos = 4) (nOffset : Nat) {q : Packet}
    (hq : (p.fields nOffset a).setFieldCopyGen a.bytes a.structSize = q) :
    (q.Inside ↔ a.structSize ≤ 264) ∧ q.mapInfo = p.mapInfo ∧ q.offset = nOffset % 2 ^ 32 := by
  obtain ⟨hoffset, -, hbefore⟩ := load_fields p nOffset a
  obtain ⟨hin, hmap, hoff⟩ := packet_eq hp (by omega) hq
  rw [hpos] at hoffset hbefore hin
  exact ⟨hin, hmap.trans (hbefore _ _ le_rfl), hoff.trans hoffset⟩

/-- A packet without the first field: the second one stands in its place. -/
lemma packet_of_shifted (hp : p.Inside) (hpos : p.nPos = 0) (nOffset : Nat) {q : Packet}
    (hq : (p.fields nOffset a).setFieldCopyGen a.bytes a.structSize = q) :
    (q.Inside ↔ a.structSize ≤ 268) ∧ q.mapInfo = nOffset % 2 ^ 32 ∧ q.offset = a.hComp.toNat := by
  obtain ⟨hoffset, hhandle, -⟩ := load_fields p nOffset a
  obtain ⟨hin, hmap, hoff⟩ := packet_eq hp (by omega) hq
  rw [hpos] at hoffset hhandle hin
  exact ⟨hin, hmap.trans hoffset, hoff.trans hhandle⟩

lemma locBuf_lt {pos : Nat} (h : a.locBuf = some pos) : pos < 2 ^ 31 := by
  obtain ⟨⟨-, hsign⟩, hpos⟩ := Option.ite_none_right_eq_some.mp h
  obtain rfl := Option.some.inj hpos
  have hlt := (a.pLocBufNeedMap - a.pStruct).isLt
  rw [BitVec.toInt_eq_toNat_cond] at hsign
  split_ifs at hsign <;> omega

/-! ## The stubs -/

/-- Does the stub write the first field for a local buffer? -/
def Stub.announces : Stub → Bool
  | .setParameter nNumOfLocalBuf => nNumOfLocalBuf = 1 || nNumOfLocalBuf = 2
  | .getParameter => true
  | .setConfig => true
  | .getConfig => true

/-- The packets that the stubs have before the structure: for no local buffer, for one that is
announced, and for one when the first field is left out. -/
inductive FieldsFor (a : StubArgs) : Bool → Packet → Prop
  | unmapped {announces : Bool} (nFxnIdx : Nat) (h : a.locBuf = none) :
      FieldsFor a announces (((Packet.init nFxnIdx).setFieldValue 0).fields 0 a)
  | mapped {pos info : Nat} (nFxnIdx : Nat) (h : a.locBuf = some pos)
      (hinfo : info = 1 ∨ info = 2) :
      FieldsFor a true (((Packet.init nFxnIdx).setFieldValue info).fields (bufferOffset pos) a)
  | shifted {pos : Nat} (nFxnIdx : Nat) (h : a.locBuf = some pos) :
      FieldsFor a false ((Packet.init nFxnIdx).fields (bufferOffset pos) a)

lemma fieldsFor_oneBuffer (nFxnIdx : Nat) (a : StubArgs) :
    FieldsFor a true (oneBufferFields nFxnIdx a) := by
  unfold oneBufferFields
  cases hloc : a.locBuf with
  | none => exact .unmapped _ hloc
  | some pos => exact .mapped _ hloc (.inl rfl)

lemma Stub.fieldsFor (stub : Stub) (a : StubArgs) : FieldsFor a stub.announces (stub.fields a) := by
  cases stub with
  | setParameter n =>
    unfold Stub.fields rpcSetParameterFields Stub.announces
    cases hloc : a.locBuf with
    | none => exact .unmapped _ hloc
    | some pos =>
      by_cases h1 : n = 1
      · simpa [h1] using FieldsFor.mapped 1 hloc (.inl rfl)
      · by_cases h2 : n = 2
        · simpa [h2] using FieldsFor.mapped 1 hloc (.inr rfl)
        · simpa [h1, h2] using FieldsFor.shifted 1 hloc
  | getParameter => exact fieldsFor_oneBuffer 2 a
  | setConfig => exact fieldsFor_oneBuffer 5 a
  | getConfig => exact fieldsFor_oneBuffer 6 a

/-- What a packet has to be like: the structure fits in behind the fields, and a local buffer lies
in the part of it that is copied.  Without the first field the handle of the component would have to
be the offset. -/
def Stub.Fits (stub : Stub) (a : StubArgs) : Prop :=
  match a.locBuf with
  | none => a.structSize ≤ 264
  | some pos => pos + 4 ≤ a.structSize ∧
      if stub.announces then a.structSize ≤ 264
      else a.structSize ≤ 268 ∧ a.hComp.toNat = 12 + pos

lemma mapInfo_setFieldValue (nFxnIdx value : Nat) :
    ((init nFxnIdx).setFieldValue value).mapInfo = value % 2 ^ 32 :=
  load_setFieldValue (init nFxnIdx) value

lemma init_setFieldValue_inside (nFxnIdx value : Nat) :
    ((init nFxnIdx).setFieldValue value).Inside :=
  inside_setFieldValue (init_inside nFxnIdx) (by simp)

lemma bufferOffset_mod {a : StubArgs} {pos : Nat} (hloc : a.locBuf = some pos) :
    bufferOffset pos % 2 ^ 32 = 16 + pos := by
  have hlt := locBuf_lt hloc
  unfold bufferOffset
  omega

/-- **A stub writes inside the packet, and the offset of a buffer is where it was copied**, exactly
if what it sends fits. -/
theorem packet_sound_iff (stub : Stub) (a : StubArgs) : stub.Sound a ↔ stub.Fits a := by
  have hsound : stub.Sound a ↔ (stub.packet a).Inside ∧ ((stub.packet a).mapInfo ≠ 0 →
      ∃ pos, a.locBuf = some pos ∧ pos + 4 ≤ a.structSize ∧
        (stub.packet a).offset = (stub.fields a).nPos + pos) :=
    ⟨fun h => ⟨h.inside, h.offset⟩, fun h => ⟨h.1, h.2⟩⟩
  have hfields := stub.fieldsFor a
  rw [hsound]
  unfold Stub.Fits Stub.packet
  generalize stub.fields a = q at hfields
  generalize stub.announces = announces at hfields
  cases hfields with
  | unmapped nFxnIdx hloc =>
    obtain ⟨hin, hinfo, -⟩ := packet_of_mapped (init_setFieldValue_inside nFxnIdx 0) rfl 0
      (@rfl _ (setFieldCopyGen _ a.bytes a.structSize))
    rw [mapInfo_setFieldValue] at hinfo
    simp [hloc, hin, hinfo]
  | @mapped pos info nFxnIdx hloc hone =>
    obtain ⟨hin, hinfo, hoffset⟩ := packet_of_mapped (init_setFieldValue_inside nFxnIdx info) rfl
      (bufferOffset pos) (@rfl _ (setFieldCopyGen _ a.bytes a.structSize))
    rw [mapInfo_setFieldValue] at hinfo
    have hmap := hinfo.trans_ne (show info % 2 ^ 32 ≠ 0 by omega)
    simp only [hloc, hin, if_true]
    constructor
    · rintro ⟨hsize, h⟩
      obtain ⟨pos', hpos', hle, -⟩ := h hmap
      obtain rfl := Option.some.inj hpos'
      exact ⟨hle, hsize⟩
    · rintro ⟨hle, hsize⟩
      exact ⟨hsize, fun _ => ⟨pos, rfl, hle, hoffset.trans (bufferOffset_mod hloc)⟩⟩
  | @shifted pos nFxnIdx hloc =>
    obtain ⟨hin, hinfo, hoffset⟩ := packet_of_shifted (init_inside nFxnIdx) rfl
      (bufferOffset pos) (@rfl _ (setFieldCopyGen _ a.bytes a.structSize))
    have hmap := hinfo.trans_ne (show bufferOffset pos % 2 ^ 32 ≠ 0 by
      rw [bufferOffset_mod hloc]
      omega)
    simp only [hloc, hin, Bool.false_eq_true, if_false]
    constructor
    · rintro ⟨hsize, h⟩
      obtain ⟨pos', hpos', hle, hcomp⟩ := h hmap
      obtain rfl := Option.some.inj hpos'
      exact ⟨hle, hsize, hoffset.symm.trans hcomp⟩
    · rintro ⟨hle, hsize, hcomp⟩
      exact ⟨hsize, fun _ => ⟨pos, rfl, hle, hoffset.trans hcomp⟩⟩

/-- A structure that says of itself that it has a certain number of bytes. -/
def sizedStruct (n : Nat) : Nat → UInt8 := byteOf n

/-- A structure of 265 bytes is written behind the end of the packet.  And with three local buffers
the packet announces a buffer whose offset is the handle of the component. -/
theorem structure_behind_packet :
    (Stub.getConfig.packet ⟨1, 2, 4096, 0, sizedStruct 265⟩).writes.head? = some (36, 265) ∧
      36 + 265 > rpcPacketSize ∧
    ((Stub.setParameter 3).packet ⟨77, 2, 4096, 4104, sizedStruct 64⟩).mapInfo = 24 ∧
      ((Stub.setParameter 3).packet ⟨77, 2, 4096, 4104, sizedStruct 64⟩).offset = 77 ∧
      ((Stub.setParameter 3).fields ⟨77, 2, 4096, 4104, sizedStruct 64⟩).nPos + 8 = 20 := by
  decide +kernel

end Solana.Rpc
