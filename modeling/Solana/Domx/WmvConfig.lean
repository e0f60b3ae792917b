import Solana.Lib.Words
import Mathlib.Data.List.Range

/-!
# The codec configuration of the WMV decoder

`PrearrageEmptyThisBuffer` of the video decoder proxy rewrites a buffer with the flag
`OMX_BUFFERFLAG_CODECCONFIG` before it is passed on: for WMV3 it puts a sequence layer header in
the place of the data, and for VC-1 it skips the first 52 bytes.  It takes the picture size, the
compression and the header's data from fixed positions, whatever the length of the data is.

`Accesses` records the positions that are read and written, from `pBuffer` on, and whether the
offset or the length that is passed on wraps around.  `nSize_CSD`, which nothing uses, is left out.
`rewriting_safe_iff`: all is well exactly if the data is long enough for its compression.
-/

namespace Solana.Wmv

open Words List

/-! ## The function -/

/-- `OMX_BUFFERHEADERTYPE`, with the memory from `pBuffer` on. -/
structure Header where
  mem : ℕ → UInt8
  nAllocLen : ℕ
  nOffset : ℕ
  nFilledLen : ℕ

/-- What is done to the memory, and whether the new offset or length of the header wraps around. -/
structure Accesses where
  reads : List ℕ
  writes : List ℕ
  wraps : Bool

/-- `VIDDEC_MAKEFOURCC`. -/
def makeFourcc (ch0 ch1 ch2 ch3 : Char) : ℕ :=
  ch0.toNat ||| ch1.toNat <<< 8 ||| ch2.toNat <<< 16 ||| ch3.toNat <<< 24

/-- `FOURCC_WMV3`. -/
def fourccWmv3 : ℕ := makeFourcc 'W' 'M' 'V' '3'

/-- `FOURCC_WVC1`. -/
def fourccWvc1 : ℕ := makeFourcc 'W' 'V' 'C' '1'

/-- `CSD_POSITION`. -/
def csdPosition : ℕ := 51

/-- `VIDDEC_WMV_RCV_struct`, as the seven words that it takes in memory. -/
def rcvStruct (nStructData nVertSize nHorizSize : ℕ) : List ℕ :=
  [0xc5FFFFFF, 0x04, nStructData, nVertSize, nHorizSize, 0x0c, 0x00002a9f]

/-- `sizeof(VIDDEC_WMV_RCV_struct)`. -/
def rcvSize : ℕ := 28

/-- What the function finds: the flag, the role in `compRole`, which is whatever the memory holds if
`PROXY_GetParameter` fails, and whether `assert` is compiled in. -/
structure Env where
  codecConfig : Bool
  roleIsWmv : Bool
  asserts : Bool

/-- `PrearrageEmptyThisBuffer` up to the call of `PROXY_EmptyThisBuffer`, or up to an assertion that
fails. -/
def prearrageEmptyThisBuffer (env : Env) (h : Header) : Header × Accesses :=
  if env.codecConfig && env.roleIsWmv then
    let nWidth := load h.mem 15 4
    let nHeight := load h.mem 19 4
    let nActualCompression := load h.mem 27 4
    let reads := List.range' 15 8 ++ List.range' 27 4
    if nActualCompression = fourccWmv3 then
      let rcv := rcvStruct (load h.mem csdPosition 4) nHeight nWidth
      let reads := reads ++ List.range' csdPosition 4
      if env.asserts && !decide (h.nFilledLen < h.nAllocLen) then (h, ⟨reads, [], false⟩)
      else
        ({ h with
            nFilledLen := rcvSize
            mem := store h.mem 0 (fun k => byteOf (rcv.getD (k / 4) 0) (k % 4)) rcvSize },
          ⟨reads, List.range' 0 rcvSize, false⟩)
    else if nActualCompression = fourccWvc1 then
      ({ h with
          nOffset := (h.nOffset + 52) % 2 ^ 32
          nFilledLen := (h.nFilledLen + 2 ^ 32 - 52) % 2 ^ 32 },
        ⟨reads, [], decide (2 ^ 32 ≤ h.nOffset + 52 ∨ h.nFilledLen < 52)⟩)
    else (h, ⟨reads, [], false⟩)
  else (h, ⟨[], [], false⟩)

/-! ## Safety -/

/-- The bytes that are read are filled, those that are written are allocated, and the data that is
left lies in the buffer, with no operation that wraps around. -/
structure Safe (h : Header) (r : Header × Accesses) : Prop where
  reads : ∀ p ∈ r.2.reads, p < h.nFilledLen
  writes : ∀ p ∈ r.2.writes, p < h.nAllocLen
  wraps : r.2.wraps = false
  fits : r.1.nOffset + r.1.nFilledLen ≤ h.nAllocLen

/-- The data is long enough for what is taken from it: up to the compression, for WMV3 up to the
first word of the codec specific data, and for VC-1 the bytes that are skipped. -/
def LongEnough (h : Header) : Prop :=
  31 ≤ h.nFilledLen ∧ (load h.mem 27 4 = fourccWmv3 → 55 ≤ h.nFilledLen) ∧
    (load h.mem 27 4 = fourccWvc1 → 52 ≤ h.nFilledLen)

lemma forall_range'_lt {pos n len : ℕ} :
    (∀ p ∈ range' pos (n + 1), p < len) ↔ pos + n < len := by
  simp only [mem_range'_1]
  exact ⟨fun h => h _ ⟨by omega, by omega⟩, fun h p hp => by omega⟩

lemma forall_reads_lt {len : ℕ} :
    (∀ p ∈ range' 15 8 ++ range' 27 4, p < len) ↔ 31 ≤ len := by
  rw [forall_mem_append, forall_range'_lt, forall_range'_lt]
  omega

/-- **When rewriting is safe.**  For every header whose data lies in its buffer, exactly if the
function leaves it alone or the data is long enough. -/
theorem rewriting_safe_iff {h : Header} (hfits : h.nOffset + h.nFilledLen ≤ h.nAllocLen)
    (halloc : h.nAllocLen < 2 ^ 32) (env : Env) : Safe h (prearrageEmptyThisBuffer env h) ↔
      ((env.codecConfig && env.roleIsWmv) = true → LongEnough h) := by
  unfold prearrageEmptyThisBuffer
  by_cases hwmv : (env.codecConfig && env.roleIsWmv) = true
  swap
  · rw [if_neg hwmv]
    exact iff_of_true ⟨nofun, nofun, rfl, hfits⟩ fun h => absurd h hwmv
  rw [if_pos hwmv, imp_iff_right hwmv]
  by_cases h3 : load h.mem 27 4 = fourccWmv3
  · -- the four bytes after the position of the codec specific data are read as well
    have hne : fourccWmv3 ≠ fourccWvc1 := by decide
    have hreads : (∀ p ∈ range' 15 8 ++ range' 27 4 ++ range' csdPosition 4,
        p < h.nFilledLen) ↔ LongEnough h := by
      rw [forall_mem_append, forall_reads_lt, forall_range'_lt, LongEnough, h3]
      simp only [csdPosition, forall_const, hne, false_imp_iff, and_true]
      omega
    simp only [if_pos h3]
    refine ⟨fun hsafe => hreads.mp ?_, fun hlong => ?_⟩
    · split_ifs at hsafe <;> exact hsafe.reads
    · have hlen := hlong.2.1 h3
      split_ifs
      · exact ⟨hreads.mpr hlong, nofun, rfl, hfits⟩
      · refine ⟨hreads.mpr hlong, ?_, rfl, ?_⟩
        · exact forall_range'_lt.mpr (show 0 + 27 < h.nAllocLen by omega)
        · simp only [rcvSize]
          omega
  simp only [if_neg h3]
  by_cases h1 : load h.mem 27 4 = fourccWvc1
  · rw [if_pos h1]
    constructor
    · intro hsafe
      have hwraps := of_decide_eq_false hsafe.wraps
      exact ⟨forall_reads_lt.mp hsafe.reads, fun h => absurd h h3, fun _ => by omega⟩
    · intro hlong
      have hlen := hlong.2.2 h1
      refine ⟨forall_reads_lt.mpr hlong.1, nofun, decide_eq_false (by omega), ?_⟩
      simp only
      omega
  · rw [if_neg h1]
    exact ⟨fun hsafe =>
        ⟨forall_reads_lt.mp hsafe.reads, fun h => absurd h h3, fun h => absurd h h1⟩,
      fun hlong => ⟨forall_reads_lt.mpr hlong.1, nofun, rfl, hfits⟩⟩

/-- A buffer of 100 bytes with some data for a compression. -/
def sampleHeader (ch0 ch1 ch2 ch3 : Char) (nFilledLen : ℕ) : Header where
  mem := store (fun _ => 0) 27 (byteOf (makeFourcc ch0 ch1 ch2 ch3)) 4
  nAllocLen := 100
  nOffset := 0
  nFilledLen := nFilledLen

/-- A WMV3 buffer with all of the codec specific data. -/
theorem rewriting_safe_sample : Safe (sampleHeader 'W' 'M' 'V' '3' 55)
      (prearrageEmptyThisBuffer ⟨true, true, true⟩ (sampleHeader 'W' 'M' 'V' '3' 55)) :=
  (rewriting_safe_iff (by decide) (by decide) _).mpr fun _ => ⟨by decide, by decide, by decide⟩

/-- The length of a VC-1 buffer with 40 bytes wraps around. -/
theorem short_buffer_wraps : ¬Safe (sampleHeader 'W' 'V' 'C' '1' 40)
        (prearrageEmptyThisBuffer ⟨true, true, true⟩ (sampleHeader 'W' 'V' 'C' '1' 40)) ∧
      (prearrageEmptyThisBuffer ⟨true, true, true⟩
        (sampleHeader 'W' 'V' 'C' '1' 40)).1.nFilledLen = 4294967284 :=
  ⟨fun h => absurd h.wraps (by decide), by decide⟩

end Solana.Wmv
