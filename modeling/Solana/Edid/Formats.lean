import Solana.Edid.Blocks
import Mathlib.Data.List.Nodup
import Mathlib.Data.List.Perm.Subperm

/-!
# The stereoscopic formats of an EDID

The 3D part of the vendor block signals formats in two ways: by a mask, of which bit 15 stands for
the same format as bit 8, and by entries for single video modes.  `Signalled` are the formats it
signals, read off the bytes.

`edid_parse_s3d_support` makes room for as many formats as there are bits, but it fills in only the
formats up to `HDMI_SIDE_BY_SIDE_HALF`: for each reserved format that is signalled there is an
entry of the list that holds what `malloc` has left there.  It also drops bit 15.
`formats_listed_iff` says for which EDIDs the list is the one it should be.
-/

namespace Solana.Edid

open Fallible S3dFormat List

variable {e : RawEdid} {off len fuel : Nat} {garbage : Nat → Nat} {edid edid' : EdidT}

/-! ## Counting bits -/

/-- The bits of a value below a bound. -/
def bitsBelow (n value : Nat) : List Nat := (List.range n).filter fun i => value.testBit i

lemma mem_bitsBelow {n value i : Nat} : i ∈ bitsBelow n value ↔ i < n ∧ value.testBit i = true := by
  simp [bitsBelow]

lemma lt_of_testBit {n value i : Nat} (hlt : value < 2 ^ n) (hi : value.testBit i = true) :
    i < n := by
  by_contra hge
  have hle : value < 2 ^ i := hlt.trans_le (Nat.pow_le_pow_right (by decide) (by omega))
  rw [Nat.testBit_lt_two_pow hle] at hi
  cases hi

lemma nodup_bitsBelow (n value : Nat) : (bitsBelow n value).Nodup :=
  nodup_range.filter _

/-- `value & (value - 1)` is the value without its lowest bit. -/
lemma exists_lowest_bit : ∀ {value : Nat}, value ≠ 0 → ∃ k, value.testBit k = true ∧
      ∀ i, (value &&& (value - 1)).testBit i = (value.testBit i && decide (i ≠ k)) := by
  intro value
  induction value using Nat.strongRecOn with
  | _ value ih =>
    intro hne
    obtain ⟨half, rfl | rfl⟩ : ∃ h, value = 2 * h ∨ value = 2 * h + 1 :=
      ⟨value / 2, by omega⟩
    · obtain ⟨k, hk, hrest⟩ := ih half (by omega) (by omega)
      refine ⟨k + 1, by rw [Nat.testBit_succ]; simpa using hk, fun i => ?_⟩
      rw [Nat.testBit_and]
      cases i with
      | zero => simp
      | succ i =>
        rw [Nat.testBit_succ, Nat.testBit_succ, show (2 * half - 1) / 2 = half - 1 by omega,
          show 2 * half / 2 = half by omega, ← Nat.testBit_and, hrest]
        simp
    · refine ⟨0, by simp, fun i => ?_⟩
      rw [Nat.testBit_and]
      cases i with
      | zero => simp
      | succ i =>
        rw [Nat.testBit_succ, Nat.testBit_succ, show (2 * half + 1 - 1) / 2 = half by omega,
          show (2 * half + 1) / 2 = half by omega]
        simp

lemma length_bitsBelow_clear {n value k : Nat} (hk : k < n) (hbit : value.testBit k = true)
    {value' : Nat} (h : ∀ i, value'.testBit i = (value.testBit i && decide (i ≠ k))) :
    (bitsBelow n value).length = (bitsBelow n value').length + 1 := by
  have heq : bitsBelow n value' = (bitsBelow n value).erase k := by
    rw [(nodup_bitsBelow n value).erase_eq_filter]
    unfold bitsBelow
    rw [filter_filter]
    refine filter_congr fun i _ => ?_
    rw [h, Bool.and_comm]
    simp [bne, Bool.beq_eq_decide_eq]
  have hmem : k ∈ bitsBelow n value := mem_bitsBelow.mpr ⟨hk, hbit⟩
  have hpos := length_pos_of_mem hmem
  rw [heq, length_erase_of_mem hmem]
  omega

lemma countSetBits_eq {n : Nat} : ∀ (turns value : Nat), value < 2 ^ n →
    (bitsBelow n value).length ≤ turns → countSetBits turns value = (bitsBelow n value).length
  | 0, value, _, hlen => (Nat.le_zero.mp hlen).symm
  | turns + 1, value, hlt, hlen => by
    unfold countSetBits
    by_cases hz : value = 0
    · simp [hz, bitsBelow]
    · obtain ⟨k, hk, hrest⟩ := exists_lowest_bit hz
      have hclear := length_bitsBelow_clear (lt_of_testBit hlt hk) hk hrest
      rw [if_neg hz, countSetBits_eq turns _ (Nat.and_le_left.trans_lt hlt) (by omega), hclear]

/-! ## The 3D part of the vendor block -/

/-- A format is that of an entry among those from an offset on. -/
inductive EntryFormat (e : RawEdid) : Nat → Nat → Nat → Prop
  | here {off len : Nat} : EntryFormat e off (len + 1) (byteAt e off &&& 0x0F)
  | short {off len f : Nat} (hs : ¬hdmiSideBySideHalf ≤ byteAt e off &&& 0x0F)
      (ht : EntryFormat e (off + 1) len f) : EntryFormat e off (len + 1) f
  | long {off len f : Nat} (hs : hdmiSideBySideHalf ≤ byteAt e off &&& 0x0F)
      (ht : EntryFormat e (off + 2) (len - 1) f) : EntryFormat e off (len + 1) f

/-- The masks of the 3D part, and where its entries are. -/
structure Part3d where
  structAll : Nat
  vicPosBits : Nat
  off : Nat
  len : Nat
  deriving DecidableEq

/-- The mask in two bytes. -/
def maskAt (e : RawEdid) (off : Nat) : Nat := byteAt e off <<< 8 ||| byteAt e (off + 1)

/-- The 3D part that starts at an offset. -/
def part3dAt (e : RawEdid) (off : Nat) : Part3d :=
  let multi := (byteAt e off &&& 0x60) >>> 5
  let start := off + 2 + ((byteAt e (off + 1) &&& 0xE0) >>> 5)
  let len := byteAt e (off + 1) &&& 0x1F
  if multi = 1 then ⟨maskAt e start, 0xFFFF, start + 2, (len + 254) % 256⟩
  else if multi = 2 then
    ⟨maskAt e start, maskAt e (start + 2), start + 4, (len + 252) % 256⟩
  else ⟨0, 0, start, len⟩

/-- The offset of the 3D part of a vendor block. -/
def offset3d (e : RawEdid) (w : Nat) : Nat :=
  w + 9 + (if byteAt e (w + 8) &&& 0x80 ≠ 0 then 2 else 0) +
    if byteAt e (w + 8) &&& 0x40 ≠ 0 then 2 else 0

/-- The 3D part of a vendor block, if it has one. -/
def part3d (e : RawEdid) (w : Nat) : Option Part3d :=
  if byteAt e (w + 8) &&& 0x20 = 0 then none
  else if byteAt e (offset3d e w) &&& 0x80 = 0 then none
  else some (part3dAt e (offset3d e w))

/-- The 3D part of an EDID. -/
def Has3d (e : RawEdid) (p : Part3d) : Prop :=
  ∃ w, Lookup e .vendor (some w) ∧ part3d e w = some p

/-- The formats that the 3D part signals. -/
def Part3d.Signals (e : RawEdid) (p : Part3d) (f : Nat) : Prop :=
  (f < 15 ∧ p.structAll.testBit f = true) ∨
    (f = hdmiSideBySideHalf ∧ p.structAll.testBit 15 = true) ∨ EntryFormat e p.off p.len f

/-- The formats that the EDID signals. -/
def Signalled (e : RawEdid) (f : Nat) : Prop := ∃ p, Has3d e p ∧ p.Signals e f

lemma Has3d.unique {p p' : Part3d} (h : Has3d e p) (h' : Has3d e p') : p = p' := by
  obtain ⟨w, hw, hp⟩ := h
  obtain ⟨w', hw', hp'⟩ := h'
  obtain rfl := Option.some.inj (hw.unique hw')
  exact Option.some.inj (hp.symm.trans hp')

lemma EntryFormat.lt {f : Nat} (h : EntryFormat e off len f) : f < 16 := by
  induction h with
  | here => exact Nat.and_le_right.trans_lt (by decide)
  | short _ _ ih => exact ih
  | long _ _ ih => exact ih

lemma entryFormat_succ {f : Nat} : EntryFormat e off (len + 1) f ↔ f = byteAt e off &&& 0x0F ∨
      if hdmiSideBySideHalf ≤ byteAt e off &&& 0x0F then EntryFormat e (off + 2) (len - 1) f
      else EntryFormat e (off + 1) len f := by
  constructor
  · intro h
    cases h with
    | here => exact Or.inl rfl
    | short hs ht => exact Or.inr (by rwa [if_neg hs])
    | long hs ht => exact Or.inr (by rwa [if_pos hs])
  · rintro (rfl | h)
    · exact .here
    · split_ifs at h with hs
      · exact .long hs h
      · exact .short hs h

lemma setS3dFormatBits_testBit : ∀ (len : Nat) {off bits b : Nat},
    setS3dFormatBits e len off bits = .ok b →
    ∀ i, b.testBit i = true ↔ bits.testBit i = true ∨ EntryFormat e off len i
  | 0, off, bits, b, h, i => by
    obtain rfl := Except.ok.inj h
    exact ⟨Or.inl, fun h => h.resolve_right nofun⟩
  | len + 1, off, bits, b, h, i => by
    have hoff : off < edidSize := by
      by_contra hge
      cases len <;>
        simp only [setS3dFormatBits, readEdid_of_not_lt hge, error_bind, reduceCtorEq] at h
    have hbit : (bits ||| 1 <<< (byteAt e off &&& 0x0F)).testBit i = true ↔
        bits.testBit i = true ∨ i = byteAt e off &&& 0x0F := by
      rw [Nat.testBit_or, Nat.one_shiftLeft, Nat.testBit_two_pow, Bool.or_eq_true,
        decide_eq_true_eq]
      exact or_congr_right eq_comm
    rw [setS3dFormatBits_succ hoff] at h
    rw [entryFormat_succ]
    split_ifs at h ⊢ with hs
    · rw [setS3dFormatBits_testBit (len - 1) h, hbit, or_assoc]
    · rw [setS3dFormatBits_testBit len h, hbit, or_assoc]

/-! ## The list before the entries -/

/-- The formats of the list. -/
def EdidT.formats (edid : EdidT) : List Nat := edid.s3dFormatList.map S3dFormat.format

/-- The positions of a format are those of video modes, and none is there twice. -/
def S3dFormat.Positions (f : S3dFormat) : Prop :=
  (f.vicInfo.map VicInfo.vicPos).Nodup ∧ ∀ v ∈ f.vicInfo, v.vicPos < 16

lemma maskFormats_positions (structAll structBits vicPosBits : Nat) :
    ∀ f ∈ maskFormats garbage structAll structBits vicPosBits, f.Positions := by
  intro f hf
  obtain ⟨i, -, rfl⟩ := mem_map.mp hf
  refine ⟨?_, fun v hv => ?_⟩
  · rw [map_map]
    exact List.Nodup.map (fun _ _ h => h) (nodup_range.filter _)
  · obtain ⟨j, hj, rfl⟩ := mem_map.mp hv
    exact mem_range.mp (mem_filter.mp hj).1

lemma maskFormats_formats (structAll structBits vicPosBits : Nat) :
    (maskFormats garbage structAll structBits vicPosBits).map format =
      (range (countSetBits 16 structBits)).map fun i =>
        (bitsBelow (hdmiSideBySideHalf + 1) structBits)[i]?.getD (garbage i) := by
  unfold maskFormats bitsBelow
  rw [map_map]
  rfl

/-- The bits of the formats that are filled in, and those that are not. -/
lemma length_bitsBelow_sixteen (bits : Nat) :
    (bitsBelow 16 bits).length = (bitsBelow (hdmiSideBySideHalf + 1) bits).length +
      ([9, 10, 11, 12, 13, 14, 15].filter fun i => bits.testBit i).length := by
  rw [← length_append, bitsBelow, bitsBelow, ← filter_append]
  rfl

lemma length_bitsBelow_le (n bits : Nat) : (bitsBelow n bits).length ≤ n :=
  (length_filter_le _ _).trans_eq length_range

lemma maskFormats_formats_of_le {bits : Nat} (hlt : bits < 2 ^ 16)
    (h : ∀ i, bits.testBit i = true → i ≤ hdmiSideBySideHalf) (structAll vicPosBits : Nat) :
    (maskFormats garbage structAll bits vicPosBits).map format =
      bitsBelow (hdmiSideBySideHalf + 1) bits := by
  have hnone : ([9, 10, 11, 12, 13, 14, 15].filter fun i => bits.testBit i) = [] := by
    refine filter_eq_nil_iff.mpr fun i hi hbit => ?_
    have hle := h i hbit
    have hall : ∀ i ∈ [9, 10, 11, 12, 13, 14, 15], ¬i ≤ hdmiSideBySideHalf := by decide
    exact hall i hi hle
  have hlen := length_bitsBelow_sixteen bits
  rw [hnone, length_nil, Nat.add_zero] at hlen
  rw [maskFormats_formats, countSetBits_eq 16 bits hlt (length_bitsBelow_le 16 bits), hlen]
  refine ext_getElem (by simp) fun i _ hi => ?_
  simp [getElem?_eq_getElem hi]

/-- With a reserved format, an entry of the list keeps what `malloc` has left there. -/
lemma exists_garbage_format (garbage : Nat → Nat) {bits f : Nat} (hlt : bits < 2 ^ 16)
    (hf : bits.testBit f = true) (hgt : hdmiSideBySideHalf < f) (structAll vicPosBits : Nat) :
    ∃ i, garbage i ∈ (maskFormats garbage structAll bits vicPosBits).map format := by
  have hf16 := lt_of_testBit hlt hf
  have hmem : f ∈ [9, 10, 11, 12, 13, 14, 15].filter fun i => bits.testBit i := by
    refine mem_filter.mpr ⟨?_, hf⟩
    have : hdmiSideBySideHalf = 8 := rfl
    simp only [mem_cons, not_mem_nil, or_false]
    omega
  have hlen := length_bitsBelow_sixteen bits
  have hpos := length_pos_of_mem hmem
  rw [maskFormats_formats, countSetBits_eq 16 bits hlt (length_bitsBelow_le 16 bits)]
  refine ⟨(bitsBelow (hdmiSideBySideHalf + 1) bits).length, mem_map.mpr
    ⟨(bitsBelow (hdmiSideBySideHalf + 1) bits).length, mem_range.mpr (by omega), ?_⟩⟩
  rw [getElem?_eq_none le_rfl, Option.getD_none]

/-! ## The entries -/

lemma setVicInfo_positions {vicPos subsampling : Nat} (hpos : vicPos < 16) {f : S3dFormat}
    (h : f.Positions) :
    S3dFormat.Positions { f with vicInfo := setVicInfo vicPos subsampling f.vicInfo } := by
  obtain ⟨hnodup, hlt⟩ := h
  unfold S3dFormat.Positions setVicInfo
  cases hix : f.vicInfo.findIdx? fun v => v.vicPos = vicPos with
  | none =>
    have hnot : ∀ v ∈ f.vicInfo, v.vicPos ≠ vicPos := by
      simpa using findIdx?_eq_none_iff.mp hix
    refine ⟨?_, fun v hv => ?_⟩
    · rw [map_append, nodup_append]
      refine ⟨hnodup, nodup_singleton _, fun a ha b hb heq => ?_⟩
      obtain ⟨v, hv, rfl⟩ := mem_map.mp ha
      exact hnot v hv (heq.trans (mem_singleton.mp hb))
    · rcases mem_append.mp hv with hv | hv
      · exact hlt v hv
      · rw [mem_singleton.mp hv]
        exact hpos
  | some ix =>
    obtain ⟨hixlt, heq, -⟩ := findIdx?_eq_some_iff_getElem.mp hix
    have heq : (f.vicInfo[ix]).vicPos = vicPos := by simpa using heq
    have hmap : (f.vicInfo.set ix ⟨vicPos, subsampling⟩).map VicInfo.vicPos =
        f.vicInfo.map VicInfo.vicPos := by
      rw [map_set]
      refine ext_getElem (by simp) fun i h1 h2 => ?_
      rw [getElem_set]
      split_ifs with hi
      · subst hi
        rw [getElem_map]
        exact heq.symm
      · rfl
    refine ⟨by rw [hmap]; exact hnodup, fun v hv => ?_⟩
    rcases mem_or_eq_of_mem_set hv with hv | rfl
    · exact hlt v hv
    · exact hpos

lemma updateS3dFormat_formats (edid : EdidT) (format vicPos subsampling : Nat) :
    (updateS3dFormat edid format vicPos subsampling).formats = edid.formats := by
  unfold updateS3dFormat EdidT.formats
  split_ifs
  · rfl
  · split
    · rfl
    · rename_i ix _
      refine ext_getElem (by simp) fun i h1 h2 => ?_
      simp only [getElem_map, getElem_modify]
      split_ifs <;> rfl

lemma updateS3dFormat_positions {edid : EdidT} (h : ∀ f ∈ edid.s3dFormatList, f.Positions)
    (format subsampling : Nat) {vicPos : Nat} (hpos : vicPos < 16) :
    ∀ f ∈ (updateS3dFormat edid format vicPos subsampling).s3dFormatList, f.Positions := by
  unfold updateS3dFormat
  split_ifs
  · exact h
  · split
    · exact h
    · rename_i ix _
      intro f hf
      obtain ⟨i, hi, rfl⟩ := getElem_of_mem hf
      simp only [getElem_modify]
      split_ifs
      · exact setVicInfo_positions hpos (h _ (getElem_mem _))
      · exact h _ (getElem_mem _)

lemma entry_position_lt (val : Nat) : (val &&& 0xF0) >>> 4 < 16 := by
  rw [Nat.shiftRight_eq_div_pow]
  have : val &&& 0xF0 ≤ 0xF0 := Nat.and_le_right
  omega

/-- **What the last loop does to the list.** -/
lemma parseVicEntries_ok : ∀ (fuel : Nat) {off len : Nat} {edid edid' : EdidT},
    parseVicEntries e fuel off len edid = .ok edid' → edid'.formats = edid.formats ∧
      ((∀ f ∈ edid.s3dFormatList, f.Positions) → ∀ f ∈ edid'.s3dFormatList, f.Positions) ∧
      ∀ edid₁, ∃ edid₁', parseVicEntries e fuel off len edid₁ = .ok edid₁'
  | 0, off, len, edid, edid', h => by cases h
  | fuel + 1, off, len, edid, edid', h => by
    unfold parseVicEntries at h ⊢
    by_cases hlen : 0 < len
    · simp only [if_pos hlen] at h ⊢
      obtain ⟨val, hval, h⟩ := exists_of_bind_eq_ok h
      simp only [hval, ok_bind]
      -- the rest of the loop, over the list with one position set
      have hrest : ∀ {off len format subsampling : Nat}, parseVicEntries e fuel off len
          (updateS3dFormat edid format ((val &&& 0xF0) >>> 4) subsampling) = .ok edid' → _ :=
        fun h => And.imp (fun hformats => hformats.trans (updateS3dFormat_formats _ _ _ _))
          (And.imp_left fun hpositions hp =>
            hpositions (updateS3dFormat_positions hp _ _ (entry_position_lt val)))
          (parseVicEntries_ok fuel h)
      split_ifs at h ⊢
      · obtain ⟨detail, hdetail, h⟩ := exists_of_bind_eq_ok h
        simp only [hdetail, ok_bind]
        exact (hrest h).imp_right (And.imp_right fun hrun edid₁ => hrun _)
      · exact (hrest h).imp_right (And.imp_right fun hrun edid₁ => hrun _)
      · exact (hrest h).imp_right (And.imp_right fun hrun edid₁ => hrun _)
    · simp only [if_neg hlen] at h ⊢
      obtain rfl := Except.ok.inj h
      exact ⟨rfl, fun hp => hp, fun edid₁ => ⟨edid₁, rfl⟩⟩

/-! ## The parser -/

lemma readEdid_eq_ok {val : Nat} (h : readEdid e off = .ok val) :
    off < edidSize ∧ val = byteAt e off := by
  by_cases hlt : off < edidSize
  · rw [readEdid_of_lt hlt] at h
    exact ⟨hlt, (Except.ok.inj h).symm⟩
  · rw [readEdid_of_not_lt hlt] at h
    cases h

lemma readMask_eq_ok {mask : Nat} (h : readMask e off = .ok mask) : mask = maskAt e off := by
  obtain ⟨hi, hhi, h⟩ := exists_of_bind_eq_ok h
  obtain ⟨lo, hlo, h⟩ := exists_of_bind_eq_ok h
  obtain rfl := Except.ok.inj h
  rw [(readEdid_eq_ok hhi).2, (readEdid_eq_ok hlo).2, maskAt]

/-- The formats are parsed from the 3D part. -/
def parsePart (fuel : Nat) (garbage : Nat → Nat) (e : RawEdid) (edid : EdidT) (p : Part3d) :
    Except Stop EdidT :=
  parseFormats fuel garbage e edid p.structAll p.vicPosBits p.off p.len

lemma parse3d_ok (h : parse3d fuel garbage e edid off = .ok edid') (garbage' : Nat → Nat) :
    parse3d fuel garbage' e edid off =
      if byteAt e off &&& 0x80 = 0 then .ok edid
      else parsePart fuel garbage' e { edid with s3dCapable := true } (part3dAt e off) := by
  unfold parse3d at h ⊢
  obtain ⟨val, hval, h⟩ := exists_of_bind_eq_ok h
  obtain ⟨-, rfl⟩ := readEdid_eq_ok hval
  simp only [hval, ok_bind]
  by_cases hp : byteAt e off &&& 0x80 = 0
  · rw [if_pos hp, if_pos hp, pure_eq_ok]
  simp only [if_neg hp] at h ⊢
  obtain ⟨lens, hlens, h⟩ := exists_of_bind_eq_ok h
  obtain ⟨-, rfl⟩ := readEdid_eq_ok hlens
  simp only [hlens, ok_bind]
  by_cases h1 : (byteAt e off &&& 0x60) >>> 5 = 1
  · simp only [part3dAt, parsePart, if_pos h1] at h ⊢
    obtain ⟨mask, hmask, h⟩ := exists_of_bind_eq_ok h
    obtain rfl := readMask_eq_ok hmask
    rw [hmask, ok_bind]
  by_cases h2 : (byteAt e off &&& 0x60) >>> 5 = 2
  · simp only [part3dAt, parsePart, if_neg h1, if_pos h2] at h ⊢
    obtain ⟨mask, hmask, h⟩ := exists_of_bind_eq_ok h
    obtain ⟨mask', hmask', h⟩ := exists_of_bind_eq_ok h
    obtain rfl := readMask_eq_ok hmask
    obtain rfl := readMask_eq_ok hmask'
    rw [hmask, ok_bind, hmask', ok_bind]
  · simp only [part3dAt, parsePart, if_neg h1, if_neg h2]

/-- **What a parse depends on.** -/
lemma edidParserInit_cases (h : edidParserInit fuel garbage e = .ok edid) : ∃ svds,
      ((∀ p, ¬Has3d e p) ∧ ∀ garbage', ∃ capable,
        edidParserInit fuel garbage' e = .ok ⟨capable, [], svds⟩) ∨ ∃ p, Has3d e p ∧ ∀ garbage',
        edidParserInit fuel garbage' e = parsePart fuel garbage' e ⟨true, [], svds⟩ p := by
  unfold edidParserInit at h ⊢
  obtain ⟨svds, hsvds, h⟩ := exists_of_bind_eq_ok h
  refine ⟨svds, ?_⟩
  simp only [hsvds, ok_bind]
  unfold edidParseS3dSupport at h ⊢
  obtain ⟨r, hr, h⟩ := exists_of_bind_eq_ok h
  have hl : Lookup e .vendor r := by
    rcases edidGetDatablockOffset_sound fuel e .vendor with hout | ⟨r', hr', hl⟩
    · cases hr.symm.trans hout
    · obtain rfl := Except.ok.inj (hr.symm.trans hr')
      exact hl
  -- no other block is found
  have hno : r.bind (part3d e) = none → ∀ p, ¬Has3d e p := by
    rintro h p ⟨w, hw, hp⟩
    rw [hl.unique hw, Option.bind_some, hp] at h
    cases h
  simp only [hr, ok_bind]
  cases r with
  | none => exact Or.inl ⟨hno rfl, fun _ => ⟨false, rfl⟩⟩
  | some w =>
    simp only at h ⊢
    obtain ⟨val, hval, h⟩ := exists_of_bind_eq_ok h
    obtain ⟨-, rfl⟩ := readEdid_eq_ok hval
    simp only [hval, ok_bind]
    by_cases hv : byteAt e (w + 8) &&& 0x20 = 0
    · exact Or.inl ⟨hno (if_pos hv), fun _ => ⟨false, by rw [if_pos hv]; rfl⟩⟩
    · simp only [if_neg hv] at h ⊢
      have heq := parse3d_ok h
      simp only [heq]
      by_cases hp3 : byteAt e (offset3d e w) &&& 0x80 = 0
      · exact Or.inl ⟨hno ((if_neg hv).trans (if_pos hp3)), fun _ => ⟨false, if_pos hp3⟩⟩
      · exact Or.inr ⟨part3dAt e (offset3d e w),
          ⟨w, hl, by rw [part3d, if_neg hv, if_neg hp3]⟩, fun _ => if_neg hp3⟩

/-- What a parse of the 3D part yields. -/
lemma parsePart_ok {p : Part3d} (h : parsePart fuel garbage e edid p = .ok edid') :
    ∃ bits, bits < 2 ^ 16 ∧ (∀ i, bits.testBit i = true ↔
        (i < 15 ∧ p.structAll.testBit i = true) ∨ EntryFormat e p.off p.len i) ∧
      (∀ garbage', ∃ edid₁, parsePart fuel garbage' e edid p = .ok edid₁ ∧
        edid₁.formats = (maskFormats garbage' p.structAll bits p.vicPosBits).map format ∧
        ∀ f ∈ edid₁.s3dFormatList, f.Positions) := by
  unfold parsePart parseFormats at h ⊢
  obtain ⟨bits, hbits, h⟩ := exists_of_bind_eq_ok h
  have htest : ∀ i, bits.testBit i = true ↔
      (i < 15 ∧ p.structAll.testBit i = true) ∨ EntryFormat e p.off p.len i := by
    intro i
    rw [setS3dFormatBits_testBit _ hbits, Nat.testBit_and,
      show 0x7FFF = 2 ^ 15 - 1 from rfl, Nat.testBit_two_pow_sub_one, Bool.and_eq_true,
      decide_eq_true_eq, and_comm]
  refine ⟨bits, ?_, htest, fun garbage' => ?_⟩
  · refine Nat.lt_pow_two_of_testBit bits fun i hi => ?_
    by_contra hbit
    rcases (htest i).mp (by simpa using hbit) with ⟨hlt, -⟩ | hentry
    · omega
    · have := hentry.lt
      omega
  · obtain ⟨edid₁, hedid₁⟩ := (parseVicEntries_ok fuel h).2.2
      { edid with s3dFormatList := maskFormats garbage' p.structAll bits p.vicPosBits }
    obtain ⟨hformats, hpositions, -⟩ := parseVicEntries_ok fuel hedid₁
    refine ⟨edid₁, by rw [hbits, ok_bind]; exact hedid₁, hformats, hpositions ?_⟩
    exact maskFormats_positions _ _ _

/-! ## The list of formats -/

/-- The list of formats is right: every entry has been assigned a format, so that the formats do
not depend on what `malloc` has left; no format is there twice; they are those that the EDID
signals; and an entry has at most sixteen positions, none of them twice. -/
structure FormatsRight (e : RawEdid) (fuel : Nat) (edid : EdidT) : Prop where
  assigned : ∀ garbage edid', edidParserInit fuel garbage e = .ok edid' →
    edid'.formats = edid.formats
  nodup : edid.formats.Nodup
  signalled : ∀ f, f ∈ edid.formats ↔ Signalled e f
  positions : ∀ f ∈ edid.s3dFormatList,
    f.vicInfo.length ≤ 16 ∧ (f.vicInfo.map VicInfo.vicPos).Nodup

/-- The list of formats is right in every parse that completes. -/
def FormatsListed (e : RawEdid) : Prop :=
  ∀ fuel garbage edid, edidParserInit fuel garbage e = .ok edid → FormatsRight e fuel edid

lemma S3dFormat.Positions.length_le {f : S3dFormat} (h : f.Positions) : f.vicInfo.length ≤ 16 := by
  have hsub : f.vicInfo.map VicInfo.vicPos ⊆ range 16 := by
    intro i hi
    obtain ⟨v, hv, rfl⟩ := mem_map.mp hi
    exact mem_range.mpr (h.2 v hv)
  simpa using (List.Nodup.subperm h.1 hsub).length_le

/-- The EDID signals no reserved format, and no format by bit 15 of the mask alone. -/
def OnlyListable (e : RawEdid) : Prop :=
  (∀ f, Signalled e f → f ≤ hdmiSideBySideHalf) ∧
    ∀ p, Has3d e p → p.structAll.testBit 15 = true →
      p.structAll.testBit 8 = true ∨ EntryFormat e p.off p.len 8

lemma formatsRight_of_no_part {svds : List Svd} {capable : Bool} (hno : ∀ p, ¬Has3d e p)
    (hall : ∀ garbage', ∃ capable, edidParserInit fuel garbage' e = .ok ⟨capable, [], svds⟩) :
    FormatsRight e fuel ⟨capable, [], svds⟩ where
  assigned garbage edid' h := by
    obtain ⟨capable', heq⟩ := hall garbage
    obtain rfl := Except.ok.inj (heq.symm.trans h)
    rfl
  nodup := nodup_nil
  signalled f := ⟨nofun, fun ⟨p, hp, _⟩ => absurd hp (hno p)⟩
  positions := nofun

/-- The formats of the mask without bit 15 and of the entries are all formats that are
signalled. -/
lemma signalled_iff_bits {p : Part3d} (hp : Has3d e p) (h : OnlyListable e) (f : Nat) :
    Signalled e f ↔ (f < 15 ∧ p.structAll.testBit f = true) ∨ EntryFormat e p.off p.len f := by
  constructor
  · rintro ⟨p', hp', hsig⟩
    obtain rfl := hp.unique hp'
    rcases hsig with hmask | ⟨rfl, h15⟩ | hentry
    · exact Or.inl hmask
    · exact (h.2 p hp h15).imp (fun h8 => ⟨by decide, h8⟩) id
    · exact Or.inr hentry
  · rintro (hmask | hentry)
    · exact ⟨p, hp, Or.inl hmask⟩
    · exact ⟨p, hp, Or.inr (Or.inr hentry)⟩

section Part

variable {p : Part3d} {bits : Nat} (hp : Has3d e p) (hlt : bits < 2 ^ 16)
  (htest : ∀ i, bits.testBit i = true ↔
    (i < 15 ∧ p.structAll.testBit i = true) ∨ EntryFormat e p.off p.len i)
include hp hlt htest

/-- A list that is right, and was made where 16, which is no format, was left in the memory. -/
lemma onlyListable_of_formatsRight (hright : FormatsRight e fuel edid) (hformats : edid.formats =
      (maskFormats (fun _ => 16) p.structAll bits p.vicPosBits).map format) : OnlyListable e := by
  have hbits : ∀ f, bits.testBit f = true → f ≤ hdmiSideBySideHalf := by
    intro f hf
    by_contra hgt
    obtain ⟨i, hi⟩ := exists_garbage_format (fun _ => 16) hlt hf (not_le.mp hgt)
      p.structAll p.vicPosBits
    obtain ⟨p', hp', hsig⟩ := (hright.signalled 16).mp (hformats ▸ hi)
    rcases hsig with ⟨hlt', -⟩ | ⟨heq, -⟩ | hentry
    · omega
    · exact absurd heq (by decide)
    · exact absurd hentry.lt (by decide)
  have hmem : ∀ f, Signalled e f ↔ bits.testBit f = true := by
    intro f
    rw [← hright.signalled, hformats, maskFormats_formats_of_le hlt hbits, mem_bitsBelow]
    exact ⟨fun h => h.2, fun hf => ⟨Nat.lt_succ_of_le (hbits f hf), hf⟩⟩
  refine ⟨fun f hf => hbits f ((hmem f).mp hf), fun p' hp' h15 => ?_⟩
  obtain rfl := hp.unique hp'
  have h8 := (htest 8).mp ((hmem 8).mp ⟨p, hp, Or.inr (Or.inl ⟨rfl, h15⟩)⟩)
  exact h8.imp (fun h => h.2) id

/-- Where everything that is signalled can be listed, every parse lists the bits. -/
lemma formatsRight_of_onlyListable (h : OnlyListable e)
    (hall : ∀ garbage edid, edidParserInit fuel garbage e = .ok edid →
      edid.formats = (maskFormats garbage p.structAll bits p.vicPosBits).map format ∧
        ∀ f ∈ edid.s3dFormatList, f.Positions)
    (hedid : edidParserInit fuel garbage e = .ok edid) : FormatsRight e fuel edid := by
  have hsig : ∀ f, Signalled e f ↔ bits.testBit f = true := fun f =>
    (signalled_iff_bits hp h f).trans (htest f).symm
  have hbits : ∀ f, bits.testBit f = true → f ≤ hdmiSideBySideHalf := fun f hf =>
    h.1 f ((hsig f).mpr hf)
  have hlist : ∀ garbage' edid', edidParserInit fuel garbage' e = .ok edid' →
      edid'.formats = bitsBelow (hdmiSideBySideHalf + 1) bits := fun garbage' edid' hedid' =>
    (hall garbage' edid' hedid').1.trans (maskFormats_formats_of_le hlt hbits _ _)
  have hformats := hlist garbage edid hedid
  refine ⟨fun garbage' edid' hedid' => ?_, ?_, fun f => ?_, fun f hf => ?_⟩
  · rw [hlist garbage' edid' hedid', hformats]
  · rw [hformats]
    exact nodup_bitsBelow _ _
  · rw [hformats, mem_bitsBelow, hsig]
    exact ⟨fun h => h.2, fun hf => ⟨Nat.lt_succ_of_le (hbits f hf), hf⟩⟩
  · have hpos := (hall garbage edid hedid).2 f hf
    exact ⟨hpos.length_le, hpos.1⟩

end Part

/-- **When the list of formats is right.**  For an EDID whose parse completes: if it signals no
reserved format, and if the mask does not signal the side-by-side format by bit 15 alone, without
bit 8 and without an entry. -/
theorem formats_listed_iff
    (hparse : ∃ fuel garbage edid, edidParserInit fuel garbage e = .ok edid) :
    FormatsListed e ↔ OnlyListable e := by
  constructor
  · intro h
    obtain ⟨fuel, garbage, edid, hedid⟩ := hparse
    obtain ⟨svds, ⟨hno, -⟩ | ⟨p, hp, hall⟩⟩ := edidParserInit_cases hedid
    · exact ⟨fun f ⟨p, hp, _⟩ => absurd hp (hno p), fun p hp => absurd hp (hno p)⟩
    · obtain ⟨bits, hlt, htest, hrun⟩ := parsePart_ok ((hall garbage).symm.trans hedid)
      obtain ⟨edid₁, hedid₁, hformats, -⟩ := hrun fun _ => 16
      exact onlyListable_of_formatsRight hp hlt htest
        (h fuel _ edid₁ ((hall _).trans hedid₁)) hformats
  · intro h fuel garbage edid hedid
    obtain ⟨svds, ⟨hno, hall⟩ | ⟨p, hp, hall⟩⟩ := edidParserInit_cases hedid
    · obtain ⟨capable, heq⟩ := hall garbage
      obtain rfl := Except.ok.inj (heq.symm.trans hedid)
      exact formatsRight_of_no_part hno hall
    · obtain ⟨bits, hlt, htest, hrun⟩ := parsePart_ok ((hall garbage).symm.trans hedid)
      refine formatsRight_of_onlyListable hp hlt htest h (fun garbage' edid' hedid' => ?_) hedid
      obtain ⟨edid₁, hedid₁, hlist⟩ := hrun garbage'
      obtain rfl := Except.ok.inj (hedid'.symm.trans ((hall garbage').trans hedid₁))
      exact hlist

/-- The mask signals frame packing, top-and-bottom and side-by-side, for all modes. -/
theorem mask_formats_listed :
    (edidParserInit 3 (fun _ => 16) (sampleVendor [0xa0, 0x02, 0x01, 0x41])).map
        EdidT.formats = .ok [0, 6, 8] ∧ FormatsListed (sampleVendor [0xa0, 0x02, 0x01, 0x41]) := by
  have hview : (edidParserInit 3 (fun _ => 16) (sampleVendor [0xa0, 0x02, 0x01, 0x41])).map
      EdidT.formats = .ok [0, 6, 8] := by decide +kernel
  obtain ⟨edid, hedid, -⟩ := exists_of_map_eq_ok hview
  have hl : Lookup (sampleVendor [0xa0, 0x02, 0x01, 0x41]) .vendor (some 0x84) := by
    unfold Lookup
    rw [if_neg (by decide)]
    exact .found (by decide) (by decide)
  have hpart : ∀ p, Has3d (sampleVendor [0xa0, 0x02, 0x01, 0x41]) p →
      p = ⟨0x0141, 0xFFFF, 0x91, 0⟩ := by
    intro p hp
    exact hp.unique ⟨0x84, hl, by decide +kernel⟩
  refine ⟨hview, (formats_listed_iff ⟨_, _, edid, hedid⟩).mpr ⟨fun f hf => ?_, fun p hp => ?_⟩⟩
  · obtain ⟨p, hp, hsig⟩ := hf
    obtain rfl := hpart p hp
    have hmask : ∀ f < 15, (0x0141).testBit f = true → f ≤ hdmiSideBySideHalf := by decide
    rcases hsig with ⟨hlt, hbit⟩ | ⟨rfl, -⟩ | hentry
    · exact hmask f hlt hbit
    · exact le_rfl
    · cases hentry
  · obtain rfl := hpart p hp
    exact fun h15 => absurd h15 (by decide)

/-- An entry signals the reserved format 9.  The list has one format, which is what `malloc` has
left there. -/
theorem reserved_format_unassigned :
    (edidParserInit 3 (fun _ => 0) (sampleVendor [0x80, 0x02, 0x09, 0x00])).map EdidT.formats =
        .ok [0] ∧
      (edidParserInit 3 (fun _ => 5) (sampleVendor [0x80, 0x02, 0x09, 0x00])).map EdidT.formats =
        .ok [5] ∧ ¬FormatsListed (sampleVendor [0x80, 0x02, 0x09, 0x00]) := by
  have h0 : (edidParserInit 3 (fun _ => 0) (sampleVendor [0x80, 0x02, 0x09, 0x00])).map
      EdidT.formats = .ok [0] := by decide +kernel
  have h5 : (edidParserInit 3 (fun _ => 5) (sampleVendor [0x80, 0x02, 0x09, 0x00])).map
      EdidT.formats = .ok [5] := by decide +kernel
  refine ⟨h0, h5, fun h => ?_⟩
  obtain ⟨edid, hedid, hformats⟩ := exists_of_map_eq_ok h0
  obtain ⟨edid', hedid', hformats'⟩ := exists_of_map_eq_ok h5
  have heq := (h 3 _ edid hedid).assigned _ edid' hedid'
  rw [hformats, hformats'] at heq
  exact absurd heq (by decide)

end Solana.Edid
