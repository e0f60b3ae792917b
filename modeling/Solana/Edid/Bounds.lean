import Solana.Edid.Parser
import Mathlib.Data.Nat.Bitwise

/-!
# The bounds of the EDID parser

The offsets and lengths that the parser works with come from the EDID.  `InRange` says of an EDID,
without reference to the parser, that what the parser follows stays inside: where the search for a
data block ends (`Lookup`), the payload of the video block and its codes (`SvdsInRange`), and the
3D part of the vendor block, whose entries take one or two bytes each and have to fill it exactly
(`Entries`).  `accesses_in_range_iff`: the parser and the accessors stay in range on exactly the
EDIDs that are `InRange`.
-/

namespace Solana.Edid

open Fallible List

variable {e : RawEdid} {type : DatablockId} {bound : Nat}

/-! ## Bytes -/

/-- The byte at an offset, zero after the end. -/
def byteAt (e : RawEdid) (off : Nat) : Nat := if h : off < edidSize then e ⟨off, h⟩ else 0

variable {off : Nat}

lemma readEdid_of_lt (h : off < edidSize) : readEdid e off = .ok (byteAt e off) := by
  simp only [readEdid, byteAt, dif_pos h]

lemma readEdid_of_not_lt (h : ¬off < edidSize) :
    readEdid e off = .error (.fault (.edidData off)) := by
  simp only [readEdid, dif_neg h]

/-! ## The search for a data block -/

/-- The search from an offset ends, at a block or after the last one. -/
inductive Search (e : RawEdid) (type : DatablockId) (bound : Nat) : Nat → Option Nat → Prop
  | found {off : Nat} (h : off < bound) (ht : byteAt e off >>> 5 = type.code) :
      Search e type bound off (some off)
  | skip {off : Nat} {r : Option Nat} (h : off < bound) (ht : byteAt e off >>> 5 ≠ type.code)
      (hs : Search e type bound ((off + (byteAt e off &&& 0x1F) + 1) % 256) r) :
      Search e type bound off r
  | stop {off : Nat} (h : ¬off < bound) : Search e type bound off none

/-- The outcome of `edid_get_datablock_offset`, if it returns. -/
def Lookup (e : RawEdid) (type : DatablockId) (r : Option Nat) : Prop :=
  if byteAt e 0x7e = 0 ∨ byteAt e 0x82 = 4 then r = none
  else Search e type (0x80 + byteAt e 0x82) 0x84 r

lemma searchDatablock_succ (hoff : off < 256) (fuel : Nat) :
    searchDatablock e type bound (fuel + 1) off =
      if off < bound then
        if byteAt e off >>> 5 = type.code then .ok (some off)
        else searchDatablock e type bound fuel ((off + (byteAt e off &&& 0x1F) + 1) % 256)
      else .ok none := by
  simp only [searchDatablock, readEdid_of_lt (show off < edidSize from hoff), ok_bind, pure_eq_ok]

/-- The search never leaves the EDID, and what it returns is its outcome. -/
lemma searchDatablock_sound : ∀ (fuel : Nat) {off : Nat}, off < 256 →
    searchDatablock e type bound fuel off = .error .outOfSteps ∨
      ∃ r, searchDatablock e type bound fuel off = .ok r ∧ Search e type bound off r
  | 0, off, _ => .inl rfl
  | fuel + 1, off, hoff => by
    rw [searchDatablock_succ hoff]
    by_cases h : off < bound
    · rw [if_pos h]
      by_cases ht : byteAt e off >>> 5 = type.code
      · rw [if_pos ht]
        exact .inr ⟨_, rfl, .found h ht⟩
      · rw [if_neg ht]
        rcases searchDatablock_sound fuel (Nat.mod_lt _ (by decide)) with hs | ⟨r, hs, hr⟩
        · exact .inl hs
        · exact .inr ⟨r, hs, .skip h ht hr⟩
    · rw [if_neg h]
      exact .inr ⟨_, rfl, .stop h⟩

variable {r : Option Nat}

lemma Search.eventually (h : Search e type bound off r) (hoff : off < 256) :
    ∃ n, ∀ fuel, n ≤ fuel → searchDatablock e type bound fuel off = .ok r := by
  induction h with
  | @found off h ht =>
    refine ⟨1, fun fuel hf => ?_⟩
    obtain ⟨fuel, rfl⟩ := Nat.exists_eq_add_of_le' hf
    rw [searchDatablock_succ hoff, if_pos h, if_pos ht]
  | @skip off r h ht _ ih =>
    obtain ⟨n, hn⟩ := ih (Nat.mod_lt _ (by decide))
    refine ⟨n + 1, fun fuel hf => ?_⟩
    obtain ⟨fuel, rfl⟩ := Nat.exists_eq_add_of_le' (Nat.le_of_add_left_le hf)
    rw [searchDatablock_succ hoff, if_pos h, if_neg ht]
    exact hn fuel (by omega)
  | @stop off h =>
    refine ⟨1, fun fuel hf => ?_⟩
    obtain ⟨fuel, rfl⟩ := Nat.exists_eq_add_of_le' hf
    rw [searchDatablock_succ hoff, if_neg h]

lemma edidGetDatablockOffset_eq (fuel : Nat) (e : RawEdid) (type : DatablockId) :
    edidGetDatablockOffset fuel e type =
      if byteAt e 0x7e = 0 ∨ byteAt e 0x82 = 4 then .ok none
      else searchDatablock e type (0x80 + byteAt e 0x82) fuel 0x84 := by
  unfold edidGetDatablockOffset
  rw [readEdid_of_lt (by decide), readEdid_of_lt (by decide)]
  by_cases h7e : byteAt e 0x7e = 0 <;> by_cases h82 : byteAt e 0x82 = 4 <;> simp [h7e, h82]

lemma edidGetDatablockOffset_sound (fuel : Nat) (e : RawEdid) (type : DatablockId) :
    edidGetDatablockOffset fuel e type = .error .outOfSteps ∨
      ∃ r, edidGetDatablockOffset fuel e type = .ok r ∧ Lookup e type r := by
  rw [edidGetDatablockOffset_eq]
  unfold Lookup
  split_ifs
  · exact .inr ⟨none, rfl, rfl⟩
  · exact searchDatablock_sound fuel (by decide)

lemma Lookup.eventually (h : Lookup e type r) :
    ∃ n, ∀ fuel, n ≤ fuel → edidGetDatablockOffset fuel e type = .ok r := by
  simp only [edidGetDatablockOffset_eq]
  unfold Lookup at h
  split_ifs at h ⊢
  · exact ⟨0, fun _ _ => by rw [h]⟩
  · exact h.eventually (by decide)

lemma Search.lt {off v : Nat} (h : Search e type bound off r) (hr : r = some v) (hoff : off < 256) :
    v < 256 := by
  induction h with
  | found h ht =>
    obtain rfl := Option.some.inj hr
    exact hoff
  | skip h ht hs ih => exact ih hr (Nat.mod_lt _ (by decide))
  | stop h => cases hr

lemma Lookup.lt {v : Nat} (h : Lookup e type (some v)) : v < edidSize := by
  unfold Lookup at h
  split_ifs at h
  exact h.lt rfl (by decide)

/-! ## Faults -/

/-- A computation stops with an access out of range. -/
def Faults {α : Type} (x : Except Stop α) : Prop := ∃ f, x = .error (.fault f)

lemma not_faults_ok {α : Type} (a : α) : ¬Faults (.ok a : Except Stop α) := by
  rintro ⟨f, h⟩
  cases h

lemma not_faults_outOfSteps {α : Type} : ¬Faults (.error .outOfSteps : Except Stop α) := by
  rintro ⟨f, h⟩
  cases h

section

variable {α : Type} {off : Nat} {k : Nat → Except Stop α}

/-- A read faults after the end of the EDID, and before it what follows may fault. -/
lemma faults_readEdid_bind :
    Faults (readEdid e off >>= k) ↔ (off < edidSize → Faults (k (byteAt e off))) := by
  by_cases h : off < edidSize
  · rw [readEdid_of_lt h, ok_bind]
    exact ⟨fun hf _ => hf, fun hf => hf h⟩
  · rw [readEdid_of_not_lt h, error_bind]
    exact iff_of_true ⟨_, rfl⟩ fun h' => absurd h' h

lemma faults_readMask_bind : Faults (readMask e off >>= k) ↔
      (off + 2 ≤ edidSize → Faults (k (byteAt e off <<< 8 ||| byteAt e (off + 1)))) := by
  unfold readMask
  simp only [bind_assoc, faults_readEdid_bind, pure_bind]
  exact ⟨fun hf h => hf (by omega) (by omega), fun hf _ h => hf (by omega)⟩

end

/-! ## Video descriptors -/

/-- The bytes that are read as video descriptors are in the EDID, and no code among them is the one
that `edid_fill_svd_info` fails to replace. -/
def SvdsInRange (e : RawEdid) (v : Nat) : Prop :=
  v + (byteAt e v &&& 0x1F) ≤ edidSize ∧
    ∀ i < byteAt e v &&& 0x1F, byteAt e (v + i) &&& 0x7F ≠ 64

lemma exists_edidFillSvdInfo {code : Nat} (h : code ≠ 64) :
    ∃ info, edidFillSvdInfo code = .ok info := by
  have hlen : svdTable.length = 64 := by decide
  unfold edidFillSvdInfo numSvdEntries
  simp only [hlen]
  split_ifs
  · exact ⟨svdTable[0], rfl⟩
  · rw [getElem?_eq_getElem (by omega)]
    exact ⟨_, rfl⟩

lemma faults_edidFillSvdInfo : Faults (edidFillSvdInfo 64) := ⟨.svdTable 64, rfl⟩

lemma parseSvd_cases (e : RawEdid) (v i : Nat) :
    (v + i < edidSize ∧ byteAt e (v + i) &&& 0x7F ≠ 64 ∧ ∃ svd, parseSvd e v i = .ok svd) ∨
      (¬(v + i < edidSize ∧ byteAt e (v + i) &&& 0x7F ≠ 64) ∧ Faults (parseSvd e v i)) := by
  unfold parseSvd
  by_cases hlt : v + i < edidSize
  · rw [readEdid_of_lt hlt, ok_bind]
    by_cases hcode : byteAt e (v + i) &&& 0x7F = 64
    · obtain ⟨f, hf⟩ := faults_edidFillSvdInfo
      exact .inr ⟨fun h => h.2 hcode, f, by simp only [hcode, hf, error_bind]⟩
    · obtain ⟨info, hinfo⟩ := exists_edidFillSvdInfo hcode
      exact .inl ⟨hlt, hcode, _, by simp only [hinfo, ok_bind, pure_eq_ok]; rfl⟩
  · rw [readEdid_of_not_lt hlt]
    exact .inr ⟨fun h => hlt h.1, _, rfl⟩

lemma svdsInRange_iff {v : Nat} (hv : v < edidSize) : SvdsInRange e v ↔
    ∀ i ∈ range (byteAt e v &&& 0x1F), v + i < edidSize ∧ byteAt e (v + i) &&& 0x7F ≠ 64 := by
  unfold SvdsInRange
  simp only [mem_range, forall_and]
  refine and_congr_left fun _ => ⟨fun h i hi => by omega, fun h => ?_⟩
  rcases Nat.eq_zero_or_pos (byteAt e v &&& 0x1F) with hz | hp
  · omega
  · have := h ((byteAt e v &&& 0x1F) - 1) (by omega)
    omega

lemma parseSvds_loop_cases {v : Nat} (hv : v < edidSize) : (SvdsInRange e v ∧
      ∃ svds, (range (byteAt e v &&& 0x1F)).mapM (parseSvd e v) = .ok svds) ∨
    (¬SvdsInRange e v ∧ Faults ((range (byteAt e v &&& 0x1F)).mapM (parseSvd e v))) := by
  rw [svdsInRange_iff hv]
  cases hloop : (range (byteAt e v &&& 0x1F)).mapM (parseSvd e v) with
  | ok svds =>
    refine .inl ⟨fun i hi => ?_, svds, rfl⟩
    obtain ⟨svd, hsvd⟩ := exists_of_mapM_eq_ok hloop i hi
    rcases parseSvd_cases e v i with ⟨hlt, hcode, -⟩ | ⟨-, hf⟩
    · exact ⟨hlt, hcode⟩
    · exact absurd (hsvd ▸ hf) (not_faults_ok svd)
  | error stop =>
    obtain ⟨i, hi, herr⟩ := exists_of_mapM_eq_error hloop
    rcases parseSvd_cases e v i with ⟨-, -, svd, hsvd⟩ | ⟨hbad, f, hf⟩
    · cases hsvd.symm.trans herr
    · obtain rfl := Except.error.inj (hf.symm.trans herr)
      exact .inr ⟨fun hall => hbad (hall i hi), f, rfl⟩

lemma edidParseSvds_none {fuel : Nat} (h : edidGetDatablockOffset fuel e .video = .ok none) :
    edidParseSvds fuel e = .ok [] := by
  unfold edidParseSvds
  rw [h]
  rfl

lemma edidParseSvds_some {fuel v : Nat}
    (h : edidGetDatablockOffset fuel e .video = .ok (some v)) (hv : v < edidSize) :
    edidParseSvds fuel e = (range (byteAt e v &&& 0x1F)).mapM (parseSvd e v) := by
  unfold edidParseSvds
  rw [h, ok_bind]
  simp only [readEdid_of_lt hv, ok_bind]

/-! ## Stereoscopic formats -/

/-- The bytes from an offset on are made of entries, of two bytes each if they have a detail and of
one byte else, that fill a length exactly. -/
inductive Entries (e : RawEdid) : Nat → Nat → Prop
  | nil {off : Nat} : Entries e off 0
  | short {off len : Nat} (h : off < edidSize)
      (hs : ¬hdmiSideBySideHalf ≤ byteAt e off &&& 0x0F) (ht : Entries e (off + 1) len) :
      Entries e off (len + 1)
  | long {off len : Nat} (h : off + 1 < edidSize)
      (hs : hdmiSideBySideHalf ≤ byteAt e off &&& 0x0F) (ht : Entries e (off + 2) len) :
      Entries e off (len + 2)

lemma Entries.end_le {off len : Nat} (h : Entries e off len) : len = 0 ∨ off + len ≤ edidSize := by
  induction h with
  | nil => exact .inl rfl
  | short h hs ht ih => exact .inr (by omega)
  | long h hs ht ih => exact .inr (by omega)

lemma setS3dFormatBits_succ (h : off < edidSize) (len bits : Nat) :
    setS3dFormatBits e (len + 1) off bits =
      if hdmiSideBySideHalf ≤ byteAt e off &&& 0x0F then
        setS3dFormatBits e (len - 1) (off + 2) (bits ||| 1 <<< (byteAt e off &&& 0x0F))
      else setS3dFormatBits e len (off + 1) (bits ||| 1 <<< (byteAt e off &&& 0x0F)) := by
  cases len with
  | zero => simp only [Nat.zero_sub, setS3dFormatBits, readEdid_of_lt h, ok_bind, ite_self]
  | succ len => simp only [setS3dFormatBits, readEdid_of_lt h, ok_bind, Nat.add_sub_cancel]

lemma Entries.exists_setS3dFormatBits {off len : Nat} (h : Entries e off len) :
    ∀ bits, ∃ b, setS3dFormatBits e len off bits = .ok b := by
  induction h with
  | nil => exact fun bits => ⟨bits, rfl⟩
  | short h hs ht ih =>
    intro bits
    rw [setS3dFormatBits_succ h, if_neg hs]
    exact ih _
  | @long off len h hs ht ih =>
    intro bits
    rw [setS3dFormatBits_succ (by omega), if_pos hs]
    exact ih _

lemma setS3dFormatBits_cases (e : RawEdid) : ∀ (len off bits : Nat),
    (∃ b, setS3dFormatBits e len off bits = .ok b) ∨ Faults (setS3dFormatBits e len off bits)
  | 0, off, bits => .inl ⟨bits, rfl⟩
  | len + 1, off, bits => by
    by_cases h : off < edidSize
    · rw [setS3dFormatBits_succ h]
      split_ifs
      · exact setS3dFormatBits_cases e (len - 1) _ _
      · exact setS3dFormatBits_cases e len _ _
    · refine .inr ⟨.edidData off, ?_⟩
      cases len <;> simp only [setS3dFormatBits, readEdid_of_not_lt h, error_bind]

lemma parseVicEntries_zero (fuel off : Nat) (edid : EdidT) :
    ¬Faults (parseVicEntries e fuel off 0 edid) := by
  cases fuel with
  | zero => exact not_faults_outOfSteps
  | succ fuel => exact not_faults_ok edid

lemma Entries.parseVicEntries {off len : Nat} (h : Entries e off len) (hlen : len < 256) :
    ∀ (fuel : Nat) (edid : EdidT), ¬Faults (parseVicEntries e fuel off len edid) := by
  induction h with
  | nil => exact fun fuel edid => parseVicEntries_zero fuel _ edid
  | @short off len h hs ht ih =>
    intro fuel edid
    cases fuel with
    | zero => exact not_faults_outOfSteps
    | succ fuel =>
      simp only [Edid.parseVicEntries, if_pos (Nat.succ_pos len), readEdid_of_lt h, ok_bind,
        if_neg hs, show (len + 1 + 255) % 256 = len by omega]
      exact ih (by omega) fuel _
  | @long off len h hs ht ih =>
    intro fuel edid
    cases fuel with
    | zero => exact not_faults_outOfSteps
    | succ fuel =>
      simp only [Edid.parseVicEntries, if_pos (Nat.succ_pos (len + 1)),
        readEdid_of_lt (Nat.lt_of_succ_lt h), readEdid_of_lt h, ok_bind, if_pos hs,
        show (len + 2 + 254) % 256 = len by omega]
      exact ih (by omega) fuel _

/-- Where there are no entries, the last loop runs out of the EDID. -/
lemma parseVicEntries_faults : ∀ (fuel : Nat) {off len : Nat} (edid : EdidT), 0 < fuel →
    edidSize < off + fuel → len < 256 → ¬Entries e off len →
    Faults (parseVicEntries e fuel off len edid)
  | fuel + 1, off, len, edid, _, hfuel, hlen, hent => by
    have hpos : 0 < len := Nat.pos_of_ne_zero fun h => hent (h ▸ .nil)
    rw [parseVicEntries, if_pos hpos, faults_readEdid_bind]
    intro h
    by_cases hs : hdmiSideBySideHalf ≤ byteAt e off &&& 0x0F
    · simp only [if_pos hs, faults_readEdid_bind]
      intro h'
      refine parseVicEntries_faults fuel _ (by omega) (by omega) (Nat.mod_lt _ (by decide))
        fun hrest => ?_
      rcases Nat.lt_or_ge len 2 with hone | htwo
      · have hwrap : (len + 254) % 256 = 255 := by omega
        rw [hwrap] at hrest
        rcases hrest.end_le with hz | hend
        · omega
        · have : edidSize = 256 := rfl
          omega
      · obtain ⟨k, rfl⟩ : ∃ k, len = k + 2 := ⟨len - 2, by omega⟩
        rw [show (k + 2 + 254) % 256 = k by omega] at hrest
        exact hent (.long h' hs hrest)
    · simp only [if_neg hs]
      refine parseVicEntries_faults fuel _ (by omega) (by omega) (Nat.mod_lt _ (by decide))
        fun hrest => ?_
      obtain ⟨k, rfl⟩ : ∃ k, len = k + 1 := ⟨len - 1, by omega⟩
      rw [show (k + 1 + 255) % 256 = k by omega] at hrest
      exact hent (.short h hs hrest)

section Formats

variable {garbage : Nat → Nat} {edid : EdidT} {structAll vicPosBits off len fuel : Nat}

lemma Entries.parseFormats (h : Entries e off len) (hlen : len < 256) :
    ¬Faults (parseFormats fuel garbage e edid structAll vicPosBits off len) := by
  obtain ⟨bits, hbits⟩ := h.exists_setS3dFormatBits (structAll &&& 0x7FFF)
  unfold Edid.parseFormats
  rw [hbits, ok_bind]
  exact h.parseVicEntries hlen fuel _

lemma parseFormats_faults (h : ¬Entries e off len) (hlen : len < 256) (hfuel : edidSize < fuel) :
    Faults (parseFormats fuel garbage e edid structAll vicPosBits off len) := by
  unfold parseFormats
  rcases setS3dFormatBits_cases e len off (structAll &&& 0x7FFF) with ⟨bits, hbits⟩ | ⟨f, hf⟩
  · rw [hbits, ok_bind]
    exact parseVicEntries_faults fuel _ (by omega) (by omega) hlen h
  · exact ⟨f, by rw [hf, error_bind]⟩

end Formats

/-- The size of the masks before the entries. -/
def maskSize (multi : Nat) : Nat := if multi = 1 then 2 else if multi = 2 then 4 else 0

/-- The 3D part of the vendor block, from the byte with `3D_Present` on: its length covers the masks
and entries that fill it. -/
def Formats3dInRange (e : RawEdid) (off : Nat) : Prop :=
  off < edidSize ∧
    (byteAt e off &&& 0x80 ≠ 0 →
      let masks := maskSize ((byteAt e off &&& 0x60) >>> 5)
      let start := off + 2 + ((byteAt e (off + 1) &&& 0xE0) >>> 5)
      let len := byteAt e (off + 1) &&& 0x1F
      off + 1 < edidSize ∧ masks ≤ len ∧ (0 < masks → start + masks ≤ edidSize) ∧
        Entries e (start + masks) (len - masks))

/-- The vendor block as far as the parser reads it. -/
def VendorInRange (e : RawEdid) (w : Nat) : Prop :=
  w + 8 < edidSize ∧
    (byteAt e (w + 8) &&& 0x20 ≠ 0 →
      Formats3dInRange e (w + 9 + (if byteAt e (w + 8) &&& 0x80 ≠ 0 then 2 else 0) +
        if byteAt e (w + 8) &&& 0x40 ≠ 0 then 2 else 0))

/-- **An EDID that the parser can follow.**  The blocks that it looks for, as far as it gets to
them, are in range. -/
def InRange (e : RawEdid) : Prop :=
  ∀ r, Lookup e .video r →
    (∀ v, r = some v → SvdsInRange e v) ∧ ∀ w, Lookup e .vendor (some w) → VendorInRange e w

/-- After masks for which the length leaves no room, the length has wrapped around. -/
lemma not_entries_of_wrap {off len masks : Nat} (hmasks : masks ≤ 4) (hlen : len < masks)
    (hoff : 8 ≤ off) : ¬Entries e off ((len + (256 - masks)) % 256) := by
  intro h
  have : edidSize = 256 := rfl
  rcases h.end_le with hz | hend <;> omega

lemma parse3d_sound (h : Formats3dInRange e off) (fuel : Nat) (garbage : Nat → Nat) (edid : EdidT) :
    ¬Faults (parse3d fuel garbage e edid off) := by
  obtain ⟨hoff, h3d⟩ := h
  unfold parse3d
  rw [readEdid_of_lt hoff, ok_bind]
  by_cases hp : byteAt e off &&& 0x80 = 0
  · rw [if_pos hp]
    exact not_faults_ok edid
  obtain ⟨hlens, hmasks, hstart, hent⟩ := h3d hp
  have hlen : byteAt e (off + 1) &&& 0x1F ≤ 31 := Nat.and_le_right
  simp only [if_neg hp, readEdid_of_lt hlens, ok_bind]
  unfold maskSize at hmasks hstart hent
  generalize byteAt e (off + 1) &&& 0x1F = len at hlen hmasks hent ⊢
  by_cases h1 : (byteAt e off &&& 0x60) >>> 5 = 1
  · rw [if_pos h1] at hmasks hstart hent ⊢
    rw [faults_readMask_bind, show (len + 254) % 256 = len - 2 by omega]
    exact fun hf => hent.parseFormats (by omega) (hf (hstart (by decide)))
  by_cases h2 : (byteAt e off &&& 0x60) >>> 5 = 2
  · rw [if_neg h1, if_pos h2] at hmasks hstart hent ⊢
    have hfit := hstart (by decide)
    simp only [faults_readMask_bind, show (len + 252) % 256 = len - 4 by omega]
    exact fun hf => hent.parseFormats (by omega) (hf (by omega) (by omega))
  · rw [if_neg h1, if_neg h2] at hent ⊢
    exact hent.parseFormats (by omega)

lemma parse3d_faults {off fuel : Nat} (h : ¬Formats3dInRange e off) (hoff : 8 ≤ off)
    (hfuel : edidSize < fuel) (garbage : Nat → Nat) (edid : EdidT) :
    Faults (parse3d fuel garbage e edid off) := by
  unfold parse3d
  rw [faults_readEdid_bind]
  intro hlt
  by_cases hp : byteAt e off &&& 0x80 = 0
  · exact absurd ⟨hlt, fun hp' => absurd hp hp'⟩ h
  simp only [if_neg hp, faults_readEdid_bind]
  intro hlens
  have hlen : byteAt e (off + 1) &&& 0x1F ≤ 31 := Nat.and_le_right
  have hstart : 8 ≤ off + 2 + ((byteAt e (off + 1) &&& 0xE0) >>> 5) := by omega
  have hbad := fun hall => h ⟨hlt, fun _ => ⟨hlens, hall⟩⟩
  unfold maskSize at hbad
  generalize byteAt e (off + 1) &&& 0x1F = len at hbad hlen ⊢
  generalize off + 2 + ((byteAt e (off + 1) &&& 0xE0) >>> 5) = start at hbad hstart ⊢
  by_cases h1 : (byteAt e off &&& 0x60) >>> 5 = 1
  · rw [if_pos h1] at hbad ⊢
    rw [faults_readMask_bind]
    intro hmask
    refine parseFormats_faults (fun hent => ?_) (Nat.mod_lt _ (by decide)) hfuel
    rcases Nat.lt_or_ge len 2 with hl | hl
    · exact not_entries_of_wrap (by decide) hl (by omega) hent
    · rw [show (len + 254) % 256 = len - 2 by omega] at hent
      exact hbad ⟨hl, fun _ => hmask, hent⟩
  by_cases h2 : (byteAt e off &&& 0x60) >>> 5 = 2
  · rw [if_neg h1, if_pos h2] at hbad ⊢
    simp only [faults_readMask_bind]
    intro _ hmask
    refine parseFormats_faults (fun hent => ?_) (Nat.mod_lt _ (by decide)) hfuel
    rcases Nat.lt_or_ge len 4 with hl | hl
    · exact not_entries_of_wrap (by decide) hl (by omega) hent
    · rw [show (len + 252) % 256 = len - 4 by omega] at hent
      exact hbad ⟨hl, fun _ => hmask, hent⟩
  · rw [if_neg h1, if_neg h2] at hbad ⊢
    exact parseFormats_faults (fun hent => hbad ⟨Nat.zero_le _, nofun, hent⟩) (by omega) hfuel

/-! ## The parser -/

lemma edidParseS3dSupport_some {fuel w : Nat}
    (h : edidGetDatablockOffset fuel e .vendor = .ok (some w)) (hw : w + 8 < edidSize)
    (garbage : Nat → Nat) (edid : EdidT) : edidParseS3dSupport fuel garbage e edid =
      if byteAt e (w + 8) &&& 0x20 = 0 then .ok edid
      else parse3d fuel garbage e edid
        (w + 9 + (if byteAt e (w + 8) &&& 0x80 ≠ 0 then 2 else 0) +
          if byteAt e (w + 8) &&& 0x40 ≠ 0 then 2 else 0) := by
  unfold edidParseS3dSupport
  rw [h, ok_bind]
  simp only [readEdid_of_lt hw, ok_bind, pure_eq_ok]

lemma edidParseS3dSupport_sound (h : ∀ w, Lookup e .vendor (some w) → VendorInRange e w)
    (fuel : Nat) (garbage : Nat → Nat) (edid : EdidT) :
    ¬Faults (edidParseS3dSupport fuel garbage e edid) := by
  rcases edidGetDatablockOffset_sound fuel e .vendor with hout | ⟨r, hr, hl⟩
  · unfold edidParseS3dSupport
    rw [hout]
    exact not_faults_outOfSteps
  · cases r with
    | none =>
      unfold edidParseS3dSupport
      rw [hr]
      exact not_faults_ok edid
    | some w =>
      obtain ⟨hw, h3d⟩ := h w hl
      rw [edidParseS3dSupport_some hr hw]
      split_ifs with hp
      · exact not_faults_ok edid
      all_goals exact parse3d_sound (by simpa [*] using h3d hp) fuel garbage edid

lemma edidParseS3dSupport_faults {fuel w : Nat}
    (hr : edidGetDatablockOffset fuel e .vendor = .ok (some w)) (h : ¬VendorInRange e w)
    (hfuel : edidSize < fuel) (garbage : Nat → Nat) (edid : EdidT) :
    Faults (edidParseS3dSupport fuel garbage e edid) := by
  by_cases hw : w + 8 < edidSize
  · rw [edidParseS3dSupport_some hr hw]
    by_cases hp : byteAt e (w + 8) &&& 0x20 = 0
    · exact absurd ⟨hw, fun hp' => absurd hp hp'⟩ h
    · rw [if_neg hp]
      exact parse3d_faults (fun h3d => h ⟨hw, fun _ => h3d⟩) (by omega) hfuel garbage edid
  · unfold edidParseS3dSupport
    rw [hr, ok_bind]
    simp only [readEdid_of_not_lt hw, error_bind]
    exact ⟨_, rfl⟩

/-- What parsing and the accessors do stays in range: the parser does not stop with a fault, and the
descriptors at the positions below the number of descriptors can be read. -/
def Safe (garbage : Nat → Nat) (e : RawEdid) : Prop :=
  ∀ fuel, ¬Faults (edidParserInit fuel garbage e) ∧
    ∀ edid, edidParserInit fuel garbage e = .ok edid →
      ∀ pos < edid.getSvdList.2, ∃ svd, edid.getSvdDescriptor pos = .ok (some svd)

lemma EdidT.exists_getSvdDescriptor (edid : EdidT) {pos : Nat} (h : pos < edid.getSvdList.2) :
    ∃ svd, edid.getSvdDescriptor pos = .ok (some svd) := by
  have hlt : pos < edid.svdList.length := h
  unfold getSvdDescriptor
  rw [if_neg (by omega), getElem?_eq_getElem hlt]
  exact ⟨_, rfl⟩

lemma InRange.not_faults (h : InRange e) (fuel : Nat) (garbage : Nat → Nat) :
    ¬Faults (edidParserInit fuel garbage e) := by
  unfold edidParserInit
  rcases edidGetDatablockOffset_sound fuel e .video with hout | ⟨r, hr, hl⟩
  · unfold edidParseSvds
    rw [hout]
    exact not_faults_outOfSteps
  · obtain ⟨hsvds, hvendor⟩ := h r hl
    cases r with
    | none =>
      rw [edidParseSvds_none hr, ok_bind]
      exact edidParseS3dSupport_sound hvendor fuel garbage _
    | some v =>
      rw [edidParseSvds_some hr hl.lt]
      rcases parseSvds_loop_cases hl.lt with ⟨-, svds, hok⟩ | ⟨hbad, -⟩
      · rw [hok, ok_bind]
        exact edidParseS3dSupport_sound hvendor fuel garbage _
      · exact absurd (hsvds v rfl) hbad

lemma inRange_of_not_faults {garbage : Nat → Nat}
    (h : ∀ fuel, ¬Faults (edidParserInit fuel garbage e)) : InRange e := by
  intro r hl
  obtain ⟨n, hn⟩ := hl.eventually
  -- with enough steps, the descriptors are parsed
  have hsvds : ∀ fuel, n ≤ fuel → ∃ svds, edidParseSvds fuel e = .ok svds := by
    intro fuel hf
    cases r with
    | none => exact ⟨[], edidParseSvds_none (hn fuel hf)⟩
    | some v =>
      have heq := edidParseSvds_some (hn fuel hf) hl.lt
      rcases parseSvds_loop_cases hl.lt with ⟨-, svds, hok⟩ | ⟨-, f, hf'⟩
      · exact ⟨svds, heq.trans hok⟩
      · refine absurd ⟨f, ?_⟩ (h fuel)
        unfold edidParserInit
        rw [heq, hf', error_bind]
  constructor
  · rintro v rfl
    obtain ⟨svds, hok⟩ := hsvds n le_rfl
    rw [edidParseSvds_some (hn n le_rfl) hl.lt] at hok
    rcases parseSvds_loop_cases hl.lt with ⟨hin, -⟩ | ⟨-, hbad⟩
    · exact hin
    · exact absurd (hok ▸ hbad) (not_faults_ok svds)
  · intro w hw
    by_contra hbad
    obtain ⟨m, hm⟩ := hw.eventually
    have hge : n ≤ n + m + edidSize + 1 ∧ m ≤ n + m + edidSize + 1 := by omega
    obtain ⟨svds, hok⟩ := hsvds _ hge.1
    refine h (n + m + edidSize + 1) ?_
    unfold edidParserInit
    rw [hok, ok_bind]
    exact edidParseS3dSupport_faults (hm _ hge.2) hbad (by omega) garbage _

/-- **When the parser stays in range.**  Parsing an EDID and reading the descriptors it reports
accesses only bytes of the EDID, entries of the table of modes and parsed descriptors, exactly if
the EDID is `InRange`. -/
theorem accesses_in_range_iff (garbage : Nat → Nat) (e : RawEdid) : Safe garbage e ↔ InRange e :=
  ⟨fun h => inRange_of_not_faults fun fuel => (h fuel).1, fun h fuel =>
      ⟨h.not_faults fuel garbage, fun edid _ _ hpos => edid.exists_getSvdDescriptor hpos⟩⟩

/-- An EDID with an extension, whose data blocks end at some offset, and some bytes in it. -/
def sampleEdid (extLength : Fin 256) (off : Nat) (bytes : List (Fin 256)) : RawEdid := fun i =>
  if i.val = 0x7e then 1 else if i.val = 0x82 then extLength
  else if off ≤ i.val then bytes.getD (i.val - off) 0 else 0

/-- A video block with the mode 64 makes the parser read after the end of the table of modes, and a
video block that starts at the last byte makes it read after the end of the EDID. -/
theorem video_block_out_of_range : ¬Safe (fun _ => 0) (sampleEdid 7 0x84 [0x42, 64]) ∧
      ¬Safe (fun _ => 0) (sampleEdid 0x80 0xff [0x5f]) := by
  constructor
  · intro h
    exact (h 1).1 ⟨.svdTable 64, by decide +kernel⟩
  · intro h
    exact (h 124).1 ⟨.edidData 256, by decide +kernel⟩

/-- An EDID whose only data block is a vendor block with some bytes for its 3D part. -/
def sampleVendor (part : List (Fin 256)) : RawEdid :=
  sampleEdid 0x11 0x84 ([0x6c, 0x03, 0x0c, 0, 0, 0, 0, 0, 0x20] ++ part)

end Solana.Edid
