import Solana.Edid.Bounds
import Mathlib.Order.Bounds.Basic

/-!
# The data blocks of an EDID

The data blocks of the extension are laid end to end from offset `0x84` up to the offset in byte
`0x82`.  `BlockAt` are the places where one starts, and `FirstBlock` is the first block of a type.

`edid_get_datablock_offset` adds the lengths to an offset of eight bits.  A block that reaches the
end of the EDID makes it go on at the beginning, where it may find a block that is none, or go
round for ever.  `search_finds_first_iff` says for which EDIDs the search is right, and
`svds_of_payload_iff` for which of them the video block is read right: the parser takes its header
for the first byte of the payload.
-/

namespace Solana.Edid

open Fallible List

variable {e : RawEdid} {type : DatablockId} {bound off : Nat}

/-! ## Blocks -/

/-- The offset after the block at an offset. -/
def nextBlock (e : RawEdid) (off : Nat) : Nat := off + (byteAt e off &&& 0x1F) + 1

/-- The type of the block at an offset. -/
def HasType (e : RawEdid) (type : DatablockId) (off : Nat) : Prop :=
  byteAt e off >>> 5 = type.code

/-- A block starts at the second offset, if blocks are laid end to end from the first one up to a
bound. -/
inductive BlockAt (e : RawEdid) (bound : Nat) : Nat → Nat → Prop
  | here {off : Nat} (h : off < bound) (hs : off < edidSize) : BlockAt e bound off off
  | next {off o : Nat} (h : off < bound) (hs : off < edidSize)
      (ht : BlockAt e bound (nextBlock e off) o) : BlockAt e bound off o

/-- The offset at which the data blocks end. -/
def dataEnd (e : RawEdid) : Nat := 0x80 + byteAt e 0x82

/-- A data block starts at an offset. -/
abbrev DataBlock (e : RawEdid) (o : Nat) : Prop := BlockAt e (dataEnd e) 0x84 o

/-- The first data block of a type, or none if there is no such block. -/
def FirstBlock (e : RawEdid) (type : DatablockId) : Option Nat → Prop
  | some o => IsLeast {o | DataBlock e o ∧ HasType e type o} o
  | none => ∀ o, DataBlock e o → ¬HasType e type o

lemma lt_nextBlock (e : RawEdid) (off : Nat) : off < nextBlock e off := by
  unfold nextBlock
  omega

lemma BlockAt.le {o : Nat} (h : BlockAt e bound off o) : off ≤ o := by
  induction h with
  | here => exact le_rfl
  | next h hs ht ih => exact (lt_nextBlock e _).le.trans ih

lemma BlockAt.lt {o : Nat} (h : BlockAt e bound off o) : o < bound ∧ o < edidSize := by
  induction h with
  | here h hs => exact ⟨h, hs⟩
  | next _ _ _ ih => exact ih

lemma blockAt_iff {o : Nat} (h : off < bound) (hs : off < edidSize) :
    BlockAt e bound off o ↔ o = off ∨ BlockAt e bound (nextBlock e off) o := by
  constructor
  · intro ho
    cases ho with
    | here => exact Or.inl rfl
    | next _ _ ht => exact Or.inr ht
  · rintro (rfl | ht)
    · exact .here h hs
    · exact .next h hs ht

/-! ## The search follows the blocks -/

lemma Search.unique {r r' : Option Nat} (h : Search e type bound off r)
    (h' : Search e type bound off r') : r = r' := by
  induction h with
  | found h ht =>
    cases h' with
    | found => rfl
    | skip _ ht' => exact absurd ht ht'
    | stop h' => exact absurd h h'
  | skip h ht hs ih =>
    cases h' with
    | found _ ht' => exact absurd ht' ht
    | skip _ _ hs' => exact ih hs'
    | stop h' => exact absurd h h'
  | stop h =>
    cases h' with
    | found h' => exact absurd h' h
    | skip h' => exact absurd h' h
    | stop => rfl

/-- **Where the search from an offset leads.** -/
lemma search_cases (e : RawEdid) (bound : Nat) (type : DatablockId) : ∀ (n off : Nat),
    edidSize ≤ off + n → off < edidSize →
    (∃ o, IsLeast {o | BlockAt e bound off o ∧ HasType e type o} o ∧
      Search e type bound off (some o)) ∨ (∀ o, BlockAt e bound off o → ¬HasType e type o) ∧
      ((∀ o, BlockAt e bound off o → nextBlock e o < edidSize) ∧ Search e type bound off none ∨
      ∃ o, BlockAt e bound off o ∧ edidSize ≤ nextBlock e o ∧
        ∀ r, Search e type bound off r ↔ Search e type bound (nextBlock e o % 256) r)
  | 0, off, hn, hoff => absurd hoff (not_lt.mpr hn)
  | n + 1, off, hn, hoff => by
    by_cases h : off < bound
    swap
    · have hno : ∀ o, ¬BlockAt e bound off o := fun o ho => by
        cases ho <;> contradiction
      exact Or.inr ⟨fun o ho => absurd ho (hno o), Or.inl ⟨fun o ho => absurd ho (hno o), .stop h⟩⟩
    by_cases ht : HasType e type off
    · exact Or.inl ⟨off, ⟨⟨.here h hoff, ht⟩, fun o ho => ho.1.le⟩, .found h ht⟩
    -- the search goes on after this block
    have hskip : ∀ r, Search e type bound off r ↔
        Search e type bound (nextBlock e off % 256) r := fun r =>
      ⟨fun hs => by
        cases hs with
        | found _ ht' => exact absurd ht' ht
        | skip _ _ hs => exact hs
        | stop h' => exact absurd h h', fun hs => .skip h ht hs⟩
    by_cases hend : edidSize ≤ nextBlock e off
    · have hno : ∀ o, ¬BlockAt e bound (nextBlock e off) o := fun o ho =>
        absurd (ho.le.trans_lt ho.lt.2) (not_lt.mpr hend)
      refine Or.inr ⟨fun o ho => ?_, Or.inr ⟨off, .here h hoff, hend, hskip⟩⟩
      rcases (blockAt_iff h hoff).mp ho with rfl | ho
      · exact ht
      · exact absurd ho (hno o)
    have hend := not_le.mp hend
    have hmod : nextBlock e off % 256 = nextBlock e off := Nat.mod_eq_of_lt hend
    rw [hmod] at hskip
    have hlt := lt_nextBlock e off
    rcases search_cases e bound type n _ (by omega) hend with ⟨o, ho, hs⟩ | ⟨hnone, hrest⟩
    · refine Or.inl ⟨o, ⟨⟨.next h hoff ho.1.1, ho.1.2⟩, fun o' ho' => ?_⟩, (hskip _).mpr hs⟩
      rcases (blockAt_iff h hoff).mp ho'.1 with rfl | hb
      · exact absurd ho'.2 ht
      · exact ho.2 ⟨hb, ho'.2⟩
    · refine Or.inr ⟨fun o ho => ?_, ?_⟩
      · rcases (blockAt_iff h hoff).mp ho with rfl | hb
        · exact ht
        · exact hnone o hb
      · rcases hrest with ⟨hin, hs⟩ | ⟨o, ho, hover, hs⟩
        · refine Or.inl ⟨fun o ho => ?_, (hskip _).mpr hs⟩
          rcases (blockAt_iff h hoff).mp ho with rfl | hb
          · exact hend
          · exact hin o hb
        · exact Or.inr ⟨o, .next h hoff ho, hover, fun r => (hskip r).trans (hs r)⟩

lemma BlockAt.nextBlock_le {o o' : Nat} (h : BlockAt e bound off o) (h' : BlockAt e bound off o')
    (hlt : o < o') : nextBlock e o ≤ o' := by
  induction h with
  | here h hs =>
    rcases (blockAt_iff h hs).mp h' with rfl | h'
    · exact absurd hlt (lt_irrefl _)
    · exact h'.le
  | next h hs ht ih =>
    rcases (blockAt_iff h hs).mp h' with rfl | h'
    · exact absurd (hlt.trans (lt_nextBlock e _)) (not_lt.mpr ht.le)
    · exact ih h' hlt

lemma BlockAt.overrun_unique {o o' : Nat} (h : BlockAt e bound off o)
    (h' : BlockAt e bound off o') (hover : edidSize ≤ nextBlock e o)
    (hover' : edidSize ≤ nextBlock e o') : o = o' := by
  rcases lt_trichotomy o o' with hlt | heq | hlt
  · exact absurd h'.lt.2 (not_lt.mpr (hover.trans (h.nextBlock_le h' hlt)))
  · exact heq
  · exact absurd h.lt.2 (not_lt.mpr (hover'.trans (h'.nextBlock_le h hlt)))

lemma Lookup.unique {r r' : Option Nat} (h : Lookup e type r) (h' : Lookup e type r') : r = r' := by
  unfold Lookup at h h'
  split_ifs at h h'
  · exact h.trans h'.symm
  · exact h.unique h'

/-- The search ends with an outcome. -/
def Finds (e : RawEdid) (type : DatablockId) (r : Option Nat) : Prop :=
  ∃ n, ∀ fuel, n ≤ fuel → edidGetDatablockOffset fuel e type = .ok r

lemma finds_iff {r : Option Nat} : Finds e type r ↔ Lookup e type r := by
  refine ⟨fun ⟨n, hn⟩ => ?_, Lookup.eventually⟩
  rcases edidGetDatablockOffset_sound n e type with hout | ⟨r', hr', hl⟩
  · cases (hn n le_rfl).symm.trans hout
  · obtain rfl := Except.ok.inj ((hn n le_rfl).symm.trans hr')
    exact hl

/-- Without an extension the search reports that there is no block, and otherwise it starts at the
first one. -/
lemma lookup_iff {r : Option Nat} :
    Lookup e type r ↔ if byteAt e 0x7e = 0 then r = none
      else Search e type (dataEnd e) 0x84 r := by
  unfold Lookup dataEnd
  by_cases h7e : byteAt e 0x7e = 0
  · simp [h7e]
  · by_cases h82 : byteAt e 0x82 = 4
    · have hstop : Search e type (0x80 + byteAt e 0x82) 0x84 none := .stop (by omega)
      simp only [h7e, h82, or_true, if_true, if_false]
      rw [h82] at hstop
      exact ⟨fun hr => hr ▸ hstop, fun hs => hs.unique hstop⟩
    · simp [h7e, h82]

/-- The search is right: it ends, with the first block of the type or the report that there is
none. -/
def SearchRight (e : RawEdid) (type : DatablockId) : Prop :=
  ∃ r, FirstBlock e type r ∧ Finds e type r

/-- **When the search for a data block is right.**  An EDID without an extension has to be without
a block of the type.  In one with an extension there is a block of the type; or no block reaches
the end of the EDID; or the bytes at its beginning, read on as blocks after the one that does,
lead out of the data blocks without one of the type. -/
theorem search_finds_first_iff (e : RawEdid) (type : DatablockId) : SearchRight e type ↔
      if byteAt e 0x7e = 0 then ∀ o, DataBlock e o → ¬HasType e type o
      else (∃ o, DataBlock e o ∧ HasType e type o) ∨ ∀ o, DataBlock e o → edidSize ≤ nextBlock e o →
          Search e type (dataEnd e) (nextBlock e o % 256) none := by
  unfold SearchRight
  simp only [finds_iff, lookup_iff]
  by_cases h7e : byteAt e 0x7e = 0
  · simp only [h7e, if_true]
    constructor
    · rintro ⟨r, hr, rfl⟩
      exact hr
    · exact fun h => ⟨none, h, rfl⟩
  simp only [h7e, if_false]
  rcases search_cases e (dataEnd e) type edidSize 0x84 (Nat.le_add_left _ _) (by decide) with
    ⟨o, ho, hs⟩ | ⟨hnone, hrest⟩
  · exact ⟨fun _ => Or.inl ⟨o, ho.1⟩, fun _ => ⟨some o, ho, hs⟩⟩
  · rcases hrest with ⟨hin, hs⟩ | ⟨o, ho, hover, hs⟩
    · exact ⟨fun _ => Or.inr fun o ho hover => absurd (hin o ho) (not_lt.mpr hover),
        fun _ => ⟨none, hnone, hs⟩⟩
    · constructor
      · rintro ⟨r, hr, hsr⟩
        cases r with
        | none =>
          refine Or.inr fun o' ho' hover' => ?_
          obtain rfl := ho.overrun_unique ho' hover hover'
          exact (hs none).mp hsr
        | some o' => exact absurd hr.1.2 (hnone o' hr.1.1)
      · rintro (⟨o', ho', ht⟩ | hall)
        · exact absurd ht (hnone o' ho')
        · exact ⟨none, hnone, (hs none).mpr (hall o ho hover)⟩

/-- The data blocks of an EDID end at offset `0x100`, all of them are empty, and none is a video
block.  The search for one goes round for ever. -/
theorem search_goes_round :
    (∀ fuel, edidGetDatablockOffset fuel (sampleEdid 0x80 0x84 []) .video = .error .outOfSteps) ∧
      ¬SearchRight (sampleEdid 0x80 0x84 []) .video := by
  have hround : ∀ fuel off : Nat, off < 256 →
      searchDatablock (sampleEdid 0x80 0x84 []) .video 0x100 fuel off = .error .outOfSteps := by
    have hbytes : ∀ off : Fin 256, byteAt (sampleEdid 0x80 0x84 []) off >>> 5 ≠ 2 := by
      decide +kernel
    intro fuel
    induction fuel with
    | zero => exact fun _ _ => rfl
    | succ fuel ih =>
      intro off hoff
      have ht : ¬byteAt (sampleEdid 0x80 0x84 []) off >>> 5 = DatablockId.video.code :=
        hbytes ⟨off, hoff⟩
      rw [searchDatablock_succ hoff, if_pos hoff, if_neg ht]
      exact ih _ (Nat.mod_lt _ (by decide))
  have hout : ∀ fuel, edidGetDatablockOffset fuel (sampleEdid 0x80 0x84 []) .video =
      .error .outOfSteps := by
    intro fuel
    rw [edidGetDatablockOffset_eq, if_neg (by decide)]
    exact hround fuel 0x84 (by decide)
  refine ⟨hout, ?_⟩
  rintro ⟨r, -, n, hn⟩
  cases (hn n le_rfl).symm.trans (hout n)

/-! ## Video descriptors -/

/-- The blocks from an offset on end exactly at a bound. -/
inductive Fills (e : RawEdid) (bound : Nat) : Nat → Prop
  | done : Fills e bound bound
  | block {off : Nat} (h : off < bound) (ht : Fills e bound (nextBlock e off)) :
      Fills e bound off

/-- The data blocks exactly fill their part of the EDID. -/
def Filled (e : RawEdid) : Prop := dataEnd e ≤ edidSize ∧ Fills e (dataEnd e) 0x84

lemma Fills.le (h : Fills e bound off) : off ≤ bound := by
  induction h with
  | done => exact le_rfl
  | block h ht ih => exact h.le

lemma Fills.nextBlock_le {o : Nat} (h : Fills e bound off) (ho : BlockAt e bound off o) :
    nextBlock e o ≤ bound := by
  induction ho with
  | here h' hs =>
    cases h with
    | done => exact absurd h' (lt_irrefl _)
    | block _ ht => exact ht.le
  | next h' hs ht ih =>
    cases h with
    | done => exact absurd h' (lt_irrefl _)
    | block _ ht => exact ih ht

/-- The length of the block at an offset. -/
def payloadLength (e : RawEdid) (v : Nat) : Nat := byteAt e v &&& 0x1F

/-- What a byte says as a video descriptor: the code, and whether the mode is a native one. -/
def descriptor (val : Nat) : Nat × Bool := (val &&& 0x7F, val.testBit 7)

/-- The descriptors in the payload of a video block. -/
def payload (e : RawEdid) (v : Nat) : List (Nat × Bool) :=
  (List.range (payloadLength e v)).map fun i => descriptor (byteAt e (v + 1 + i))

/-- The descriptors of the video block at an offset are parsed as the payload has them. -/
def SvdsRight (e : RawEdid) (v : Nat) : Prop :=
  ∃ svds, (∃ n, ∀ fuel, n ≤ fuel → edidParseSvds fuel e = .ok svds) ∧
    svds.map (fun svd => (svd.code, svd.native)) = payload e v

lemma byteAt_lt (e : RawEdid) (off : Nat) : byteAt e off < 256 := by
  unfold byteAt
  split_ifs
  · exact Fin.isLt _
  · decide

lemma eq_of_descriptor :
    ∀ a < 256, a = (descriptor a).1 + bif (descriptor a).2 then 128 else 0 := by
  decide +kernel

lemma descriptor_injective {a b : Nat} (ha : a < 256) (hb : b < 256)
    (h : descriptor a = descriptor b) : a = b := by
  rw [eq_of_descriptor a ha, eq_of_descriptor b hb, h]

lemma descriptor_eq (val : Nat) (h : val < 256) :
    (val &&& 0x7F, decide (val &&& 0x80 = 0x80)) = descriptor val := by
  revert val
  decide +kernel

lemma parseSvd_descriptor {v i : Nat} {svd : Svd} (h : parseSvd e v i = .ok svd) :
    (svd.code, svd.native) = descriptor (byteAt e (v + i)) := by
  unfold parseSvd at h
  obtain ⟨val, hval, h⟩ := exists_of_bind_eq_ok h
  obtain ⟨info, -, h⟩ := exists_of_bind_eq_ok h
  obtain rfl := Except.ok.inj h
  by_cases hlt : v + i < edidSize
  · rw [readEdid_of_lt hlt] at hval
    obtain rfl := Except.ok.inj hval
    exact descriptor_eq _ (byteAt_lt e _)
  · rw [readEdid_of_not_lt hlt] at hval
    cases hval

lemma FirstBlock.lookup {v : Nat} (h : FirstBlock e type (some v)) (h7e : byteAt e 0x7e ≠ 0) :
    Lookup e type (some v) := by
  rw [lookup_iff, if_neg h7e]
  rcases search_cases e (dataEnd e) type edidSize 0x84 (Nat.le_add_left _ _) (by decide) with
    ⟨o, ho, hs⟩ | ⟨hnone, -⟩
  · obtain rfl := IsLeast.unique h ho
    exact hs
  · exact absurd h.1.2 (hnone v h.1.1)

/-- The loop reads the payload just when every byte of it is the same as the byte before. -/
lemma parseSvds_loop_iff {v : Nat} {svds : List Svd}
    (h : (range (payloadLength e v)).mapM (parseSvd e v) = .ok svds) :
    svds.map (fun svd => (svd.code, svd.native)) = payload e v ↔
      ∀ i < payloadLength e v, byteAt e (v + i) = byteAt e (v + 1 + i) := by
  rw [map_eq_of_mapM_eq_ok (fun _ _ => parseSvd_descriptor) h, payload, map_inj_left]
  constructor
  · exact fun h i hi =>
      descriptor_injective (byteAt_lt e _) (byteAt_lt e _) (h i (mem_range.mpr hi))
  · exact fun h i hi => congrArg descriptor (h i (mem_range.mp hi))

lemma forall_eq_header_iff {v n : Nat} : (∀ i < n, byteAt e (v + i) = byteAt e (v + 1 + i)) ↔
      ∀ i < n, byteAt e (v + 1 + i) = byteAt e v := by
  induction n with
  | zero => simp
  | succ n ih =>
    rw [Nat.forall_lt_succ_right, Nat.forall_lt_succ_right, ih]
    refine and_congr_right fun h => ?_
    have hlast : byteAt e (v + n) = byteAt e v := by
      cases n with
      | zero => rfl
      | succ n =>
        rw [← h n (Nat.lt_succ_self n)]
        congr 1
        omega
    rw [hlast]
    exact eq_comm

lemma header_code : ∀ b < 256, b >>> 5 = 2 → b &&& 0x1F ≠ 0 → b &&& 0x7F ≠ 64 := by
  decide +kernel

lemma svdsRight_iff_loop {v : Nat} (hl : Lookup e .video (some v)) :
    SvdsRight e v ↔ ∃ svds, (range (payloadLength e v)).mapM (parseSvd e v) = .ok svds ∧
      svds.map (fun svd => (svd.code, svd.native)) = payload e v := by
  obtain ⟨n, hn⟩ := hl.eventually
  constructor
  · rintro ⟨svds, ⟨m, hm⟩, hsvds⟩
    refine ⟨svds, ?_, hsvds⟩
    rw [← hm (max m n) (le_max_left _ _)]
    exact (edidParseSvds_some (hn _ (le_max_right _ _)) hl.lt).symm
  · rintro ⟨svds, hloop, hsvds⟩
    exact ⟨svds, ⟨n, fun fuel hf => (edidParseSvds_some (hn fuel hf) hl.lt).trans hloop⟩, hsvds⟩

lemma svdsRight_iff_of_no_extension {v : Nat} (h7e : byteAt e 0x7e = 0) :
    SvdsRight e v ↔ payloadLength e v = 0 := by
  have hnone : Lookup e .video none := by rw [lookup_iff, if_pos h7e]
  obtain ⟨n, hn⟩ := hnone.eventually
  constructor
  · rintro ⟨svds, ⟨m, hm⟩, hsvds⟩
    have hnil := (edidParseSvds_none (hn _ (le_max_right m n))).symm.trans
      (hm _ (le_max_left m n))
    obtain rfl := Except.ok.inj hnil
    simpa [payload] using (congrArg length hsvds).symm
  · intro hzero
    exact ⟨[], ⟨n, fun fuel hf => edidParseSvds_none (hn fuel hf)⟩, by simp [payload, hzero]⟩

/-- **When the video descriptors are those of the payload**: if the first video block is empty, or
if there is an extension and every byte of the payload is the same as the header, which the parser
takes for the first one. -/
theorem svds_of_payload_iff {v : Nat} (hfill : Filled e) (hv : FirstBlock e .video (some v)) :
    SvdsRight e v ↔
      ∀ i < payloadLength e v, byteAt e 0x7e ≠ 0 ∧ byteAt e (v + 1 + i) = byteAt e v := by
  by_cases h7e : byteAt e 0x7e = 0
  · rw [svdsRight_iff_of_no_extension h7e]
    constructor
    · intro hzero i hi
      omega
    · intro h
      by_contra hne
      exact (h 0 (Nat.pos_of_ne_zero hne)).1 h7e
  have hrepeats : (∀ i < payloadLength e v, byteAt e (v + i) = byteAt e (v + 1 + i)) ↔
      ∀ i < payloadLength e v, byteAt e 0x7e ≠ 0 ∧ byteAt e (v + 1 + i) = byteAt e v := by
    rw [forall_eq_header_iff]
    simp [h7e]
  rw [svdsRight_iff_loop (hv.lookup h7e), ← hrepeats]
  constructor
  · rintro ⟨svds, hloop, hsvds⟩
    exact (parseSvds_loop_iff hloop).mp hsvds
  · intro h
    -- no code stops the parser, because all are the header's
    have hrange : SvdsInRange e v := by
      have hend : nextBlock e v ≤ edidSize := (hfill.2.nextBlock_le hv.1.1).trans hfill.1
      unfold nextBlock at hend
      refine ⟨by omega, fun i hi => ?_⟩
      rw [h i hi, forall_eq_header_iff.mp h i hi]
      exact header_code _ (byteAt_lt e v) hv.1.2 (by omega)
    rcases parseSvds_loop_cases (hv.lookup h7e).lt with ⟨-, svds, hloop⟩ | ⟨hbad, -⟩
    · exact ⟨svds, hloop, (parseSvds_loop_iff hloop).mpr h⟩
    · exact absurd hrange hbad

/-- The data blocks of an EDID are one video block.  Its payload is the code 65, which happens to
be the header's. -/
theorem svds_of_repeated_header :
    Filled (sampleEdid 6 0x84 [0x41, 0x41]) ∧ SvdsRight (sampleEdid 6 0x84 [0x41, 0x41]) 0x84 := by
  have hfill : Filled (sampleEdid 6 0x84 [0x41, 0x41]) :=
    ⟨by decide, .block (by decide) .done⟩
  refine ⟨hfill, (svds_of_payload_iff hfill ?_).mpr (by decide +kernel)⟩
  exact ⟨⟨.here (by decide) (by decide), rfl⟩, fun o ho => ho.1.le⟩

/-- The payload of a video block is the code 16, and the parser reads the code 65 from the header
in its place. -/
theorem svds_from_header : Filled (sampleEdid 6 0x84 [0x41, 0x10]) ∧
      FirstBlock (sampleEdid 6 0x84 [0x41, 0x10]) .video (some 0x84) ∧
      payload (sampleEdid 6 0x84 [0x41, 0x10]) 0x84 = [(16, false)] ∧
      (edidParseSvds 1 (sampleEdid 6 0x84 [0x41, 0x10])).map
        (List.map fun svd => (svd.code, svd.native)) = .ok [(65, false)] ∧
      ¬SvdsRight (sampleEdid 6 0x84 [0x41, 0x10]) 0x84 := by
  have hv : FirstBlock (sampleEdid 6 0x84 [0x41, 0x10]) .video (some 0x84) :=
    ⟨⟨.here (by decide) (by decide), rfl⟩, fun o ho => ho.1.le⟩
  refine ⟨⟨by decide, .block (by decide) .done⟩, hv, by decide +kernel, by decide +kernel, ?_⟩
  rw [svdsRight_iff_loop (hv.lookup (by decide))]
  rintro ⟨svds, hloop, hsvds⟩
  exact absurd ((parseSvds_loop_iff hloop).mp hsvds) (by decide +kernel)

end Solana.Edid
