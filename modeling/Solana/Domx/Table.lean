import Solana.Domx.Proxy

/-!
# The buffer table is consistent

The counters of a component and its table: `nAllocatedBuffers` counts the slots in use, all of
them are below `nTotalBuffers`, and their headers are distinct as long as the headers in the
table are blocks that have not been freed.

A remote `UseBuffer` that answers `OMX_ErrorNoMore` breaks the last part.  `PROXY_checkRpcError`
lets that answer pass, so the slot is put into use, but at its end `PROXY_UseBuffer` takes it for
an error and frees the header (`freed_header_in_two_slots`).  `table_consistent` is for the runs
without this answer.
-/

namespace Solana.Proxy

open Runs Component BufferInfo Finset Function Option

open Rpc (RpcError)

/-! ## What the calls do to the headers -/

/-- The headers, the counters and the blocks of two components are the same. -/
structure SameHeaders (s s' : Component) : Prop where
  header : ∀ j, (s'.tBufList j).pBufHeader = (s.tBufList j).pBufHeader
  total : s'.nTotalBuffers = s.nTotalBuffers
  allocated : s'.nAllocatedBuffers = s.nAllocatedBuffers
  live : s'.live = s.live

/-- The first empty slot gets a header. -/
structure Stored (s s' : Component) (hdr : Header) : Prop where
  room : s.nTotalBuffers < maxNumProxyBuffers
  header : ∀ j, (s'.tBufList j).pBufHeader =
    if j = s.currentBuffer then some hdr else (s.tBufList j).pBufHeader
  total : s'.nTotalBuffers = max s.nTotalBuffers (s.nAllocatedBuffers + 1)
  allocated : s'.nAllocatedBuffers = s.nAllocatedBuffers + 1

/-- A slot is cleared. -/
structure Cleared (s s' : Component) (i : Nat) (hdr : Header) : Prop where
  slot : i < s.nTotalBuffers ∧ (s.tBufList i).pBufHeader = some hdr
  header : ∀ j, (s'.tBufList j).pBufHeader =
    if j = i then none else (s.tBufList j).pBufHeader
  total : s'.nTotalBuffers = s.nTotalBuffers
  allocated : s'.nAllocatedBuffers = s.nAllocatedBuffers - 1
  live : s'.live = (s.live.erase hdr.platform).erase hdr.addr

/-- The local and the remote header of a slot. -/
def BufferInfo.headers (slot : BufferInfo) : Option Header × Nat :=
  (slot.pBufHeader, slot.pBufHeaderRemote)

variable {env : UseEnv}

lemma allocMetaData_headers {w w' : Work} (h : allocMetaData env w = some w') :
    w'.slot.headers = w.slot.headers := by
  unfold allocMetaData at h
  split_ifs at h
  · obtain ⟨prop, -, rfl⟩ := map_eq_some_iff.mp h
    rfl
  · obtain rfl := some.inj h
    rfl

lemma registerMetaData_headers (env : UseEnv) (w : Work) :
    (registerMetaData env w).2.slot.headers = w.slot.headers := by
  unfold registerMetaData
  split_ifs <;> rfl

lemma useSteps_headers (env : UseEnv) (w : Work) :
    (useSteps env w).work.slot.headers = w.slot.headers := by
  unfold useSteps
  by_cases hget : env.getParameter ≠ .none
  · rw [if_pos hget]
  · rw [if_neg hget]
    cases hw : allocMetaData env w with
    | none => rfl
    | some w₁ =>
      simp only
      have h₁ := allocMetaData_headers hw
      split_ifs
      · exact h₁
      · exact (registerMetaData_headers env _).trans h₁
      · exact (registerMetaData_headers env _).trans h₁

lemma useSteps_err {w : Work} (h : (useSteps env w).go = true) :
    env.rpcUse = .none ∧ (useSteps env w).err = env.compReturn ∧
      (env.compReturn = .none ∨ env.compReturn = .noMore) := by
  unfold useSteps at h ⊢
  split_ifs at h ⊢
  cases hw : allocMetaData env w with
  | none => simp [hw] at h
  | some w₁ =>
    simp only [hw] at h ⊢
    split_ifs at h ⊢
    by_cases hrpc : env.rpcUse = .none
    · simp only [checkRpcError, if_pos hrpc, Bool.or_eq_true, decide_eq_true_eq] at h ⊢
      exact ⟨hrpc, trivial, h⟩
    · simp [checkRpcError, if_neg hrpc] at h

/-- A call that uses a buffer leaves the headers alone, or it stores a header.  It keeps the
blocks of that header unless the remote core's answer is `OMX_ErrorNoMore`. -/
def Used (env : UseEnv) (s s' : Component) : Prop :=
  SameHeaders s s' ∨
  ∃ hdr plat md, env.header = some hdr ∧ env.platform = some plat ∧
    Stored s s' ⟨hdr, plat, md⟩ ∧ env.rpcUse = .none ∧
    (env.compReturn = .none ∧ s'.live = insert plat (insert hdr s.live) ∨
      env.compReturn = .noMore)

variable {s : Component}

lemma Component.stored_putSlot (hroom : s.nTotalBuffers < maxNumProxyBuffers) (env : UseEnv)
    (hdr plat : Nat) (p : Progress) : Stored s (s.putSlot env hdr plat p)
      ⟨hdr, plat, metaDataSet s.bMapBuffers env p.work.slot⟩ := by
  refine ⟨hroom, fun j => ?_, rfl, rfl⟩
  unfold putSlot
  rcases eq_or_ne j s.currentBuffer with rfl | hj
  · simp only [if_pos, update_self]
  · simp only [if_neg hj, update_of_ne hj]

lemma proxyUseBuffer_headers (env : UseEnv) (s : Component) :
    Used env s (proxyUseBuffer env s).1 := by
  obtain ⟨err, -, -, he⟩ | ⟨hdr, plat, p, hadm, hh, hp, hsteps, ⟨-, he⟩ | ⟨hgo, he⟩⟩ :=
    proxyUseBuffer_cases env s
  · rw [he]
    exact Or.inl ⟨fun _ => rfl, rfl, rfl, rfl⟩
  · rw [he]
    have hslot := useSteps_headers env ⟨s.tBufList s.currentBuffer, s.mem, s.reg⟩
    refine Or.inl ⟨fun j => ?_, rfl, rfl, rfl⟩
    rcases eq_or_ne j s.currentBuffer with rfl | hj
    · simp only [leaveSlot, update_self, ← hsteps]
      exact congrArg Prod.fst hslot
    · simp only [leaveSlot, update_of_ne hj]
  · obtain ⟨hrpc, herr, hcomp⟩ := useSteps_err (hsteps ▸ hgo)
    rw [he]
    refine Or.inr ⟨hdr, plat, _, hh, hp, stored_putSlot hadm.room env hdr plat p, hrpc,
      hcomp.imp (fun hnone => ⟨hnone, ?_⟩) id⟩
    exact if_pos ((hsteps ▸ herr).trans hnone)

variable {s s' : Component}

lemma currentBuffer_congr (h : SameHeaders s s') : s'.currentBuffer = s.currentBuffer := by
  unfold Component.currentBuffer
  rw [h.total]
  simp only [h.header]

variable {s₁ s₂ s₃ : Component}

lemma SameHeaders.trans (h : SameHeaders s₁ s₂) (h' : SameHeaders s₂ s₃) : SameHeaders s₁ s₃ :=
  ⟨fun j => (h'.header j).trans (h.header j), h'.total.trans h.total,
    h'.allocated.trans h.allocated, h'.live.trans h.live⟩

variable {hdr : Header}

lemma SameHeaders.stored (h : SameHeaders s₁ s₂) (h' : Stored s₂ s₃ hdr) : Stored s₁ s₃ hdr := by
  refine ⟨h.total ▸ h'.room, fun j => ?_, ?_, by rw [h'.allocated, h.allocated]⟩
  · rw [h'.header, currentBuffer_congr h, h.header]
  · rw [h'.total, h.total, h.allocated]

lemma SameHeaders.stored_right (h : Stored s₁ s₂ hdr) (h' : SameHeaders s₂ s₃) : Stored s₁ s₃ hdr :=
  ⟨h.room, fun j => (h'.header j).trans (h.header j), h'.total.trans h.total,
    h'.allocated.trans h.allocated⟩

lemma Component.sameHeaders_storeHandle (s : Component) (prop : MemProp) :
    SameHeaders s (s.storeHandle prop) := by
  refine ⟨fun j => ?_, rfl, rfl, rfl⟩
  unfold storeHandle
  rcases eq_or_ne j s.currentBuffer with rfl | hj
  · simp only [update_self]
  · simp only [update_of_ne hj]

lemma proxyAllocateBuffer_headers (env : AllocEnv) (s : Component) :
    Used env.use s (proxyAllocateBuffer env s).1 := by
  obtain ⟨err, -, -, he⟩ | ⟨prop, res, -, -, rfl, he⟩ := proxyAllocateBuffer_cases env s
  · rw [he]
    exact Or.inl ⟨fun _ => rfl, rfl, rfl, rfl⟩
  · rw [he]
    have h₁ := s.sameHeaders_storeHandle prop
    have hused := proxyUseBuffer_headers { env.use with pBuffer := prop.fd } (s.storeHandle prop)
    generalize proxyUseBuffer _ (s.storeHandle prop) = res at hused
    -- freeing the new handle again leaves the headers alone
    have hres : SameHeaders res.1 { res.1 with
        mem := if res.2 = .none then res.1.mem else res.1.mem.release s.mem.acquired } :=
      ⟨fun _ => rfl, rfl, rfl, rfl⟩
    rcases hused with h₂ | ⟨hdr, plat, md, hh, hp, hst, hrpc, hlive⟩
    · exact Or.inl ((h₁.trans h₂).trans hres)
    · exact Or.inr ⟨hdr, plat, md, hh, hp, h₁.stored (SameHeaders.stored_right hst hres), hrpc,
        hlive.imp (fun hl => ⟨hl.1, hl.2.trans (by rw [h₁.live])⟩) id⟩

lemma slotOf_eq_some {addr i : Nat} (h : s.slotOf addr = some i) :
    i < s.nTotalBuffers ∧ (s.tBufList i).pBufHeader.map Header.addr = some addr := by
  have hmem := List.mem_of_find?_eq_some h
  have hp := List.find?_some h
  exact ⟨List.mem_range.mp hmem, by simpa using hp⟩

/-- **What `PROXY_FreeBuffer` can do**: nothing, or it clears the slot of the header. -/
lemma proxyFreeBuffer_cases (env : FreeEnv) (s : Component) :
    ((env.argsErr ≠ .none ∨ s.slotOf env.header = none) ∧ (proxyFreeBuffer env s).1 = s) ∨
    ∃ i hdr, env.argsErr = .none ∧ s.slotOf env.header = some i ∧
      (s.tBufList i).pBufHeader = some hdr ∧ hdr.addr = env.header ∧
      (proxyFreeBuffer env s).1 = s.clearSlot env i hdr := by
  unfold proxyFreeBuffer
  by_cases hargs : env.argsErr = .none
  swap
  · rw [if_pos hargs]
    exact .inl ⟨.inl hargs, rfl⟩
  · rw [if_neg (not_not.mpr hargs)]
    cases hslot : s.slotOf env.header with
    | none => exact .inl ⟨.inr rfl, rfl⟩
    | some i =>
      obtain ⟨hdr, hhdr, haddr⟩ := map_eq_some_iff.mp (slotOf_eq_some hslot).2
      exact .inr ⟨i, hdr, hargs, rfl, hhdr, haddr, by simp only [hhdr]⟩

lemma proxyFreeBuffer_headers (env : FreeEnv) (s : Component) :
    SameHeaders s (proxyFreeBuffer env s).1 ∨
      ∃ i hdr, Cleared s (proxyFreeBuffer env s).1 i hdr := by
  obtain ⟨-, he⟩ | ⟨i, hdr, -, hslot, hhdr, -, he⟩ := proxyFreeBuffer_cases env s
  · rw [he]
    exact Or.inl ⟨fun _ => rfl, rfl, rfl, rfl⟩
  · rw [he]
    refine Or.inr ⟨i, hdr, ⟨(slotOf_eq_some hslot).1, hhdr⟩, fun j => ?_, rfl, rfl, rfl⟩
    rcases eq_or_ne j i with rfl | hj
    · simp [clearSlot, zero]
    · simp [clearSlot, hj]

/-! ## The counters -/

/-- The slots in use. -/
def Component.inUse (s : Component) : Finset Nat :=
  (Finset.range maxNumProxyBuffers).filter fun i => (s.tBufList i).pBufHeader.isSome

/-- The counters fit the table. -/
structure Counted (s : Component) : Prop where
  count : s.nAllocatedBuffers = s.inUse.card
  below : ∀ i, (s.tBufList i).pBufHeader.isSome = true → i < s.nTotalBuffers
  total : s.nTotalBuffers ≤ maxNumProxyBuffers

lemma mem_inUse {i : Nat} :
    i ∈ s.inUse ↔ i < maxNumProxyBuffers ∧ (s.tBufList i).pBufHeader.isSome = true := by
  simp [inUse]

lemma counted_init (bMapBuffers : Bool) : Counted (.init bMapBuffers) where
  count := by simp [inUse, init, zero]
  below i h := by simp [init, zero] at h
  total := Nat.zero_le _

lemma Counted.same (h : Counted s) (hs : SameHeaders s s') : Counted s' := by
  refine ⟨?_, fun i hi => ?_, ?_⟩
  · rw [hs.allocated, h.count]
    unfold inUse
    simp only [hs.header]
  · rw [hs.total]
    exact h.below i (by rwa [hs.header] at hi)
  · rw [hs.total]
    exact h.total

/-- The slot the next buffer gets is empty, and the table is full up to it if it is a new one. -/
lemma Counted.currentBuffer (h : Counted s) :
    s.currentBuffer ≤ s.nTotalBuffers ∧ (s.tBufList s.currentBuffer).pBufHeader = none ∧
      (s.currentBuffer = s.nTotalBuffers → ∀ j < s.nTotalBuffers,
        (s.tBufList j).pBufHeader.isSome = true) := by
  unfold Component.currentBuffer
  cases hf : (List.range s.nTotalBuffers).find? fun i => (s.tBufList i).pBufHeader.isNone with
  | none =>
    rw [List.find?_eq_none] at hf
    refine ⟨le_rfl, ?_, fun _ j hj => ?_⟩
    · rw [getD_none, ← not_isSome_iff_eq_none]
      exact fun hsome => absurd (h.below _ hsome) (lt_irrefl _)
    · have := hf j (List.mem_range.mpr hj)
      simpa [isSome_iff_ne_none] using this
  | some i =>
    have hi : i < s.nTotalBuffers := List.mem_range.mp (List.mem_of_find?_eq_some hf)
    have hp := List.find?_some hf
    rw [getD_some]
    exact ⟨hi.le, by simpa using hp, fun heq => absurd hi (heq ▸ lt_irrefl _)⟩

lemma Counted.inUse_subset (h : Counted s) :
    s.inUse ⊆ range s.nTotalBuffers := fun i hi =>
  mem_range.mpr (h.below i (mem_inUse.mp hi).2)

lemma Counted.stored (h : Counted s) (hs : Stored s s' hdr) : Counted s' := by
  obtain ⟨hle, hnone, hfull⟩ := h.currentBuffer
  have hroom := hs.room
  have hmem : s.currentBuffer ∉ s.inUse := fun hi =>
    absurd (mem_inUse.mp hi).2 (by simp [hnone])
  have huse : s'.inUse = insert s.currentBuffer s.inUse := by
    ext j
    rw [mem_insert, mem_inUse, mem_inUse, hs.header]
    by_cases hj : j = s.currentBuffer
    · rw [if_pos hj]
      simp only [isSome_some, and_true, hj, true_or, iff_true]
      omega
    · simp [hj]
  have hcard : s.inUse.card ≤ s.nTotalBuffers := by
    simpa using card_le_card h.inUse_subset
  refine ⟨?_, fun j hj => ?_, ?_⟩
  · rw [hs.allocated, huse, card_insert_of_notMem hmem, h.count]
  · rw [hs.total, h.count]
    rw [hs.header] at hj
    by_cases hjc : j = s.currentBuffer
    · -- a new slot is taken only when all slots below it are in use
      rcases hle.lt_or_eq with hlt | heq
      · omega
      · have hrange : s.inUse = range s.nTotalBuffers := by
          refine Finset.Subset.antisymm h.inUse_subset fun k hk => mem_inUse.mpr ?_
          have hk := mem_range.mp hk
          exact ⟨by omega, hfull heq k hk⟩
        have hc : s.inUse.card = s.nTotalBuffers := by rw [hrange, card_range]
        omega
    · rw [if_neg hjc] at hj
      exact (h.below j hj).trans_le (le_max_left _ _)
  · rw [hs.total, h.count]
    omega

lemma Counted.cleared {i : Nat} (h : Counted s) (hs : Cleared s s' i hdr) : Counted s' := by
  obtain ⟨hi, hhdr⟩ := hs.slot
  have hmem : i ∈ s.inUse := mem_inUse.mpr ⟨hi.trans_le h.total, by simp [hhdr]⟩
  have huse : s'.inUse = s.inUse.erase i := by
    ext j
    rw [mem_erase, mem_inUse, mem_inUse, hs.header]
    by_cases hj : j = i
    · simp [hj]
    · simp [hj]
  refine ⟨?_, fun j hj => ?_, ?_⟩
  · rw [hs.allocated, huse, card_erase_of_mem hmem, h.count]
  · rw [hs.total]
    rw [hs.header] at hj
    by_cases hji : j = i
    · simp [hji] at hj
    · rw [if_neg hji] at hj
      exact h.below j hj
  · rw [hs.total]
    exact h.total

/-! ## The headers -/

/-- The blocks of the table are not freed, and different slots have different ones. -/
structure Headers (s : Component) : Prop where
  live : ∀ i h, (s.tBufList i).pBufHeader = some h → h.addr ∈ s.live ∧ h.platform ∈ s.live
  apart : ∀ i j h h', (s.tBufList i).pBufHeader = some h → (s.tBufList j).pBufHeader = some h' →
    i ≠ j → h.addr ≠ h'.addr ∧ h.addr ≠ h'.platform ∧ h.platform ≠ h'.platform

lemma headers_init (bMapBuffers : Bool) : Headers (.init bMapBuffers) :=
  ⟨nofun, nofun⟩

lemma Headers.same (h : Headers s) (hs : SameHeaders s s') : Headers s' := by
  refine ⟨fun i hdr hi => ?_, fun i j hdr hdr' hi hj => ?_⟩
  · rw [hs.live]
    exact h.live i hdr ((hs.header i).symm.trans hi)
  · exact h.apart i j hdr hdr' ((hs.header i).symm.trans hi) ((hs.header j).symm.trans hj)

lemma Headers.stored {hdr plat : Nat} {md : Bool} (h : Headers s) (hs : Stored s s' ⟨hdr, plat, md⟩)
    (hfresh : hdr ∉ s.live) (hfresh' : plat ∉ s.live)
    (hlive : s'.live = insert plat (insert hdr s.live)) : Headers s' := by
  -- the new blocks are none of those in the table
  have hnew : ∀ j h', (s.tBufList j).pBufHeader = some h' →
      hdr ≠ h'.addr ∧ hdr ≠ h'.platform ∧ plat ≠ h'.addr ∧ plat ≠ h'.platform := by
    intro j h' hj
    obtain ⟨ha, hp⟩ := h.live j h' hj
    exact ⟨fun e => hfresh (e ▸ ha), fun e => hfresh (e ▸ hp), fun e => hfresh' (e ▸ ha),
      fun e => hfresh' (e ▸ hp)⟩
  refine ⟨fun i x hi => ?_, fun i j x y hi hj hij => ?_⟩
  · rw [hs.header] at hi
    rw [hlive]
    split_ifs at hi
    · obtain rfl := some.inj hi
      simp
    · obtain ⟨ha, hp⟩ := h.live i x hi
      exact ⟨by simp [ha], by simp [hp]⟩
  · rw [hs.header] at hi hj
    split_ifs at hi hj with hic hjc hjc
    · exact absurd (hic.trans hjc.symm) hij
    · obtain rfl := some.inj hi
      obtain ⟨h1, h2, h3, h4⟩ := hnew j y hj
      exact ⟨h1, h2, h4⟩
    · obtain rfl := some.inj hj
      obtain ⟨h1, h2, h3, h4⟩ := hnew i x hi
      exact ⟨h1.symm, h3.symm, h4.symm⟩
    · exact h.apart i j x y hi hj hij

lemma Headers.cleared {i : Nat} (h : Headers s) (hs : Cleared s s' i hdr) : Headers s' := by
  refine ⟨fun j x hj => ?_, fun j k x y hj hk hjk => ?_⟩
  · rw [hs.header] at hj
    split_ifs at hj with hji
    obtain ⟨ha, hp⟩ := h.live j x hj
    obtain ⟨h1, h2, h3⟩ := h.apart j i x hdr hj hs.slot.2 hji
    obtain ⟨-, h4, -⟩ := h.apart i j hdr x hs.slot.2 hj (Ne.symm hji)
    rw [hs.live, mem_erase, mem_erase, mem_erase, mem_erase]
    exact ⟨⟨h1, h2, ha⟩, ⟨h4.symm, h3, hp⟩⟩
  · rw [hs.header] at hj hk
    split_ifs at hj hk
    exact h.apart j k x y hj hk hjk

/-! ## Runs -/

/-- The remote core does not answer a `UseBuffer` with `OMX_ErrorNoMore`. -/
def neverNoMore : Call → Bool
  | .allocate env => env.use.rpcUse ≠ .none || env.use.compReturn ≠ .noMore
  | .use env => env.rpcUse ≠ .none || env.compReturn ≠ .noMore
  | .free _ => true

lemma Used.cases {no : Prop} (h : Used env s s') (hh : ∀ a ∈ env.header, a ∉ s.live)
    (hp : ∀ a ∈ env.platform, a ∉ s.live)
    (hno : no → ¬(env.rpcUse = .none ∧ env.compReturn = .noMore)) :
    SameHeaders s s' ∨ (∃ i hdr, Cleared s s' i hdr) ∨
    ∃ hdr plat md, Stored s s' ⟨hdr, plat, md⟩ ∧ hdr ∉ s.live ∧ plat ∉ s.live ∧
      (no → s'.live = insert plat (insert hdr s.live)) := by
  refine h.imp id fun hused => Or.inr ?_
  obtain ⟨hdr, plat, md, hhdr, hplat, hst, hrpc, hlive⟩ := hused
  refine ⟨hdr, plat, md, hst, hh hdr hhdr, hp plat hplat, fun h => ?_⟩
  rcases hlive with ⟨-, hlive⟩ | hcomp
  · exact hlive
  · exact absurd ⟨hrpc, hcomp⟩ (hno h)

variable {err : OmxError}

lemma next_headers {c : Call} (h : s.next c = some (s', err)) :
    SameHeaders s s' ∨ (∃ i hdr, Cleared s s' i hdr) ∨
    ∃ hdr plat md, Stored s s' ⟨hdr, plat, md⟩ ∧ hdr ∉ s.live ∧ plat ∉ s.live ∧
      (neverNoMore c = true → s'.live = insert plat (insert hdr s.live)) := by
  cases c with
  | allocate env =>
    obtain ⟨⟨hh, hp, -⟩, hres⟩ := ite_none_right_eq_some.mp h
    have hs' : s' = (proxyAllocateBuffer env s).1 := by rw [some.inj hres]
    exact (hs' ▸ proxyAllocateBuffer_headers env s).cases (fun a ha => (hh a ha).1) hp
      fun hno => not_and_or.mpr (by simpa [neverNoMore] using hno)
  | use env =>
    obtain ⟨⟨hh, hp, -⟩, hres⟩ := ite_none_right_eq_some.mp h
    have hs' : s' = (proxyUseBuffer env s).1 := by rw [some.inj hres]
    exact (hs' ▸ proxyUseBuffer_headers env s).cases (fun a ha => (hh a ha).1) hp
      fun hno => not_and_or.mpr (by simpa [neverNoMore] using hno)
  | free env =>
    have hs' : s' = (proxyFreeBuffer env s).1 := by rw [some.inj h]
    rcases proxyFreeBuffer_headers env s with hsame | ⟨i, hdr, hcl⟩
    · exact Or.inl (hs' ▸ hsame)
    · exact Or.inr (Or.inl ⟨i, hdr, hs' ▸ hcl⟩)

lemma Counted.next {c : Call} (h : Counted s) (hn : s.next c = some (s', err)) :
    Counted s' ∧ s.nTotalBuffers ≤ s'.nTotalBuffers := by
  rcases next_headers hn with hs | ⟨i, hdr, hs⟩ | ⟨hdr, plat, md, hs, -, -, -⟩
  · exact ⟨h.same hs, hs.total.ge⟩
  · exact ⟨h.cleared hs, hs.total.ge⟩
  · exact ⟨h.stored hs, hs.total ▸ le_max_left _ _⟩

lemma Headers.next {c : Call} (h : Headers s) (hno : neverNoMore c = true)
    (hn : s.next c = some (s', err)) : Headers s' := by
  rcases next_headers hn with hs | ⟨i, hdr, hs⟩ | ⟨hdr, plat, md, hs, hh, hp, hlive⟩
  · exact h.same hs
  · exact h.cleared hs
  · exact h.stored hs hh hp (hlive hno)

/-- The counters fit the table in every reachable state, whatever the remote core answers. -/
lemma counted_of_reachable {Cond : Component → Call → Prop} (hr : Component.ReachableWith Cond s) :
    Counted s := by
  refine Reachable.invariant Counted ?_ ?_ hr
  · rintro s ⟨bMapBuffers, rfl⟩
    exact counted_init bMapBuffers
  · rintro s c s' hs ⟨-, hn⟩
    obtain ⟨⟨s'', err⟩, hn', rfl⟩ := map_eq_some_iff.mp hn
    exact (hs.next hn').1

lemma headers_of_reachable (hr : Component.ReachableWith (fun _ c => neverNoMore c = true) s) :
    Headers s := by
  refine Reachable.invariant Headers ?_ ?_ hr
  · rintro s ⟨bMapBuffers, rfl⟩
    exact headers_init bMapBuffers
  · rintro s c s' hs ⟨hno, hn⟩
    obtain ⟨⟨s'', err⟩, hn', rfl⟩ := map_eq_some_iff.mp hn
    exact hs.next hno hn'

/-- **The table is consistent after every call** of a run in which the remote core never answers
`OMX_ErrorNoMore`: the counters fit it, and its headers are distinct. -/
theorem table_consistent {s s' : Component} {c : Call} {err : OmxError}
    (hr : Component.ReachableWith (fun _ c => neverNoMore c = true) s)
    (hc : neverNoMore c = true) (hn : s.next c = some (s', err)) :
    s'.nAllocatedBuffers = s'.inUse.card ∧
      (∀ i, (s'.tBufList i).pBufHeader.isSome = true → i < s'.nTotalBuffers) ∧
      s'.nTotalBuffers ≤ 100 ∧ s.nTotalBuffers ≤ s'.nTotalBuffers ∧
      ∀ i j h h', (s'.tBufList i).pBufHeader = some h → (s'.tBufList j).pBufHeader = some h' →
        i ≠ j → h.addr ≠ h'.addr := by
  obtain ⟨hcount, hle⟩ := (counted_of_reachable hr).next hn
  have hheaders := (headers_of_reachable hr).next hc hn
  exact ⟨hcount.count, hcount.below, hcount.total, hle,
    fun i j h h' hi hj hij => (hheaders.apart i j h h' hi hj hij).1⟩

/-- A call of `PROXY_UseBuffer` on a port without metadata, with the blocks `malloc` returns and
the answer of the remote core. -/
def sampleUse (header platform : Nat) (compReturn : OmxError) : UseEnv where
  argsOk := true
  pBuffer := 7
  aux0 := 0
  aux1 := 0
  bufferType := .ionPointers
  header := some header
  platform := some platform
  getParameter := .none
  isMetaDataEnabled := false
  metaAlloc := none
  register := ⟨.registered, .registered, .enotty⟩
  metaRegister := ⟨.registered, .registered, .enotty⟩
  rpcUse := .none
  compReturn := compReturn
  remote := 0

/-- Two buffers of an application in the table. -/
theorem two_buffers_consistent :
    ∃ s s' : Component, ∃ err, s.next (.use (sampleUse 3 4 .none)) = some (s', err) ∧
      s'.nAllocatedBuffers = 2 ∧ s'.nAllocatedBuffers = s'.inUse.card := by
  obtain ⟨s, hr, ⟨s', err⟩, hs', hcount⟩ : ∃ s,
      Component.ReachableWith (fun _ c => neverNoMore c = true) s ∧
        ∃ r, s.next (.use (sampleUse 3 4 .none)) = some r ∧ r.1.nAllocatedBuffers = 2 :=
    exists_of_run ⟨false, rfl⟩ [.use (sampleUse 1 2 .none)] (by decide +kernel)
  exact ⟨s, s', err, hs', hcount, (table_consistent hr (by decide) hs').1⟩

/-- The remote core answers the first call with `OMX_ErrorNoMore`.  The slot is in use although
its header is freed, so `malloc` may return the same block for the second call. -/
theorem freed_header_in_two_slots : ∃ s, Component.ReachableWith (fun _ _ => True) s ∧
      (s.tBufList 0).pBufHeader.map Header.addr = some 1 ∧
      (s.tBufList 1).pBufHeader.map Header.addr = some 1 := by
  exact exists_of_run ⟨false, rfl⟩ [.use (sampleUse 1 2 .noMore), .use (sampleUse 1 2 .none)]
    (by decide +kernel)

end Solana.Proxy
