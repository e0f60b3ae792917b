import Solana.Domx.Capacity

/-!
# The slots that the buffer calls touch

`PROXY_AllocateBuffer` and `PROXY_UseBuffer` each look for the first empty slot of the table, the
second one inside the first.  Only `PROXY_UseBuffer` tests whether there is room, and
`PROXY_AllocateBuffer` stores the memory handle before that: in a full table it stores the handle
behind the last slot (`allocate_behind_table`).

`Call.slots` are the indices of all slots that a call reads or writes; it leaves the others as they
were (`slots_frame`).  `slots_in_table_iff`: they are below the size of the table except in that
case.  The two searches always find the same slot.
-/

namespace Solana.Proxy

open Runs Finset

/-! ## Indices -/

/-- The slots that the search for an empty one looks at. -/
def Component.searched (s : Component) : List Nat :=
  List.range (min (s.currentBuffer + 1) s.nTotalBuffers)

/-- `PROXY_UseBuffer` gets as far as using its slot, for the metadata buffer or for the
registration. -/
def UseEnv.reachesSlot (env : UseEnv) (s : Component) : Bool :=
  decide (s.nTotalBuffers < maxNumProxyBuffers) && env.header.isSome && env.platform.isSome &&
    decide (env.getParameter = .none) && !(env.isMetaDataEnabled && env.metaAlloc.isNone)

/-- The slots that `PROXY_UseBuffer` reads or writes. -/
def useSlots (env : UseEnv) (s : Component) : List Nat :=
  if !env.argsOk || decide (env.pBuffer = 0) then []
  else s.searched ++ if env.reachesSlot s then [s.currentBuffer] else []

/-- The slots that `PROXY_AllocateBuffer` reads or writes, those of the nested call included. -/
def allocateSlots (env : AllocEnv) (s : Component) : List Nat :=
  if !env.argsOk then []
  else
    s.searched ++
      match env.alloc with
      | none => []
      | some prop =>
        s.currentBuffer :: useSlots { env.use with pBuffer := prop.fd } (s.storeHandle prop)

/-- The slots that `PROXY_FreeBuffer` reads or writes. -/
def freeSlots (env : FreeEnv) (s : Component) : List Nat :=
  if env.argsErr ≠ .none then []
  else
    match s.slotOf env.header with
    | none => List.range s.nTotalBuffers
    | some i => List.range (i + 1)

/-- The slots that a call reads or writes. -/
def Call.slots (s : Component) : Call → List Nat
  | .allocate env => allocateSlots env s
  | .use env => useSlots env s
  | .free env => freeSlots env s

/-- The slot in which `PROXY_AllocateBuffer` stores its memory handle is the one that the nested
call then fills. -/
def Call.OneSlot (s : Component) : Call → Prop
  | .allocate env => ∀ prop ∈ env.alloc, (s.storeHandle prop).currentBuffer = s.currentBuffer
  | .use _ => True
  | .free _ => True

/-- `PROXY_AllocateBuffer` gets as far as storing its memory handle. -/
def Call.Stores : Call → Prop
  | .allocate env => env.argsOk = true ∧ env.alloc.isSome = true
  | .use _ => False
  | .free _ => False

variable {s : Component}

/-! ## The other slots -/

lemma useSteps_of_not_reachesSlot {env : UseEnv} (hadm : env.Admitted s)
    (h : env.reachesSlot s = false) (w : Work) : ∃ err, useSteps env w = ⟨w, err, false⟩ := by
  simp only [UseEnv.reachesSlot, hadm.room, hadm.header, hadm.platform, decide_true, Bool.true_and,
    Bool.and_eq_false_iff, decide_eq_false_iff_not, Bool.not_eq_false', Bool.and_eq_true] at h
  unfold useSteps
  by_cases hget : env.getParameter ≠ .none
  · exact ⟨_, if_pos hget⟩
  · obtain ⟨hmeta, halloc⟩ := h.resolve_left hget
    exact ⟨_, by simp [hget, allocMetaData, hmeta, Option.isNone_iff_eq_none.mp halloc]; rfl⟩

lemma proxyUseBuffer_frame {env : UseEnv} {i : Nat} (hi : i ∉ useSlots env s) :
    (proxyUseBuffer env s).1.tBufList i = s.tBufList i := by
  obtain ⟨err, -, -, he⟩ | ⟨hdr, plat, p, hadm, -, -, rfl, hcase⟩ := proxyUseBuffer_cases env s
  · rw [he]
  cases hreach : env.reachesSlot s with
  | false =>
    obtain ⟨err, hsteps⟩ := useSteps_of_not_reachesSlot hadm hreach
      ⟨s.tBufList s.currentBuffer, s.mem, s.reg⟩
    simp only [hsteps, Bool.false_eq_true, false_and, or_false, true_and] at hcase
    rw [hcase, Component.leaveSlot, Function.update_eq_self]
  | true =>
    have hne : i ≠ s.currentBuffer := by
      rintro rfl
      simp [useSlots, hadm.args, hreach] at hi
    obtain ⟨-, he⟩ | ⟨-, he⟩ := hcase <;> rw [he] <;> exact Function.update_of_ne hne ..

/-- **A call leaves all other slots as they were.** -/
theorem slots_frame {s' : Component} {err : OmxError} {c : Call}
    (h : s.next c = some (s', err)) {i : Nat} (hi : i ∉ c.slots s) :
    s'.tBufList i = s.tBufList i := by
  cases c with
  | use env =>
    obtain ⟨-, h⟩ := Option.ite_none_right_eq_some.mp h
    exact congrArg (·.1.tBufList i) (Option.some.inj h) ▸ proxyUseBuffer_frame hi
  | allocate env =>
    obtain ⟨-, h⟩ := Option.ite_none_right_eq_some.mp h
    rw [← congrArg (·.1.tBufList i) (Option.some.inj h)]
    obtain ⟨err, -, -, he⟩ | ⟨prop, res, hargs, hprop, rfl, he⟩ := proxyAllocateBuffer_cases env s
    · rw [he]
    · rw [he]
      have hi : i ∉ s.searched ∧ i ≠ s.currentBuffer ∧
          i ∉ useSlots { env.use with pBuffer := prop.fd } (s.storeHandle prop) := by
        simpa [Call.slots, allocateSlots, hargs, hprop] using hi
      exact (proxyUseBuffer_frame hi.2.2).trans (Function.update_of_ne hi.2.1 ..)
  | free env =>
    rw [← congrArg (·.1.tBufList i) (Option.some.inj h)]
    obtain ⟨-, he⟩ | ⟨k, hdr, hargs, hslot, -, -, he⟩ := proxyFreeBuffer_cases env s
    · rw [he]
    · have hi : k + 1 ≤ i := by simpa [Call.slots, freeSlots, hargs, hslot] using hi
      rw [he]
      exact Function.update_of_ne (by omega) ..

/-! ## Bounds -/

lemma oneSlot (s : Component) (c : Call) : c.OneSlot s := by
  cases c with
  | allocate env => exact fun prop _ => currentBuffer_congr (s.sameHeaders_storeHandle prop)
  | use env => trivial
  | free env => trivial

section

variable (h : Counted s)
include h

lemma Counted.searched_lt {i : Nat} (hi : i ∈ s.searched) : i < maxNumProxyBuffers := by
  have hlt := List.mem_range.mp hi
  have htotal := h.total
  omega

lemma Counted.useSlots_lt {env : UseEnv} {i : Nat} (hi : i ∈ useSlots env s) :
    i < maxNumProxyBuffers := by
  obtain ⟨hle, -, -⟩ := h.currentBuffer
  unfold useSlots at hi
  split_ifs at hi with hargs hreach
  · simp at hi
  · rcases List.mem_append.mp hi with hi | hi
    · exact h.searched_lt hi
    · obtain rfl := List.mem_singleton.mp hi
      have hroom : s.nTotalBuffers < maxNumProxyBuffers := by
        simp only [UseEnv.reachesSlot, Bool.and_eq_true, decide_eq_true_eq] at hreach
        exact hreach.1.1.1.1
      omega
  · exact h.searched_lt (by simpa using hi)

lemma Counted.freeSlots_lt {env : FreeEnv} {i : Nat} (hi : i ∈ freeSlots env s) :
    i < maxNumProxyBuffers := by
  have htotal := h.total
  unfold freeSlots at hi
  split_ifs at hi
  · simp at hi
  · cases hslot : s.slotOf env.header with
    | none =>
      simp only [hslot] at hi
      exact (List.mem_range.mp hi).trans_le htotal
    | some k =>
      simp only [hslot] at hi
      have hk := (slotOf_eq_some hslot).1
      have hik := List.mem_range.mp hi
      omega

/-- The first empty slot is outside the table exactly if all slots of the table are in use. -/
lemma Counted.currentBuffer_lt_iff :
    s.currentBuffer < maxNumProxyBuffers ↔ s.inUse.card ≠ maxNumProxyBuffers := by
  obtain ⟨hle, hnone, hfull⟩ := h.currentBuffer
  have htotal := h.total
  constructor
  · intro hlt hcard
    have huse : s.inUse = range maxNumProxyBuffers :=
      eq_of_subset_of_card_le (filter_subset _ _) (by simp [hcard])
    have hmem : s.currentBuffer ∈ s.inUse := huse ▸ mem_range.mpr hlt
    simpa [hnone] using (mem_inUse.mp hmem).2
  · intro hcard
    by_contra hge
    refine hcard ?_
    have huse : s.inUse = range maxNumProxyBuffers := by
      refine Finset.Subset.antisymm (filter_subset _ _) fun j hj => mem_inUse.mpr ?_
      have hj := mem_range.mp hj
      exact ⟨hj, hfull (by omega) j (by omega)⟩
    rw [huse, card_range]

lemma Counted.allocateSlots_lt_iff {env : AllocEnv} :
    (∀ i ∈ allocateSlots env s, i < maxNumProxyBuffers) ↔
      (env.argsOk = true ∧ env.alloc.isSome = true → s.currentBuffer < maxNumProxyBuffers) := by
  unfold allocateSlots
  cases env.argsOk with
  | false => simp
  | true =>
    cases env.alloc with
    | none => simpa using fun i hi => h.searched_lt hi
    | some prop =>
      have hstored := h.same (s.sameHeaders_storeHandle prop)
      refine ⟨fun hall _ => hall _ (by simp), fun hcur i hi => ?_⟩
      have hi : i ∈ s.searched ∨ i = s.currentBuffer ∨
          i ∈ useSlots { env.use with pBuffer := prop.fd } (s.storeHandle prop) := by
        simpa using hi
      rcases hi with hi | rfl | hi
      · exact h.searched_lt hi
      · exact hcur ⟨rfl, rfl⟩
      · exact hstored.useSlots_lt hi

end

/-- **The slots that a call touches are in the table**, in every reachable state, exactly if the
call does not store a memory handle while all slots are in use.  The slot in which
`PROXY_AllocateBuffer` stores its handle is always the one that the nested call fills. -/
theorem slots_in_table_iff (hr : Component.ReachableWith (fun _ _ => True) s) (c : Call) :
    ((∀ i ∈ c.slots s, i < 100) ∧ c.OneSlot s) ↔ ¬(c.Stores ∧ s.inUse.card = 100) := by
  have h := counted_of_reachable hr
  rw [and_iff_left (oneSlot s c)]
  cases c with
  | allocate env =>
    rw [not_and, ← ne_eq]
    exact h.allocateSlots_lt_iff.trans (imp_congr_right fun _ => h.currentBuffer_lt_iff)
  | use env => exact ⟨fun _ => by simp [Call.Stores], fun _ i hi => h.useSlots_lt hi⟩
  | free env => exact ⟨fun _ => by simp [Call.Stores], fun _ i hi => h.freeSlots_lt hi⟩

/-- The first buffer of a component goes into the first slot. -/
theorem first_slot_in_table : 0 ∈ (Call.allocate (sampleAllocate 1 2 .none)).slots (.init false) ∧
      ∀ i ∈ (Call.allocate (sampleAllocate 1 2 .none)).slots (.init false), i < 100 := by
  have hcard : (Component.init false).inUse.card ≠ 100 := by decide +kernel
  exact ⟨by decide +kernel,
    ((slots_in_table_iff (.start ⟨false, rfl⟩) _).mpr fun h => hcard h.2).1⟩

/-- In a table of 100 buffers in use the memory handle is stored behind the last slot. -/
theorem allocate_behind_table : ∃ s, Component.ReachableWith (fun _ _ => True) s ∧
      100 ∈ (Call.allocate (sampleAllocate 201 202 .none)).slots s ∧
      (((proxyAllocateBuffer (sampleAllocate 201 202 .none) s).1.tBufList 100).y.pBufferHandle =
        some 0) := by
  obtain ⟨s, hs, hfilled⟩ := slotsFilled_run (le_refl 100)
  have hcount := hfilled.counted
  have hcur : s.currentBuffer = 100 := by
    have hge := mt hcount.currentBuffer_lt_iff.mp
      (not_not.mpr (hcount.count.symm.trans hfilled.allocated))
    exact le_antisymm (hcount.currentBuffer.1.trans hfilled.total.le) (not_lt.mp hge)
  refine ⟨s, reachable_runWith (fun _ _ _ => trivial) _ (.start ⟨_, rfl⟩) hs, ?_, ?_⟩
  · simp [Call.slots, allocateSlots, sampleAllocate, hcur]
  · -- the nested call refuses the buffer and leaves the handle where it is
    obtain ⟨err, -, hno, -⟩ | ⟨prop, res, -, hprop, rfl, he⟩ :=
      proxyAllocateBuffer_cases (sampleAllocate 201 202 .none) s
    · exact absurd ⟨rfl, rfl⟩ hno
    · obtain rfl := Option.some.inj hprop
      have hnested : proxyUseBuffer { (sampleAllocate 201 202 .none).use with pBuffer := 7 }
          (s.storeHandle ⟨0, 7⟩) = (s.storeHandle ⟨0, 7⟩, .insufficientResources) :=
        sampleUse_refused 201 202 hfilled.total.ge
      rw [he, hnested]
      simp [Component.storeHandle, hcur, hfilled.mem, Ledgers.Ledger.empty]

end Solana.Proxy
