import Solana.Domx.Resources

/-!
# When the buffer table is full

A component has room for `maxNumProxyBuffers` buffers.  `PROXY_UseBuffer` tests for room with
`nTotalBuffers`, the number of slots that were ever in use at once (`total_eq_livePeak`), and
`PROXY_FreeBuffer` does not lower it.  A freed slot is used again as long as the counter is below
the size of the table.  Once the table was full the component refuses every buffer, also when all
of them have been freed (`refused_after_full`).

A request is refused for lack of room when it fails although the same request, with the same
outcomes of everything that it calls, is accepted by a component with an empty table.
-/

namespace Solana.Proxy

open Runs Component Finset Option

open Rpc (RpcError)

/-! ## The outcome of a request apart from the room -/

lemma rpcRegisterBuffer_err (type : BufferType) (fd1 fd2 : Int) (env : RegisterEnv)
    (handle1 handle2 handle1' handle2' : Option Nat) (reg reg' : Ledgers.Ledger) :
    (rpcRegisterBuffer type fd1 fd2 env handle1 handle2 reg).err =
      (rpcRegisterBuffer type fd1 fd2 env handle1' handle2' reg').err := by
  obtain ⟨first, second, pvr⟩ := env
  unfold rpcRegisterBuffer
  by_cases hfd : fd1 < 0
  · rw [if_pos hfd, if_pos hfd]
  · rw [if_neg hfd, if_neg hfd]
    cases type with
    | bufferDescriptorVirtual2D =>
      by_cases hfd2 : fd2 < 0
      · simp only [if_pos hfd2]
      · simp only [if_neg hfd2]
        cases first <;> cases second <;> rfl
    | grallocPointers =>
      rcases pvr with _ | _ | ⟨_ | _, _ | _ | _⟩ <;> rfl
    | _ => cases first <;> rfl

variable {env : UseEnv}

lemma allocMetaData_slot {w w' : Work} (h : allocMetaData env w = some w') (v : Work) :
    ∃ v', allocMetaData env v = some v' ∧ (env.isMetaDataEnabled = true →
        v'.slot.metaData.bufferFd = w'.slot.metaData.bufferFd) := by
  unfold allocMetaData at h ⊢
  by_cases hmd : env.isMetaDataEnabled = true
  · rw [if_pos hmd] at h ⊢
    obtain ⟨prop, hprop, rfl⟩ := map_eq_some_iff.mp h
    exact ⟨_, map_eq_some_iff.mpr ⟨prop, hprop, rfl⟩, fun _ => rfl⟩
  · rw [if_neg hmd] at h ⊢
    exact ⟨v, rfl, fun hmd' => absurd hmd' hmd⟩

lemma checkRpcError_go {rpc : RpcError} {comp : OmxError}
    (h : (checkRpcError rpc comp).1 = .none) : (checkRpcError rpc comp).2 = true := by
  obtain ⟨rfl, rfl⟩ := checkRpcError_eq_none.mp h
  rfl

lemma useSteps_ok {w : Work} (h : (useSteps env w).err = .none) (v : Work) :
    (useSteps env v).err = .none ∧ (useSteps env v).go = true := by
  unfold useSteps at h ⊢
  by_cases hget : env.getParameter ≠ .none
  · rw [if_pos hget] at h
    exact absurd h hget
  · rw [if_neg hget] at h ⊢
    cases hw : allocMetaData env w with
    | none => simp [hw] at h
    | some w₁ =>
      obtain ⟨v₁, hv, hfd⟩ := allocMetaData_slot hw v
      simp only [hw, hv] at h ⊢
      have herr : (registerData env v₁).1 = (registerData env w₁).1 :=
        rpcRegisterBuffer_err _ _ _ _ _ _ _ _ _ _
      -- the metadata are registered under the descriptor they were allocated with
      have hmeta : (registerMetaData env (registerData env v₁).2).1 =
          (registerMetaData env (registerData env w₁).2).1 := by
        unfold registerMetaData
        by_cases hmd : env.isMetaDataEnabled = true
        · rw [if_pos hmd, if_pos hmd]
          simp only [registerData, hfd hmd]
          exact rpcRegisterBuffer_err _ _ _ _ _ _ _ _ _ _
        · rw [if_neg hmd, if_neg hmd]
      rw [herr, hmeta]
      split_ifs at h ⊢ with h1 h2
      · exact absurd (ofRpcError_eq_none.mp h) h1
      · exact absurd (ofRpcError_eq_none.mp h) h2
      · exact ⟨h, checkRpcError_go h⟩

variable {s : Component}

lemma proxyUseBuffer_eq_none : (proxyUseBuffer env s).2 = .none ↔
      env.Admitted s ∧ (useSteps env ⟨s.tBufList s.currentBuffer, s.mem, s.reg⟩).err = .none := by
  obtain ⟨err, hne, hno, he⟩ | ⟨hdr, plat, p, hadm, -, -, rfl, ⟨-, he⟩ | ⟨-, he⟩⟩ :=
    proxyUseBuffer_cases env s
  · rw [he]
    exact ⟨fun h => absurd h hne, fun h => absurd h.1 hno⟩
  · rw [he]
    exact (and_iff_right hadm).symm
  · rw [he]
    exact (and_iff_right hadm).symm

/-- A buffer that one component accepts is accepted by every other one with room. -/
lemma proxyUseBuffer_accepted {s₀ : Component} (h : (proxyUseBuffer env s₀).2 = .none)
    (hroom : s.nTotalBuffers < maxNumProxyBuffers) :
    (proxyUseBuffer env s).2 = .none ∧ ∃ hdr, Stored s (proxyUseBuffer env s).1 hdr := by
  obtain ⟨hadm₀, hsteps⟩ := proxyUseBuffer_eq_none.mp h
  have hadm : env.Admitted s := ⟨hadm₀.args, hroom, hadm₀.header, hadm₀.platform⟩
  obtain ⟨herr, hgo⟩ := useSteps_ok hsteps ⟨s.tBufList s.currentBuffer, s.mem, s.reg⟩
  refine ⟨proxyUseBuffer_eq_none.mpr ⟨hadm, herr⟩, ?_⟩
  obtain ⟨err, -, hno, -⟩ | ⟨hdr, plat, p, -, -, -, rfl, ⟨hstop, -⟩ | ⟨-, he⟩⟩ :=
    proxyUseBuffer_cases env s
  · exact absurd hadm hno
  · exact absurd (hstop.symm.trans hgo) Bool.false_ne_true
  · rw [he]
    exact ⟨_, stored_putSlot hroom env hdr plat _⟩

/-- `PROXY_AllocateBuffer` answers what `PROXY_UseBuffer` answers for the new buffer. -/
lemma proxyAllocateBuffer_eq {env : AllocEnv} (hargs : env.argsOk = true) {prop : MemProp}
    (halloc : env.alloc = some prop) (s : Component) : ∃ s₁, SameHeaders s s₁ ∧
      (proxyAllocateBuffer env s).2 = (proxyUseBuffer { env.use with pBuffer := prop.fd } s₁).2 ∧
      SameHeaders (proxyUseBuffer { env.use with pBuffer := prop.fd } s₁).1
        (proxyAllocateBuffer env s).1 := by
  obtain ⟨err, -, hno, -⟩ | ⟨prop', res, -, halloc', rfl, he⟩ := proxyAllocateBuffer_cases env s
  · exact absurd ⟨hargs, isSome_of_mem halloc⟩ hno
  · obtain rfl := some.inj (halloc.symm.trans halloc')
    rw [he]
    exact ⟨_, s.sameHeaders_storeHandle prop, rfl, ⟨fun _ => rfl, rfl, rfl, rfl⟩⟩

lemma proxyAllocateBuffer_eq_none {env : AllocEnv} (h : (proxyAllocateBuffer env s).2 = .none) :
    env.argsOk = true ∧ ∃ prop, env.alloc = some prop := by
  obtain ⟨err, herr, -, he⟩ | ⟨prop, -, hargs, halloc, -, -⟩ := proxyAllocateBuffer_cases env s
  · exact absurd ((congrArg Prod.snd he).symm.trans h) herr
  · exact ⟨hargs, prop, halloc⟩

/-! ## Requests -/

variable {bMapBuffers : Bool}

/-- **What a component does with a request that a component with an empty table accepts.** -/
lemma next_of_accepted {s s' : Component} {c : Call} {err : OmxError}
    (hc : ((init bMapBuffers).next c).map Prod.snd = some .none) (hn : s.next c = some (s', err)) :
    (s.nTotalBuffers < maxNumProxyBuffers → err = .none ∧ ∃ hdr, Stored s s' hdr) ∧
      (¬ s.nTotalBuffers < maxNumProxyBuffers → err ≠ .none) := by
  obtain ⟨⟨s₀, _⟩, hs₀, rfl⟩ := map_eq_some_iff.mp hc
  cases c with
  | allocate env =>
    have h₀ := some.inj (ite_none_right_eq_some.mp hs₀).2
    have hn := some.inj (ite_none_right_eq_some.mp hn).2
    have hok : (proxyAllocateBuffer env (.init bMapBuffers)).2 = .none := by rw [h₀]
    obtain ⟨hargs, prop, halloc⟩ := proxyAllocateBuffer_eq_none hok
    obtain ⟨i₁, -, herr₀, -⟩ := proxyAllocateBuffer_eq hargs halloc (.init bMapBuffers)
    obtain ⟨s₁, hs₁, herr, hres⟩ := proxyAllocateBuffer_eq hargs halloc s
    rw [herr₀] at hok
    rw [hn] at herr hres
    rw [show err = _ from herr, ← hs₁.total]
    refine ⟨fun hroom => ?_, fun hfull herr' => hfull (proxyUseBuffer_eq_none.mp herr').1.room⟩
    obtain ⟨hnone, hdr, hst⟩ := proxyUseBuffer_accepted hok hroom
    exact ⟨hnone, hdr, hs₁.stored (SameHeaders.stored_right hst hres)⟩
  | use env =>
    have h₀ := some.inj (ite_none_right_eq_some.mp hs₀).2
    have hn := some.inj (ite_none_right_eq_some.mp hn).2
    have hok : (proxyUseBuffer env (.init bMapBuffers)).2 = .none := by rw [h₀]
    refine ⟨fun hroom => ?_, fun hfull herr => hfull ?_⟩
    · have h := proxyUseBuffer_accepted hok hroom
      rwa [hn] at h
    · exact (proxyUseBuffer_eq_none.mp ((congrArg Prod.snd hn).trans herr)).1.room
  | free env =>
    -- there is nothing to free in an empty table
    have h₀ := some.inj hs₀
    have hok : (proxyFreeBuffer env (.init bMapBuffers)).2 = .none := by rw [h₀]
    unfold proxyFreeBuffer at hok
    split_ifs at hok with hargs
    · exact absurd hok hargs
    · simp [slotOf, init] at hok

/-! ## The counter is the largest number of buffers in use -/

/-- The largest number of slots that are in use at once while the calls are made. -/
def livePeak : Component → List Call → Nat
  | s, [] => s.inUse.card
  | s, c :: calls => max s.inUse.card ((s.after c).elim 0 fun s' => livePeak s' calls)

lemma Counted.inUse_card_le (h : Counted s) : s.inUse.card ≤ s.nTotalBuffers := by
  simpa using card_le_card h.inUse_subset

/-- One call raises the counter to the number of slots then in use, and never lowers it. -/
lemma Counted.next_total {s s' : Component} {c : Call} (h : Counted s) (hn : s.after c = some s') :
    Counted s' ∧ s'.nTotalBuffers = max s.nTotalBuffers s'.inUse.card := by
  obtain ⟨⟨s'', err⟩, hn', rfl⟩ := map_eq_some_iff.mp hn
  obtain ⟨h', -⟩ := h.next hn'
  have hle := h'.inUse_card_le
  refine ⟨h', ?_⟩
  rcases next_headers hn' with hs | ⟨i, hdr, hs⟩ | ⟨hdr, plat, md, hs, -, -, -⟩
  · rw [hs.total] at hle ⊢
    exact (max_eq_left hle).symm
  · rw [hs.total] at hle ⊢
    exact (max_eq_left hle).symm
  · rw [hs.total, ← h'.count, hs.allocated]

/-- The calls of a run, with every outcome that the environment can have. -/
abbrev Component.run (s : Component) (calls : List Call) : Option Component :=
  runWith Component.after (fun _ _ => true) s calls

variable {calls : List Call}

lemma Counted.run_total : ∀ {s s' : Component}, Counted s → s.run calls = some s' →
      Counted s' ∧ s'.nTotalBuffers = max s.nTotalBuffers (livePeak s calls) := by
  induction calls with
  | nil =>
    intro s s' h hrun
    obtain rfl := some.inj hrun
    exact ⟨h, (max_eq_left h.inUse_card_le).symm⟩
  | cons c calls ih =>
    intro s s' h hrun
    obtain ⟨-, s₁, hs₁, hrun'⟩ := runWith_cons hrun
    obtain ⟨h₁, htotal⟩ := h.next_total hs₁
    obtain ⟨h', htotal'⟩ := ih h₁ hrun'
    refine ⟨h', ?_⟩
    have hle := h.inUse_card_le
    have hpeak : s₁.inUse.card ≤ livePeak s₁ calls := by
      cases calls with
      | nil => exact le_rfl
      | cons => exact le_max_left _ _
    rw [htotal', htotal, livePeak, hs₁, elim_some]
    omega

/-- **`nTotalBuffers` is the largest number of buffers that were ever in use at once.** -/
theorem total_eq_livePeak (hrun : (init bMapBuffers).run calls = some s) :
    s.nTotalBuffers = livePeak (.init bMapBuffers) calls :=
  ((counted_init bMapBuffers).run_total hrun).2.trans (Nat.zero_max _)

/-- The counter never falls in the course of a run. -/
lemma Counted.total_le_run {s s' : Component} (h : Counted s) (hrun : s.run calls = some s') :
    s.nTotalBuffers ≤ s'.nTotalBuffers :=
  (h.run_total hrun).2 ▸ le_max_left _ _

/-! ## Refused requests -/

lemma currentBuffer_le {i : Nat} (hi : i < s.nTotalBuffers)
    (hempty : (s.tBufList i).pBufHeader = none) : s.currentBuffer ≤ i := by
  unfold currentBuffer
  cases hf : (List.range s.nTotalBuffers).find? fun i => (s.tBufList i).pBufHeader.isNone with
  | none =>
    have hsome := List.find?_range_eq_none.mp hf i hi
    simp [hempty] at hsome
  | some k =>
    obtain ⟨-, -, hfirst⟩ := List.find?_range_eq_some.mp hf
    rw [getD_some]
    by_contra hlt
    simpa [hempty] using hfirst i (by omega)

/-- What an application may expect of a request that fails for nothing but a lack of room: it is
refused only if the table is full of buffers in use, and the slots of freed buffers are used
before new ones. -/
structure UsesRoom (s s' : Component) (err : OmxError) : Prop where
  refused : err ≠ .none → s.inUse.card = maxNumProxyBuffers
  reused : ∀ i < s.nTotalBuffers, (s.tBufList i).pBufHeader = none →
    ∃ j ≤ i, (s.tBufList j).pBufHeader = none ∧ (s'.tBufList j).pBufHeader.isSome = true ∧
      s'.nTotalBuffers = s.nTotalBuffers

/-- **When requests are refused for lack of room only in a full table**: as long as the table was
never full, or while it is. -/
theorem usesRoom_iff {bMapBuffers : Bool} {calls : List Call} {s s' : Component} {c : Call}
    {err : OmxError} (hrun : (Component.init bMapBuffers).run calls = some s)
    (hc : ((Component.init bMapBuffers).next c).map Prod.snd = some .none)
    (hn : s.next c = some (s', err)) :
    UsesRoom s s' err ↔ livePeak (.init bMapBuffers) calls < maxNumProxyBuffers ∨
      s.inUse.card = maxNumProxyBuffers := by
  have hcount := ((counted_init bMapBuffers).run_total hrun).1
  obtain ⟨hroom, hfull⟩ := next_of_accepted hc hn
  rw [← total_eq_livePeak hrun]
  constructor
  · intro h
    by_cases hlt : s.nTotalBuffers < maxNumProxyBuffers
    · exact Or.inl hlt
    · exact Or.inr (h.refused (hfull hlt))
  · intro h
    by_cases hlt : s.nTotalBuffers < maxNumProxyBuffers
    · obtain ⟨hnone, hdr, hst⟩ := hroom hlt
      refine ⟨fun herr => absurd hnone herr, fun i hi hempty => ?_⟩
      refine ⟨s.currentBuffer, currentBuffer_le hi hempty, hcount.currentBuffer.2.1, ?_, ?_⟩
      · rw [hst.header, if_pos rfl, isSome_some]
      · -- a slot below the counter is empty, so fewer are in use than it says
        have hlt' : s.inUse.card < s.nTotalBuffers := by
          rw [← card_range s.nTotalBuffers]
          refine card_lt_card (hcount.inUse_subset.ssubset_of_mem_notMem
            (mem_range.mpr hi) fun hmem => ?_)
          simpa [hempty] using (mem_inUse.mp hmem).2
        rw [hst.total, hcount.count]
        exact max_eq_left hlt'
    · have hcard : s.inUse.card = maxNumProxyBuffers := h.resolve_left hlt
      refine ⟨fun _ => hcard, fun i hi hempty => ?_⟩
      -- all slots are in use
      have huse : s.inUse = range maxNumProxyBuffers :=
        eq_of_subset_of_card_le (filter_subset _ _) (by simp [hcard])
      have hmem : i ∈ s.inUse := huse ▸ mem_range.mpr (hi.trans_le hcount.total)
      simpa [hempty] using (mem_inUse.mp hmem).2

/-- A run that fills `n` slots. -/
def fillSlots (n : Nat) : List Call :=
  (List.range n).map fun k => .use (sampleUse (2 * k + 1) (2 * k + 2) .none)

/-- Two buffers are used and the first one is freed.  The next buffer gets its slot. -/
theorem freed_slot_reused :
    ∃ s s' : Component, ∃ err, s.next (.use (sampleUse 5 6 .none)) = some (s', err) ∧
      s.inUse.card = 1 ∧ UsesRoom s s' err := by
  obtain ⟨s, hs, hcard, ⟨s', err⟩, hs', -⟩ : ∃ s,
      (init false).run (fillSlots 2 ++ [.free (sampleFree 1)]) = some s ∧
        s.inUse.card = 1 ∧ ∃ r, s.next (.use (sampleUse 5 6 .none)) = some r ∧ r.2 = .none := by
    decide +kernel
  exact ⟨s, s', err, hs', hcard,
    (usesRoom_iff hs (by decide +kernel) hs').mpr (Or.inl (by decide +kernel))⟩

/-- The first `n` slots are in use, by the buffers of `fillSlots`. -/
structure SlotsFilled (n : Nat) (s : Component) : Prop where
  counted : Counted s
  allocated : s.nAllocatedBuffers = n
  total : s.nTotalBuffers = n
  mem : s.mem = .empty
  live : ∀ a ∈ s.live, a ≤ 2 * n
  first : 0 < n → ∃ md, (s.tBufList 0).pBufHeader = some ⟨1, 2, md⟩

lemma sampleUse_accepted (header platform : Nat) (bMapBuffers : Bool) :
    (proxyUseBuffer (sampleUse header platform .none) (.init bMapBuffers)).2 = .none := rfl

lemma sampleUse_possible {header platform : Nat} (hheader : header ∉ s.live)
    (hplatform : platform ∉ s.live) (hne : platform ≠ header) :
    (sampleUse header platform .none).Possible s := by
  refine ⟨fun a ha => ?_, fun a ha => ?_, nofun⟩
  · obtain rfl := some.inj ha
    exact ⟨hheader, fun h => hne (some.inj h)⟩
  · obtain rfl := some.inj ha
    exact hplatform

lemma sampleUse_mem (header platform : Nat) (s : Component) :
    (proxyUseBuffer (sampleUse header platform .none) s).1.mem = s.mem := by
  obtain ⟨err, -, -, he⟩ | ⟨hdr, plat, p, -, -, -, rfl, ⟨-, he⟩ | ⟨-, he⟩⟩ :=
    proxyUseBuffer_cases (sampleUse header platform .none) s
  · rw [he]
  · rw [he]
    rfl
  · rw [he]
    rfl

lemma SlotsFilled.next {n : Nat} (h : SlotsFilled n s) (hn : n < 100) :
    ∃ s', s.after (.use (sampleUse (2 * n + 1) (2 * n + 2) .none)) = some s' ∧
      SlotsFilled (n + 1) s' := by
  have hposs : (sampleUse (2 * n + 1) (2 * n + 2) .none).Possible s :=
    sampleUse_possible (fun hlive => absurd (h.live _ hlive) (by omega))
      (fun hlive => absurd (h.live _ hlive) (by omega)) (by omega)
  have hroom : s.nTotalBuffers < maxNumProxyBuffers := h.total.trans_lt hn
  obtain ⟨-, hdr₀, hstored⟩ := proxyUseBuffer_accepted
    (sampleUse_accepted (2 * n + 1) (2 * n + 2) false) hroom
  have hused := proxyUseBuffer_headers (sampleUse (2 * n + 1) (2 * n + 2) .none) s
  have hmem := sampleUse_mem (2 * n + 1) (2 * n + 2) s
  have hnext : s.after (.use (sampleUse (2 * n + 1) (2 * n + 2) .none)) =
      some (proxyUseBuffer (sampleUse (2 * n + 1) (2 * n + 2) .none) s).1 := by
    simp only [Component.after, Component.next, if_pos hposs, map_some]
  refine ⟨_, hnext, ?_⟩
  generalize proxyUseBuffer (sampleUse (2 * n + 1) (2 * n + 2) .none) s = res at hstored hused hmem
  obtain hsame | ⟨hdr, plat, md, hh, hp, hst, -, ⟨-, hlive⟩ | hcomp⟩ := hused
  · exact absurd (hsame.allocated.symm.trans hstored.allocated) (Nat.succ_ne_self _).symm
  · obtain rfl := some.inj hh
    obtain rfl := some.inj hp
    refine ⟨h.counted.stored hst, by rw [hst.allocated, h.allocated], ?_, hmem.trans h.mem,
      fun a ha => ?_, fun _ => ?_⟩
    · rw [hst.total, h.total, h.allocated]
      exact max_eq_right (Nat.le_succ n)
    · rw [hlive, mem_insert, mem_insert] at ha
      rcases ha with rfl | rfl | ha
      · omega
      · omega
      · exact (h.live a ha).trans (by omega)
    · -- the first slot is the one that is filled, or it is in use already
      rw [hst.header]
      rcases Nat.eq_zero_or_pos n with rfl | hpos
      · have hzero : s.currentBuffer = 0 := by
          have hle := h.counted.currentBuffer.1
          rw [h.total] at hle
          exact Nat.le_zero.mp hle
        exact ⟨md, if_pos hzero.symm⟩
      · obtain ⟨md', hfirst⟩ := h.first hpos
        refine ⟨md', (if_neg fun hcur => ?_).trans hfirst⟩
        rw [hcur, h.counted.currentBuffer.2.1] at hfirst
        exact absurd hfirst.symm (some_ne_none _)
  · exact absurd hcomp nofun

lemma slotsFilled_run : ∀ {n : Nat}, n ≤ 100 →
    ∃ s, (init false).run (fillSlots n) = some s ∧ SlotsFilled n s
  | 0, _ => ⟨_, rfl, counted_init false, rfl, rfl, rfl, by simp [init], nofun⟩
  | n + 1, hn => by
    obtain ⟨s, hs, hfilled⟩ := slotsFilled_run (Nat.le_of_succ_le hn)
    obtain ⟨s', hs', hfilled'⟩ := hfilled.next hn
    refine ⟨s', ?_, hfilled'⟩
    rw [fillSlots, List.range_succ, List.map_append]
    refine runWith_append _ hs ?_
    simp [runWith, hs']

lemma sampleUse_refused (header platform : Nat) (hfull : maxNumProxyBuffers ≤ s.nTotalBuffers) :
    proxyUseBuffer (sampleUse header platform .none) s = (s, .insufficientResources) := by
  simp [proxyUseBuffer, sampleUse, hfull]

lemma SlotsFilled.free_first {n : Nat} (h : SlotsFilled n s) (hn : 0 < n) :
    ∃ s', s.after (.free (sampleFree 1)) = some s' ∧ s'.nAllocatedBuffers = n - 1 ∧
      s'.nTotalBuffers = n ∧ (sampleUse 1 2 .none).Possible s' := by
  obtain ⟨md, hfirst⟩ := h.first hn
  have hslot : s.slotOf 1 = some 0 :=
    List.find?_range_eq_some.mpr ⟨by simp [hfirst], by simpa [h.total] using hn, nofun⟩
  refine ⟨_, rfl, ?_⟩
  obtain ⟨hargs | hnone, -⟩ | ⟨i, hdr, -, hi, hhdr, -, he⟩ := proxyFreeBuffer_cases (sampleFree 1) s
  · exact absurd rfl hargs
  · exact absurd (hslot.symm.trans hnone) (some_ne_none _)
  · obtain rfl := some.inj (hslot.symm.trans hi)
    obtain rfl := some.inj (hfirst.symm.trans hhdr)
    rw [he]
    refine ⟨congrArg (· - 1) h.allocated, h.total, sampleUse_possible ?_ ?_ (by decide)⟩
    · exact notMem_erase 1 _
    · exact fun hmem => notMem_erase 2 _ (mem_of_mem_erase hmem)

/-- The table has been filled once, and one buffer has been freed.  The next buffer is refused
although a slot is empty. -/
theorem refused_with_empty_slot : ∃ s s' : Component, ∃ err,
      (Component.init false).run (fillSlots 100 ++ [.free (sampleFree 1)]) = some s ∧
      ((Component.init false).next (.use (sampleUse 1 2 .none))).map Prod.snd = some .none ∧
      s.next (.use (sampleUse 1 2 .none)) = some (s', err) ∧
      s.inUse.card = 99 ∧ err = .insufficientResources ∧ ¬ UsesRoom s s' err := by
  obtain ⟨s, hs, hfilled⟩ := slotsFilled_run (le_refl 100)
  obtain ⟨s₁, hfree, hcount, htotal, hposs⟩ := hfilled.free_first (by decide)
  have hrun : (init false).run (fillSlots 100 ++ [.free (sampleFree 1)]) = some s₁ :=
    runWith_append _ hs (by simp [runWith, hfree])
  have hcard : s₁.inUse.card = 99 := ((counted_init false).run_total hrun).1.count.symm.trans hcount
  have hnext : s₁.next (.use (sampleUse 1 2 .none)) = some (s₁, .insufficientResources) := by
    simp only [Component.next, if_pos hposs, sampleUse_refused 1 2 htotal.ge]
  refine ⟨s₁, _, _, hrun, rfl, hnext, hcard, rfl, fun h => ?_⟩
  have hfull := h.refused (by simp)
  rw [hcard] at hfull
  exact absurd hfull (by decide)

/-- **A table that has been full once is never used again**: every later request is refused,
whatever is freed in between. -/
theorem refused_after_full {calls calls' : List Call} {s s₁ s' : Component} {c : Call}
    {err : OmxError} (hrun : (init bMapBuffers).run calls = some s)
    (hfull : maxNumProxyBuffers ≤ livePeak (.init bMapBuffers) calls)
    (hrun' : s.run calls' = some s₁) (hc : ((init bMapBuffers).next c).map Prod.snd = some .none)
    (hn : s₁.next c = some (s', err)) : err ≠ .none := by
  have hcount := ((counted_init bMapBuffers).run_total hrun).1
  refine (next_of_accepted hc hn).2 (not_lt.mpr (hfull.trans ?_))
  rw [← total_eq_livePeak hrun]
  exact hcount.total_le_run hrun'

/-- The first buffer of a full table is freed and offered again. -/
theorem freed_slot_refused : ∃ s s₁ s' : Component, ∃ err,
    (Component.init false).run (fillSlots 100) = some s ∧
      s.run [.free (sampleFree 1)] = some s₁ ∧
      s₁.next (.use (sampleUse 1 2 .none)) = some (s', err) ∧ err ≠ .none := by
  obtain ⟨s, hs, hfilled⟩ := slotsFilled_run (le_refl 100)
  obtain ⟨s₁, hfree, -, -, hposs⟩ := hfilled.free_first (by decide)
  have hrun : s.run [.free (sampleFree 1)] = some s₁ := by simp [Component.run, runWith, hfree]
  obtain ⟨s', err, hn⟩ : ∃ s' err, s₁.next (.use (sampleUse 1 2 .none)) = some (s', err) :=
    ⟨_, _, if_pos hposs⟩
  exact ⟨s, s₁, s', err, hs, hrun, hn,
    refused_after_full hs (total_eq_livePeak hs ▸ hfilled.total.ge) hrun rfl hn⟩

end Solana.Proxy
