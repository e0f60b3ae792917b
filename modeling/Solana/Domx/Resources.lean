import Solana.Domx.Table

/-!
# The resources of the buffers

Memory handles and registrations are obtained while a slot of the buffer table is filled, and
given back when its buffer is freed.  The error exits of `PROXY_UseBuffer` and
`PROXY_AllocateBuffer` do not undo what was done: they leave handles and registrations in a slot
that has no header.  The next call that uses the slot overwrites them, or takes them for its own,
so a handle may be lost or freed twice (`stale_handle_freed_twice`).

`Orderly` are the calls that stay clear of this: a call that is refused before it has obtained
anything, or that succeeds, and a `PROXY_FreeBuffer` that finds what was registered.
`resources_released` is what holds in their runs.
-/

namespace Solana.Proxy

open Ledgers Runs BufferInfo Component RegisterEnv

open Rpc (RpcError)

/-! ## Orderly calls -/

/-- `RPC_RegisterBuffer` succeeds. -/
def RegisterEnv.succeeds (type : BufferType) (fd1 fd2 : Int) (env : RegisterEnv) : Bool :=
  decide (0 ≤ fd1) &&
    match type with
    | .bufferDescriptorVirtual2D =>
      decide (0 ≤ fd2) && decide (env.first = .registered) && decide (env.second = .registered)
    | .grallocPointers =>
      decide (env.pvr = .enotty) || decide (env.pvr = .done true none) ||
        decide (env.pvr = .done true (some true))
    | _ => decide (env.first = .registered)

/-- `RPC_RegisterBuffer` fails before anything is registered. -/
def RegisterEnv.refused (type : BufferType) (fd1 fd2 : Int) (env : RegisterEnv) : Bool :=
  decide (fd1 < 0) ||
    match type with
    | .bufferDescriptorVirtual2D => decide (fd2 < 0) || decide (env.first ≠ .registered)
    | .grallocPointers =>
      decide (env.pvr = .failed) || decide (env.pvr = .done false none) ||
        decide (env.pvr = .done false (some false))
    | _ => decide (env.first ≠ .registered)

/-- `PROXY_UseBuffer` fails before it has obtained anything. -/
def UseEnv.refused (env : UseEnv) (s : Component) : Bool :=
  !env.argsOk || decide (env.pBuffer = 0) || decide (¬ s.nTotalBuffers < maxNumProxyBuffers) ||
    env.header.isNone || env.platform.isNone || decide (env.getParameter ≠ .none) ||
    if env.isMetaDataEnabled then env.metaAlloc.isNone
    else env.register.refused env.bufferType env.fd1 env.fd2

/-- Every step of `PROXY_UseBuffer` succeeds. -/
def UseEnv.succeeds (env : UseEnv) (s : Component) : Bool :=
  env.argsOk && decide (env.pBuffer ≠ 0) && decide (s.nTotalBuffers < maxNumProxyBuffers) &&
    env.header.isSome && env.platform.isSome && decide (env.getParameter = .none) &&
    (!env.isMetaDataEnabled || env.metaAlloc.any fun prop =>
      env.metaRegister.succeeds .ionPointers prop.fd (-1)) &&
    env.register.succeeds env.bufferType env.fd1 env.fd2 && decide (env.rpcUse = .none) &&
    decide (env.compReturn = .none)

/-- The calls that leave nothing behind.  `PROXY_FreeBuffer` has to find the pointer in the header
of a buffer with a memory handle, and a port of a type that fits the registrations. -/
def Orderly (s : Component) : Call → Bool
  | .allocate env =>
    !env.argsOk || env.alloc.all fun prop => { env.use with pBuffer := prop.fd }.succeeds s
  | .use env => env.refused s || env.succeeds s
  | .free env =>
    (s.slotOf env.header).all fun i =>
      let slot := s.tBufList i
      (env.pBufferSet || slot.y.pBufferHandle.isNone) &&
        (slot.y.pRegBufferHandle.isNone ||
          match env.bufferType with
          | .bufferDescriptorVirtual2D => slot.uv.pRegBufferHandle.isSome
          | .grallocPointers => true
          | _ => slot.uv.pRegBufferHandle.isNone)

/-! ## What registering does -/

lemma rpcRegisterBuffer_of_refused {type : BufferType} {fd1 fd2 : Int} {env : RegisterEnv}
    (h : env.refused type fd1 fd2 = true) (handle1 handle2 : Option Nat) (reg : Ledger) :
    ∃ err ≠ RpcError.none, rpcRegisterBuffer type fd1 fd2 env handle1 handle2 reg =
      ⟨err, handle1, handle2, reg⟩ := by
  obtain ⟨first, second, pvr⟩ := env
  unfold rpcRegisterBuffer
  by_cases hfd : fd1 < 0
  · exact ⟨.badParameter, by simp, if_pos hfd⟩
  · rw [if_neg hfd]
    have hion : ∀ r : IonResult, r ≠ .registered →
        ∃ err ≠ RpcError.none, ionRegister r reg = .error err := by
      intro r hr
      cases r with
      | failed => exact ⟨_, by simp, rfl⟩
      | null => exact ⟨_, by simp, rfl⟩
      | registered => exact absurd rfl hr
    cases type with
    | bufferDescriptorVirtual2D =>
      by_cases hfd2 : fd2 < 0
      · exact ⟨.badParameter, by simp, if_pos hfd2⟩
      · simp only [refused, hfd, hfd2, decide_false, Bool.false_or,
          decide_eq_true_eq] at h
        obtain ⟨err, hne, he⟩ := hion first h
        exact ⟨err, hne, by simp [hfd2, he]⟩
    | grallocPointers =>
      simp only [refused, hfd, decide_false, Bool.false_or, Bool.or_eq_true,
        decide_eq_true_eq, or_assoc] at h
      rcases h with rfl | rfl | rfl
      · exact ⟨.insufficientResources, by simp, rfl⟩
      · exact ⟨.badParameter, by simp, rfl⟩
      · exact ⟨.badParameter, by simp, rfl⟩
    | _ =>
      simp only [refused, hfd, decide_false, Bool.false_or,
        decide_eq_true_eq] at h
      obtain ⟨err, hne, he⟩ := hion first h
      exact ⟨err, hne, by simp [he]⟩

/-- The new registrations are those whose handles were stored. -/
structure FreshRegistration (r : Registration) (reg : Ledger) : Prop where
  err : r.err = .none
  balanced : ∀ held, reg.Balanced held →
    r.reg.Balanced (heldIn r.handle1 + heldIn r.handle2 + held)
  second : r.handle2.isSome = true → r.handle1.isSome = true

lemma rpcRegisterBuffer_of_succeeds {type : BufferType} {fd1 fd2 : Int} {env : RegisterEnv}
    (h : env.succeeds type fd1 fd2 = true) (reg : Ledger) :
    FreshRegistration (rpcRegisterBuffer type fd1 fd2 env none none reg) reg := by
  obtain ⟨first, second, pvr⟩ := env
  simp only [RegisterEnv.succeeds, Bool.and_eq_true, decide_eq_true_eq] at h
  obtain ⟨hfd, h⟩ := h
  have hfd' : ¬ fd1 < 0 := by omega
  have hone : ∀ held, reg.Balanced held →
      reg.acquire.Balanced (heldIn (some reg.acquired) + heldIn none + held) := fun held hb => by
    rw [heldIn_none, add_zero, heldIn_some, Multiset.singleton_add]
    exact hb.acquire
  have htwo : ∀ held, reg.Balanced held → reg.acquire.acquire.Balanced
      (heldIn (some reg.acquired) + heldIn (some reg.acquire.acquired) + held) := by
    intro held hb
    rw [heldIn_some, heldIn_some, add_right_comm, add_comm _ ({reg.acquire.acquired} : Multiset ℕ),
      Multiset.singleton_add, Multiset.singleton_add]
    exact hb.acquire.acquire
  unfold rpcRegisterBuffer
  rw [if_neg hfd']
  cases type with
  | bufferDescriptorVirtual2D =>
    simp only [Bool.and_eq_true, decide_eq_true_eq] at h
    obtain ⟨⟨hfd2, rfl⟩, rfl⟩ := h
    have hfd2' : ¬ fd2 < 0 := by omega
    simp only [if_neg hfd2', ionRegister]
    exact ⟨rfl, htwo, fun _ => rfl⟩
  | grallocPointers =>
    simp only [Bool.or_eq_true, decide_eq_true_eq, or_assoc] at h
    rcases h with rfl | rfl | rfl
    · exact ⟨rfl, fun held hb => by simpa using hb, nofun⟩
    · exact ⟨rfl, hone, nofun⟩
    · exact ⟨rfl, htwo, fun _ => rfl⟩
  | _ =>
    simp only [decide_eq_true_eq] at h
    subst h
    exact ⟨rfl, hone, nofun⟩

lemma rpcRegisterBuffer_ion_handle2 (fd1 fd2 : Int) (env : RegisterEnv) (handle1 : Option Nat)
    (reg : Ledger) :
    (rpcRegisterBuffer .ionPointers fd1 fd2 env handle1 none reg).handle2 = none := by
  unfold rpcRegisterBuffer
  by_cases hfd : fd1 < 0
  · rw [if_pos hfd]
  · rw [if_neg hfd]
    cases env.first <;> rfl

/-! ## What filling a slot does -/

/-- The memory handles of a slot. -/
def BufferInfo.memory (slot : BufferInfo) : Multiset Nat :=
  heldIn slot.y.pBufferHandle + heldIn slot.metaData.pBufferHandle

/-- The registrations of a slot. -/
def BufferInfo.registrations (slot : BufferInfo) : Multiset Nat :=
  heldIn slot.y.pRegBufferHandle + heldIn slot.uv.pRegBufferHandle +
    heldIn slot.metaData.pRegBufferHandle

/-- A slot with nothing in it but, possibly, the memory handle of its buffer. -/
structure BufferInfo.Unused (slot : BufferInfo) : Prop where
  y : slot.y.pRegBufferHandle = none
  uv : slot.uv.pRegBufferHandle = none
  metaData : slot.metaData.pBufferHandle = none ∧ slot.metaData.pRegBufferHandle = none

/-- The slot was filled, and all that was obtained is in it. -/
structure Filled (env : UseEnv) (w : Work) (p : Progress) : Prop where
  err : p.err = .none
  go : p.go = true
  handle : p.work.slot.y.pBufferHandle = w.slot.y.pBufferHandle
  metaData : p.work.slot.metaData.pBufferHandle.isSome = env.isMetaDataEnabled
  mapped : env.isMetaDataEnabled = true → ∃ prop ∈ env.metaAlloc,
    p.work.slot.metaData.pBufferMappedAddress = prop.mapped
  uv : p.work.slot.uv.pRegBufferHandle.isSome = true →
    p.work.slot.y.pRegBufferHandle.isSome = true
  mem : ∀ held, w.mem.Balanced held →
    p.work.mem.Balanced (heldIn p.work.slot.metaData.pBufferHandle + held)
  reg : ∀ held, w.reg.Balanced held → p.work.reg.Balanced (p.work.slot.registrations + held)

variable {s : Component} {env : UseEnv}

lemma useSteps_of_succeeds (h : env.succeeds s = true) {w : Work} (hw : w.slot.Unused) :
    Filled env w (useSteps env w) := by
  simp only [UseEnv.succeeds, Bool.and_eq_true, decide_eq_true_eq] at h
  obtain ⟨⟨⟨⟨⟨-, hget⟩, hmeta⟩, hreg⟩, hrpc⟩, hcomp⟩ := h
  have hcheck : checkRpcError env.rpcUse env.compReturn = (.none, true) := by
    simp [checkRpcError, hrpc, hcomp]
  obtain ⟨⟨header, remote, y, uv, md⟩, mem, reg⟩ := w
  obtain ⟨yHandle, yReg, yMapped, yFd⟩ := y
  obtain ⟨uvHandle, uvReg, uvMapped, uvFd⟩ := uv
  obtain ⟨mHandle, mReg, mMapped, mFd⟩ := md
  obtain ⟨rfl, rfl, rfl, rfl⟩ : yReg = none ∧ uvReg = none ∧ mHandle = none ∧ mReg = none :=
    ⟨hw.y, hw.uv, hw.metaData.1, hw.metaData.2⟩
  obtain ⟨herr, hbal, hsecond⟩ := rpcRegisterBuffer_of_succeeds hreg reg
  unfold useSteps
  rw [if_neg (not_not.mpr hget)]
  cases hen : env.isMetaDataEnabled with
  | false =>
    simp only [allocMetaData, hen, Bool.false_eq_true, if_false, registerData, herr, ne_eq,
      not_true_eq_false, registerMetaData, hcheck]
    exact ⟨rfl, rfl, rfl, hen.symm, fun h => absurd (hen.symm.trans h) (by simp), hsecond,
      fun held hb => by simpa using hb,
      fun held hb => by simpa [registrations] using hbal held hb⟩
  | true =>
    simp only [hen, Bool.not_true, Bool.false_or] at hmeta
    cases hal : env.metaAlloc with
    | none => simp [hal] at hmeta
    | some prop =>
      simp only [hal, Option.any_some] at hmeta
      obtain ⟨herr', hbal', -⟩ := rpcRegisterBuffer_of_succeeds hmeta
        (rpcRegisterBuffer env.bufferType env.fd1 env.fd2 env.register none none reg).reg
      simp only [allocMetaData, hen, if_true, hal, Option.map_some, registerData, herr, ne_eq,
        not_true_eq_false, if_false, registerMetaData, herr', hcheck]
      refine ⟨rfl, rfl, rfl, hen.symm, fun _ => ⟨prop, hal, rfl⟩, hsecond,
        fun held hb => ?_, fun held hb => ?_⟩
      · rw [heldIn_some, Multiset.singleton_add]
        exact hb.acquire
      · have hb' := hbal' _ (hbal held hb)
        rw [rpcRegisterBuffer_ion_handle2, heldIn_none, add_zero, ← add_assoc,
          add_comm (heldIn _) (heldIn _ + heldIn _)] at hb'
        exact hb'

lemma useSteps_of_refused (h : env.refused s = true) (hadm : env.Admitted s) (w : Work) :
    ∃ err ≠ OmxError.none, useSteps env w = ⟨w, err, false⟩ := by
  obtain ⟨hargs, hroom, hh, hp⟩ := hadm
  simp only [UseEnv.refused, hargs, hroom, Option.isNone_eq_false_iff.mpr hh,
    Option.isNone_eq_false_iff.mpr hp, Bool.or_eq_true, decide_eq_true_eq, not_true_eq_false,
    Bool.false_eq_true, false_or] at h
  unfold useSteps
  by_cases hget : env.getParameter ≠ .none
  · exact ⟨_, hget, if_pos hget⟩
  · rw [if_neg hget]
    have h := h.resolve_left hget
    cases hen : env.isMetaDataEnabled with
    | true =>
      simp only [hen, if_true, Option.isNone_iff_eq_none] at h
      exact ⟨.insufficientResources, by simp, by simp [allocMetaData, hen, h]⟩
    | false =>
      simp only [hen, Bool.false_eq_true, if_false] at h
      obtain ⟨err, hne, hr⟩ := rpcRegisterBuffer_of_refused h w.slot.y.pRegBufferHandle
        w.slot.uv.pRegBufferHandle w.reg
      refine ⟨ofRpcError err, mt ofRpcError_eq_none.mp hne, ?_⟩
      simp only [allocMetaData, hen, Bool.false_eq_true, if_false, registerData, hr, if_pos hne]

/-- **A refused call changes nothing.** -/
lemma proxyUseBuffer_of_refused (h : env.refused s = true) :
    ∃ err ≠ OmxError.none, proxyUseBuffer env s = (s, err) := by
  obtain ⟨err, hne, -, he⟩ | ⟨hdr, plat, p, hadm, -, -, hsteps, hp⟩ := proxyUseBuffer_cases env s
  · exact ⟨err, hne, he⟩
  · obtain ⟨err, hne, hstop⟩ := useSteps_of_refused h hadm
      ⟨s.tBufList s.currentBuffer, s.mem, s.reg⟩
    obtain rfl := hsteps.symm.trans hstop
    obtain ⟨-, he⟩ | ⟨hgo, -⟩ := hp
    · refine ⟨err, hne, he.trans ?_⟩
      rw [leaveSlot, Function.update_eq_self]
    · exact absurd hgo Bool.false_ne_true

lemma admitted_of_succeeds (h : env.succeeds s = true) : env.Admitted s := by
  simp only [UseEnv.succeeds, Bool.and_eq_true, decide_eq_true_eq, ne_eq] at h
  obtain ⟨⟨⟨⟨⟨⟨⟨⟨⟨hargs, hbuf⟩, hroom⟩, hh⟩, hp⟩, -⟩, -⟩, -⟩, -⟩, -⟩ := h
  exact ⟨by simp [hargs, hbuf], hroom, hh, hp⟩

/-- **A call that succeeds fills the slot.** -/
lemma proxyUseBuffer_of_succeeds (h : env.succeeds s = true)
    (hslot : (s.tBufList s.currentBuffer).Unused) : ∃ hdr plat,
      proxyUseBuffer env s = (s.putSlot env hdr plat
        (useSteps env ⟨s.tBufList s.currentBuffer, s.mem, s.reg⟩), .none) := by
  have hfill := useSteps_of_succeeds h (w := ⟨s.tBufList s.currentBuffer, s.mem, s.reg⟩) hslot
  obtain ⟨err, -, hno, -⟩ | ⟨hdr, plat, p, -, -, -, rfl, ⟨hstop, -⟩ | ⟨-, he⟩⟩ :=
    proxyUseBuffer_cases env s
  · exact absurd (admitted_of_succeeds h) hno
  · exact absurd (hstop.symm.trans hfill.go) Bool.false_ne_true
  · exact ⟨hdr, plat, by rw [he, hfill.err]⟩

/-! ## The invariant -/

/-- Everything obtained and not given back is in the table, in slots that are in use. -/
structure Accounted (s : Component) : Prop where
  mem : s.mem.Balanced (∑ i ∈ Finset.range maxNumProxyBuffers, (s.tBufList i).memory)
  reg : s.reg.Balanced (∑ i ∈ Finset.range maxNumProxyBuffers, (s.tBufList i).registrations)
  empty : ∀ i, (s.tBufList i).pBufHeader = none → s.tBufList i = .zero
  metaData : ∀ i h, (s.tBufList i).pBufHeader = some h →
    h.metaData = (s.tBufList i).metaData.pBufferHandle.isSome
  uv : ∀ i, (s.tBufList i).uv.pRegBufferHandle.isSome = true →
    (s.tBufList i).y.pRegBufferHandle.isSome = true

lemma accounted_init (bMapBuffers : Bool) : Accounted (.init bMapBuffers) := by
  have hz : zero.memory = 0 ∧ zero.registrations = 0 := ⟨rfl, rfl⟩
  refine ⟨?_, ?_, fun _ _ => rfl, nofun, nofun⟩
  · simp [init, hz.1]
  · simp [init, hz.2]

variable {slot : BufferInfo}

lemma Accounted.update {s s' : Component} (h : Accounted s) {i : Nat}
    (htab : s'.tBufList = Function.update s.tBufList i slot)
    (hmem : s'.mem.Balanced (∑ j ∈ Finset.range maxNumProxyBuffers, (s'.tBufList j).memory))
    (hreg : s'.reg.Balanced (∑ j ∈ Finset.range maxNumProxyBuffers, (s'.tBufList j).registrations))
    (hempty : slot.pBufHeader = none → slot = .zero)
    (hmeta : ∀ x, slot.pBufHeader = some x → x.metaData = slot.metaData.pBufferHandle.isSome)
    (huv : slot.uv.pRegBufferHandle.isSome = true → slot.y.pRegBufferHandle.isSome = true) :
    Accounted s' := by
  have hslot : ∀ P : BufferInfo → Prop, P slot → (∀ j, P (s.tBufList j)) →
      ∀ j, P (s'.tBufList j) := by
    intro P hP hall
    rw [htab]
    exact (Function.forall_update_iff s.tBufList fun _ b => P b).mpr ⟨hP, fun j _ => hall j⟩
  exact ⟨hmem, hreg, hslot (fun b => b.pBufHeader = none → b = .zero) hempty h.empty,
    hslot (fun b => ∀ x, b.pBufHeader = some x → x.metaData = b.metaData.pBufferHandle.isSome)
      hmeta h.metaData,
    hslot (fun b => b.uv.pRegBufferHandle.isSome = true → b.y.pRegBufferHandle.isSome = true)
      huv h.uv⟩

/-- Filling an empty slot; `handle` is what `PROXY_AllocateBuffer` has obtained for it. -/
lemma Accounted.putSlot {s s₁ : Component} (env : UseEnv) (handle : Option Nat) (h : Accounted s)
    (hc : Counted s) (hroom : s.nTotalBuffers < maxNumProxyBuffers)
    (hposs : ∀ prop ∈ env.metaAlloc, prop.mapped ≠ 0) (hcur : s₁.currentBuffer = s.currentBuffer)
    (htable : ∀ j ≠ s.currentBuffer, s₁.tBufList j = s.tBufList j)
    (hhandle : (s₁.tBufList s.currentBuffer).y.pBufferHandle = handle)
    (hmem : s₁.mem.Balanced (heldIn handle +
      ∑ i ∈ Finset.range maxNumProxyBuffers, (s.tBufList i).memory))
    (hreg : s₁.reg = s.reg) {p : Progress}
    (hp : Filled env ⟨s₁.tBufList s.currentBuffer, s₁.mem, s₁.reg⟩ p) (hdr plat : Nat) :
    Accounted (s₁.putSlot env hdr plat p) := by
  obtain ⟨hle, hnone, -⟩ := hc.currentBuffer
  have hzero := h.empty _ hnone
  have hi : s.currentBuffer ∈ Finset.range maxNumProxyBuffers :=
    Finset.mem_range.mpr (hle.trans_lt hroom)
  generalize hslot : ({ p.work.slot with
    pBufHeader := some ⟨hdr, plat, metaDataSet s₁.bMapBuffers env p.work.slot⟩
    pBufHeaderRemote := env.remote } : BufferInfo) = slot
  have htab : (s₁.putSlot env hdr plat p).tBufList =
      Function.update s.tBufList s.currentBuffer slot := by
    funext j
    rcases eq_or_ne j s.currentBuffer with rfl | hj
    · simp [Component.putSlot, hcur, hslot]
    · simp [Component.putSlot, hcur, hj, htable j hj]
  have hsum : ∀ g : BufferInfo → Multiset ℕ, g .zero = 0 →
      ∑ i ∈ Finset.range maxNumProxyBuffers, g ((s₁.putSlot env hdr plat p).tBufList i) =
        g slot + ∑ i ∈ Finset.range maxNumProxyBuffers, g (s.tBufList i) := by
    intro g hg
    have := Ledgers.sum_update g s.tBufList hi slot
    rw [hzero, hg, add_zero] at this
    rw [htab, this, add_comm]
  have hmemory : slot.memory = heldIn p.work.slot.metaData.pBufferHandle + heldIn handle := by
    subst hslot
    rw [← hhandle, ← hp.handle]
    exact add_comm _ _
  have hregs : slot.registrations = p.work.slot.registrations := by
    subst hslot
    rfl
  refine h.update htab ?_ ?_ (fun hno => ?_) (fun x hx => ?_) fun huv => ?_
  · rw [hsum _ rfl, hmemory, add_assoc]
    exact hp.mem _ hmem
  · rw [hsum _ rfl, hregs]
    exact hp.reg _ (hreg ▸ h.reg)
  · simp [← hslot] at hno
  · rw [← hslot] at hx ⊢
    obtain rfl := Option.some.inj hx
    simp only [metaDataSet, hp.metaData]
    cases hen : env.isMetaDataEnabled with
    | false => rfl
    | true =>
      obtain ⟨prop, hprop, hmapped⟩ := hp.mapped hen
      simp [hmapped, hposs prop hprop]
  · rw [← hslot] at huv ⊢
    exact hp.uv huv

lemma unused_zero : zero.Unused := ⟨rfl, rfl, rfl, rfl⟩

/-- **An orderly `PROXY_UseBuffer`** succeeds, or it leaves the component as it was. -/
lemma Accounted.use (h : Accounted s) (hc : Counted s) (ho : Orderly s (.use env) = true)
    (hposs : ∀ prop ∈ env.metaAlloc, prop.mapped ≠ 0) : Accounted (proxyUseBuffer env s).1 ∧
      ((proxyUseBuffer env s).2 ≠ .none → (proxyUseBuffer env s).1 = s) := by
  rcases Bool.or_eq_true_iff.mp ho with href | hsucc
  · obtain ⟨err, -, he⟩ := proxyUseBuffer_of_refused href
    rw [he]
    exact ⟨h, fun _ => rfl⟩
  · have hzero := h.empty _ hc.currentBuffer.2.1
    have hun : (s.tBufList s.currentBuffer).Unused := hzero ▸ unused_zero
    obtain ⟨hdr, plat, he⟩ := proxyUseBuffer_of_succeeds hsucc hun
    rw [he]
    refine ⟨?_, fun hne => absurd rfl hne⟩
    refine h.putSlot env none hc (admitted_of_succeeds hsucc).room hposs rfl (fun _ _ => rfl) ?_ ?_
      rfl (useSteps_of_succeeds hsucc hun) hdr plat
    · rw [hzero]
      rfl
    · rw [heldIn_none, zero_add]
      exact h.mem

/-- **An orderly `PROXY_AllocateBuffer`** succeeds, or it leaves the component as it was. -/
lemma Accounted.allocate (h : Accounted s) (hc : Counted s) {env : AllocEnv}
    (ho : Orderly s (.allocate env) = true) (hposs : ∀ prop ∈ env.use.metaAlloc, prop.mapped ≠ 0) :
    Accounted (proxyAllocateBuffer env s).1 ∧
      ((proxyAllocateBuffer env s).2 ≠ .none → (proxyAllocateBuffer env s).1 = s) := by
  obtain ⟨err, -, -, hfail⟩ | ⟨prop, res, hargs, hal, hres, he⟩ := proxyAllocateBuffer_cases env s
  · rw [hfail]
    exact ⟨h, fun _ => rfl⟩
  · have hsucc : UseEnv.succeeds { env.use with pBuffer := prop.fd } s = true := by
      simpa [Orderly, hargs, hal] using ho
    have hzero := h.empty _ hc.currentBuffer.2.1
    have hsame := s.sameHeaders_storeHandle prop
    have hcur := currentBuffer_congr hsame
    have hsucc₁ : UseEnv.succeeds { env.use with pBuffer := prop.fd } (s.storeHandle prop) = true :=
      by rwa [UseEnv.succeeds, hsame.total]
    have hun : ((s.storeHandle prop).tBufList s.currentBuffer).Unused := by
      simp only [storeHandle, Function.update_self, hzero]
      exact ⟨rfl, rfl, rfl, rfl⟩
    obtain ⟨hdr, plat, hused⟩ := proxyUseBuffer_of_succeeds hsucc₁ (hcur ▸ hun)
    rw [hused] at hres
    subst hres
    rw [he, if_pos rfl]
    refine ⟨?_, fun hne => absurd rfl hne⟩
    rw [hcur]
    refine h.putSlot { env.use with pBuffer := prop.fd } (some s.mem.acquired) hc
      (admitted_of_succeeds hsucc).room hposs hcur ?_ ?_ ?_ rfl (useSteps_of_succeeds hsucc₁ hun)
      hdr plat
    · exact fun j hj => Function.update_of_ne hj _ _
    · simp only [storeHandle, Function.update_self]
    · rw [heldIn_some, Multiset.singleton_add]
      exact h.mem.acquire

/-! ## Freeing a buffer -/

lemma freeMemory_balanced {env : FreeEnv} {hdr : Header} {mem : Ledger} {held : Multiset ℕ}
    (hset : (env.pBufferSet || slot.y.pBufferHandle.isNone) = true)
    (hmeta : hdr.metaData = slot.metaData.pBufferHandle.isSome)
    (h : mem.Balanced (slot.memory + held)) : (freeMemory env hdr slot mem).Balanced held := by
  unfold memory at h
  rw [add_assoc] at h
  have hy : (if env.pBufferSet then mem.releaseOption slot.y.pBufferHandle else mem).Balanced
      (heldIn slot.metaData.pBufferHandle + held) := by
    split_ifs with hp
    · exact h.releaseOption
    · have hnone : slot.y.pBufferHandle = none := by simpa [hp] using hset
      rwa [hnone, heldIn_none, zero_add] at h
  unfold freeMemory
  cases hm : slot.metaData.pBufferHandle with
  | none =>
    rw [hm, Option.isSome_none] at hmeta
    simp only [hmeta, Bool.false_eq_true, if_false]
    rwa [hm, heldIn_none, zero_add] at hy
  | some m =>
    rw [hm, Option.isSome_some] at hmeta
    simp only [hmeta, if_true]
    rw [← hm]
    exact hy.releaseOption

lemma unregisterSlot_balanced {env : FreeEnv} {reg : Ledger} {held : Multiset ℕ}
    (htype : (slot.y.pRegBufferHandle.isNone ||
      match env.bufferType with
      | .bufferDescriptorVirtual2D => slot.uv.pRegBufferHandle.isSome
      | .grallocPointers => true
      | _ => slot.uv.pRegBufferHandle.isNone) = true)
    (huv : slot.uv.pRegBufferHandle.isSome = true → slot.y.pRegBufferHandle.isSome = true)
    (h : reg.Balanced (slot.registrations + held)) :
    (unregisterSlot env slot reg).2.Balanced held := by
  unfold registrations at h
  rw [add_assoc, add_assoc] at h
  generalize hr : (if slot.y.pRegBufferHandle.isSome then
      rpcUnRegisterBuffer env.bufferType env.unregisterOk slot.y.pRegBufferHandle
        slot.uv.pRegBufferHandle reg
    else (.none, reg)) = r
  have hy : r.2.Balanced (heldIn slot.metaData.pRegBufferHandle + held) := by
    subst hr
    cases hyr : slot.y.pRegBufferHandle with
    | none =>
      have huvn : slot.uv.pRegBufferHandle = none := by
        by_contra hne
        simp [hyr, Option.isSome_iff_ne_none.mpr hne] at huv
      simpa [hyr, huvn] using h
    | some y =>
      rw [hyr] at htype h
      simp only [Option.isNone_some, Bool.false_or] at htype
      simp only [Option.isSome_some, if_true]
      unfold rpcUnRegisterBuffer
      cases hty : env.bufferType with
      | bufferDescriptorVirtual2D =>
        rw [hty] at htype
        have hne : slot.uv.pRegBufferHandle ≠ none := Option.isSome_iff_ne_none.mp htype
        simp only [reduceCtorEq, hne, and_false, or_self, if_false]
        exact h.releaseOption.releaseOption
      | grallocPointers =>
        simp only [reduceCtorEq, false_and, or_self, if_false]
        exact h.releaseOption.releaseOption
      | _ =>
        rw [hty] at htype
        have hnone : slot.uv.pRegBufferHandle = none := by simpa using htype
        simp only [reduceCtorEq, false_and, or_self, if_false]
        rw [hnone, heldIn_none, zero_add] at h
        exact h.releaseOption
  unfold unregisterSlot
  simp only [hr]
  cases hmr : slot.metaData.pRegBufferHandle with
  | none => simpa [hmr] using hy
  | some m =>
    rw [hmr] at hy
    simp only [Option.isSome_some, if_true, rpcUnRegisterBuffer, reduceCtorEq, false_and,
      or_self, if_false]
    exact hy.releaseOption

lemma Accounted.free (h : Accounted s) (hc : Counted s) {env : FreeEnv}
    (ho : Orderly s (.free env) = true) : Accounted (proxyFreeBuffer env s).1 := by
  obtain ⟨-, he⟩ | ⟨i, hdr, -, hslot, hhdr, -, he⟩ := proxyFreeBuffer_cases env s
  · rwa [he]
  · rw [he]
    simp only [Orderly, hslot, Option.all_some, Bool.and_eq_true] at ho
    have hi : i ∈ Finset.range maxNumProxyBuffers :=
      Finset.mem_range.mpr ((slotOf_eq_some hslot).1.trans_le hc.total)
    have hsum : ∀ g : BufferInfo → Multiset ℕ, g .zero = 0 →
        ∑ j ∈ Finset.range maxNumProxyBuffers, g (s.tBufList j) =
          g (s.tBufList i) + ∑ j ∈ Finset.range maxNumProxyBuffers,
            g (Function.update s.tBufList i .zero j) := by
      intro g hg
      have hsum := Ledgers.sum_update g s.tBufList hi .zero
      rw [hg, add_zero] at hsum
      rw [← hsum, add_comm]
    refine h.update rfl ?_ ?_ (fun _ => rfl) nofun nofun
    · exact freeMemory_balanced ho.1 (h.metaData i hdr hhdr) (hsum memory rfl ▸ h.mem)
    · exact unregisterSlot_balanced ho.2 (h.uv i) (hsum registrations rfl ▸ h.reg)

/-! ## Runs -/

lemma Accounted.next {s s' : Component} {c : Call} {err : OmxError} (h : Accounted s)
    (hc : Counted s) (ho : Orderly s c = true) (hn : s.next c = some (s', err)) :
    Accounted s' ∧ ((∀ env, c ≠ .free env) → err ≠ .none → s' = s) := by
  cases c with
  | allocate env =>
    obtain ⟨hposs, hres⟩ := Option.ite_none_right_eq_some.mp hn
    have hres := h.allocate hc ho hposs.2.2 |> (Option.some.inj hres ▸ ·)
    exact ⟨hres.1, fun _ => hres.2⟩
  | use env =>
    obtain ⟨hposs, hres⟩ := Option.ite_none_right_eq_some.mp hn
    have hres := h.use hc ho hposs.2.2 |> (Option.some.inj hres ▸ ·)
    exact ⟨hres.1, fun _ => hres.2⟩
  | free env =>
    refine ⟨?_, fun hno => absurd rfl (hno env)⟩
    have hs' : s' = (proxyFreeBuffer env s).1 := by rw [Option.some.inj hn]
    rw [hs']
    exact h.free hc ho

lemma accounted_of_reachable (hr : Component.ReachableWith (fun s c => Orderly s c = true) s) :
    Accounted s ∧ Counted s := by
  refine Reachable.invariant (fun s => Accounted s ∧ Counted s) ?_ ?_ hr
  · rintro s ⟨bMapBuffers, rfl⟩
    exact ⟨accounted_init bMapBuffers, counted_init bMapBuffers⟩
  · rintro s c s' ⟨hs, hc⟩ ⟨ho, hn⟩
    obtain ⟨⟨s'', err⟩, hn', rfl⟩ := Option.map_eq_some_iff.mp hn
    exact ⟨(hs.next hc ho hn').1, (hc.next hn').1⟩

/-- **Resources are released once**, in every run of orderly calls: no memory handle is freed
twice and no registration is taken back twice, when no buffer is left every one of them has been,
and a call that fails to get a buffer leaves the table as it was. -/
theorem resources_released {s : Component}
    (hr : Component.ReachableWith (fun s c => Orderly s c = true) s) :
    (∀ n, s.mem.released.count n ≤ 1 ∧ s.reg.released.count n ≤ 1) ∧
      ((∀ i, (s.tBufList i).pBufHeader = none) →
        (∀ n < s.mem.acquired, s.mem.released.count n = 1) ∧
          ∀ n < s.reg.acquired, s.reg.released.count n = 1) ∧
      ∀ c s' err, Orderly s c = true → s.next c = some (s', err) → (∀ env, c ≠ .free env) →
        err ≠ .none → s'.tBufList = s.tBufList := by
  obtain ⟨h, hc⟩ := accounted_of_reachable hr
  refine ⟨fun n => ⟨h.mem.count_le_one n, h.reg.count_le_one n⟩, fun hnone => ?_,
    fun c s' err ho hn hfree herr => ?_⟩
  · have hzero : ∀ i, s.tBufList i = .zero := fun i => h.empty i (hnone i)
    have hsum : ∀ g : BufferInfo → Multiset ℕ, g .zero = 0 →
        ∑ i ∈ Finset.range maxNumProxyBuffers, g (s.tBufList i) = 0 := fun g hg =>
      Finset.sum_eq_zero fun i _ => by rw [hzero i, hg]
    have hmem := h.mem
    have hreg := h.reg
    rw [hsum _ rfl] at hmem hreg
    exact ⟨fun n hn => hmem.count_eq_one hn, fun n hn => hreg.count_eq_one hn⟩
  · rw [(h.next hc ho hn).2 hfree herr]

/-- A buffer that the proxy allocates, with the outcome of the query for its metadata. -/
def sampleAllocate (header platform : Nat) (getParameter : OmxError) : AllocEnv where
  argsOk := true
  alloc := some ⟨0, 7⟩
  use := { sampleUse header platform .none with getParameter := getParameter }

/-- Freeing a buffer of the port. -/
def sampleFree (header : Nat) : FreeEnv where
  argsErr := .none
  header := header
  pBufferSet := true
  bufferType := .ionPointers
  rpcFree := .none
  compReturn := .none
  unregisterOk := true
  unregisterMetaOk := true

/-- A buffer is allocated and freed. -/
theorem allocated_buffer_released : ∃ s : Component, s.mem.acquired = 1 ∧ s.reg.acquired = 1 ∧
      s.mem.released.count 0 ≤ 1 ∧ s.mem.released = [0] ∧ s.reg.released = [0] := by
  obtain ⟨s, hr, hmem, hreg⟩ : ∃ s, Component.ReachableWith (fun s c => Orderly s c = true) s ∧
      s.mem = ⟨1, [0]⟩ ∧ s.reg = ⟨1, [0]⟩ :=
    exists_of_run ⟨true, rfl⟩ [.allocate (sampleAllocate 1 2 .none), .free (sampleFree 1)]
      (by decide +kernel)
  exact ⟨s, by rw [hmem], by rw [hreg], ((resources_released hr).1 0).1, by rw [hmem],
    by rw [hreg]⟩

/-- The query for the metadata fails while a buffer is being allocated.  Its memory is freed, but
the handle stays in the slot.  An application then has a buffer of its own put into the slot, and
when that is freed the memory of the first one is freed again. -/
theorem stale_handle_freed_twice :
    ∃ s, Component.ReachableWith (fun _ _ => True) s ∧ s.nAllocatedBuffers = 0 ∧
      s.mem.released.count 0 = 2 := by
  exact exists_of_run ⟨true, rfl⟩ [.allocate (sampleAllocate 1 2 .undefined),
    .use (sampleUse 1 2 .none), .free (sampleFree 1)] (by decide +kernel)

end Solana.Proxy
