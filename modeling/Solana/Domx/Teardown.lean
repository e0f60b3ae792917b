import Solana.Domx.Capacity

/-!
# The end of a component

`PROXY_ComponentDeInit` frees the memory and takes back the registrations of the buffers that are
still in the table.  It closes its client of the memory manager first, so that it frees every memory
handle through a closed client.  It passes over the slots without a header, in which failed calls
have left registrations, and it finds the buffer type of a slot through `nInputPortIndex` of the
header whatever port the buffer belongs to: the field is unsigned, and the test whether it is valid
is always true.

`teardown_iff` says for which tables everything is given back as it should be.  That every
registration is in one place of the table only, in every run, is `apart_of_reachable`.
-/

namespace Solana.Proxy

open Ledgers Runs Component Ledger Option

open Rpc (RpcError)

/-! ## The function -/

/-- The ports of the buffers in the table, and the buffer types of the ports.  The port indices are
those of the local headers, slot by slot; `registeredPort` is the port for which the buffer was
registered. -/
structure TeardownEnv where
  nInputPortIndex : Nat → Nat
  nOutputPortIndex : Nat → Nat
  registeredPort : Nat → Nat
  proxyBufferType : Nat → BufferType

/-- The buffer type that is used for a slot.  The indices are unsigned, so that the first branch is
always taken. -/
def TeardownEnv.usedType (env : TeardownEnv) (i : Nat) : BufferType :=
  env.proxyBufferType
    (if env.nInputPortIndex i ≥ 0 then env.nInputPortIndex i else env.nOutputPortIndex i)

/-- What the function has done: whether its client is open, the memory handles freed, with whether
the client was open then, and the registrations taken back, with the buffer type. -/
structure Teardown where
  clientOpen : Bool
  freed : List (Nat × Bool)
  unregistered : List (Nat × BufferType)

/-- `MemPlugin_Close`. -/
def Teardown.close (t : Teardown) : Teardown := { t with clientOpen := false }

/-- `MemPlugin_Free` for the handle of an accessor. -/
def Teardown.free (handle : Option Nat) (t : Teardown) : Teardown :=
  { t with freed := t.freed ++ handle.toList.map (·, t.clientOpen) }

/-- `RPC_UnRegisterBuffer`: the registrations that it takes back. -/
def Teardown.unregister (type : BufferType) (handle1 handle2 : Option Nat) (t : Teardown) :
    Teardown :=
  { t with
    unregistered := t.unregistered ++
      (rpcUnRegisterBuffer type true handle1 handle2 .empty).2.released.map (·, type) }

/-- What the loop does with a slot. -/
def teardownSlot (env : TeardownEnv) (s : Component) (t : Teardown) (i : Nat) : Teardown :=
  let slot := s.tBufList i
  match slot.pBufHeader with
  | none => t
  | some hdr =>
    let t := if slot.y.pBufferHandle.isSome then t.free slot.y.pBufferHandle else t
    let t := if hdr.metaData then t.free slot.metaData.pBufferHandle else t
    let t := if slot.y.pRegBufferHandle.isSome then
      t.unregister (env.usedType i) slot.y.pRegBufferHandle slot.uv.pRegBufferHandle else t
    if slot.metaData.pRegBufferHandle.isSome then
      t.unregister .ionPointers slot.metaData.pRegBufferHandle none else t

/-- `PROXY_ComponentDeInit`, as far as the table is concerned. -/
def proxyComponentDeInit (env : TeardownEnv) (s : Component) : Teardown :=
  (List.range s.nTotalBuffers).foldl (teardownSlot env s) (Teardown.close ⟨true, [], []⟩)

/-! ## Registrations are in one place only -/

/-- The parts of a buffer. -/
inductive Part
  | y
  | uv
  | metaData
  deriving DecidableEq

/-- The registration of a part. -/
def BufferInfo.regs (slot : BufferInfo) : Part → Option Nat
  | .y => slot.y.pRegBufferHandle
  | .uv => slot.uv.pRegBufferHandle
  | .metaData => slot.metaData.pRegBufferHandle

open Teardown

lemma BufferInfo.regs_mk (slot : BufferInfo) (hdr : Option Header) (remote : Nat) :
    BufferInfo.regs ⟨hdr, remote, slot.y, slot.uv, slot.metaData⟩ = slot.regs :=
  funext fun p => by cases p <;> rfl

/-- The registrations in the table. -/
def Component.regs (s : Component) : Nat → Part → Option Nat := BufferInfo.regs ∘ s.tBufList

/-- What `RPC_RegisterBuffer` leaves in the places it was given: what was there, nothing, or a new
number. -/
lemma rpcRegisterBuffer_handles (type : BufferType) (fd1 fd2 : Int) (env : RegisterEnv)
    (handle1 handle2 : Option Nat) (reg : Ledger) {r : Registration}
    (hr : rpcRegisterBuffer type fd1 fd2 env handle1 handle2 reg = r) :
    reg.acquired ≤ r.reg.acquired ∧
      (r.handle1 = handle1 ∨ r.handle1 = some reg.acquired ∧ reg.acquired < r.reg.acquired) ∧
      (r.handle2 = handle2 ∨ r.handle2 = none ∨
        r.handle2 = some (reg.acquired + 1) ∧ reg.acquired + 1 < r.reg.acquired) := by
  obtain ⟨first, second, pvr⟩ := env
  have htwo : reg.acquired ≤ reg.acquired + 1 + 1 ∧ reg.acquired < reg.acquired + 1 + 1 := by omega
  unfold rpcRegisterBuffer at hr
  by_cases hfd : fd1 < 0
  · rw [if_pos hfd] at hr
    simp [← hr]
  · rw [if_neg hfd] at hr
    cases type with
    | bufferDescriptorVirtual2D =>
      by_cases hfd2 : fd2 < 0
      · simp [← hr, hfd2]
      · simp only [if_neg hfd2] at hr
        cases first <;> cases second <;> simp [← hr, ionRegister, acquire, htwo]
    | grallocPointers =>
      rcases pvr with _ | _ | ⟨_ | _, _ | _ | _⟩ <;> simp [← hr, acquire, htwo]
    | _ => cases first <;> simp [← hr, ionRegister, acquire]

variable {s : Component} {env : UseEnv} {w w' : Work}

section

variable (env) (w) (hb : ∀ p r, w.slot.regs p = some r → r < w.reg.acquired)
include env w hb

lemma registerData_renews : Renews w.reg.acquired (registerData env w).2.reg.acquired w.slot.regs
      (registerData env w).2.slot.regs := by
  obtain ⟨hle, h1, h2⟩ := rpcRegisterBuffer_handles env.bufferType env.fd1 env.fd2 env.register
    w.slot.y.pRegBufferHandle w.slot.uv.pRegBufferHandle w.reg rfl
  let g : Part → Nat
    | .y => w.reg.acquired
    | .uv => w.reg.acquired + 1
    | .metaData => w.reg.acquired + 2
  have hg : Function.Injective g := by
    intro p q
    cases p <;> cases q <;> simp [g]
  refine Renews.of_fresh hg hle hb fun p r hp => ?_
  cases p with
  | y =>
    rcases h1 with hsame | ⟨hnew, hlt⟩
    · exact .inl (hsame.symm.trans hp)
    · obtain rfl := some.inj (hnew.symm.trans hp)
      exact .inr ⟨rfl, le_rfl, hlt⟩
  | uv =>
    rcases h2 with hsame | hnone | ⟨hnew, hlt⟩
    · exact .inl (hsame.symm.trans hp)
    · exact absurd (hp.symm.trans hnone) (some_ne_none r)
    · obtain rfl := some.inj (hnew.symm.trans hp)
      exact .inr ⟨rfl, Nat.le_succ _, hlt⟩
  | metaData => exact .inl hp

lemma registerMetaData_renews :
    Renews w.reg.acquired (registerMetaData env w).2.reg.acquired w.slot.regs
      (registerMetaData env w).2.slot.regs := by
  unfold registerMetaData
  by_cases hmd : env.isMetaDataEnabled = true
  · rw [if_pos hmd]
    obtain ⟨hle, h1, -⟩ := rpcRegisterBuffer_handles .ionPointers w.slot.metaData.bufferFd (-1)
      env.metaRegister w.slot.metaData.pRegBufferHandle none w.reg rfl
    let g : Part → Nat
      | .y => w.reg.acquired + 1
      | .uv => w.reg.acquired + 2
      | .metaData => w.reg.acquired
    have hg : Function.Injective g := by
      intro p q
      cases p <;> cases q <;> simp [g]
    refine Renews.of_fresh hg hle hb fun p r hp => ?_
    cases p with
    | y => exact .inl hp
    | uv => exact .inl hp
    | metaData =>
      rcases h1 with hsame | ⟨hnew, hlt⟩
      · exact .inl (hsame.symm.trans hp)
      · obtain rfl := some.inj (hnew.symm.trans hp)
        exact .inr ⟨rfl, le_rfl, hlt⟩
  · rw [if_neg hmd]
    exact .of_below le_rfl hb fun _ _ hp => hp

end

lemma allocMetaData_regs (h : allocMetaData env w = some w') :
    w'.slot.regs = w.slot.regs ∧ w'.reg = w.reg := by
  unfold allocMetaData at h
  split_ifs at h
  · obtain ⟨prop, -, rfl⟩ := map_eq_some_iff.mp h
    exact ⟨funext fun p => by cases p <;> rfl, rfl⟩
  · obtain rfl := some.inj h
    exact ⟨rfl, rfl⟩

lemma useSteps_renews (env : UseEnv) (w : Work)
    (hb : ∀ p r, w.slot.regs p = some r → r < w.reg.acquired) :
    Renews w.reg.acquired (useSteps env w).work.reg.acquired w.slot.regs
      (useSteps env w).work.slot.regs := by
  have hsame : Renews w.reg.acquired w.reg.acquired w.slot.regs w.slot.regs :=
    .of_below le_rfl hb fun _ _ hp => hp
  unfold useSteps
  by_cases hget : env.getParameter ≠ .none
  · rw [if_pos hget]
    exact hsame
  · rw [if_neg hget]
    cases hw : allocMetaData env w with
    | none => exact hsame
    | some w₁ =>
      obtain ⟨hregs, hreg⟩ := allocMetaData_regs hw
      rw [← hregs, ← hreg] at hb ⊢
      have hdata := registerData_renews env w₁ hb
      have hmeta := registerMetaData_renews env (registerData env w₁).2 (hdata.below hb)
      simp only
      split_ifs
      · exact hdata
      · exact hdata.trans hmeta
      · exact hdata.trans hmeta

/-- No two places of the table hold the same registration. -/
def Component.Apart (s : Component) : Prop := SinglyHeld s.reg.acquired s.regs

lemma Component.Apart.replace (h : s.Apart) {s' : Component} {c : Nat} {slot : BufferInfo}
    (hlist : s'.tBufList = Function.update s.tBufList c slot)
    (hr : Renews s.reg.acquired s'.reg.acquired (s.tBufList c).regs slot.regs) : s'.Apart := by
  unfold Component.Apart regs
  rw [hlist, Function.comp_update]
  exact SinglyHeld.renew h hr

lemma Component.Apart.use (h : s.Apart) (env : UseEnv) : (proxyUseBuffer env s).1.Apart := by
  have hrenews := useSteps_renews env ⟨s.tBufList s.currentBuffer, s.mem, s.reg⟩
    (h.below s.currentBuffer)
  obtain ⟨err, -, -, he⟩ | ⟨hdr, plat, p, -, -, -, rfl, ⟨-, he⟩ | ⟨-, he⟩⟩ :=
    proxyUseBuffer_cases env s
  · rwa [he]
  · rw [he]
    exact h.replace rfl hrenews
  · rw [he]
    refine h.replace rfl ?_
    rw [BufferInfo.regs_mk]
    exact hrenews

lemma Component.Apart.allocate (h : s.Apart) (env : AllocEnv) :
    (proxyAllocateBuffer env s).1.Apart := by
  obtain ⟨err, -, -, he⟩ | ⟨prop, res, -, -, rfl, he⟩ := proxyAllocateBuffer_cases env s
  · rwa [he]
  · have hstored : (s.storeHandle prop).Apart := by
      refine h.replace rfl (.of_below le_rfl (h.below _) fun q r hq => ?_)
      cases q <;> exact hq
    rw [he]
    exact hstored.use { env.use with pBuffer := prop.fd }

lemma rpcUnRegisterBuffer_acquired (type : BufferType) (ioctlOk : Bool)
    (handle1 handle2 : Option Nat) (reg : Ledger) :
    (rpcUnRegisterBuffer type ioctlOk handle1 handle2 reg).2.acquired = reg.acquired := by
  unfold rpcUnRegisterBuffer
  by_cases hnull : handle1 = none ∨ (type = .bufferDescriptorVirtual2D ∧ handle2 = none)
  · simp only [if_pos hnull]
  · simp only [if_neg hnull]
    cases type <;> rfl

lemma unregisterSlot_acquired (env : FreeEnv) (slot : BufferInfo) (reg : Ledger) :
    (unregisterSlot env slot reg).2.acquired = reg.acquired := by
  unfold unregisterSlot
  dsimp only
  split_ifs <;> simp only [rpcUnRegisterBuffer_acquired]

lemma Component.Apart.free (h : s.Apart) (env : FreeEnv) : (proxyFreeBuffer env s).1.Apart := by
  obtain ⟨-, he⟩ | ⟨i, hdr, -, -, -, -, he⟩ := proxyFreeBuffer_cases env s
  · rwa [he]
  · rw [he]
    refine h.replace rfl (.of_below ?_ (h.below i) fun q r hq => ?_)
    · exact (unregisterSlot_acquired env (s.tBufList i) s.reg).ge
    · have hnone : BufferInfo.zero.regs q = none := by cases q <;> rfl
      exact absurd (hq.symm.trans hnone) (some_ne_none r)

/-- **No two places of the table hold the same registration**, in every reachable state. -/
lemma apart_of_reachable {Cond : Component → Call → Prop}
    (hr : Component.ReachableWith Cond s) : s.Apart := by
  refine Reachable.invariant Component.Apart ?_ ?_ hr
  · rintro s ⟨bMapBuffers, rfl⟩
    have hnone : ∀ i p, (init bMapBuffers).regs i p = none := fun i p => by
      cases p <;> rfl
    exact ⟨fun i p r h => absurd (h.symm.trans (hnone i p)) (some_ne_none r),
      fun i _ p _ r h => absurd (h.symm.trans (hnone i p)) (some_ne_none r)⟩
  · rintro s c s' hs ⟨-, hn⟩
    obtain ⟨⟨s'', err⟩, hn', rfl⟩ := map_eq_some_iff.mp hn
    cases c with
    | allocate env =>
      have hres := some.inj (ite_none_right_eq_some.mp hn').2
      exact congrArg Prod.fst hres ▸ hs.allocate env
    | use env =>
      have hres := some.inj (ite_none_right_eq_some.mp hn').2
      exact congrArg Prod.fst hres ▸ hs.use env
    | free env => exact congrArg Prod.fst (some.inj hn') ▸ hs.free env

/-! ## What the loop does -/

/-- The memory handles that are freed for a slot. -/
def Component.freedIn (s : Component) (i : Nat) : List Nat :=
  match (s.tBufList i).pBufHeader with
  | none => []
  | some hdr => (s.tBufList i).y.pBufferHandle.toList ++
      if hdr.metaData then (s.tBufList i).metaData.pBufferHandle.toList else []

/-- The registrations that are taken back for a slot. -/
def Component.unregisteredIn (s : Component) (env : TeardownEnv) (i : Nat) :
    List (Nat × BufferType) :=
  match (s.tBufList i).pBufHeader with
  | none => []
  | some _ =>
    (rpcUnRegisterBuffer (env.usedType i) true (s.regs i .y) (s.regs i .uv)
        .empty).2.released.map (·, env.usedType i) ++
      (s.regs i .metaData).toList.map (·, .ionPointers)

lemma teardownSlot_eq (env : TeardownEnv) (s : Component) (t : Teardown) (i : Nat) :
    teardownSlot env s t i =
      { t with
        freed := t.freed ++ (s.freedIn i).map (·, t.clientOpen)
        unregistered := t.unregistered ++ s.unregisteredIn env i } := by
  have hy : ∀ h : Option Nat, (if h.isSome then t.free h else t) = t.free h := by
    intro h
    cases h with
    | none => simp [free]
    | some h => rfl
  have hreg : ∀ (t : Teardown) (type : BufferType) (h h' : Option Nat),
      (if h.isSome then t.unregister type h h' else t) = t.unregister type h h' := by
    intro t type h h'
    cases h with
    | none => simp [unregister, rpcUnRegisterBuffer, empty]
    | some h => rfl
  have hmeta : ∀ h : Option Nat,
      (rpcUnRegisterBuffer .ionPointers true h none .empty).2.released = h.toList := by
    intro h
    cases h <;> rfl
  unfold teardownSlot freedIn unregisteredIn
  cases hhdr : (s.tBufList i).pBufHeader with
  | none => simp [hhdr]
  | some hdr =>
    simp only [hhdr, hy, hreg]
    cases hdr.metaData with
    | false =>
      simp [free, unregister, hmeta, regs, BufferInfo.regs]
    | true =>
      simp [free, unregister, hmeta, regs, BufferInfo.regs]

lemma foldl_teardownSlot (env : TeardownEnv) (s : Component) (slots : List Nat) (t : Teardown) :
    slots.foldl (teardownSlot env s) t =
      { t with
        freed := t.freed ++ (slots.flatMap s.freedIn).map (·, t.clientOpen)
        unregistered := t.unregistered ++ slots.flatMap (s.unregisteredIn env) } := by
  induction slots generalizing t with
  | nil => simp
  | cons i slots ih =>
    rw [List.foldl_cons, ih, teardownSlot_eq]
    simp

/-- **What `PROXY_ComponentDeInit` does.** -/
lemma proxyComponentDeInit_eq (env : TeardownEnv) (s : Component) : proxyComponentDeInit env s =
      ⟨false, ((List.range s.nTotalBuffers).flatMap s.freedIn).map (·, false),
        (List.range s.nTotalBuffers).flatMap (s.unregisteredIn env)⟩ := by
  rw [proxyComponentDeInit, foldl_teardownSlot]
  rfl

/-! ## What is given back -/

/-- The buffer type with which a part of a buffer was registered: that of its port, and
`IONPointers` for the metadata. -/
def TeardownEnv.registeredType (env : TeardownEnv) (i : Nat) : Part → BufferType
  | .y => env.proxyBufferType (env.registeredPort i)
  | .uv => env.proxyBufferType (env.registeredPort i)
  | .metaData => .ionPointers

/-- `PROXY_ComponentDeInit` frees every memory handle of the table that was not freed before, once
and through an open client, and takes back every registration of the table, once and with the buffer
type with which it was registered. -/
structure GivesBack (env : TeardownEnv) (s : Component) : Prop where
  freedOnce : ((proxyComponentDeInit env s).freed.map Prod.fst).Nodup
  clientOpen : ∀ e ∈ (proxyComponentDeInit env s).freed, e.2 = true
  freed : ∀ i < 100, ∀ h ∈ (s.tBufList i).memory, h ∉ s.mem.released →
    h ∈ (proxyComponentDeInit env s).freed.map Prod.fst
  unregisteredOnce : ((proxyComponentDeInit env s).unregistered.map Prod.fst).Nodup
  unregistered : ∀ i < 100, ∀ p r, s.regs i p = some r →
    (r, env.registeredType i p) ∈ (proxyComponentDeInit env s).unregistered

/-- The chrominance is registered only if the luminance is.  The buffer type that
`PROXY_ComponentDeInit` finds is the one they were registered with, and it has two parts exactly if
they are two. -/
structure Component.Matching (s : Component) (env : TeardownEnv) (i : Nat) : Prop where
  luminance : s.regs i .y = none → s.regs i .uv = none
  type : (s.regs i .y).isSome = true → env.usedType i = env.registeredType i .y
  parts : (s.regs i .y).isSome = true → env.usedType i = .bufferDescriptorVirtual2D →
    (s.regs i .uv).isSome = true
  chrominance : (s.regs i .uv).isSome = true →
    env.usedType i = .bufferDescriptorVirtual2D ∨ env.usedType i = .grallocPointers

/-- What a slot has to be like: there is no memory in it, it is in use if it has registrations, and
these match the buffer type. -/
structure Component.Releasable (s : Component) (env : TeardownEnv) (i : Nat) : Prop where
  memory : ∀ h ∈ (s.tBufList i).memory, h ∈ s.mem.released
  unallocated : ∀ hdr, (s.tBufList i).pBufHeader = some hdr →
    (s.tBufList i).y.pBufferHandle = none ∧
      (hdr.metaData = true → (s.tBufList i).metaData.pBufferHandle = none)
  empty : (s.tBufList i).pBufHeader = none → ∀ p, s.regs i p = none
  matching : s.Matching env i

lemma mem_released {type : BufferType} {handle1 handle2 : Option Nat} {r : Nat} :
    r ∈ (rpcUnRegisterBuffer type true handle1 handle2 .empty).2.released ↔
      handle1.isSome = true ∧ (type = .bufferDescriptorVirtual2D → handle2.isSome = true) ∧
      (handle1 = some r ∨
        (type = .bufferDescriptorVirtual2D ∨ type = .grallocPointers) ∧ handle2 = some r) := by
  cases type <;> cases handle1 <;> cases handle2 <;>
    simp [rpcUnRegisterBuffer, releaseOption, empty, eq_comm, or_comm]

variable {env : TeardownEnv} {i : Nat}

lemma regs_of_mem {e : Nat × BufferType} (h : e ∈ s.unregisteredIn env i) :
    (s.tBufList i).pBufHeader.isSome = true ∧ ∃ p, s.regs i p = some e.1 := by
  unfold unregisteredIn at h
  cases hhdr : (s.tBufList i).pBufHeader with
  | none => simp [hhdr] at h
  | some hdr =>
    simp only [hhdr, List.mem_append, List.mem_map, mem_toList] at h
    refine ⟨rfl, ?_⟩
    rcases h with ⟨r, hr, rfl⟩ | ⟨r, hr, rfl⟩
    · rcases (mem_released.mp hr).2.2 with hy | ⟨-, huv⟩
      · exact ⟨.y, hy⟩
      · exact ⟨.uv, huv⟩
    · exact ⟨.metaData, hr⟩

lemma mem_unregisteredIn {i r : Nat} {type : BufferType}
    (h : (s.tBufList i).pBufHeader.isSome = true) : (r, type) ∈ s.unregisteredIn env i ↔
      (r ∈ (rpcUnRegisterBuffer (env.usedType i) true (s.regs i .y) (s.regs i .uv)
          .empty).2.released ∧ env.usedType i = type) ∨
        (s.regs i .metaData = some r ∧ .ionPointers = type) := by
  obtain ⟨hdr, hhdr⟩ := isSome_iff_exists.mp h
  simp [unregisteredIn, hhdr]

/-- The registrations of a slot in use are taken back as they should be exactly if they match the
buffer type. -/
lemma Component.Apart.unregisteredIn_iff (h : s.Apart)
    (huse : (s.tBufList i).pBufHeader.isSome = true) :
    (∀ p r, s.regs i p = some r → (r, env.registeredType i p) ∈ s.unregisteredIn env i) ↔
      s.Matching env i := by
  have hother : ∀ {p q r}, s.regs i p = some r → s.regs i q = some r → p = q := fun hp hq =>
    (h.apart i i _ _ _ hp hq).2
  constructor
  · intro hall
    -- what is known about a part other than the metadata
    have htaken : ∀ p r, p ≠ .metaData → s.regs i p = some r →
        r ∈ (rpcUnRegisterBuffer (env.usedType i) true (s.regs i .y) (s.regs i .uv)
          .empty).2.released ∧ env.usedType i = env.registeredType i p := by
      intro p r hp hr
      exact ((mem_unregisteredIn huse).mp (hall p r hr)).resolve_right fun hmeta =>
        hp (hother hr hmeta.1)
    refine ⟨fun hy => eq_none_iff_forall_ne_some.mpr fun r huv => ?_, fun hy => ?_,
      fun hy => ?_, fun huv => ?_⟩
    · have hsome := (mem_released.mp (htaken .uv r nofun huv).1).1
      simp [hy] at hsome
    · obtain ⟨a, ha⟩ := isSome_iff_exists.mp hy
      exact (htaken .y a nofun ha).2
    · obtain ⟨a, ha⟩ := isSome_iff_exists.mp hy
      exact (mem_released.mp (htaken .y a nofun ha).1).2.1
    · obtain ⟨b, hb⟩ := isSome_iff_exists.mp huv
      rcases (mem_released.mp (htaken .uv b nofun hb).1).2.2 with hyb | ⟨htwo, -⟩
      · exact absurd (hother hyb hb) nofun
      · exact htwo
  · intro hmatch p r hr
    refine (mem_unregisteredIn huse).mpr ?_
    cases p with
    | y =>
      have hy : (s.regs i .y).isSome = true := isSome_of_mem hr
      exact .inl ⟨mem_released.mpr ⟨hy, hmatch.parts hy, .inl hr⟩, hmatch.type hy⟩
    | uv =>
      have hy : (s.regs i .y).isSome = true := isSome_iff_ne_none.mpr fun hnone =>
        absurd (hr.symm.trans (hmatch.luminance hnone)) (some_ne_none r)
      have htwo := hmatch.chrominance (isSome_of_mem hr)
      exact .inl ⟨mem_released.mpr ⟨hy, hmatch.parts hy, .inr ⟨htwo, hr⟩⟩, hmatch.type hy⟩
    | metaData => exact .inr ⟨hr, rfl⟩

lemma released_nodup {type : BufferType} {handle1 handle2 : Option Nat}
    (hne : ∀ r, handle1 = some r → handle2 ≠ some r) :
    (rpcUnRegisterBuffer type true handle1 handle2 .empty).2.released.Nodup := by
  cases type <;> cases handle1 <;> cases handle2 <;>
    simp_all [rpcUnRegisterBuffer, releaseOption, empty]

lemma Component.Apart.unregistered_nodup (h : s.Apart) (env : TeardownEnv) (n : Nat) :
    (((List.range n).flatMap (s.unregisteredIn env)).map Prod.fst).Nodup := by
  rw [List.map_flatMap, List.nodup_flatMap]
  constructor
  · intro i _
    have hother : ∀ {p q r}, s.regs i p = some r → s.regs i q = some r → p = q := fun hp hq =>
      (h.apart i i _ _ _ hp hq).2
    unfold unregisteredIn
    cases (s.tBufList i).pBufHeader with
    | none => exact List.nodup_nil
    | some hdr =>
      simp only [List.map_append, List.map_map, Function.comp_def, List.map_id']
      refine List.nodup_append.mpr ⟨released_nodup fun r hy huv => ?_, ?_, fun r hr r' hr' => ?_⟩
      · exact absurd (hother hy huv) nofun
      · cases s.regs i .metaData <;> simp
      · rintro rfl
        have hmeta : s.regs i .metaData = some r := mem_toList.mp hr'
        rcases (mem_released.mp hr).2.2 with hy | ⟨-, huv⟩
        · exact absurd (hother hy hmeta) nofun
        · exact absurd (hother huv hmeta) nofun
  · refine List.nodup_range.pairwise_of_forall_ne fun i _ j _ hij => ?_
    intro r hi hj
    obtain ⟨e, he, rfl⟩ := List.mem_map.mp hi
    obtain ⟨e', he', hr⟩ := List.mem_map.mp hj
    obtain ⟨-, p, hp⟩ := regs_of_mem he
    obtain ⟨-, q, hq⟩ := regs_of_mem he'
    exact hij (h.apart i j p q _ hp (hq.trans (congrArg some hr))).1

/-- A registration is taken back exactly if it is when its slot has its turn. -/
lemma Component.Apart.mem_unregistered_iff (h : s.Apart) (hc : Counted s) {i r : Nat} {p : Part}
    (hr : s.regs i p = some r) (type : BufferType) :
    (r, type) ∈ (List.range s.nTotalBuffers).flatMap (s.unregisteredIn env) ↔
      (r, type) ∈ s.unregisteredIn env i := by
  rw [List.mem_flatMap]
  constructor
  · rintro ⟨j, -, hj⟩
    obtain ⟨-, q, hq⟩ := regs_of_mem hj
    obtain ⟨rfl, -⟩ := h.apart i j p q r hr hq
    exact hj
  · intro hi
    exact ⟨i, List.mem_range.mpr (hc.below i (regs_of_mem hi).1), hi⟩

lemma freedIn_eq_nil_iff : s.freedIn i = [] ↔ ∀ hdr, (s.tBufList i).pBufHeader = some hdr →
      (s.tBufList i).y.pBufferHandle = none ∧
        (hdr.metaData = true → (s.tBufList i).metaData.pBufferHandle = none) := by
  unfold freedIn
  cases (s.tBufList i).pBufHeader with
  | none => simp
  | some hdr => cases hdr.metaData <;> simp

lemma GivesBack.freedIn_eq_nil (h : GivesBack env s) :
    (List.range s.nTotalBuffers).flatMap s.freedIn = [] := by
  have hopen := h.clientOpen
  simp only [proxyComponentDeInit_eq] at hopen
  -- every handle is freed through a closed client, so that there can be none
  exact List.eq_nil_iff_forall_not_mem.mpr fun a ha =>
    Bool.false_ne_true (hopen (a, false) (List.mem_map_of_mem ha))

lemma GivesBack.releasable (h : GivesBack env s) (hc : Counted s) (hapart : s.Apart)
    (hi : i < maxNumProxyBuffers) : s.Releasable env i := by
  have hnil := h.freedIn_eq_nil
  have hunregistered := h.unregistered i hi
  have hfreed := h.freed i hi
  simp only [proxyComponentDeInit_eq] at hunregistered hfreed
  have hslot : ∀ p r, s.regs i p = some r →
      (r, env.registeredType i p) ∈ s.unregisteredIn env i := fun p r hp =>
    (hapart.mem_unregistered_iff hc hp _).mp (hunregistered p r hp)
  have hempty : (s.tBufList i).pBufHeader = none → ∀ p, s.regs i p = none := fun hhdr p =>
    eq_none_iff_forall_ne_some.mpr fun r hp => by
      simpa [hhdr] using (regs_of_mem (hslot p r hp)).1
  have hmatch : s.Matching env i := by
    cases hhdr : (s.tBufList i).pBufHeader with
    | none => constructor <;> simp [hempty hhdr]
    | some hdr => exact (hapart.unregisteredIn_iff (by simp [hhdr])).mp hslot
  refine ⟨fun a ha => ?_, fun hdr hhdr => ?_, hempty, hmatch⟩
  · by_contra hheld
    simpa [hnil] using hfreed a ha hheld
  · have hin : i ∈ List.range s.nTotalBuffers := List.mem_range.mpr (hc.below i (by simp [hhdr]))
    exact freedIn_eq_nil_iff.mp (List.flatMap_eq_nil_iff.mp hnil i hin) hdr hhdr

lemma givesBack_of_releasable (hc : Counted s) (hapart : s.Apart)
    (h : ∀ i < maxNumProxyBuffers, s.Releasable env i) : GivesBack env s := by
  have hnil : (List.range s.nTotalBuffers).flatMap s.freedIn = [] :=
    List.flatMap_eq_nil_iff.mpr fun i hi =>
      freedIn_eq_nil_iff.mpr (h i ((List.mem_range.mp hi).trans_le hc.total)).unallocated
  have heq := proxyComponentDeInit_eq env s
  rw [hnil] at heq
  refine ⟨?_, ?_, fun i hi a ha hheld => ?_, ?_, fun i hi p r hp => ?_⟩
  · simp [heq]
  · simp [heq]
  · exact absurd ((h i hi).memory a ha) hheld
  · rw [heq]
    exact hapart.unregistered_nodup env _
  · rw [heq]
    refine (hapart.mem_unregistered_iff hc hp _).mpr ?_
    have huse : (s.tBufList i).pBufHeader.isSome = true := isSome_iff_ne_none.mpr
      fun hhdr => absurd (hp.symm.trans ((h i hi).empty hhdr p)) (some_ne_none r)
    exact (hapart.unregisteredIn_iff huse).mpr (h i hi).matching p r hp

/-- **Everything is given back as it should be** by `PROXY_ComponentDeInit`, in every reachable
state, exactly if all slots of the table are releasable. -/
theorem teardown_iff (hr : Component.ReachableWith (fun _ _ => True) s) (env : TeardownEnv) :
    GivesBack env s ↔ ∀ i < 100, s.Releasable env i := by
  have hc := counted_of_reachable hr
  have hapart := apart_of_reachable hr
  exact ⟨fun h i hi => h.releasable hc hapart hi, givesBack_of_releasable hc hapart⟩

/-- A component with ports of one buffer type, all of whose buffers belong to the first port. -/
def samplePorts (type : BufferType) : TeardownEnv where
  nInputPortIndex := fun _ => 0
  nOutputPortIndex := fun _ => 0
  registeredPort := fun _ => 0
  proxyBufferType := fun _ => type

/-- One buffer of the application in the table: its registration is taken back. -/
theorem teardown_one_buffer :
    ∃ s : Component, s.regs 0 .y = some 0 ∧ GivesBack (samplePorts .ionPointers) s := by
  obtain ⟨s, hr, hreg, hslots⟩ : ∃ s : Component, Component.ReachableWith (fun _ _ => True) s ∧
      s.regs 0 .y = some 0 ∧ ∀ i ∈ List.range 100, s.tBufList i = if i = 0 then
        ⟨some ⟨1, 2, false⟩, 0, ⟨none, some 0, 0, 0⟩, .zero, .zero⟩ else .zero :=
    exists_of_run ⟨false, rfl⟩ [.use (sampleUse 1 2 .none)] (by decide +kernel)
  refine ⟨s, hreg, (teardown_iff hr _).mpr fun i hi => ?_⟩
  have hslot := hslots i (List.mem_range.mpr hi)
  by_cases h0 : i = 0
  · rw [if_pos h0] at hslot
    refine ⟨?_, ?_, ?_, ?_, ?_, ?_, ?_⟩ <;>
      simp [hslot, regs, BufferInfo.regs, BufferInfo.memory, Accessor.zero, samplePorts,
        TeardownEnv.usedType, TeardownEnv.registeredType]
  · rw [if_neg h0] at hslot
    have hnone : ∀ p, s.regs i p = none := fun p => by
      simp only [regs, Function.comp_apply, hslot]
      cases p <;> rfl
    refine ⟨?_, ?_, fun _ => hnone, ?_, ?_, ?_, ?_⟩ <;>
      simp [hslot, hnone, BufferInfo.memory, BufferInfo.zero, Accessor.zero]

/-- The memory of an allocated buffer is freed through a closed client.  The registration that a
refused `PROXY_UseBuffer` has left in a slot is not taken back.  And the second part of a buffer
that was registered for an output port with two parts is not taken back when the first port has
another buffer type. -/
theorem teardown_not_giving_back : (∃ s, Component.ReachableWith (fun _ _ => True) s ∧
      (proxyComponentDeInit (samplePorts .ionPointers) s).freed = [(0, false)]) ∧
    (∃ s, Component.ReachableWith (fun _ _ => True) s ∧ s.regs 0 .y = some 0 ∧
      (proxyComponentDeInit (samplePorts .ionPointers) s).unregistered = []) ∧
    ∃ s, Component.ReachableWith (fun _ _ => True) s ∧ s.regs 0 .uv = some 1 ∧
      (proxyComponentDeInit ⟨fun _ => 0, fun _ => 1, fun _ => 1, fun port =>
        if port = 1 then .bufferDescriptorVirtual2D else .ionPointers⟩ s).unregistered =
          [(0, .ionPointers)] := by
  refine ⟨?_, ?_, ?_⟩
  · exact exists_of_run ⟨false, rfl⟩ [.allocate (sampleAllocate 1 2 .none)] (by decide +kernel)
  · exact exists_of_run ⟨false, rfl⟩ [.use (sampleUse 1 2 .hardware)] (by decide +kernel)
  · exact exists_of_run ⟨false, rfl⟩
      [.use { sampleUse 1 2 .none with bufferType := .bufferDescriptorVirtual2D }]
      (by decide +kernel)

end Solana.Proxy
