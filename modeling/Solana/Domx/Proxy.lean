import Solana.Rpc.Listener

/-!
# The buffers of a proxy component

`PROXY_AllocateBuffer`, `PROXY_UseBuffer` and `PROXY_FreeBuffer`, which keep the table of a
component's buffers.  A slot of the table holds the local and the remote buffer header, and for
each of the parts of a buffer (luminance, chrominance and metadata) the handle of the memory
plugin and the handle under which the part is registered with the remote core.

The calls of the memory plugin, of the kernel and of the remote core may fail; their outcomes
are the `…Env` structures.  Two ledgers number the memory handles and the registrations, and
`live` are the addresses of the blocks that `malloc` has returned and that were not freed.
Handles of the memory plugin that were obtained inside `MemPlugin_Alloc` when it fails are not
modelled: its callers never see them.
-/

namespace Solana.Proxy

open Ledgers Runs

open Rpc (RpcError)

/-! ## Errors -/

/-- `OMX_ERRORTYPE`, as far as the proxy distinguishes its values. -/
inductive OmxError
  | none
  | noMore
  | badParameter
  | insufficientResources
  | hardware
  | unsupportedIndex
  | timeout
  | undefined
  | other (code : Nat)
  deriving DecidableEq

/-- The error a failed call of the remote core is reported as. -/
def ofRpcError : RpcError → OmxError
  | .none => .none
  | .hardware => .hardware
  | .insufficientResources => .insufficientResources
  | .badParameter => .badParameter
  | .unsupportedIndex => .unsupportedIndex
  | .timeout => .timeout
  | .undefined | .other _ => .undefined

/-- `PROXY_checkRpcError`: the error, and whether the function goes on. -/
def checkRpcError (eRPCError : RpcError) (eCompReturn : OmxError) : OmxError × Bool :=
  if eRPCError = .none then
    (eCompReturn, decide (eCompReturn = .none) || decide (eCompReturn = .noMore))
  else (ofRpcError eRPCError, false)

lemma ofRpcError_eq_none {e : RpcError} : ofRpcError e = .none ↔ e = .none := by
  cases e <;> simp [ofRpcError]

lemma checkRpcError_eq_none {e : RpcError} {c : OmxError} :
    (checkRpcError e c).1 = .none ↔ e = .none ∧ c = .none := by
  by_cases he : e = .none
  · simp [checkRpcError, he]
  · simp [checkRpcError, he, ofRpcError_eq_none]

/-! ## Registering with the remote core -/

/-- `PROXY_BUFFER_TYPE`. -/
inductive BufferType
  | virtualPointers
  | grallocPointers
  | ionPointers
  | encoderMetadataPointers
  | bufferDescriptorVirtual2D
  deriving DecidableEq

/-- The outcome of `OMX_IOCIONREGISTER`: the call fails, or it returns a null handle or one that
is not. -/
inductive IonResult
  | failed
  | null
  | registered
  deriving DecidableEq

/-- The outcome of `OMX_IOCPVRREGISTER`: which of the handles are not null, the second one if
there is more than one. -/
inductive PvrResult
  | enotty
  | failed
  | done (y : Bool) (uv : Option Bool)
  deriving DecidableEq

/-- The outcomes of the calls `RPC_RegisterBuffer` may make. -/
structure RegisterEnv where
  first : IonResult
  second : IonResult
  pvr : PvrResult

/-- What `RPC_RegisterBuffer` leaves: its error, the two handles it was given places for, and the
registrations. -/
structure Registration where
  err : RpcError
  handle1 : Option Nat
  handle2 : Option Nat
  reg : Ledger

/-- Register one file descriptor. -/
def ionRegister (res : IonResult) (reg : Ledger) : Except RpcError (Nat × Ledger) :=
  match res with
  | .failed => .error .insufficientResources
  | .null => .error .badParameter
  | .registered => .ok (reg.acquired, reg.acquire)

/-- `RPC_RegisterBuffer`, with the contents of `*handle1` and `*handle2` before the call. -/
def rpcRegisterBuffer (type : BufferType) (fd1 fd2 : Int) (env : RegisterEnv)
    (handle1 handle2 : Option Nat) (reg : Ledger) : Registration :=
  if fd1 < 0 then ⟨.badParameter, handle1, handle2, reg⟩
  else
    match type with
    | .bufferDescriptorVirtual2D =>
      if fd2 < 0 then ⟨.badParameter, handle1, handle2, reg⟩
      else
        match ionRegister env.first reg with
        | .error e => ⟨e, handle1, handle2, reg⟩
        | .ok (y, reg) =>
          match ionRegister env.second reg with
          | .error e => ⟨e, some y, handle2, reg⟩
          | .ok (uv, reg) => ⟨.none, some y, some uv, reg⟩
    | .grallocPointers =>
      match env.pvr with
      | .enotty => ⟨.none, handle1, handle2, reg⟩
      | .failed => ⟨.insufficientResources, handle1, handle2, reg⟩
      | .done false uv =>
        ⟨.badParameter, handle1, handle2, if uv = some true then reg.acquire else reg⟩
      | .done true none => ⟨.none, some reg.acquired, none, reg.acquire⟩
      | .done true (some false) => ⟨.badParameter, some reg.acquired, handle2, reg.acquire⟩
      | .done true (some true) =>
        ⟨.none, some reg.acquired, some reg.acquire.acquired, reg.acquire.acquire⟩
    | .virtualPointers | .ionPointers | .encoderMetadataPointers =>
      match ionRegister env.first reg with
      | .error e => ⟨e, handle1, handle2, reg⟩
      | .ok (y, reg) => ⟨.none, some y, handle2, reg⟩

/-- `RPC_UnRegisterBuffer`, with the outcome of its calls of the kernel: every registration it
gets to is counted as released, also when the kernel reports an error. -/
def rpcUnRegisterBuffer (type : BufferType) (ioctlOk : Bool) (handle1 handle2 : Option Nat)
    (reg : Ledger) : RpcError × Ledger :=
  let err : RpcError := if ioctlOk then .none else .insufficientResources
  if handle1 = none ∨ (type = .bufferDescriptorVirtual2D ∧ handle2 = none) then
    (.badParameter, reg)
  else
    match type with
    | .bufferDescriptorVirtual2D | .grallocPointers =>
      (err, (reg.releaseOption handle1).releaseOption handle2)
    | .virtualPointers | .ionPointers | .encoderMetadataPointers =>
      (err, reg.releaseOption handle1)

/-! ## The table -/

/-- `MEMPLUGIN_BUFFER_ACCESSOR`. -/
structure Accessor where
  pBufferHandle : Option Nat
  pRegBufferHandle : Option Nat
  pBufferMappedAddress : Nat
  bufferFd : Int
  deriving DecidableEq

/-- A cleared accessor. -/
def Accessor.zero : Accessor := ⟨none, none, 0, 0⟩

/-- A local buffer header, as far as these functions read it: where it is, where its platform
private data are, and whether `pMetaDataBuffer` of these is set. -/
structure Header where
  addr : Nat
  platform : Nat
  metaData : Bool
  deriving DecidableEq

/-- `PROXY_BUFFER_INFO`, with the three accessors by name. -/
structure BufferInfo where
  pBufHeader : Option Header
  pBufHeaderRemote : Nat
  y : Accessor
  uv : Accessor
  metaData : Accessor
  deriving DecidableEq

/-- A cleared slot. -/
def BufferInfo.zero : BufferInfo := ⟨none, 0, .zero, .zero, .zero⟩

/-- `MAX_NUM_PROXY_BUFFERS`. -/
def maxNumProxyBuffers : Nat := 100

/-- `PROXY_COMPONENT_PRIVATE`, as far as these functions use it, with the memory handles, the
registrations and the allocated blocks.  An index past the end of `tBufList` is the memory after
it, which holds the buffer types of the ports: they are read anew in every call. -/
structure Component where
  bMapBuffers : Bool
  tBufList : Nat → BufferInfo
  nTotalBuffers : Nat
  nAllocatedBuffers : Nat
  live : Finset Nat
  mem : Ledger
  reg : Ledger

/-- A component after `OMX_ProxyCommonInit`. -/
def Component.init (bMapBuffers : Bool) : Component :=
  ⟨bMapBuffers, fun _ => .zero, 0, 0, ∅, .empty, .empty⟩

/-- The first empty slot. -/
def Component.currentBuffer (s : Component) : Nat :=
  ((List.range s.nTotalBuffers).find? fun i => (s.tBufList i).pBufHeader.isNone).getD
    s.nTotalBuffers

/-! ## `PROXY_UseBuffer` -/

/-- What `MemPlugin_Alloc` returns besides the handle. -/
structure MemProp where
  mapped : Nat
  fd : Int

/-- The arguments of `PROXY_UseBuffer` and the outcomes of what it calls.  `pBuffer` is the
pointer as the integer that the code makes of it, and `aux0` and `aux1` are the file descriptors
in the gralloc handle or the buffer descriptor behind it. -/
structure UseEnv where
  argsOk : Bool
  pBuffer : Int
  aux0 : Int
  aux1 : Int
  bufferType : BufferType
  header : Option Nat
  platform : Option Nat
  getParameter : OmxError
  isMetaDataEnabled : Bool
  metaAlloc : Option MemProp
  register : RegisterEnv
  metaRegister : RegisterEnv
  rpcUse : RpcError
  compReturn : OmxError
  remote : Nat

/-- Are the file descriptors taken from a structure behind `pBuffer`? -/
def BufferType.indirect : BufferType → Bool
  | .grallocPointers | .bufferDescriptorVirtual2D => true
  | _ => false

/-- `pAuxBuf0`. -/
def UseEnv.fd1 (env : UseEnv) : Int := if env.bufferType.indirect then env.aux0 else env.pBuffer

/-- `pAuxBuf1` of the platform private data. -/
def UseEnv.fd2 (env : UseEnv) : Int := if env.bufferType.indirect then env.aux1 else 0

/-- The slot that is being filled and the resources. -/
structure Work where
  slot : BufferInfo
  mem : Ledger
  reg : Ledger

/-- How far `PROXY_UseBuffer` gets with a slot: the error, and whether the slot is put into
use. -/
structure Progress where
  work : Work
  err : OmxError
  go : Bool

/-- The metadata buffer, if the port has one. -/
def allocMetaData (env : UseEnv) (w : Work) : Option Work :=
  if env.isMetaDataEnabled then
    env.metaAlloc.map fun prop =>
      { w with
        slot := { w.slot with
          metaData := { w.slot.metaData with
            pBufferHandle := some w.mem.acquired
            pBufferMappedAddress := prop.mapped
            bufferFd := prop.fd } }
        mem := w.mem.acquire }
  else some w

/-- Registering the buffer. -/
def registerData (env : UseEnv) (w : Work) : RpcError × Work :=
  let r := rpcRegisterBuffer env.bufferType env.fd1 env.fd2 env.register w.slot.y.pRegBufferHandle
    w.slot.uv.pRegBufferHandle w.reg
  (r.err,
    { w with
      slot := { w.slot with
        y := { w.slot.y with pRegBufferHandle := r.handle1 }
        uv := { w.slot.uv with pRegBufferHandle := r.handle2 } }
      reg := r.reg })

/-- Registering the metadata buffer, if there is one. -/
def registerMetaData (env : UseEnv) (w : Work) : RpcError × Work :=
  if env.isMetaDataEnabled then
    let r := rpcRegisterBuffer .ionPointers w.slot.metaData.bufferFd (-1) env.metaRegister
      w.slot.metaData.pRegBufferHandle none w.reg
    (r.err,
      { w with
        slot := { w.slot with
          metaData := { w.slot.metaData with pRegBufferHandle := r.handle1 } }
        reg := r.reg })
  else (.none, w)

/-- `PROXY_UseBuffer` from the query of the metadata to the answer of the remote core. -/
def useSteps (env : UseEnv) (w : Work) : Progress :=
  if env.getParameter ≠ .none then ⟨w, env.getParameter, false⟩
  else
    match allocMetaData env w with
    | none => ⟨w, .insufficientResources, false⟩
    | some w =>
      let (err, w) := registerData env w
      if err ≠ .none then ⟨w, ofRpcError err, false⟩
      else
        let (err, w) := registerMetaData env w
        if err ≠ .none then ⟨w, ofRpcError err, false⟩
        else
          let res := checkRpcError env.rpcUse env.compReturn
          ⟨w, res.1, res.2⟩

/-- Is `pMetaDataBuffer` set when the slot is put into use? -/
def metaDataSet (bMapBuffers : Bool) (env : UseEnv) (slot : BufferInfo) : Bool :=
  env.isMetaDataEnabled && (!bMapBuffers || decide (slot.metaData.pBufferMappedAddress ≠ 0))

/-- The component after a call that did not put its slot into use. -/
def Component.leaveSlot (s : Component) (p : Progress) : Component :=
  { s with
    tBufList := Function.update s.tBufList s.currentBuffer p.work.slot
    mem := p.work.mem
    reg := p.work.reg }

/-- The component after a call that put its slot into use.  With `OMX_ErrorNoMore` it is in use, and
yet the header is freed. -/
def Component.putSlot (s : Component) (env : UseEnv) (hdr plat : Nat) (p : Progress) : Component :=
  { s with
    tBufList := Function.update s.tBufList s.currentBuffer { p.work.slot with
      pBufHeader := some ⟨hdr, plat, metaDataSet s.bMapBuffers env p.work.slot⟩
      pBufHeaderRemote := env.remote }
    nTotalBuffers := max s.nTotalBuffers (s.nAllocatedBuffers + 1)
    nAllocatedBuffers := s.nAllocatedBuffers + 1
    live := if p.err = .none then insert plat (insert hdr s.live) else s.live
    mem := p.work.mem
    reg := p.work.reg }

/-- `PROXY_UseBuffer`. -/
def proxyUseBuffer (env : UseEnv) (s : Component) : Component × OmxError :=
  if !env.argsOk || decide (env.pBuffer = 0) then (s, .badParameter)
  else if ¬ s.nTotalBuffers < maxNumProxyBuffers then (s, .insufficientResources)
  else
    match env.header, env.platform with
    | some hdr, some plat =>
      let p := useSteps env ⟨s.tBufList s.currentBuffer, s.mem, s.reg⟩
      (if p.go then s.putSlot env hdr plat p else s.leaveSlot p, p.err)
    | _, _ => (s, .insufficientResources)

/-- `PROXY_UseBuffer` gets past its checks and past the allocation of the header. -/
structure UseEnv.Admitted (env : UseEnv) (s : Component) : Prop where
  args : (!env.argsOk || decide (env.pBuffer = 0)) = false
  room : s.nTotalBuffers < maxNumProxyBuffers
  header : env.header.isSome = true
  platform : env.platform.isSome = true

/-- **What `PROXY_UseBuffer` can do.** -/
lemma proxyUseBuffer_cases (env : UseEnv) (s : Component) :
    (∃ err, err ≠ .none ∧ ¬env.Admitted s ∧ proxyUseBuffer env s = (s, err)) ∨
    ∃ hdr plat p, env.Admitted s ∧ env.header = some hdr ∧
      env.platform = some plat ∧ useSteps env ⟨s.tBufList s.currentBuffer, s.mem, s.reg⟩ = p ∧
      ((p.go = false ∧ proxyUseBuffer env s = (s.leaveSlot p, p.err)) ∨
        (p.go = true ∧ proxyUseBuffer env s = (s.putSlot env hdr plat p, p.err))) := by
  unfold proxyUseBuffer
  by_cases hargs : (!env.argsOk || decide (env.pBuffer = 0)) = true
  · rw [if_pos hargs]
    exact .inl ⟨.badParameter, nofun, fun h => Bool.eq_false_iff.mp h.args hargs, rfl⟩
  by_cases hroom : ¬s.nTotalBuffers < maxNumProxyBuffers
  · rw [if_neg hargs, if_pos hroom]
    exact .inl ⟨.insufficientResources, nofun, fun h => hroom h.room, rfl⟩
  rw [if_neg hargs, if_neg hroom]
  cases hh : env.header with
  | none =>
    exact .inl ⟨.insufficientResources, nofun, fun h => by simpa [hh] using h.header, rfl⟩
  | some hdr =>
    cases hp : env.platform with
    | none =>
      exact .inl ⟨.insufficientResources, nofun, fun h => by simpa [hp] using h.platform, rfl⟩
    | some plat =>
      refine .inr ⟨hdr, plat, _, ⟨Bool.eq_false_iff.mpr hargs, not_not.mp hroom,
        Option.isSome_of_mem hh, Option.isSome_of_mem hp⟩, rfl, rfl, rfl, ?_⟩
      dsimp only
      cases (useSteps env ⟨s.tBufList s.currentBuffer, s.mem, s.reg⟩).go with
      | false => exact .inl ⟨rfl, rfl⟩
      | true => exact .inr ⟨rfl, rfl⟩

/-! ## `PROXY_AllocateBuffer` -/

/-- The arguments of `PROXY_AllocateBuffer` and the outcomes of what it calls. -/
structure AllocEnv where
  argsOk : Bool
  alloc : Option MemProp
  use : UseEnv

/-- The component when `PROXY_AllocateBuffer` has stored its memory handle. -/
def Component.storeHandle (s : Component) (prop : MemProp) : Component :=
  let slot := s.tBufList s.currentBuffer
  { s with
    tBufList := Function.update s.tBufList s.currentBuffer { slot with
      y := { slot.y with
        pBufferHandle := some s.mem.acquired
        pBufferMappedAddress := prop.mapped
        bufferFd := prop.fd } }
    mem := s.mem.acquire }

/-- `PROXY_AllocateBuffer`.  The file descriptor of the new buffer is passed on as its
address. -/
def proxyAllocateBuffer (env : AllocEnv) (s : Component) : Component × OmxError :=
  if !env.argsOk then (s, .badParameter)
  else
    match env.alloc with
    | none => (s, .insufficientResources)
    | some prop =>
      let res := proxyUseBuffer { env.use with pBuffer := prop.fd } (s.storeHandle prop)
      if res.2 ≠ .none then ({ res.1 with mem := res.1.mem.release s.mem.acquired }, res.2) else res

/-- **What `PROXY_AllocateBuffer` can do.** -/
lemma proxyAllocateBuffer_cases (env : AllocEnv) (s : Component) :
    (∃ err, err ≠ .none ∧ ¬(env.argsOk = true ∧ env.alloc.isSome = true) ∧
      proxyAllocateBuffer env s = (s, err)) ∨
    ∃ prop res, env.argsOk = true ∧ env.alloc = some prop ∧
      proxyUseBuffer { env.use with pBuffer := prop.fd } (s.storeHandle prop) = res ∧
      proxyAllocateBuffer env s =
        ({ res.1 with
            mem := if res.2 = .none then res.1.mem else res.1.mem.release s.mem.acquired },
          res.2) := by
  unfold proxyAllocateBuffer
  cases env.argsOk with
  | false => exact .inl ⟨.badParameter, nofun, nofun, rfl⟩
  | true =>
    cases env.alloc with
    | none => exact .inl ⟨.insufficientResources, nofun, nofun, rfl⟩
    | some prop =>
      refine .inr ⟨prop, _, rfl, rfl, rfl, ?_⟩
      rw [if_neg (by decide)]
      dsimp only
      generalize proxyUseBuffer { env.use with pBuffer := prop.fd } (s.storeHandle prop) = res
      by_cases herr : res.2 = .none
      · simp only [herr, ne_eq, not_true_eq_false, if_false, if_true]
        exact Prod.ext rfl herr
      · simp only [herr, ne_eq, not_false_eq_true, if_true, if_false]

/-! ## `PROXY_FreeBuffer` -/

/-- The arguments of `PROXY_FreeBuffer` and the outcomes of what it calls.  `argsErr` is the
error of the checks of the arguments; `pBufferSet` says whether the application has left a
pointer in the header. -/
structure FreeEnv where
  argsErr : OmxError
  header : Nat
  pBufferSet : Bool
  bufferType : BufferType
  rpcFree : RpcError
  compReturn : OmxError
  unregisterOk : Bool
  unregisterMetaOk : Bool

/-- The slot of a header. -/
def Component.slotOf (s : Component) (addr : Nat) : Option Nat :=
  (List.range s.nTotalBuffers).find? fun i =>
    ((s.tBufList i).pBufHeader.map Header.addr) == some addr

/-- The slot of a remote header. -/
def Component.slotOfRemote (s : Component) (remote : Nat) : Option Nat :=
  (List.range s.nTotalBuffers).find? fun i => (s.tBufList i).pBufHeaderRemote == remote

/-- The memory handles after those of a slot have been freed. -/
def freeMemory (env : FreeEnv) (hdr : Header) (slot : BufferInfo) (mem : Ledger) : Ledger :=
  let mem := if env.pBufferSet then mem.releaseOption slot.y.pBufferHandle else mem
  if hdr.metaData then mem.releaseOption slot.metaData.pBufferHandle else mem

/-- The registrations after those of a slot have been taken back, and the last error. -/
def unregisterSlot (env : FreeEnv) (slot : BufferInfo) (reg : Ledger) : RpcError × Ledger :=
  let r := if slot.y.pRegBufferHandle.isSome then
      rpcUnRegisterBuffer env.bufferType env.unregisterOk slot.y.pRegBufferHandle
        slot.uv.pRegBufferHandle reg
    else (.none, reg)
  let m := if slot.metaData.pRegBufferHandle.isSome then
      rpcUnRegisterBuffer .ionPointers env.unregisterMetaOk slot.metaData.pRegBufferHandle none r.2
    else (.none, r.2)
  (if m.1 ≠ .none then m.1 else r.1, m.2)

/-- The component after a slot has been cleared. -/
def Component.clearSlot (s : Component) (env : FreeEnv) (i : Nat) (hdr : Header) : Component :=
  { s with
    tBufList := Function.update s.tBufList i .zero
    nAllocatedBuffers := s.nAllocatedBuffers - 1
    live := (s.live.erase hdr.platform).erase hdr.addr
    mem := freeMemory env hdr (s.tBufList i) s.mem
    reg := (unregisterSlot env (s.tBufList i) s.reg).2 }

/-- `PROXY_FreeBuffer`. -/
def proxyFreeBuffer (env : FreeEnv) (s : Component) : Component × OmxError :=
  if env.argsErr ≠ .none then (s, env.argsErr)
  else
    match s.slotOf env.header with
    | none => (s, .badParameter)
    | some i =>
      match (s.tBufList i).pBufHeader with
      | none => (s, .badParameter)
      | some hdr =>
        let err := (unregisterSlot env (s.tBufList i) s.reg).1
        (s.clearSlot env i hdr,
          (checkRpcError (if err ≠ .none then err else env.rpcFree) env.compReturn).1)

/-! ## Runs -/

/-- The calls. -/
inductive Call
  | allocate (env : AllocEnv)
  | use (env : UseEnv)
  | free (env : FreeEnv)

/-- What the environment guarantees: `malloc` returns distinct addresses of blocks that are not
in use, and a metadata buffer, which is always mapped, has an address. -/
def UseEnv.Possible (env : UseEnv) (s : Component) : Prop :=
  (∀ hdr ∈ env.header, hdr ∉ s.live ∧ env.platform ≠ some hdr) ∧
    (∀ plat ∈ env.platform, plat ∉ s.live) ∧ ∀ prop ∈ env.metaAlloc, prop.mapped ≠ 0

instance (env : UseEnv) (s : Component) : Decidable (env.Possible s) := by
  unfold UseEnv.Possible; infer_instance

/-- One call: the component and the error it returns, if the environment can behave as
described. -/
def Component.next (s : Component) : Call → Option (Component × OmxError)
  | .allocate env => if env.use.Possible s then some (proxyAllocateBuffer env s) else none
  | .use env => if env.Possible s then some (proxyUseBuffer env s) else none
  | .free env => some (proxyFreeBuffer env s)

/-- The component after a call. -/
def Component.after (s : Component) (c : Call) : Option Component := (s.next c).map Prod.fst

/-- The states of all runs whose calls satisfy a condition. -/
def Component.ReachableWith (Cond : Component → Call → Prop) : Component → Prop :=
  Reachable (fun s => ∃ bMapBuffers, s = .init bMapBuffers)
    fun s c s' => Cond s c ∧ s.after c = some s'

end Solana.Proxy
