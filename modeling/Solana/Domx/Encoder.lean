import Solana.Domx.Resources

/-!
# The internal buffers of the H.264 encoder proxy

In the opaque colour format the encoder proxy converts each input frame into one of its own NV12
buffers.  It allocates them on the first frame that is not NV12 already, one for each buffer of
the component, and keeps the indices of those that are free in an OSAL pipe: `EmptyThisBuffer`
takes an index from the head of the pipe and puts it back at the end, and `FreeBuffer` frees the
buffer with the highest index and takes one index out of the pipe.

The outcomes of the gralloc module, of the colour conversion, of the registration and of the
remote core are the `EmptyEnv` of a call.  A registration is taken back at the end of the call
that made it, so it is not part of the state.  `none` stands for a call that does not return: it
waits for an empty pipe, or it follows a null pointer.

`index_pipe_exact` says that the pipe holds the indices of the live buffers as long as each call
is `Encoder.orderly`; `unregistered_index_lost` is a call that is not.
-/

namespace Solana.Proxy

open Runs Function Option List

open Rpc (RpcError)

/-! ## The proxy -/

/-- `OMX_ENC_NUM_INTERNAL_BUF`, the length of `gralloc_handle`. -/
def encNumInternalBuf : Nat := 8

/-- `HAL_PIXEL_FORMAT_TI_NV12`. -/
def halPixelFormatTiNv12 : Nat := 0x100

/-- `OMX_H264E_INPUT_PORT`. -/
def h264eInputPort : Nat := 0

/-- The metadata in an input buffer: its type, and the pixel format of the gralloc buffer that
it points to. -/
inductive Metadata
  | cameraSource (iFormat : Nat)
  | grallocSource (iFormat : Nat)
  | unknown
  deriving DecidableEq

/-- `OMX_PROXY_ENCODER_PRIVATE` and the component it belongs to.  `grallocHandle` says which
entries of the table are not null, an index past its end being the memory after it; `mAllocDev`
whether the gralloc module is open.  `accessed` are the indices the table was accessed with. -/
structure Encoder where
  comp : Component
  inputType : BufferType
  bAndroidOpaqueFormat : Bool
  mAllocDev : Bool
  grallocHandle : Nat → Bool
  nCurBufIndex : Int
  hBufPipe : List Nat
  accessed : List Nat

/-- The proxy after `OMX_ComponentInit`, in any format. -/
def Encoder.init (bMapBuffers : Bool) (inputType : BufferType) (opaqueFormat allocDev : Bool) :
    Encoder :=
  ⟨.init bMapBuffers, inputType, opaqueFormat, allocDev, fun _ => false, 0, [], []⟩

/-- Access an entry of the table. -/
def Encoder.access (s : Encoder) (i : Nat) : Encoder := { s with accessed := i :: s.accessed }

/-- `TIMM_OSAL_WriteToPipe`. -/
def Encoder.writeToPipe (s : Encoder) (i : Nat) : Encoder :=
  { s with hBufPipe := s.hBufPipe ++ [i] }

/-! ## `EmptyThisBuffer` -/

/-- The buffer that is given to `LOCAL_PROXY_H264E_EmptyThisBuffer` and the outcomes of what it
calls.  `argsErr` is the error of the checks of the arguments.  `allocGetParameter` and `alloc`
are the errors of the query and of the gralloc module for each index, `nRet` is the result of the
conversion and `empty` that of `PROXY_EmptyThisBuffer`. -/
structure EmptyEnv where
  argsErr : OmxError
  getParameter : OmxError
  nFilledLen : Nat
  metadata : Metadata
  allocGetParameter : Nat → OmxError
  alloc : Nat → Nat
  nRet : Nat
  register : RpcError
  empty : OmxError

/-- `COLORCONVERT_AllocateBuffer`. -/
def colorconvertAllocateBuffer (env : EmptyEnv) (s : Encoder) : Option (Encoder × OmxError) :=
  let i := s.nCurBufIndex.toNat
  if env.allocGetParameter i ≠ .none then some (s, env.allocGetParameter i)
  else if s.mAllocDev = false then none
  else if env.alloc i ≠ 0 then some (s.access i, .other (env.alloc i))
  else
    some ({ s.access i with grallocHandle := Function.update s.grallocHandle i true }.writeToPipe i,
      .none)

/-- The loop that allocates the internal buffers, with the number of those that are missing. -/
def allocateInternal (env : EmptyEnv) : Nat → Encoder → Option (Encoder × OmxError)
  | 0, s => some (s, .none)
  | n + 1, s =>
    (colorconvertAllocateBuffer env s).bind fun r =>
      if r.2 ≠ .none then some r
      else allocateInternal env n { r.1 with nCurBufIndex := r.1.nCurBufIndex + 1 }

/-- Allocate the internal buffers for a frame of a format, unless there are some. -/
def prepareInternal (env : EmptyEnv) (iFormat : Nat) (s : Encoder) : Option (Encoder × OmxError) :=
  if iFormat = halPixelFormatTiNv12 then some (s, .none)
  else if s.grallocHandle 0 then some (s.access 0, .none)
  else allocateInternal env s.comp.nAllocatedBuffers { s.access 0 with nCurBufIndex := 0 }

/-- The frame has to be converted. -/
def Encoder.converts (s : Encoder) (iFormat : Nat) : Bool :=
  s.bAndroidOpaqueFormat && decide (iFormat ≠ halPixelFormatTiNv12)

/-- Register the buffer, pass it on and put its index into the pipe.  The last step also happens
when no index was taken out. -/
def submitBuffer (env : EmptyEnv) (iFormat nBufIndex : Nat) (s : Encoder) : Encoder × OmxError :=
  let checked := checkRpcError env.register .none
  if checked.2 = false then (s, checked.1)
  else (if s.converts iFormat then s.writeToPipe nBufIndex else s, env.empty)

/-- Take an index out of the pipe and convert the frame into its buffer. -/
def convertBuffer (env : EmptyEnv) (iFormat : Nat) (s : Encoder) : Option (Encoder × OmxError) :=
  match s.hBufPipe with
  | [] => none
  | nBufIndex :: rest =>
    let s := { s.access nBufIndex with hBufPipe := rest }
    if env.nFilledLen ≠ 0 ∧ env.nRet ≠ 0 then some (s.writeToPipe nBufIndex, .badParameter)
    else if s.grallocHandle nBufIndex = false then none
    else some (submitBuffer env iFormat nBufIndex s)

/-- `LOCAL_PROXY_H264E_EmptyThisBuffer`. -/
def h264eEmptyThisBuffer (env : EmptyEnv) (s : Encoder) : Option (Encoder × OmxError) :=
  if env.argsErr ≠ .none then some (s, env.argsErr)
  else if env.getParameter ≠ .none then some (s, .badParameter)
  else if s.inputType ≠ .encoderMetadataPointers then some (s, env.empty)
  else
    match env.metadata with
    | .cameraSource iFormat =>
      (prepareInternal env iFormat s).bind fun r =>
        if r.2 ≠ .none then some r else some (submitBuffer env iFormat 0 r.1)
    | .grallocSource iFormat =>
      (prepareInternal env iFormat s).bind fun r =>
        if r.2 ≠ .none then some r
        else if r.1.converts iFormat then convertBuffer env iFormat r.1
        else some (submitBuffer env iFormat 0 r.1)
    | .unknown => some (s, .badParameter)

/-! ## `FreeBuffer` -/

/-- `PROXY_FreeBuffer` on the component of the encoder. -/
def Encoder.freeHeader (env : FreeEnv) (s : Encoder) : Encoder × OmxError :=
  ({ s with comp := (proxyFreeBuffer env s.comp).1 }, (proxyFreeBuffer env s.comp).2)

/-- Free the internal buffer with the highest index and read the pipe if it is not empty. -/
def freeInternal (s : Encoder) : Option Encoder :=
  let i := s.nCurBufIndex.toNat
  if s.grallocHandle i then
    if s.mAllocDev = false then none
    else some { s.access i with
      grallocHandle := Function.update s.grallocHandle i false
      hBufPipe := s.hBufPipe.tail }
  else some { s.access i with hBufPipe := s.hBufPipe.tail }

/-- The call frees an internal buffer. -/
def Encoder.freesInternal (s : Encoder) (nPortIndex : Nat) : Bool :=
  decide (nPortIndex = h264eInputPort) && s.bAndroidOpaqueFormat && s.grallocHandle 0

/-- `LOCAL_PROXY_H264E_FreeBuffer`. -/
def h264eFreeBuffer (nPortIndex : Nat) (env : FreeEnv) (s : Encoder) :
    Option (Encoder × OmxError) :=
  if s.freesInternal nPortIndex then
    let s := { s.access 0 with nCurBufIndex := s.nCurBufIndex - 1 }
    if s.nCurBufIndex < 0 then some (s, .badParameter)
    else (freeInternal s).map (Encoder.freeHeader env)
  else some (s.freeHeader env)

/-! ## Runs -/

/-- The calls.  The encoder proxy allocates and uses buffers as every component does. -/
inductive EncoderCall
  | allocate (env : AllocEnv)
  | use (env : UseEnv)
  | empty (env : EmptyEnv)
  | free (nPortIndex : Nat) (env : FreeEnv)

/-- The proxy after a call, if the call returns. -/
def Encoder.after (s : Encoder) : EncoderCall → Option Encoder
  | .allocate env => (s.comp.after (.allocate env)).map fun comp => { s with comp := comp }
  | .use env => (s.comp.after (.use env)).map fun comp => { s with comp := comp }
  | .empty env => (h264eEmptyThisBuffer env s).map Prod.fst
  | .free nPortIndex env => (h264eFreeBuffer nPortIndex env s).map Prod.fst

/-- The states of all runs whose calls satisfy a condition. -/
def Encoder.ReachableWith (Cond : Encoder → EncoderCall → Prop) : Encoder → Prop :=
  Reachable (fun s => ∃ bMapBuffers inputType opaqueFormat allocDev,
      s = .init bMapBuffers inputType opaqueFormat allocDev)
    fun s c s' => Cond s c ∧ s.after c = some s'

/-! ## Calls that keep the pipe in order -/

/-- The table has room for the buffers that a frame would have allocated. -/
def Encoder.hasRoom (s : Encoder) : Bool :=
  s.grallocHandle 0 || decide (s.comp.nAllocatedBuffers ≤ encNumInternalBuf)

/-- What a call has to meet.  The table has room for the buffers that the call may allocate.  In
the opaque format, a camera buffer is NV12 or cannot be registered, and a gralloc buffer that is
not NV12 can be registered or fails to be converted.  The index of a buffer that is freed is at
the head of the pipe. -/
def Encoder.orderly (s : Encoder) : EncoderCall → Bool
  | .allocate _ | .use _ => true
  | .empty env =>
    decide (s.inputType ≠ .encoderMetadataPointers) ||
    match env.metadata with
    | .cameraSource iFormat =>
      decide (iFormat = halPixelFormatTiNv12) ||
        s.hasRoom && (!s.bAndroidOpaqueFormat || decide (env.register ≠ .none))
    | .grallocSource iFormat =>
      decide (iFormat = halPixelFormatTiNv12) ||
        s.hasRoom && (!s.bAndroidOpaqueFormat || decide (env.register = .none) ||
          decide (env.nFilledLen ≠ 0 ∧ env.nRet ≠ 0))
    | .unknown => true
  | .free nPortIndex _ =>
    !s.freesInternal nPortIndex ||
      decide (s.hBufPipe.head? = some (s.nCurBufIndex - 1).toNat)

/-! ## The invariant

The live buffers are those with an index below `k`, which is also `nCurBufIndex`, and the pipe is
a rearrangement of these indices. -/

/-- The pipe holds the indices of the first `k` internal buffers, which are the live ones. -/
structure Encoder.Circulates (s : Encoder) (k : Nat) : Prop where
  cur : s.nCurBufIndex = k
  le : k ≤ encNumInternalBuf
  live : ∀ i, s.grallocHandle i = decide (i < k)
  pipe : s.hBufPipe.Perm (List.range k)
  accessed : ∀ i ∈ s.accessed, i < encNumInternalBuf

variable {r : Encoder × OmxError} {env : EmptyEnv} {iFormat : Nat}

namespace Encoder.Circulates

variable {s : Encoder} {k : Nat}

lemma initial (bMapBuffers : Bool) (inputType : BufferType) (opaqueFormat allocDev : Bool) :
    (Encoder.init bMapBuffers inputType opaqueFormat allocDev).Circulates 0 where
  cur := rfl
  le := Nat.zero_le _
  live _ := by simp [Encoder.init]
  pipe := .nil
  accessed _ h := by simp [Encoder.init] at h

section

variable (h : s.Circulates k)
include h

lemma access {i : Nat} (hi : i < encNumInternalBuf) : (s.access i).Circulates k :=
  { h with accessed := forall_mem_cons.mpr ⟨hi, h.accessed⟩ }

lemma withComp (comp : Component) : ({ s with comp := comp } : Encoder).Circulates k :=
  ⟨h.cur, h.le, h.live, h.pipe, h.accessed⟩

lemma eq_zero (h0 : s.grallocHandle 0 = false) : k = 0 := by
  have hk : ¬ 0 < k := of_decide_eq_false ((h.live 0).symm.trans h0)
  omega

lemma lt_of_mem {i : Nat} (hi : i ∈ s.hBufPipe) : i < k :=
  mem_range.mp (h.pipe.subset hi)

lemma count_pipe (i : Nat) : s.hBufPipe.count i = if s.grallocHandle i then 1 else 0 := by
  rw [h.pipe.count_eq, h.live i, count_range]
  simp

/-! ### Allocation -/

lemma push (hk : k < encNumInternalBuf) :
    ({ ({ s.access k with grallocHandle := update s.grallocHandle k true } :
        Encoder).writeToPipe k with nCurBufIndex := s.nCurBufIndex + 1 } : Encoder).Circulates
      (k + 1) where
  cur := by simp [h.cur]
  le := hk
  live i := by
    show update s.grallocHandle k true i = decide (i < k + 1)
    by_cases hik : i = k
    · simp [hik]
    · rw [update_of_ne hik, h.live i]
      exact decide_eq_decide.mpr ⟨fun hi => by omega, fun hi => by omega⟩
  pipe := by
    rw [range_succ]
    exact h.pipe.append_right [k]
  accessed := (h.access hk).accessed

/-- Allocating a buffer fails and changes no buffer, or it gives the next index. -/
lemma allocateBuffer (hk : k < encNumInternalBuf) (hr : colorconvertAllocateBuffer env s = some r) :
    ((r.2 ≠ .none ∧ r.1.Circulates k) ∨ (r.2 = .none ∧
        ({ r.1 with nCurBufIndex := r.1.nCurBufIndex + 1 } : Encoder).Circulates (k + 1))) ∧
      r.1.bAndroidOpaqueFormat = s.bAndroidOpaqueFormat := by
  have hi : s.nCurBufIndex.toNat = k := by rw [h.cur]; rfl
  simp only [colorconvertAllocateBuffer, hi] at hr
  split_ifs at hr with hget hdev halloc
  · obtain rfl := some.inj hr
    exact ⟨.inl ⟨hget, h⟩, rfl⟩
  · obtain rfl := some.inj hr
    exact ⟨.inl ⟨OmxError.noConfusion, h.access hk⟩, rfl⟩
  · obtain rfl := some.inj hr
    exact ⟨.inr ⟨rfl, h.push hk⟩, rfl⟩

end

/-- The loop allocates some of the missing buffers, in the order of their indices. -/
lemma allocateInternal :
    ∀ (n : Nat) {s : Encoder} {k : Nat}, s.Circulates k → k + n ≤ encNumInternalBuf →
      Proxy.allocateInternal env n s = some r →
      (∃ k', r.1.Circulates k') ∧ r.1.bAndroidOpaqueFormat = s.bAndroidOpaqueFormat
  | 0, s, k, h, _, hr => by
    obtain rfl := some.inj hr
    exact ⟨⟨k, h⟩, rfl⟩
  | n + 1, s, k, h, hle, hr => by
    obtain ⟨r₁, hr₁, hr⟩ := bind_eq_some_iff.mp hr
    obtain ⟨⟨herr, h₁⟩ | ⟨herr, h₁⟩, hformat⟩ := h.allocateBuffer (by omega) hr₁
    · rw [if_pos herr] at hr
      obtain rfl := some.inj hr
      exact ⟨⟨k, h₁⟩, hformat⟩
    · rw [if_neg (not_not_intro herr)] at hr
      exact (allocateInternal n h₁ (by omega) hr).imp_right fun heq => heq.trans hformat

lemma prepareInternal (h : s.Circulates k)
    (hroom : iFormat = halPixelFormatTiNv12 ∨ s.hasRoom = true)
    (hr : Proxy.prepareInternal env iFormat s = some r) :
    (∃ k', r.1.Circulates k') ∧ r.1.bAndroidOpaqueFormat = s.bAndroidOpaqueFormat := by
  have h0 : (s.access 0).Circulates k := h.access (by decide)
  simp only [Proxy.prepareInternal] at hr
  split_ifs at hr with hformat hlive
  · obtain rfl := some.inj hr
    exact ⟨⟨k, h⟩, rfl⟩
  · obtain rfl := some.inj hr
    exact ⟨⟨k, h0⟩, rfl⟩
  · have hk : k = 0 := h.eq_zero (by simpa using hlive)
    have hle : s.comp.nAllocatedBuffers ≤ encNumInternalBuf := by
      simpa [hasRoom, hlive] using hroom.resolve_left hformat
    have hstart : ({ s.access 0 with nCurBufIndex := 0 } : Encoder).Circulates 0 :=
      ⟨rfl, Nat.zero_le _, hk ▸ h0.live, hk ▸ h0.pipe, h0.accessed⟩
    have hloop := allocateInternal _ hstart (by omega) hr
    exact hloop

/-! ### Passing a frame on -/

lemma submit_unconverted (h : s.Circulates k) {iFormat nBufIndex : Nat}
    (hconv : s.converts iFormat = false ∨ env.register ≠ .none) :
    (submitBuffer env iFormat nBufIndex s).1.Circulates k := by
  simp only [submitBuffer]
  split_ifs with hchecked hwrite
  · exact h
  · refine absurd ?_ hchecked
    simp [checkRpcError, hconv.resolve_left (by simp [hwrite])]
  · exact h

lemma putBack (h : s.Circulates k) {i : Nat} {rest : List Nat} (hpipe : s.hBufPipe = i :: rest) :
    ({ s.access i with hBufPipe := rest } : Encoder).writeToPipe i |>.Circulates k := by
  have hi : i < k := h.lt_of_mem (hpipe ▸ mem_cons_self)
  have hacc := h.access (Nat.lt_of_lt_of_le hi h.le)
  refine ⟨h.cur, h.le, h.live, ?_, hacc.accessed⟩
  have hrotate : (rest ++ [i]).Perm (i :: rest) := perm_append_singleton i rest
  exact hrotate.trans (hpipe ▸ h.pipe)

/-- A frame that is converted uses an index and puts it back. -/
lemma convertBuffer (h : s.Circulates k) (hconv : s.converts iFormat = true)
    (hreg : env.register = .none ∨ (env.nFilledLen ≠ 0 ∧ env.nRet ≠ 0))
    (hr : Proxy.convertBuffer env iFormat s = some r) : r.1.Circulates k := by
  cases hpipe : s.hBufPipe with
  | nil => simp [Proxy.convertBuffer, hpipe] at hr
  | cons i rest =>
    simp only [Proxy.convertBuffer, hpipe] at hr
    split_ifs at hr with hfail hnull
    · obtain rfl := some.inj hr
      exact h.putBack hpipe
    · obtain rfl := some.inj hr
      have hok : (checkRpcError env.register .none).2 = true := by
        rw [hreg.resolve_right hfail]
        rfl
      have hconv' : ({ s.access i with hBufPipe := rest } : Encoder).converts iFormat = true :=
        hconv
      simpa [submitBuffer, hok, hconv'] using h.putBack hpipe

lemma prepared (h : s.Circulates k) (hroom : iFormat = halPixelFormatTiNv12 ∨ s.hasRoom = true)
    {f : Encoder → Option (Encoder × OmxError)}
    (hr : ((Proxy.prepareInternal env iFormat s).bind fun r =>
      if r.2 ≠ .none then some r else f r.1) = some r)
    (hf : ∀ {s' k'}, s'.Circulates k' → s'.converts iFormat = s.converts iFormat →
      f s' = some r → r.1.Circulates k') : ∃ k', r.1.Circulates k' := by
  obtain ⟨r₁, hr₁, hr⟩ := bind_eq_some_iff.mp hr
  obtain ⟨⟨k', h'⟩, hformat⟩ := h.prepareInternal hroom hr₁
  refine ⟨k', ?_⟩
  split_ifs at hr
  · obtain rfl := some.inj hr
    exact h'
  · exact hf h' (by rw [converts, converts, hformat]) hr

/-! ## Steps -/

lemma emptyThisBuffer (h : s.Circulates k) (hc : s.orderly (.empty env) = true)
    (hr : h264eEmptyThisBuffer env s = some r) : ∃ k', r.1.Circulates k' := by
  simp only [h264eEmptyThisBuffer] at hr
  split_ifs at hr with hargs hget htype
  · obtain rfl := some.inj hr
    exact ⟨k, h⟩
  · obtain rfl := some.inj hr
    exact ⟨k, h⟩
  · obtain rfl := some.inj hr
    exact ⟨k, h⟩
  simp only [orderly, decide_eq_false htype, Bool.false_or] at hc
  split at hr
  · -- a camera buffer leaves the pipe alone
    rename_i iFormat hmeta
    simp only [hmeta, Bool.or_eq_true, Bool.and_eq_true, Bool.not_eq_true', decide_eq_true_eq] at hc
    refine h.prepared (hc.imp_right And.left) (f := fun s => some (submitBuffer env iFormat 0 s))
      hr fun h' hconv hr => ?_
    obtain rfl := some.inj hr
    refine h'.submit_unconverted ?_
    rw [hconv]
    rcases hc with hnv12 | ⟨-, hformat | hrefused⟩
    · exact .inl (by simp [converts, hnv12])
    · exact .inl (by simp [converts, hformat])
    · exact .inr hrefused
  · -- a gralloc buffer takes an index out of the pipe and puts it back
    rename_i iFormat hmeta
    simp only [hmeta, Bool.or_eq_true, Bool.and_eq_true, Bool.not_eq_true', decide_eq_true_eq] at hc
    refine h.prepared (hc.imp_right And.left) (f := fun s =>
      if s.converts iFormat then Proxy.convertBuffer env iFormat s
      else some (submitBuffer env iFormat 0 s)) hr fun h' heq hr => ?_
    split_ifs at hr with hconv
    · refine h'.convertBuffer hconv ?_ hr
      rw [heq] at hconv
      obtain ⟨hformat, hnv12⟩ := (Bool.and_eq_true _ _).mp hconv
      obtain ⟨-, (hplain | hreg) | hfail⟩ := hc.resolve_left (of_decide_eq_true hnv12)
      · exact absurd hformat (by simp [hplain])
      · exact .inl hreg
      · exact .inr hfail
    · obtain rfl := some.inj hr
      exact h'.submit_unconverted (.inl (by simpa using hconv))
  · obtain rfl := some.inj hr
    exact ⟨k, h⟩

lemma pop (h : s.Circulates (k + 1)) (hhead : s.hBufPipe.head? = some k) : ({ s.access k with
      nCurBufIndex := s.nCurBufIndex - 1
      grallocHandle := update s.grallocHandle k false
      hBufPipe := s.hBufPipe.tail } : Encoder).Circulates k where
  cur := by simp [h.cur]
  le := Nat.le_of_succ_le h.le
  live i := by
    show update s.grallocHandle k false i = decide (i < k)
    by_cases hik : i = k
    · simp [hik]
    · rw [update_of_ne hik, h.live i]
      exact decide_eq_decide.mpr ⟨fun hi => by omega, fun hi => by omega⟩
  pipe := by
    have hpipe : s.hBufPipe = k :: s.hBufPipe.tail := eq_cons_of_mem_head? hhead
    have hperm : (k :: s.hBufPipe.tail).Perm (k :: range k) := by
      rw [← hpipe]
      refine h.pipe.trans ?_
      rw [range_succ]
      exact perm_append_singleton k _
    exact hperm.cons_inv
  accessed := (h.access h.le).accessed

lemma pos_of_frees (h : s.Circulates k) {nPortIndex : Nat}
    (hfrees : s.freesInternal nPortIndex = true) : 0 < k := by
  have h0 : s.grallocHandle 0 = true := ((Bool.and_eq_true _ _).mp hfrees).2
  exact of_decide_eq_true ((h.live 0).symm.trans h0)

lemma freeBuffer (h : s.Circulates k) {nPortIndex : Nat} {env : FreeEnv}
    (hc : s.orderly (.free nPortIndex env) = true)
    (hr : h264eFreeBuffer nPortIndex env s = some r) : ∃ k', r.1.Circulates k' := by
  simp only [h264eFreeBuffer] at hr
  split_ifs at hr with hfrees hneg
  · -- The index does not underflow while the first buffer is live.
    have hk := h.pos_of_frees hfrees
    have hcur := h.cur
    omega
  · obtain ⟨s', hs', rfl⟩ := map_eq_some_iff.mp hr
    obtain ⟨k, rfl⟩ := Nat.exists_eq_add_of_lt (h.pos_of_frees hfrees)
    rw [Nat.zero_add] at h
    have hi : (s.nCurBufIndex - 1).toNat = k := by rw [h.cur]; omega
    have hhead : s.hBufPipe.head? = some k := by
      simpa [orderly, hfrees, hi] using hc
    have hlive : s.grallocHandle k = true := by rw [h.live]; simp
    refine ⟨k, withComp ?_ _⟩
    have hpop := (h.access (i := 0) (by decide)).pop hhead
    simp only [freeInternal, hi, Encoder.access, hlive, if_true] at hs'
    split_ifs at hs'
    obtain rfl := some.inj hs'
    exact hpop
  · obtain rfl := some.inj hr
    exact ⟨k, h.withComp _⟩

lemma after (h : s.Circulates k) {c : EncoderCall} (hc : s.orderly c = true) {s' : Encoder}
    (hs : s.after c = some s') : ∃ k', s'.Circulates k' := by
  cases c with
  | allocate env =>
    obtain ⟨comp, -, rfl⟩ := map_eq_some_iff.mp hs
    exact ⟨k, h.withComp comp⟩
  | use env =>
    obtain ⟨comp, -, rfl⟩ := map_eq_some_iff.mp hs
    exact ⟨k, h.withComp comp⟩
  | empty env =>
    obtain ⟨r, hr, rfl⟩ := map_eq_some_iff.mp hs
    exact h.emptyThisBuffer hc hr
  | free nPortIndex env =>
    obtain ⟨r, hr, rfl⟩ := map_eq_some_iff.mp hs
    exact h.freeBuffer hc hr

end Encoder.Circulates

/-- **The pipe of buffer indices.**  In every run of orderly calls, between two calls the pipe
holds the index of each live internal buffer once and no other index, and the table has only been
accessed at its own entries. -/
theorem index_pipe_exact {s : Encoder}
    (hr : Encoder.ReachableWith (fun s c => s.orderly c = true) s) :
    (∀ i, s.hBufPipe.count i = if s.grallocHandle i then 1 else 0) ∧
      ∀ i ∈ s.accessed, i < encNumInternalBuf := by
  obtain ⟨k, h⟩ : ∃ k, s.Circulates k := by
    refine hr.invariant (fun s => ∃ k, s.Circulates k) ?_ ?_
    · rintro _ ⟨bMapBuffers, inputType, opaqueFormat, allocDev, rfl⟩
      exact ⟨0, .initial bMapBuffers inputType opaqueFormat allocDev⟩
    · rintro s c s' ⟨k, h⟩ ⟨hc, hs⟩
      exact h.after hc hs
  exact ⟨h.count_pipe, h.accessed⟩

/-- A frame of the given format (`HAL_PIXEL_FORMAT_RGBA_8888` is 1), with the outcome of its
registration. -/
def sampleEmpty (metadata : Metadata) (register : RpcError) : EmptyEnv where
  argsErr := .none
  getParameter := .none
  nFilledLen := 1
  metadata := metadata
  allocGetParameter _ := .none
  alloc _ := 0
  nRet := 0
  register := register
  empty := .none

/-- Two buffers, a frame and the release of the first buffer. -/
theorem released_buffer_leaves_pipe :
    ∃ s : Encoder, s.hBufPipe = [0] ∧ s.hBufPipe.count 0 = (if s.grallocHandle 0 then 1 else 0) ∧
      s.hBufPipe.count 1 = if s.grallocHandle 1 then 1 else 0 := by
  obtain ⟨s, hr, hpipe⟩ : ∃ s, Encoder.ReachableWith (fun s c => s.orderly c = true) s ∧
      s.hBufPipe = [0] :=
    exists_of_run ⟨true, .encoderMetadataPointers, true, true, rfl⟩
      [.use (sampleUse 1 2 .none), .use (sampleUse 3 4 .none),
        .empty (sampleEmpty (.grallocSource 1) .none), .free 0 (sampleFree 1)] (by decide +kernel)
  exact ⟨s, hpipe, (index_pipe_exact hr).1 0, (index_pipe_exact hr).1 1⟩

/-- The buffer of a converted frame cannot be registered: its index is not put back, so that the
next frame waits for ever. -/
theorem unregistered_index_lost :
    ∃ s, Encoder.ReachableWith (fun _ _ => True) s ∧ s.grallocHandle 0 = true ∧
      s.hBufPipe.count 0 = 0 := by
  exact exists_of_run ⟨true, .encoderMetadataPointers, true, true, rfl⟩
    [.use (sampleUse 1 2 .none), .empty (sampleEmpty (.grallocSource 1) .insufficientResources)]
    (by decide +kernel)

end Solana.Proxy
