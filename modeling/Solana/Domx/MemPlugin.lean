import Solana.Lib.Ledger

/-!
# The ION memory plugin

`MemPlugin_ION_Alloc` obtains a handle from the kernel and then a file descriptor for it, by
mapping it into the process or by sharing it; `MemPlugin_ION_Free` unmaps, closes the descriptor
and gives the handle back.  The outcomes of the calls of libion are in `AllocEnv`.

Two ledgers number the handles and the descriptors that the kernel has returned.  A descriptor is
a number to `close`, which closes whatever is open under it: `strays` counts the descriptors of
others that were closed.  The mapping of a mapped buffer is not counted as a resource of its
own.
-/

namespace Solana.MemPlugin

open Ledgers

/-! ## Handles and descriptors -/

/-- What a file descriptor stands for when it is closed: nothing, a descriptor that the plugin
has obtained, or one of another part of the process. -/
inductive Fd
  | notOpen
  | own (n : Nat)
  | foreign
  deriving DecidableEq

/-- The ION handles and the file descriptors obtained and given back. -/
structure Resources where
  ion : Ledger
  fds : Ledger
  strays : Nat
  deriving DecidableEq

/-- Nothing was obtained yet. -/
def Resources.empty : Resources := ⟨.empty, .empty, 0⟩

/-- `close`. -/
def Resources.close (r : Resources) : Fd → Resources
  | .notOpen => r
  | .own n => { r with fds := r.fds.release n }
  | .foreign => { r with strays := r.strays + 1 }

/-! ## Calls of libion -/

/-- The outcome of `ion_alloc` and `ion_alloc_tiler`: an error or the handle `-ENOMEM`, a null
handle, or a handle of a new buffer. -/
inductive AllocResult
  | failed
  | null
  | handle
  deriving DecidableEq

/-- The outcome of `ion_share`: the call fails, it returns a negative descriptor, or a
descriptor. -/
inductive ShareResult
  | failed
  | negative
  | shared
  deriving DecidableEq

/-- The outcome of `ion_map`, which calls `mmap` on the descriptor. -/
inductive MapResult
  | failed
  | negative
  | mmapFailed
  | mapped (ptr : Nat)
  deriving DecidableEq

/-- `ion_alloc` or `ion_alloc_tiler`: the handle, if the call does not fail. -/
def ionAlloc (out : AllocResult) (r : Resources) : Option (Option Nat) × Resources :=
  match out with
  | .failed => (none, r)
  | .null => (some none, r)
  | .handle => (some (some r.ion.acquired), { r with ion := r.ion.acquire })

/-- `ion_share`: the descriptor. -/
def ionShare (out : ShareResult) (r : Resources) : Option Nat × Resources :=
  match out with
  | .failed | .negative => (none, r)
  | .shared => (some r.fds.acquired, { r with fds := r.fds.acquire })

/-- `ion_map`: the descriptor and the address.  When `mmap` fails the descriptor stays open. -/
def ionMap (out : MapResult) (r : Resources) : Option (Nat × Nat) × Resources :=
  match out with
  | .failed | .negative => (none, r)
  | .mmapFailed => (none, { r with fds := r.fds.acquire })
  | .mapped ptr => (some (r.fds.acquired, ptr), { r with fds := r.fds.acquire })

/-! ## `MemPlugin_ION_Alloc` -/

/-- `MEMPLUGIN_ERRORTYPE`, except for `MEMPLUGIN_ERROR_NONE`. -/
inductive MemError
  | badParameter
  | noResources
  | undefined
  | notImplemented
  deriving DecidableEq

/-- `MEMPLUGIN_BUFFERTYPE`. -/
inductive MemType
  | default
  | tiler1D
  | tiler2D
  deriving DecidableEq

/-- `MEMPLUGIN_TILER_FORMAT`, with the value `-1` that `MEMPLUGIN_BUFFER_PARAMS_INIT` sets. -/
inductive TilerFormat
  | unset
  | bit8
  | bit16
  | bit32
  | page
  deriving DecidableEq

/-- `MEMPLUGIN_BUFFER_PARAMS`. -/
structure BufferParams where
  nHeight : Nat
  nWidth : Nat
  bMap : Bool
  eTilerFormat : TilerFormat
  eBufferType : MemType
  deriving DecidableEq

/-- `MEMPLUGIN_BUFFER_PARAMS_INIT`. -/
def BufferParams.init : BufferParams := ⟨1, 2 ^ 32 - 1, false, .unset, .default⟩

/-- `MEMPLUGIN_BUFFER_PROPERTIES` after an allocation.  The mapped address is only set if the
buffer was mapped. -/
structure BufferProp where
  pBufferHandle : Option Nat
  bufferFd : Nat
  pBufferMappedAddress : Option Nat
  nStride : Nat
  deriving DecidableEq

/-- `alloc_flags` of `MEMPLUGIN_ION_PARAMS`: the default, or another heap. -/
inductive AllocFlags
  | secureInput
  | tilerMask
  | other
  deriving DecidableEq

/-- The outcomes of the calls `MemPlugin_ION_Alloc` may make, and the value of its local variable
`stride`, which is not initialised. -/
structure AllocEnv where
  alloc : AllocResult
  tiler : AllocResult
  map : MapResult
  share : ShareResult
  stride : Nat

/-- What `MemPlugin_ION_Alloc` leaves. -/
structure AllocOutcome where
  params : BufferParams
  res : Resources
  prop : Except MemError BufferProp

/-- The part that obtains the handle from the tiler. -/
def tilerHandle (env : AllocEnv) (r : Resources) : Except MemError (Option Nat) × Resources :=
  match ionAlloc env.tiler r with
  | (none, r) => (.error .noResources, r)
  | (some h, r) => (.ok h, r)

/-- The parameters after a failed allocation of memory outside the tiler. -/
def BufferParams.retry (params : BufferParams) : BufferParams :=
  { params with eBufferType := .tiler1D, eTilerFormat := .page }

/-- The part that obtains the handle.  Memory outside the tiler is taken from the tiler if there
is none, unless the caller has asked for a heap. -/
def allocHandle (flags : AllocFlags) (params : BufferParams) (env : AllocEnv) (r : Resources) :
    BufferParams × Except MemError (Option Nat) × Resources :=
  match params.eBufferType with
  | .tiler1D => (params, tilerHandle env r)
  | .tiler2D => (params, .error .notImplemented, r)
  | .default =>
    match ionAlloc env.alloc r with
    | (none, r) =>
      if flags = .secureInput then (params.retry, tilerHandle env r)
      else (params, .error .noResources, r)
    | (some none, r) => (params, .error .undefined, r)
    | (some (some h), r) => (params, .ok (some h), r)

/-- The part that obtains the descriptor, and the address if the buffer is mapped. -/
def allocFd (params : BufferParams) (env : AllocEnv) (r : Resources) :
    Option (Nat × Option Nat) × Resources :=
  if params.bMap then
    match ionMap env.map r with
    | (fd, r) => (fd.map fun p => (p.1, some p.2), r)
  else
    match ionShare env.share r with
    | (fd, r) => (fd.map fun n => (n, none), r)

/-- `MemPlugin_ION_Alloc`, with the flags in `pPluginExtendedInfo`, or the default ones.  A
handle that cannot be mapped or shared is not given back. -/
def memPluginIonAlloc (flags : AllocFlags) (params : BufferParams) (env : AllocEnv)
    (r : Resources) : AllocOutcome :=
  if params.nWidth = 0 then ⟨params, r, .error .badParameter⟩
  else
    match allocHandle flags params env r with
    | (params, .error e, r) => ⟨params, r, .error e⟩
    | (params, .ok h, r) =>
      match allocFd params env r with
      | (none, r) => ⟨params, r, .error .noResources⟩
      | (some (fd, address), r) => ⟨params, r, .ok ⟨h, fd, address, env.stride⟩⟩

/-! ## `MemPlugin_ION_Free` -/

/-- `MemPlugin_ION_Free`, of the handle and the descriptor in the properties it is given. -/
def memPluginIonFree (handle : Option Nat) (fd : Fd) (r : Resources) : Resources :=
  let r := r.close fd
  { r with ion := r.ion.releaseOption handle }

/-! ## Buffers that are shared -/

/-- The tiler has no memory, or it returns a handle that is not null and can be shared. -/
def AllocEnv.Kept (env : AllocEnv) : Prop :=
  env.tiler = .failed ∨ (env.tiler = .handle ∧ env.share = .shared)

instance (env : AllocEnv) : Decidable env.Kept :=
  inferInstanceAs (Decidable (_ ∨ _))

/-- The resources after a buffer was allocated and shared. -/
def Resources.obtain (r : Resources) : Resources :=
  { r with ion := r.ion.acquire, fds := r.fds.acquire }

/-- **An allocation from the tiler** fails and obtains nothing, or is new. -/
lemma memPluginIonAlloc_tiler1D (params : BufferParams) (htype : params.eBufferType = .tiler1D)
    (hmap : params.bMap = false) {env : AllocEnv} (hk : env.Kept) (flags : AllocFlags)
    (r : Resources) : (∃ e, memPluginIonAlloc flags params env r = ⟨params, r, .error e⟩) ∨
      (env.tiler = .handle ∧ memPluginIonAlloc flags params env r =
        ⟨params, r.obtain, .ok ⟨some r.ion.acquired, r.fds.acquired, none, env.stride⟩⟩) := by
  unfold memPluginIonAlloc
  split
  · exact Or.inl ⟨_, rfl⟩
  · rcases hk with hfailed | ⟨hhandle, hshare⟩
    · exact Or.inl ⟨.noResources, by simp [allocHandle, htype, tilerHandle, hfailed, ionAlloc]⟩
    · refine Or.inr ⟨hhandle, ?_⟩
      simp [allocHandle, htype, tilerHandle, hhandle, ionAlloc, allocFd, hmap, hshare, ionShare,
        Resources.obtain]

end Solana.MemPlugin
