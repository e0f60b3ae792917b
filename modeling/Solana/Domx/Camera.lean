import Solana.Domx.MemPlugin
import Solana.Domx.Proxy

/-!
# The buffers of the camera proxy

The camera proxy allocates two kinds of buffers for the remote component.  A client asks for
component buffers with `OMX_TI_IndexParamComponentBufferAllocation`; they stay in
`gComponentBufferAllocation` until they are replaced, their port is disabled or the component is
torn down.  When the component goes from loaded to idle and slices are in use, the proxy fills
`sInternalBuffers` with the two planes of four slice buffers, which it registers with the remote
core; they are freed when the component goes back to loaded or is torn down.

Every function that frees a buffer from one of the two tables passes to `MemPlugin_Free` a
properties structure in which only the handle was set, so that `close` gets whatever is in
`bufferFd`.  That value is `garbage` in the environments.
-/

namespace Solana.Camera

open Ledgers MemPlugin

open Proxy hiding AllocEnv FreeEnv Component

open Rpc (RpcError)

/-! ## The two tables -/

/-- `PROXY_MAXNUMOFPORTS`. -/
def maxNumOfPorts : Nat := 8

/-- `MAX_NUM_INTERNAL_BUFFERS`. -/
def maxNumInternalBuffers : Nat := 4

/-- `OMX_PROXY_CAM_PRIVATE`, with the resources of the plugin and the registrations with the
remote core.  `component` is the table `gComponentBufferAllocation` as it lies in memory, and what
follows it.  A plane of `internal` is the luminance (`false`) or the chrominance (`true`) of a
slice. -/
structure CamPrivate where
  component : Nat → Option Nat
  internal : Nat × Bool → Accessor
  res : Resources
  regs : Ledger

/-- After `OMX_ComponentInit`. -/
def CamPrivate.init : CamPrivate := ⟨fun _ => none, fun _ => .zero, .empty, .empty⟩

/-- The place of `gComponentBufferAllocation[port][index]`, for any `port` and `index`. -/
def place (port index : Nat) : Nat := (port * maxNumInternalBuffers + index) % 2 ^ 30

/-- The number of places of `gComponentBufferAllocation`. -/
def numPlaces : Nat := maxNumOfPorts * maxNumInternalBuffers

/-- The places of a port, in the order in which they are freed. -/
def portPlaces (port : Nat) : List Nat := (List.range maxNumInternalBuffers).map (place port)

/-- The places of `sInternalBuffers`, in the order in which they are freed. -/
def planes : List (Nat × Bool) :=
  (List.range maxNumInternalBuffers).flatMap fun i => [(i, false), (i, true)]

/-! ## Freeing -/

/-- Free a component buffer. -/
def freeComponent (garbage : Fd) (s : CamPrivate) (k : Nat) : CamPrivate :=
  match s.component k with
  | none => s
  | some h =>
    { s with
      component := Function.update s.component k none
      res := memPluginIonFree (some h) garbage s.res }

/-- The outcomes of `OMX_CameraVtcFreeMemory`. -/
structure FreeEnv where
  garbage : Fd
  unregisterOk : Nat × Bool → Bool

/-- Free a plane of a slice.  An error of `RPC_UnRegisterBuffer` is only logged. -/
def freePlane (env : FreeEnv) (s : CamPrivate) (p : Nat × Bool) : CamPrivate :=
  match (s.internal p).pBufferHandle with
  | none => s
  | some h =>
    { s with
      internal := Function.update s.internal p
        { s.internal p with pBufferHandle := none, pRegBufferHandle := none }
      regs := (rpcUnRegisterBuffer .ionPointers (env.unregisterOk p)
        (s.internal p).pRegBufferHandle none s.regs).2
      res := memPluginIonFree (some h) env.garbage s.res }

/-- `OMX_CameraVtcFreeMemory`. -/
def vtcFreeMemory (env : FreeEnv) (s : CamPrivate) : CamPrivate := planes.foldl (freePlane env) s

/-! ## `__PROXY_SetParameter` -/

/-- The outcomes of `__PROXY_SetParameter`. -/
structure SetParamEnv where
  register : RegisterEnv
  rpc : RpcError
  compReturn : OmxError
  unregisterOk : Bool

/-- `__PROXY_SetParameter` with a buffer to map: it is registered for the time of the call, if it
is not negative as a file descriptor. -/
def proxySetParameter (env : SetParamEnv) (fd : Int) (regs : Ledger) : OmxError × Ledger :=
  let call := checkRpcError env.rpc env.compReturn
  if fd > -1 then
    let r := rpcRegisterBuffer .ionPointers fd (-1) env.register none none regs
    if r.err ≠ .none then (ofRpcError r.err, r.reg)
    else if !call.2 then (call.1, r.reg)
    else
      match r.handle1 with
      | none => (call.1, r.reg)
      | some h =>
        let u := rpcUnRegisterBuffer .ionPointers env.unregisterOk (some h) none r.reg
        ((checkRpcError u.1 env.compReturn).1, u.2)
  else (call.1, regs)

/-! ## Component buffers -/

/-- The parameters of a buffer from the tiler, on top of `MEMPLUGIN_BUFFER_PARAMS_INIT`. -/
def tilerParams (width height : Nat) (format : TilerFormat) : BufferParams :=
  { BufferParams.init with
    nWidth := width
    nHeight := height
    eBufferType := .tiler1D
    eTilerFormat := format }

/-- The fields of `OMX_TI_PARAM_COMPONENTBUFALLOCTYPE` that are read. -/
structure BufferAlloc where
  nPortIndex : Nat
  nIndex : Nat
  nAllocWidth : Nat
  nAllocLines : Nat

/-- The outcomes of `GLUE_CameraSetParam`. -/
structure ComponentEnv where
  ionParams : Bool
  alloc : AllocEnv
  set : SetParamEnv
  garbage : Fd

/-- `GLUE_CameraSetParam` after the allocation.  The descriptor of the new buffer is closed at
the end, also when `MemPlugin_Free` has closed it already. -/
def setComponentBuffer (b : BufferAlloc) (env : ComponentEnv) (prop : BufferProp)
    (s : CamPrivate) : CamPrivate × OmxError :=
  let (err, regs) := proxySetParameter env.set prop.bufferFd s.regs
  let s := { s with regs := regs }
  if err ≠ .none then
    let res := memPluginIonFree prop.pBufferHandle (.own prop.bufferFd) s.res
    ({ s with res := res.close (.own prop.bufferFd) }, err)
  else
    let k := place b.nPortIndex b.nIndex
    let s := freeComponent env.garbage s k
    ({ s with
        component := Function.update s.component k prop.pBufferHandle
        res := s.res.close (.own prop.bufferFd) }, .none)

/-- `GLUE_CameraSetParam` for `OMX_TI_IndexParamComponentBufferAllocation`. -/
def glueCameraSetParam (b : BufferAlloc) (env : ComponentEnv) (s : CamPrivate) :
    CamPrivate × OmxError :=
  if !env.ionParams then (s, .none)
  else
    let out := memPluginIonAlloc .tilerMask
      (tilerParams (b.nAllocWidth * b.nAllocLines % 2 ^ 32) 1 .page) env.alloc s.res
    let s := { s with res := out.res }
    match out.prop with
    | .error _ => (s, .insufficientResources)
    | .ok prop => setComponentBuffer b env prop s

/-! ## Slice buffers -/

/-- The outcomes for one plane of a slice. -/
structure PlaneEnv where
  alloc : AllocEnv
  register : RegisterEnv

/-- How the allocation of a plane ends. -/
inductive PlaneResult
  | noMemory
  | failed (err : OmxError)
  | done

/-- Allocate a plane, register it and put it into the table.  When it cannot be registered, it is
in no table and its descriptor is open. -/
def allocPlane (params : BufferParams) (env : PlaneEnv) (p : Nat × Bool) (s : CamPrivate) :
    CamPrivate × PlaneResult :=
  let out := memPluginIonAlloc .tilerMask params env.alloc s.res
  let s := { s with res := out.res }
  match out.prop with
  | .error _ => (s, .noMemory)
  | .ok prop =>
    let r := rpcRegisterBuffer .ionPointers prop.bufferFd (-1) env.register
      (s.internal p).pRegBufferHandle none s.regs
    let slot := { s.internal p with pRegBufferHandle := r.handle1 }
    if r.err ≠ .none then
      ({ s with regs := r.reg, internal := Function.update s.internal p slot },
        .failed (ofRpcError r.err))
    else
      ({ s with
          regs := r.reg
          internal := Function.update s.internal p
            { slot with pBufferHandle := prop.pBufferHandle }
          res := s.res.close (.own prop.bufferFd) }, .done)

/-- The outcomes of `GLUE_CameraVtcAllocateMemory`.  `aux` is the handle of the registered
luminance as the integer that `__PROXY_SetParameter` makes of it. -/
structure SlicesEnv where
  ionParams : Bool
  plane : Nat × Bool → PlaneEnv
  unregisterOk : Nat → Bool
  garbage : Fd
  aux : Nat → Int
  set : Nat → SetParamEnv
  free : FreeEnv

/-- Free the luminance of a slice, and leave the handle it was registered under in the table. -/
def freeLuminance (env : SlicesEnv) (i : Nat) (s : CamPrivate) : CamPrivate :=
  { s with
    internal := Function.update s.internal (i, false)
      { s.internal (i, false) with pBufferHandle := none }
    res := memPluginIonFree (s.internal (i, false)).pBufferHandle env.garbage s.res }

/-- What `GLUE_CameraVtcAllocateMemory` does when there is no memory for the chrominance.  The
check of `RPC_UnRegisterBuffer` overwrites the error. -/
def dropLuminance (env : SlicesEnv) (i : Nat) (s : CamPrivate) : CamPrivate × OmxError :=
  match (s.internal (i, false)).pRegBufferHandle with
  | none => (freeLuminance env i s, .insufficientResources)
  | some g =>
    let u := rpcUnRegisterBuffer .ionPointers (env.unregisterOk i) (some g) none s.regs
    let s := { s with regs := u.2 }
    if u.1 ≠ .none then (s, ofRpcError u.1) else (freeLuminance env i s, .none)

/-- The body of the loop of `GLUE_CameraVtcAllocateMemory`: the error it stops with, if it
stops. -/
def allocSlice (width height : Nat) (env : SlicesEnv) (i : Nat) (s : CamPrivate) :
    CamPrivate × Option OmxError :=
  match allocPlane (tilerParams width height .bit8) (env.plane (i, false)) (i, false) s with
  | (s, .noMemory) => (s, some .insufficientResources)
  | (s, .failed e) => (s, some e)
  | (s, .done) =>
    match allocPlane (tilerParams (width / 2) (height / 2) .bit16) (env.plane (i, true))
      (i, true) s with
    | (s, .noMemory) =>
      let (s, e) := dropLuminance env i s
      (s, some e)
    | (s, .failed e) => (s, some e)
    | (s, .done) =>
      let (e, regs) := proxySetParameter (env.set i) (env.aux i) s.regs
      let s := { s with regs := regs }
      if e ≠ .none then (vtcFreeMemory env.free s, some e) else (s, none)

/-- The loop of `GLUE_CameraVtcAllocateMemory`. -/
def allocSlices (width height : Nat) (env : SlicesEnv) :
    List Nat → CamPrivate → CamPrivate × OmxError
  | [], s => (s, .none)
  | i :: is, s =>
    match allocSlice width height env i s with
    | (s, some e) => (s, e)
    | (s, none) => allocSlices width height env is s

/-- `GLUE_CameraVtcAllocateMemory`. -/
def glueCameraVtcAllocateMemory (width height : Nat) (env : SlicesEnv) (s : CamPrivate) :
    CamPrivate × OmxError :=
  if !env.ionParams then (s, .none)
  else allocSlices width height env (List.range maxNumInternalBuffers) s

/-- What `_OMX_CameraVtcAllocateMemory` asks the component: the errors of the queries and what
they return. -/
structure VtcQuery where
  getState : OmxError
  loaded : Bool
  vtcSlice : OmxError
  nSliceHeight : Nat
  dimension : Option (Nat × Nat)
  stabilisation : OmxError
  bVstabOn : Bool
  noiseFilter : OmxError
  vnfModeOff : Bool

/-- `nFrmWidth` and `nFrmHeight`; the default is `MAX_VTC_WIDTH_WITH_VNF` and
`MAX_VTC_HEIGHT_WITH_VNF`. -/
def VtcQuery.frame (q : VtcQuery) : Nat × Nat := q.dimension.getD (1920 + 32, 1080 + 32)

/-- `_OMX_CameraVtcAllocateMemory`. -/
def vtcAllocateMemory (q : VtcQuery) (env : SlicesEnv) (s : CamPrivate) : CamPrivate × OmxError :=
  if q.getState ≠ .none then (s, q.getState)
  else if q.loaded = true ∧ q.vtcSlice = .none ∧ q.nSliceHeight ≠ 0 then
    if q.stabilisation ≠ .none then (s, q.stabilisation)
    else if q.noiseFilter ≠ .none then (s, q.noiseFilter)
    else if q.bVstabOn = false ∧ q.vnfModeOff = false then
      glueCameraVtcAllocateMemory q.frame.1 q.frame.2 env s
    else (s, .none)
  else (s, .none)

/-! ## Commands -/

/-- `OMX_ALL`. -/
def omxAll : Nat := 2 ^ 32 - 1

/-- The places that disabling a port frees. -/
def disabledPlaces (nParam : Nat) : List Nat :=
  (List.range maxNumOfPorts).flatMap fun i =>
    if i = nParam ∨ nParam = omxAll then portPlaces i else []

/-- The places that tearing down frees. -/
def allPlaces : List Nat := (List.range maxNumOfPorts).flatMap portPlaces

/-- The commands `Camera_SendCommand` distinguishes. -/
inductive Command
  | stateIdle
  | stateLoaded
  | portDisable (nParam : Nat)
  | other

/-- The outcomes of `Camera_SendCommand`; `remote` is what `PROXY_SendCommand` returns. -/
structure CommandEnv where
  query : VtcQuery
  slices : SlicesEnv
  free : FreeEnv
  garbage : Fd
  remote : OmxError

/-- `Camera_SendCommand`. -/
def cameraSendCommand (cmd : Command) (env : CommandEnv) (s : CamPrivate) : CamPrivate × OmxError :=
  match cmd with
  | .stateIdle =>
    let (s, e) := vtcAllocateMemory env.query env.slices s
    if e ≠ .none then (s, e) else (s, env.remote)
  | .portDisable nParam =>
    ((disabledPlaces nParam).foldl (freeComponent env.garbage) s, env.remote)
  | .stateLoaded => (vtcFreeMemory env.free s, env.remote)
  | .other => (s, env.remote)

/-- The outcomes of `ComponentPrivateDeInit`. -/
structure DeInitEnv where
  free : FreeEnv
  garbage : Fd

/-- `ComponentPrivateDeInit`. -/
def componentPrivateDeInit (env : DeInitEnv) (s : CamPrivate) : CamPrivate :=
  allPlaces.foldl (freeComponent env.garbage) (vtcFreeMemory env.free s)

/-- The operations of the camera proxy. -/
inductive Op
  | setComponentBuffer (b : BufferAlloc) (env : ComponentEnv)
  | sendCommand (cmd : Command) (env : CommandEnv)
  | deInit (env : DeInitEnv)

/-- A component of the camera, which is `live` until it is torn down. -/
structure Component where
  cam : CamPrivate
  live : Bool

/-- An operation on a component that is not torn down. -/
def Component.next (c : Component) (op : Op) : Option Component :=
  if c.live then
    match op with
    | .setComponentBuffer b env => some ⟨(glueCameraSetParam b env c.cam).1, true⟩
    | .sendCommand cmd env => some ⟨(cameraSendCommand cmd env c.cam).1, true⟩
    | .deInit env => some ⟨componentPrivateDeInit env c.cam, false⟩
  else none

end Solana.Camera
