import Mathlib.Data.List.Basic

/-!
# Failing initialisations of the proxies

`OMX_ComponentInit` of the camera, of the video decoder and of the H.264 encoder, each with one
point at which it fails.  A run allocates, accesses and releases the blocks below and has no result
when it accesses or releases one that is not allocated, by a null pointer or by one to a block that
was released.

`componentInit_right_iff` says at which points each of the three cleans up.
-/

namespace Solana.Initialisers

/-! ## The blocks -/

/-- What an initialisation allocates: the blocks and the pipe of the component, and the RPC instance
and the memory plugin that `OMX_ProxyCommonInit` obtains. -/
inductive Block
  | componentPrivate
  | cCompName
  | pCompProxyPrv
  | hBufPipe
  | remoteComp
  | memPlugin
  deriving DecidableEq

/-- A computation on the blocks that are allocated. -/
abbrev Run := StateT (List Block) Option

def alloc (b : Block) : Run Unit := modify (b :: ·)

def access (b : Block) : Run Unit := do guard (b ∈ (← get))

def free (b : Block) : Run Unit := do
  access b
  modify (·.erase b)

/-- A block or a pipe is released if the pointer to it is not null.  The structures that hold the
pointers are cleared when they are allocated. -/
def freeSet (b : Block) : Run Unit := modify (·.erase b)

/-! ## The initialisers -/

/-- Where an initialisation fails. -/
inductive Point
  | privateMalloc
  | nameMalloc
  | proxyMalloc
  | createPipe
  | instanceInit
  | getHandle
  | memPluginInit
  | memPluginOpen
  | getModule
  | setParameter
  deriving DecidableEq

/-- `OMX_ProxyCommonInit`, and whether it succeeds. -/
def proxyCommonInit (p : Point) : Run Bool := do
  access .componentPrivate
  access .cCompName
  -- `RPC_InstanceDeInit` refuses the null handle
  if p = .instanceInit then return false
  alloc .remoteComp
  if p = .getHandle then
    free .remoteComp
    return false
  access .componentPrivate
  -- the two errors of the memory plugin return at once
  if p = .memPluginInit then return false
  alloc .memPlugin
  return p ≠ .memPluginOpen

/-- `OMX_ComponentInit` of the camera. -/
def camera (p : Point) : Run Bool := do
  if p = .privateMalloc then return false
  alloc .componentPrivate
  access .componentPrivate
  if p ≠ .nameMalloc then alloc .cCompName
  access .cCompName
  if p = .proxyMalloc then return false
  alloc .pCompProxyPrv
  access .pCompProxyPrv
  if !(← proxyCommonInit p) then
    access .componentPrivate
    free .cCompName
    free .componentPrivate
    access .componentPrivate
    free .pCompProxyPrv
    return false
  access .pCompProxyPrv
  return true

/-- The statements of the decoder's `OMX_ComponentInit` up to `EXIT`, with `OMX_ProxyViddecInit`. -/
def viddecBody (p : Point) : Run Bool := do
  if p = .privateMalloc then return false
  alloc .componentPrivate
  access .componentPrivate
  if p = .nameMalloc then return false
  alloc .cCompName
  access .cCompName
  if !(← proxyCommonInit p) then return false
  access .componentPrivate
  return p ≠ .getModule ∧ p ≠ .setParameter

/-- `OMX_ComponentInit` of the video decoder. -/
def viddec (p : Point) : Run Bool := do
  let ok ← viddecBody p
  if !ok then
    access .componentPrivate
    freeSet .cCompName
    freeSet .componentPrivate
  return ok

/-- The statements of the encoder's `OMX_ComponentInit` up to `EXIT`. -/
def h264encBody (p : Point) : Run Bool := do
  if p = .privateMalloc then return false
  alloc .componentPrivate
  access .componentPrivate
  if p = .nameMalloc then return false
  alloc .cCompName
  if p = .proxyMalloc then return false
  alloc .pCompProxyPrv
  access .pCompProxyPrv
  if p = .createPipe then return false
  alloc .hBufPipe
  access .cCompName
  let ok ← proxyCommonInit p
  access .componentPrivate
  return ok

/-- `OMX_ComponentInit` of the H.264 encoder. -/
def h264enc (p : Point) : Run Bool := do
  let ok ← h264encBody p
  if !ok then
    -- `pProxy->hBufPipe`
    access .pCompProxyPrv
    freeSet .hBufPipe
    access .componentPrivate
    freeSet .pCompProxyPrv
    access .componentPrivate
    freeSet .cCompName
    freeSet .componentPrivate
  return ok

inductive Proxy
  | camera
  | viddec
  | h264enc

/-- `OMX_ComponentInit`. -/
def Proxy.componentInit : Proxy → Point → Run Bool
  | .camera => Initialisers.camera
  | .viddec => Initialisers.viddec
  | .h264enc => Initialisers.h264enc

/-! ## Cleaning up -/

/-- A run is right: it has a result, and if that is an error nothing is left allocated. -/
def Right : Option (Bool × List Block) → Prop
  | none => False
  | some (ok, left) => ok = true ∨ left = []

instance : DecidablePred Right
  | none => inferInstanceAs (Decidable False)
  | some _ => inferInstanceAs (Decidable (_ ∨ _))

/-- The points at which a proxy does not clean up. -/
def Proxy.mishandled : Proxy → List Point
  | .camera =>
    [.nameMalloc, .proxyMalloc, .instanceInit, .getHandle, .memPluginInit, .memPluginOpen]
  | .viddec => [.privateMalloc, .memPluginInit, .memPluginOpen, .getModule, .setParameter]
  | .h264enc => [.privateMalloc, .nameMalloc, .proxyMalloc, .memPluginInit, .memPluginOpen]

/-- **Failing initialisations.**  Everything allocated is released once, and nothing is accessed
that is not allocated, exactly if the point is not one of those listed. -/
theorem componentInit_right_iff (proxy : Proxy) (p : Point) :
    Right ((proxy.componentInit p).run []) ↔ p ∉ proxy.mishandled := by
  cases proxy with
  | camera => cases p <;> decide
  | viddec => cases p <;> decide
  | h264enc => cases p <;> decide

/-- **Four ways to fail**: without its own block the decoder reads a field of it and the encoder one
of `pProxy`, the camera leaves two blocks when the third one cannot be allocated, and when
`OMX_ProxyCommonInit` fails it reads a field of the block that it has released. -/
theorem initialisation_mishandled :
    (viddec .privateMalloc).run [] = none ∧ (h264enc .privateMalloc).run [] = none ∧
      (camera .proxyMalloc).run [] = some (false, [.cCompName, .componentPrivate]) ∧
      (camera .instanceInit).run [] = none := by
  decide

end Solana.Initialisers
