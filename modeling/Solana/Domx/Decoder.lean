import Solana.Domx.Proxy

/-!
# The gralloc locks of the video decoder proxy

When the output port of the video decoder has gralloc buffers, `PROXY_VIDDEC_FillThisBuffer` locks
the buffer of a header before it passes the header on, and `PROXY_VIDDEC_FillBufferDone` unlocks
the buffer of a header that comes back.  Locking and unlocking succeed; the calls of the remote
core may fail.

The decoder owns a buffer from a request that the remote core has accepted, which is the last
thing a request does, to its completion.  A request that returns an error leaves the buffer with
the client: `LockedByOwner` says that the lock follows the owner.  The table of buffers is that of
the component; it does not change here and is arbitrary.
-/

namespace Solana.Proxy

open Runs Function Option

open Rpc (RpcError)

/-! ## The proxy -/

/-- The component of a video decoder with the gralloc buffer that each header points to, the locks
the proxy has on each gralloc buffer, and which of them the decoder owns. -/
structure Decoder where
  comp : Component
  outputType : BufferType
  pBuffer : Nat → Nat
  locks : Nat → Int
  decoderOwns : Nat → Bool

/-- Lock a gralloc buffer. -/
def Decoder.lock (s : Decoder) (g : Nat) : Decoder :=
  { s with locks := Function.update s.locks g (s.locks g + 1) }

/-- Unlock a gralloc buffer. -/
def Decoder.unlock (s : Decoder) (g : Nat) : Decoder :=
  { s with locks := Function.update s.locks g (s.locks g - 1) }

/-- The buffer changes hands. -/
def Decoder.give (s : Decoder) (g : Nat) (toDecoder : Bool) : Decoder :=
  { s with decoderOwns := Function.update s.decoderOwns g toDecoder }

/-! ## Requests -/

/-- The header that is given to `PROXY_VIDDEC_FillThisBuffer`, by its address, and the outcomes of
what it calls.  `argsErr` is the error of the checks of the arguments. -/
structure FillEnv where
  argsErr : OmxError
  header : Nat
  getParameter : OmxError
  rpcFill : RpcError
  compReturn : OmxError

/-- `PROXY_FillThisBuffer`.  The decoder owns the buffer if there is no error. -/
def proxyFillThisBuffer (env : FillEnv) (s : Decoder) : Decoder × OmxError :=
  match s.comp.slotOf env.header with
  | none => (s, .badParameter)
  | some _ =>
    let eError := (checkRpcError env.rpcFill env.compReturn).1
    (if eError = .none then s.give (s.pBuffer env.header) true else s, eError)

/-- `PROXY_VIDDEC_FillThisBuffer`. -/
def viddecFillThisBuffer (env : FillEnv) (s : Decoder) : Decoder × OmxError :=
  if env.argsErr ≠ .none then (s, env.argsErr)
  else if s.outputType = .grallocPointers then
    if env.getParameter ≠ .none then (s, env.getParameter)
    else proxyFillThisBuffer env (s.lock (s.pBuffer env.header))
  else proxyFillThisBuffer env s

/-! ## Completions -/

/-- `PROXY_FillBufferDone`, up to the callback that gives the header to the client.  `none` stands
for following a null pointer. -/
def proxyFillBufferDone (remote : Nat) (s : Decoder) : Option (Decoder × OmxError) :=
  match s.comp.slotOfRemote remote with
  | none => some (s, .none)
  | some i => (s.comp.tBufList i).pBufHeader.map fun hdr =>
    (s.give (s.pBuffer hdr.addr) false, .none)

/-- `PROXY_VIDDEC_FillBufferDone`. -/
def viddecFillBufferDone (remote : Nat) (s : Decoder) : Option (Decoder × OmxError) :=
  if s.outputType = .grallocPointers then
    match s.comp.slotOfRemote remote with
    | none => some (s, .badParameter)
    | some i => (s.comp.tBufList i).pBufHeader.bind fun hdr =>
      proxyFillBufferDone remote (s.unlock (s.pBuffer hdr.addr))
  else proxyFillBufferDone remote s

/-! ## Runs -/

/-- A request of the client or a completion of the remote core. -/
inductive DecoderCall
  | fill (env : FillEnv)
  | done (remote : Nat)

/-- The proxy after a call, if the call returns. -/
def Decoder.after (s : Decoder) : DecoderCall → Option Decoder
  | .fill env => some (viddecFillThisBuffer env s).1
  | .done remote => (viddecFillBufferDone remote s).map Prod.fst

/-- A decoder with gralloc buffers of which the client owns all. -/
structure Decoder.Idle (s : Decoder) : Prop where
  gralloc : s.outputType = .grallocPointers
  client : ∀ g, s.decoderOwns g = false
  unlocked : ∀ g, s.locks g = 0

/-- The states of all runs whose calls satisfy a condition. -/
def Decoder.ReachableWith (Cond : Decoder → DecoderCall → Prop) : Decoder → Prop :=
  Reachable Decoder.Idle fun s c s' => Cond s c ∧ s.after c = some s'

/-- The request passes its checks and the query of the port, so that it locks the buffer. -/
def FillEnv.locks (env : FillEnv) : Bool :=
  decide (env.argsErr = .none) && decide (env.getParameter = .none)

/-- The remote core takes the buffer. -/
def FillEnv.accepted (env : FillEnv) (s : Decoder) : Bool :=
  (s.comp.slotOf env.header).isSome && decide (env.rpcFill = .none) &&
    decide (env.compReturn = .none)

/-- What a call has to meet.  A request that locks a buffer is for one that the client owns, and
the remote core takes it; a completion for a header of the table is for a buffer that the decoder
owns. -/
def Decoder.orderly (s : Decoder) : DecoderCall → Bool
  | .fill env => !env.locks || !s.decoderOwns (s.pBuffer env.header) && env.accepted s
  | .done remote =>
    match s.comp.slotOfRemote remote with
    | none => true
    | some i => (s.comp.tBufList i).pBufHeader.any fun hdr => s.decoderOwns (s.pBuffer hdr.addr)

/-! ## Locks and owners -/

/-- Every gralloc buffer is locked once if the decoder owns it, and else not at all. -/
def Decoder.LockedByOwner (s : Decoder) : Prop :=
  ∀ g, s.locks g = if s.decoderOwns g then 1 else 0

open FillEnv

/-- The change of one buffer decides whether the lock still follows the owner. -/
lemma Decoder.LockedByOwner.update {s : Decoder} (h : s.LockedByOwner) {g : Nat} {n : Int}
    {b : Bool} {s' : Decoder} (hlocks : s'.locks = Function.update s.locks g n)
    (howns : s'.decoderOwns = Function.update s.decoderOwns g b) :
    s'.LockedByOwner ↔ n = if b then 1 else 0 := by
  constructor
  · intro h'
    have hg := h' g
    rwa [hlocks, howns, update_self, update_self] at hg
  · intro hn g'
    by_cases hg : g' = g
    · subst hg
      rw [hlocks, howns, update_self, update_self, hn]
    · rw [hlocks, howns, update_of_ne hg, update_of_ne hg, h g']

lemma proxyFillThisBuffer_fst (env : FillEnv) (s : Decoder) : (proxyFillThisBuffer env s).1 =
      if env.accepted s then s.give (s.pBuffer env.header) true else s := by
  cases hslot : s.comp.slotOf env.header with
  | none => simp [proxyFillThisBuffer, accepted, hslot]
  | some i => simp [proxyFillThisBuffer, accepted, hslot, checkRpcError_eq_none]

lemma viddecFillThisBuffer_of_not_locks {env : FillEnv} {s : Decoder}
    (hg : s.outputType = .grallocPointers) (hlocks : env.locks = false) :
    (viddecFillThisBuffer env s).1 = s := by
  have hfails : env.argsErr = .none → env.getParameter ≠ .none := by
    simpa [locks] using hlocks
  by_cases hargs : env.argsErr = .none
  · simp [viddecFillThisBuffer, hargs, hg, hfails hargs]
  · simp [viddecFillThisBuffer, hargs]

lemma viddecFillThisBuffer_of_locks {env : FillEnv} {s : Decoder}
    (hg : s.outputType = .grallocPointers) (hlocks : env.locks = true) :
    (viddecFillThisBuffer env s).1 =
      if env.accepted s then
        (s.lock (s.pBuffer env.header)).give (s.pBuffer env.header) true
      else s.lock (s.pBuffer env.header) := by
  obtain ⟨hargs, hget⟩ : env.argsErr = .none ∧ env.getParameter = .none := by
    simpa [locks] using hlocks
  have hacc : env.accepted (s.lock (s.pBuffer env.header)) = env.accepted s := rfl
  have hbuf : (s.lock (s.pBuffer env.header)).pBuffer = s.pBuffer := rfl
  simp only [viddecFillThisBuffer, hargs, hget, hg, ne_eq, not_true_eq_false, if_false, if_true,
    proxyFillThisBuffer_fst, hacc, hbuf]

lemma Decoder.LockedByOwner.fill {s : Decoder} (h : s.LockedByOwner)
    (hg : s.outputType = .grallocPointers) (env : FillEnv) :
    (viddecFillThisBuffer env s).1.LockedByOwner ↔ s.orderly (.fill env) = true := by
  cases hlocks : env.locks with
  | false =>
    rw [viddecFillThisBuffer_of_not_locks hg hlocks]
    simp [orderly, hlocks, h]
  | true =>
    rw [viddecFillThisBuffer_of_locks hg hlocks]
    cases hacc : env.accepted s with
    | false =>
      have howns : (s.lock (s.pBuffer env.header)).decoderOwns =
          Function.update s.decoderOwns (s.pBuffer env.header)
            (s.decoderOwns (s.pBuffer env.header)) := (Function.update_eq_self _ _).symm
      rw [if_neg Bool.false_ne_true, h.update rfl howns, h]
      simp [orderly, hlocks, hacc]
    | true =>
      rw [if_pos rfl, h.update rfl rfl, h]
      cases howns : s.decoderOwns (s.pBuffer env.header) <;>
        simp [orderly, hlocks, hacc, howns]

lemma Decoder.LockedByOwner.done {s s' : Decoder} (h : s.LockedByOwner)
    (hg : s.outputType = .grallocPointers) {remote : Nat} (hs : s.after (.done remote) = some s') :
    s'.LockedByOwner ↔ s.orderly (.done remote) = true := by
  obtain ⟨r, hr, rfl⟩ := map_eq_some_iff.mp hs
  simp only [viddecFillBufferDone, hg, if_true] at hr
  cases hslot : s.comp.slotOfRemote remote with
  | none =>
    simp only [hslot] at hr
    obtain rfl := some.inj hr
    simp [orderly, hslot, h]
  | some i =>
    simp only [hslot] at hr
    obtain ⟨hdr, hhdr, hr⟩ := bind_eq_some_iff.mp hr
    have hcomp : (s.unlock (s.pBuffer hdr.addr)).comp = s.comp := rfl
    simp only [proxyFillBufferDone, hcomp, hslot, hhdr, map_some] at hr
    obtain rfl := some.inj hr
    rw [h.update rfl rfl, h]
    cases howns : s.decoderOwns (s.pBuffer hdr.addr) <;> simp [orderly, hslot, hhdr, howns]

lemma Decoder.LockedByOwner.after_iff {s s' : Decoder} (h : s.LockedByOwner)
    (hg : s.outputType = .grallocPointers) {c : DecoderCall} (hs : s.after c = some s') :
    s'.LockedByOwner ↔ s.orderly c = true := by
  cases c with
  | fill env =>
    obtain rfl := some.inj hs
    exact h.fill hg env
  | done remote => exact h.done hg hs

lemma proxyFillThisBuffer_outputType (env : FillEnv) (s : Decoder) :
    (proxyFillThisBuffer env s).1.outputType = s.outputType := by
  rw [proxyFillThisBuffer_fst]
  split_ifs <;> rfl

lemma proxyFillBufferDone_outputType {remote : Nat} {s : Decoder} {r : Decoder × OmxError}
    (hr : proxyFillBufferDone remote s = some r) : r.1.outputType = s.outputType := by
  unfold proxyFillBufferDone at hr
  cases hslot : s.comp.slotOfRemote remote with
  | none =>
    simp only [hslot] at hr
    obtain rfl := some.inj hr
    rfl
  | some i =>
    simp only [hslot] at hr
    obtain ⟨hdr, -, rfl⟩ := map_eq_some_iff.mp hr
    rfl

lemma Decoder.after_outputType {s s' : Decoder} {c : DecoderCall} (hs : s.after c = some s') :
    s'.outputType = s.outputType := by
  cases c with
  | fill env =>
    obtain rfl := some.inj hs
    unfold viddecFillThisBuffer
    split_ifs
    · rfl
    · rfl
    · exact proxyFillThisBuffer_outputType env _
    · exact proxyFillThisBuffer_outputType env _
  | done remote =>
    obtain ⟨r, hr, rfl⟩ := map_eq_some_iff.mp hs
    unfold viddecFillBufferDone at hr
    split_ifs at hr
    · cases hslot : s.comp.slotOfRemote remote with
      | none =>
        simp only [hslot] at hr
        obtain rfl := some.inj hr
        rfl
      | some i =>
        simp only [hslot] at hr
        obtain ⟨hdr, -, hr⟩ := bind_eq_some_iff.mp hr
        have houtput := proxyFillBufferDone_outputType hr
        exact houtput
    · exact proxyFillBufferDone_outputType hr

/-- **The lock follows the owner.**  In every run of orderly calls each gralloc buffer is locked
once while the decoder owns it and not at all while the client owns it; and the first call that
is not orderly ends this. -/
theorem locked_by_owner {s : Decoder}
    (hr : Decoder.ReachableWith (fun s c => s.orderly c = true) s) :
    s.LockedByOwner ∧ ∀ c s', s.after c = some s' → (s'.LockedByOwner ↔ s.orderly c = true) := by
  obtain ⟨hg, h⟩ : s.outputType = .grallocPointers ∧ s.LockedByOwner := by
    refine hr.invariant (fun s => s.outputType = .grallocPointers ∧ s.LockedByOwner) ?_ ?_
    · rintro s ⟨hg, hclient, hunlocked⟩
      exact ⟨hg, fun g => by simp [hclient g, hunlocked g]⟩
    · rintro s c s' ⟨hg, h⟩ ⟨hc, hs⟩
      exact ⟨(Decoder.after_outputType hs).trans hg, (h.after_iff hg hs).mpr hc⟩
  exact ⟨h, fun c s' hs => h.after_iff hg hs⟩

/-- A decoder with one buffer: header 1, remote header 5 and gralloc buffer 9. -/
def sampleDecoder : Decoder where
  comp := { Component.init true with
    tBufList := Function.update (fun _ => .zero) 0
      { BufferInfo.zero with pBufHeader := some ⟨1, 2, false⟩, pBufHeaderRemote := 5 }
    nTotalBuffers := 1 }
  outputType := .grallocPointers
  pBuffer _ := 9
  locks _ := 0
  decoderOwns _ := false

lemma sampleDecoder_idle : sampleDecoder.Idle := ⟨rfl, fun _ => rfl, fun _ => rfl⟩

/-- A request for the buffer, with the outcome of the remote call. -/
def sampleFill (rpcFill : RpcError) : FillEnv where
  argsErr := .none
  header := 1
  getParameter := .none
  rpcFill := rpcFill
  compReturn := .none

/-- The buffer is filled once and requested again. -/
theorem requested_buffer_locked :
    ∃ s : Decoder, s.decoderOwns 9 = true ∧ s.locks 9 = 1 ∧ s.LockedByOwner := by
  obtain ⟨s, hr, howns, hlocks⟩ : ∃ s, Decoder.ReachableWith (fun s c => s.orderly c = true) s ∧
      s.decoderOwns 9 = true ∧ s.locks 9 = 1 :=
    exists_of_run sampleDecoder_idle [.fill (sampleFill .none), .done 5, .fill (sampleFill .none)]
      (by decide +kernel)
  exact ⟨s, howns, hlocks, (locked_by_owner hr).1⟩

/-- The remote call fails: the client has its buffer back, but it stays locked. -/
theorem refused_buffer_stays_locked :
    ∃ s, Decoder.ReachableWith (fun _ _ => True) s ∧ s.decoderOwns 9 = false ∧ s.locks 9 = 1 := by
  exact exists_of_run sampleDecoder_idle [.fill (sampleFill .hardware)] (by decide +kernel)

end Solana.Proxy
