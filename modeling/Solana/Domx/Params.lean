import Solana.Domx.Camera

/-!
# Parameters and configurations with a local buffer

`__PROXY_SetParameter`, `__PROXY_GetParameter`, `__PROXY_GetConfig` and `__PROXY_SetConfig` take a
structure of the caller with a pointer to a field of it that holds the file descriptor of a buffer.
They register the buffer for the time of the call and put the handle of the registration into the
field, where the remote core finds it.

None of them puts the descriptor back, and all of them leave when the call of the remote core fails
without taking back the registration.  The structure that a `Get` call returns is copied over the
caller's one, with whatever the remote core has left in the field.  `param_buffer_kept_iff` says
when the caller finds its descriptor again and the registration is gone.
-/

namespace Solana.Params

open Ledgers

open Proxy hiding AllocEnv FreeEnv Component

open Rpc (RpcError)

/-! ## The functions -/

/-- What the functions meet.  `handle` is the value of the handle that a registration returns.
`reply` is what the returned structure has in the field, if the field lies in the part that is
copied back. -/
structure ParamEnv where
  argsOk : Bool
  register : RegisterEnv
  handle : Int
  rpc : RpcError
  compReturn : OmxError
  reply : Option Int
  unregisterOk : Bool

/-- What a call returns and leaves: the field, if there is one, and the registrations. -/
structure ParamResult where
  err : OmxError
  field : Option Int
  regs : Ledger
  deriving DecidableEq

/-- The field after the call of the remote core.  `RPC_GetParameter` and `RPC_GetConfig` copy the
returned structure, and they do so only when there was no error. -/
def ParamEnv.exchange (env : ParamEnv) (copies : Bool) (field : Int) : Int :=
  if copies && decide (env.rpc = .none) && decide (env.compReturn = .none) then
    env.reply.getD field
  else field

/-- The call of the remote core, and the end of the functions, in which the registration is taken
back if there is one. -/
def remoteCall (copies : Bool) (env : ParamEnv) (field : Option Int) (pRegistered : Option Nat)
    (regs : Ledger) : ParamResult :=
  let field := field.map (env.exchange copies)
  let call := checkRpcError env.rpc env.compReturn
  if !call.2 then ⟨call.1, field, regs⟩
  else
    match pRegistered with
    | none => ⟨call.1, field, regs⟩
    | some h =>
      let u := rpcUnRegisterBuffer .ionPointers env.unregisterOk (some h) none regs
      ⟨(checkRpcError u.1 env.compReturn).1, field, u.2⟩

/-- The part that the four functions have in common, with what `pAuxBuf` points to. -/
def withLocalBuffer (copies : Bool) (env : ParamEnv) (pAuxBuf : Option Int) (regs : Ledger) :
    ParamResult :=
  match pAuxBuf with
  | none => remoteCall copies env none none regs
  | some fd =>
    if fd > -1 then
      let r := rpcRegisterBuffer .ionPointers fd (-1) env.register none none regs
      if r.err ≠ .none then ⟨ofRpcError r.err, some fd, r.reg⟩
      else
        remoteCall copies env (some (if r.handle1.isSome then env.handle else fd)) r.handle1 r.reg
    else remoteCall copies env (some fd) none regs

/-- `nParamIndex`, as far as the functions distinguish its values. -/
inductive ParamIndex
  | useNativeBuffers
  | useBufferDescriptor
  | other
  deriving DecidableEq

/-- `__PROXY_SetParameter`.  The first two indices set the buffer type of a port, which the remote
core is told of for the second one only. -/
def proxySetParameter (nParamIndex : ParamIndex) (env : ParamEnv) (pLocBufNeedMap : Option Int)
    (regs : Ledger) : ParamResult :=
  if !env.argsOk then ⟨.badParameter, pLocBufNeedMap, regs⟩
  else
    match nParamIndex with
    | .useNativeBuffers => ⟨.none, pLocBufNeedMap, regs⟩
    | .useBufferDescriptor => remoteCall false env pLocBufNeedMap none regs
    | .other => withLocalBuffer false env pLocBufNeedMap regs

/-- `__PROXY_GetParameter`. -/
def proxyGetParameter (nParamIndex : ParamIndex) (env : ParamEnv) (pLocBufNeedMap : Option Int)
    (regs : Ledger) : ParamResult :=
  if !env.argsOk then ⟨.badParameter, pLocBufNeedMap, regs⟩
  else
    match nParamIndex with
    | .useBufferDescriptor => remoteCall true env pLocBufNeedMap none regs
    | .useNativeBuffers | .other => withLocalBuffer true env pLocBufNeedMap regs

/-- `__PROXY_GetConfig`. -/
def proxyGetConfig (env : ParamEnv) (pLocBufNeedMap : Option Int) (regs : Ledger) : ParamResult :=
  if !env.argsOk then ⟨.badParameter, pLocBufNeedMap, regs⟩
  else withLocalBuffer true env pLocBufNeedMap regs

/-- `__PROXY_SetConfig`. -/
def proxySetConfig (env : ParamEnv) (pLocBufNeedMap : Option Int) (regs : Ledger) : ParamResult :=
  if !env.argsOk then ⟨.badParameter, pLocBufNeedMap, regs⟩
  else withLocalBuffer false env pLocBufNeedMap regs

/-- The four functions. -/
inductive ParamCall
  | setParameter (nParamIndex : ParamIndex)
  | getParameter (nParamIndex : ParamIndex)
  | getConfig
  | setConfig

/-- A call. -/
def ParamCall.run (env : ParamEnv) (pLocBufNeedMap : Option Int) (regs : Ledger) :
    ParamCall → ParamResult
  | .setParameter nParamIndex => proxySetParameter nParamIndex env pLocBufNeedMap regs
  | .getParameter nParamIndex => proxyGetParameter nParamIndex env pLocBufNeedMap regs
  | .getConfig => proxyGetConfig env pLocBufNeedMap regs
  | .setConfig => proxySetConfig env pLocBufNeedMap regs

/-- A call with a local buffer has kept it: the field is as it was, and every registration that was
made has been taken back once. -/
structure ParamResult.Keeps (res : ParamResult) (fd : Int) (regs : Ledger) : Prop where
  field : res.field = some fd
  unregistered : ∃ new, res.regs.released = new ++ regs.released ∧
    ∀ r, regs.acquired ≤ r → r < res.regs.acquired → new.count r = 1

/-! ## When the buffer is kept -/

/-- Does the function use the part that the four have in common? -/
def ParamCall.common : ParamCall → Bool
  | .setParameter nParamIndex => decide (nParamIndex = .other)
  | .getParameter nParamIndex => decide (nParamIndex ≠ .useBufferDescriptor)
  | .getConfig => true
  | .setConfig => true

/-- Does the function copy the returned structure? -/
def ParamCall.copies : ParamCall → Bool
  | .setParameter _ => false
  | .getParameter _ => true
  | .getConfig => true
  | .setConfig => false

/-- A buffer is to be registered. -/
def ParamCall.Wants (c : ParamCall) (env : ParamEnv) (fd : Int) : Prop :=
  env.argsOk = true ∧ c.common = true ∧ -1 < fd

/-- The function keeps the buffer without registering it: it does not get to the call of the remote
core, or that does not change the field. -/
def ParamCall.Leaves (c : ParamCall) (env : ParamEnv) (fd : Int) : Prop :=
  env.argsOk = true → env.exchange c.copies fd = fd

/-- The function keeps a buffer that it has registered: the remote core accepts the call, and the
field then holds the descriptor. -/
def ParamCall.Restores (c : ParamCall) (env : ParamEnv) (fd : Int) : Prop :=
  env.rpc = .none ∧ (env.compReturn = .none ∨ env.compReturn = .noMore) ∧
    env.exchange c.copies env.handle = fd

variable {env : ParamEnv} {fd : Int} {regs : Ledger} {copies : Bool}

open ParamCall

@[simp] lemma exchange_false (env : ParamEnv) (field : Int) : env.exchange false field = field := by
  simp [ParamEnv.exchange]

lemma keeps_of_same {err : OmxError} {field : Int} :
    ParamResult.Keeps ⟨err, some field, regs⟩ fd regs ↔ field = fd := by
  refine ⟨fun h => Option.some.inj h.field, fun h => ⟨congrArg some h, [], rfl, fun r hr hlt => ?_⟩⟩
  exact absurd hlt (Nat.not_lt.mpr hr)

lemma not_keeps_of_acquire {err : OmxError} {field : Option Int} :
    ¬ParamResult.Keeps ⟨err, field, regs.acquire⟩ fd regs := by
  rintro ⟨-, new, hnew, hcount⟩
  have hnil : new = [] := List.self_eq_append_left.mp hnew
  simpa [hnil] using hcount regs.acquired le_rfl (Nat.lt_succ_self _)

lemma keeps_of_release {err : OmxError} {field : Int} :
    ParamResult.Keeps ⟨err, some field, regs.acquire.releaseOption (some regs.acquired)⟩ fd regs ↔
      field = fd := by
  refine ⟨fun h => Option.some.inj h.field, fun h => ⟨congrArg some h, [regs.acquired], rfl, ?_⟩⟩
  intro r hr hlt
  have heq : r = regs.acquired := Nat.le_antisymm (Nat.lt_succ_iff.mp hlt) hr
  simp [heq]

lemma remoteCall_keeps_iff :
    (remoteCall copies env (some fd) none regs).Keeps fd regs ↔ env.exchange copies fd = fd := by
  unfold remoteCall
  cases hgo : (checkRpcError env.rpc env.compReturn).2 with
  | false => simpa [hgo] using keeps_of_same
  | true => simpa [hgo] using keeps_of_same

lemma remoteCall_registered_keeps_iff {field : Int} :
    (remoteCall copies env (some field) (some regs.acquired) regs.acquire).Keeps fd regs ↔
      (checkRpcError env.rpc env.compReturn).2 = true ∧ env.exchange copies field = fd := by
  unfold remoteCall
  cases hgo : (checkRpcError env.rpc env.compReturn).2 with
  | false => simpa [hgo] using not_keeps_of_acquire
  | true => simpa [hgo, rpcUnRegisterBuffer] using keeps_of_release

lemma checkRpcError_go_iff {rpc : RpcError} {comp : OmxError} :
    (checkRpcError rpc comp).2 = true ↔ rpc = .none ∧ (comp = .none ∨ comp = .noMore) := by
  unfold checkRpcError
  split_ifs with hrpc <;> simp [hrpc]

lemma withLocalBuffer_keeps_iff (hfd : -1 < fd) :
    (withLocalBuffer copies env (some fd) regs).Keeps fd regs ↔
      (env.register.first = .registered → env.rpc = .none ∧
        (env.compReturn = .none ∨ env.compReturn = .noMore) ∧
        env.exchange copies env.handle = fd) := by
  have hneg : ¬fd < 0 := by omega
  simp only [withLocalBuffer, gt_iff_lt, if_pos hfd, rpcRegisterBuffer, if_neg hneg]
  cases env.register.first with
  | failed => simpa [ionRegister] using keeps_of_same.mpr rfl
  | null => simpa [ionRegister] using keeps_of_same.mpr rfl
  | registered =>
    simp only [ionRegister, ne_eq, not_true_eq_false, if_false, Option.isSome_some, if_true,
      forall_const, remoteCall_registered_keeps_iff, checkRpcError_go_iff, and_assoc]

lemma ParamCall.run_of_common {c : ParamCall} (hargs : env.argsOk = true) (hc : c.common = true)
    (field : Option Int) (regs : Ledger) :
    c.run env field regs = withLocalBuffer c.copies env field regs := by
  rcases c with (_ | _ | _) | (_ | _ | _) | _ | _ <;>
    simp_all [common, run, copies, proxySetParameter,
      proxyGetParameter, proxyGetConfig, proxySetConfig]

lemma ParamCall.run_of_not_common {c : ParamCall} (hargs : env.argsOk = true)
    (hc : c.common = false) (field : Option Int) (regs : Ledger) :
    c.run env field regs = remoteCall c.copies env field none regs ∨
      c.copies = false ∧ c.run env field regs = ⟨.none, field, regs⟩ := by
  rcases c with (_ | _ | _) | (_ | _ | _) | _ | _ <;>
    simp_all [common, run, copies, proxySetParameter, proxyGetParameter]

lemma ParamCall.run_of_bad_args (c : ParamCall) (hargs : env.argsOk = false) (field : Option Int)
    (regs : Ledger) : c.run env field regs = ⟨.badParameter, field, regs⟩ := by
  cases c <;>
    simp [run, proxySetParameter, proxyGetParameter, proxyGetConfig, proxySetConfig, hargs]

/-- **A call keeps its local buffer** exactly if it restores one that it registers, and otherwise
leaves it alone. -/
theorem param_buffer_kept_iff (c : ParamCall) (env : ParamEnv) (fd : Int) (regs : Ledger) :
    (c.run env (some fd) regs).Keeps fd regs ↔
      (c.Wants env fd → env.register.first = .registered → c.Restores env fd) ∧
      (¬c.Wants env fd → c.Leaves env fd) := by
  unfold ParamCall.Wants ParamCall.Leaves ParamCall.Restores
  cases hargs : env.argsOk with
  | false =>
    rw [c.run_of_bad_args hargs]
    simpa using keeps_of_same.mpr rfl
  | true =>
    cases hc : c.common with
    | false =>
      rcases run_of_not_common hargs hc (some fd) regs with hrun | ⟨hcopies, hrun⟩
      · simpa [hrun] using remoteCall_keeps_iff
      · simpa [hrun, hcopies] using keeps_of_same.mpr rfl
    | true =>
      rw [run_of_common hargs hc]
      by_cases hfd : -1 < fd
      · simpa [hfd] using withLocalBuffer_keeps_iff hfd
      · have hrun : withLocalBuffer c.copies env (some fd) regs =
            remoteCall c.copies env (some fd) none regs := if_neg hfd
        simpa [hrun, hfd] using remoteCall_keeps_iff

/-- The buffer is registered with the handle 4096, and the remote core answers. -/
def sampleAnswer (compReturn : OmxError) : ParamEnv :=
  ⟨true, ⟨.registered, .failed, .failed⟩, 4096, .none, compReturn, none, true⟩

/-- `__PROXY_SetConfig` succeeds and leaves the handle of the registration in the field of the
caller.  When the remote core refuses the call, the registration is left over as well. -/
theorem setConfig_not_kept :
    ¬(setConfig.run (sampleAnswer .none) (some 5) .empty).Keeps 5 .empty ∧
    ¬(setConfig.run (sampleAnswer .hardware) (some 5) .empty).Keeps 5 .empty ∧
    (setConfig.run (sampleAnswer .hardware) (some 5) .empty).regs.released = [] := by
  refine ⟨fun h => ?_, fun h => ?_, by decide +kernel⟩
  · exact absurd h.field (by decide +kernel)
  · exact absurd h.field (by decide +kernel)

/-- The function as the camera's buffers use it, which takes no notice of the field. -/
lemma setParameter_eq_camera (env : ParamEnv) (hargs : env.argsOk = true) (fd : Int)
    (regs : Ledger) :
    Camera.proxySetParameter ⟨env.register, env.rpc, env.compReturn, env.unregisterOk⟩ fd regs =
      ((proxySetParameter .other env (some fd) regs).err,
        (proxySetParameter .other env (some fd) regs).regs) := by
  simp only [Camera.proxySetParameter, proxySetParameter, hargs, withLocalBuffer, remoteCall,
    Bool.not_true, Bool.false_eq_true, if_false]
  generalize rpcRegisterBuffer .ionPointers fd (-1) env.register none none regs = r
  generalize checkRpcError env.rpc env.compReturn = call
  by_cases hfd : fd > -1
  · simp only [if_pos hfd]
    by_cases herr : r.err ≠ .none
    · simp only [if_pos herr]
    · simp only [if_neg herr]
      cases call.2 <;> cases r.handle1 <;> rfl
  · simp only [if_neg hfd]
    cases call.2 <;> rfl

end Solana.Params
