import Solana.Rpc.Listener

/-!
# The RPC context of a component

`RPC_InstanceInit` gets the memory of a context, opens the device of the remote core (again and
again, for as long as it is not there), connects, makes a message pipe for each function, a
descriptor to stop the listener, and the listener's thread.  When a step fails the context goes to
`RPC_InstanceDeInit`, which releases what it finds in it: a field that is not zero is taken for a
resource.

Both ends of that are inexact.  A device that cannot be opened is noted in the wrong error
variable, and the caller gets success with a context that does nothing; a descriptor with the number
zero is not closed.  `instanceInit_sound_iff` says for which outcomes of the system calls the
function keeps its promise.
-/

namespace Solana.Rpc

open List

/-! ## The context -/

/-- What the functions acquire and release. -/
inductive Resource
  | context
  | device
  | pipe (f : FxnIdx)
  | killFd
  | thread
  deriving DecidableEq

/-- `RPC_OMX_CONTEXT`, as far as it is set up here. -/
structure Context where
  fdOmx : Int
  fdKillcb : Int
  cbThread : Nat
  /-- the pipes whose pointers are not null -/
  pMsgPipe : FxnIdx → Bool

/-- The context after `TIMM_OSAL_Memset`. -/
def Context.zero : Context := ⟨0, 0, 0, fun _ => false⟩

/-- What `open` returns: a descriptor, `ENOENT` or another error. -/
inductive OpenResult
  | fd (n : Nat)
  | noEntry
  | failed

/-- What `pthread_create` returns, with what it leaves in the variable for the thread. -/
inductive ThreadResult
  | created (id : Nat)
  | failed (left : Nat)

/-- The outcomes of the system calls and allocations. -/
structure InitEnv where
  malloc : Bool
  /-- for each attempt -/
  opens : Nat → OpenResult
  connect : Bool
  pipes : FxnIdx → Bool
  eventfd : Option Nat
  thread : ThreadResult
  /-- the kill message is written, on a descriptor that is open -/
  killWrite : Bool

/-- `MAX_ATTEMPTS`. -/
def maxAttempts : Nat := 15

/-- The loop that opens the device, with the attempts that are left and the number of this one. -/
def openLoop (opens : Nat → OpenResult) : Nat → Nat → Option Nat
  | 0, nAttempts =>
    match opens nAttempts with
    | .fd n => some n
    | .noEntry => none
    | .failed => none
  | left + 1, nAttempts =>
    match opens nAttempts with
    | .fd n => some n
    | .noEntry => openLoop opens left (nAttempts + 1)
    | .failed => none

/-- The loop that makes the pipes: those that are made, and whether all are. -/
def createPipes (ok : FxnIdx → Bool) : List FxnIdx → List FxnIdx × Bool
  | [] => ([], true)
  | f :: fs =>
    if ok f then
      let (made, all) := createPipes ok fs
      (f :: made, all)
    else ([], false)

/-- `close`, which releases nothing for a number that is no descriptor. -/
def closed (fd : Int) (r : Resource) : List Resource := if fd < 0 then [] else [r]

/-- `RPC_InstanceDeInit`: what it releases. -/
def instanceDeInit (killWrite : Bool) : Option Context → List Resource
  | none => []
  | some ctx =>
    (if ctx.fdKillcb ≠ 0 then
      -- the thread is waited for if it got the kill message
      (if 0 ≤ ctx.fdKillcb ∧ killWrite = true ∧ ctx.cbThread ≠ 0 then [.thread] else []) ++
        closed ctx.fdKillcb .killFd
    else []) ++
    ((List.finRange 21).filter ctx.pMsgPipe).map .pipe ++
    (if ctx.fdOmx ≠ 0 then closed ctx.fdOmx .device else []) ++ [.context]

/-- What `RPC_InstanceInit` returns and leaves. -/
structure InitResult where
  ret : RpcError
  phRPCCtx : Option Context
  connected : Bool
  acquired : List Resource
  released : List Resource

/-- The way out of `RPC_InstanceInit` after a failed check. -/
def InitEnv.fail (env : InitEnv) (ctx : Option Context) (connected : Bool)
    (acquired : List Resource) : InitResult :=
  ⟨.insufficientResources, none, connected, acquired, instanceDeInit env.killWrite ctx⟩

/-- `RPC_InstanceInit` from the descriptor for the kill message on. -/
def InitEnv.startListener (env : InitEnv) (ctx : Context) (acquired : List Resource) :
    InitResult :=
  match env.eventfd with
  | none => env.fail (some { ctx with fdKillcb := -1 }) true acquired
  | some fd =>
    match env.thread with
    | .failed left =>
      env.fail (some { ctx with fdKillcb := fd, cbThread := left }) true (.killFd :: acquired)
    | .created id =>
      ⟨.none, some { ctx with fdKillcb := fd, cbThread := id }, true,
        .thread :: .killFd :: acquired, []⟩

/-- `RPC_InstanceInit` with an open device. -/
def InitEnv.connectDevice (env : InitEnv) (ctx : Context) (acquired : List Resource) :
    InitResult :=
  if env.connect = false then env.fail (some ctx) false acquired
  else
    let (made, all) := createPipes env.pipes (List.finRange 21)
    let ctx := { ctx with pMsgPipe := fun f => f ∈ made }
    let acquired := made.map .pipe ++ acquired
    if all = false then env.fail (some ctx) true acquired else env.startListener ctx acquired

/-- `RPC_InstanceInit`. -/
def instanceInit (env : InitEnv) : InitResult :=
  if env.malloc = false then env.fail none false []
  else
    match openLoop env.opens maxAttempts 0 with
    | none =>
      -- the error goes to `eError`, and `eRPCError` is returned
      ⟨.none, some { Context.zero with fdOmx := -1 }, false, [.context], []⟩
    | some fd => env.connectDevice { Context.zero with fdOmx := fd } [.device, .context]

/-! ## What is promised -/

/-- Success comes with a context that works, and after a failure there is no context and all that
was acquired has been released once. -/
structure InitResult.Sound (r : InitResult) : Prop where
  success : r.ret = .none → ∃ ctx, r.phRPCCtx = some ctx ∧ 0 ≤ ctx.fdOmx ∧ r.connected = true ∧
    (∀ f, ctx.pMsgPipe f = true) ∧ .thread ∈ r.acquired ∧ r.released = []
  failure : r.ret ≠ .none → r.phRPCCtx = none ∧ r.released.Perm r.acquired

/-- The device is opened: it was not there in the attempts before. -/
def InitEnv.Opens (env : InitEnv) (fd : Nat) : Prop :=
  ∃ k ≤ maxAttempts, env.opens k = .fd fd ∧ ∀ j < k, env.opens j = .noEntry

/-- Every step after the opening of the device succeeds. -/
def InitEnv.Completes (env : InitEnv) : Prop :=
  env.connect = true ∧ (∀ f, env.pipes f = true) ∧ (∃ fd, env.eventfd = some fd) ∧
    ∃ id, env.thread = .created id

/-- What is there when the thread cannot be created is found again: its variable is left at zero or
not looked at, and the descriptor for the kill message has not the number zero. -/
def InitEnv.ThreadUndone (env : InitEnv) : Prop :=
  env.connect = true → (∀ f, env.pipes f = true) → ∀ fd left, env.eventfd = some fd →
    env.thread = .failed left → fd ≠ 0 ∧ (left = 0 ∨ env.killWrite = false)

/-! ## Releases -/

open Resource

open Context

lemma mem_closed {fd : Int} {r x : Resource} : x ∈ closed fd r ↔ 0 ≤ fd ∧ x = r := by
  unfold closed
  split_ifs with h
  · simp [h]
  · simp [not_lt.mp h]

variable {killWrite : Bool} {ctx : Context}

lemma mem_instanceDeInit {x : Resource} : x ∈ instanceDeInit killWrite (some ctx) ↔
    match x with
    | .context => True
    | .device => 0 < ctx.fdOmx
    | .pipe f => ctx.pMsgPipe f = true
    | .killFd => 0 < ctx.fdKillcb
    | .thread => 0 < ctx.fdKillcb ∧ killWrite = true ∧ ctx.cbThread ≠ 0 := by
  have hpos : ∀ {fd : Int}, ¬fd = 0 ∧ 0 ≤ fd ↔ 0 < fd := by omega
  unfold instanceDeInit
  cases x with
  | context => simp
  | device => simp [mem_closed, hpos]
  | pipe f => simp [mem_closed]
  | killFd => simp [mem_closed, hpos]
  | thread => simp [mem_closed, ← hpos, and_assoc]

lemma closed_sublist (fd : Int) (r : Resource) : (closed fd r).Sublist [r] := by
  unfold closed
  split_ifs
  · exact nil_sublist _
  · exact List.Sublist.refl _

/-- Nothing is released twice: what is released is taken from a list of all there can be. -/
lemma nodup_instanceDeInit : (instanceDeInit killWrite (some ctx)).Nodup := by
  have hall : ([thread] ++ [killFd] ++ (finRange 21).map pipe ++
      [device] ++ [context]).Nodup := by decide +kernel
  refine hall.sublist ?_
  unfold instanceDeInit
  refine List.Sublist.append (.append (.append ?_ (filter_sublist.map _)) ?_) (.refl _)
  · split_ifs
    · exact .append (.refl _) (closed_sublist _ _)
    · exact .append (nil_sublist _) (closed_sublist _ _)
    · exact nil_sublist _
  · split_ifs
    · exact closed_sublist _ _
    · exact nil_sublist _

lemma createPipes_spec (ok : FxnIdx → Bool) : ∀ fs : List FxnIdx, (createPipes ok fs).1 <+: fs ∧
      ((createPipes ok fs).2 = true ↔ ∀ f ∈ fs, ok f = true) ∧
      ((createPipes ok fs).2 = true → (createPipes ok fs).1 = fs)
  | [] => by simp [createPipes]
  | f :: fs => by
    obtain ⟨hpre, hall, heq⟩ := createPipes_spec ok fs
    by_cases hf : ok f = true
    · simp only [createPipes, hf, if_true]
      refine ⟨cons_prefix_cons.mpr ⟨rfl, hpre⟩, ?_, fun h => by rw [heq h]⟩
      simp [hall, hf]
    · simp [createPipes, hf]

lemma openLoop_eq_some {opens : Nat → OpenResult} {fd : Nat} : ∀ {left k : Nat},
    openLoop opens left k = some fd ↔
      ∃ i ≤ left, opens (k + i) = .fd fd ∧ ∀ j < i, opens (k + j) = .noEntry
  | 0, k => by
    unfold openLoop
    cases h : opens k <;> simp [h]
  | left + 1, k => by
    unfold openLoop
    cases h : opens k with
    | fd n =>
      simp only [Option.some.injEq]
      constructor
      · rintro rfl
        exact ⟨0, by omega, h, by simp⟩
      · rintro ⟨i, -, hi, hbefore⟩
        rcases Nat.eq_zero_or_pos i with rfl | hpos
        · simpa [h] using hi
        · simpa [h] using hbefore 0 hpos
    | noEntry =>
      simp only [openLoop_eq_some]
      constructor
      · rintro ⟨i, hi, hfd, hbefore⟩
        refine ⟨i + 1, by omega, by rwa [Nat.add_right_comm] at hfd, fun j hj => ?_⟩
        cases j with
        | zero => exact h
        | succ j => exact Nat.add_right_comm k 1 j ▸ hbefore j (by omega)
      · rintro ⟨i, hi, hfd, hbefore⟩
        cases i with
        | zero => simp [h] at hfd
        | succ i =>
          refine ⟨i, by omega, by rwa [Nat.add_right_comm], fun j hj => ?_⟩
          rw [Nat.add_right_comm]
          exact hbefore (j + 1) (by omega)
    | failed =>
      simp only [reduceCtorEq, false_iff]
      rintro ⟨i, -, hi, hbefore⟩
      rcases Nat.eq_zero_or_pos i with rfl | hpos
      · simp [h] at hi
      · simpa [h] using hbefore 0 hpos

lemma InitEnv.openLoop_eq_some_iff {env : InitEnv} {fd : Nat} :
    openLoop env.opens maxAttempts 0 = some fd ↔ env.Opens fd := by
  simp [openLoop_eq_some, InitEnv.Opens]

/-! ## The steps -/

lemma forall_resource {P : Resource → Prop} :
    (∀ x, P x) ↔ P .context ∧ P .device ∧ (∀ f, P (.pipe f)) ∧ P .killFd ∧ P .thread :=
  ⟨fun h => ⟨h _, h _, fun _ => h _, h _, h _⟩,
    fun ⟨hc, hd, hp, hk, ht⟩ x => by cases x <;> solve_by_elim⟩

variable {env : InitEnv}

/-- After a failure it remains to compare what is released with what was acquired. -/
lemma InitEnv.fail_sound_iff {connected : Bool} {acquired : List Resource}
    (hnodup : acquired.Nodup) : (env.fail (some ctx) connected acquired).Sound ↔
      .context ∈ acquired ∧ (0 < ctx.fdOmx ↔ .device ∈ acquired) ∧
      (∀ f, ctx.pMsgPipe f = true ↔ .pipe f ∈ acquired) ∧ (0 < ctx.fdKillcb ↔ .killFd ∈ acquired) ∧
      (0 < ctx.fdKillcb ∧ env.killWrite = true ∧ ctx.cbThread ≠ 0 ↔ .thread ∈ acquired) := by
  have hsame : (env.fail (some ctx) connected acquired).Sound ↔
      ∀ x, x ∈ instanceDeInit env.killWrite (some ctx) ↔ x ∈ acquired := by
    rw [← perm_ext_iff_of_nodup nodup_instanceDeInit hnodup]
    exact ⟨fun h => (h.failure nofun).2, fun h => ⟨nofun, fun _ => ⟨rfl, h⟩⟩⟩
  simp only [hsame, forall_resource, mem_instanceDeInit, true_iff]

lemma InitEnv.startListener_sound_iff {fd : Nat} {made : List FxnIdx} (hmade : ∀ f, f ∈ made)
    (hnodup : made.Nodup) :
    (env.startListener { zero with fdOmx := fd, pMsgPipe := fun f => f ∈ made }
        (made.map .pipe ++ [.device, .context])).Sound ↔
      ((∃ kfd, env.eventfd = some kfd) ∧ ∃ id, env.thread = .created id) ∨
        (fd ≠ 0 ∧ ∀ kfd left, env.eventfd = some kfd → env.thread = .failed left →
          kfd ≠ 0 ∧ (left = 0 ∨ env.killWrite = false)) := by
  have hpipes : (made.map pipe).Nodup := hnodup.map fun _ _ h => pipe.inj h
  unfold InitEnv.startListener
  cases env.eventfd with
  | none =>
    simp only
    rw [fail_sound_iff (by simp [nodup_append, hpipes])]
    simp [hmade, zero, Nat.pos_iff_ne_zero]
  | some kfd =>
    cases env.thread with
    | failed left =>
      simp only
      rw [fail_sound_iff (by simp [nodup_append, hpipes])]
      cases env.killWrite with
      | false => simp [hmade, Nat.pos_iff_ne_zero]
      | true => simp +contextual [hmade, Nat.pos_iff_ne_zero]
    | created id =>
      simp only
      refine ⟨fun _ => .inl ⟨⟨kfd, rfl⟩, id, rfl⟩, fun _ => ⟨fun _ => ?_, fun h => ?_⟩⟩
      · exact ⟨_, rfl, by simp, rfl, by simp [hmade], by simp, rfl⟩
      · simp at h

lemma InitEnv.connectDevice_sound_iff {fd : Nat} :
    (env.connectDevice { zero with fdOmx := fd } [.device, .context]).Sound ↔
      env.Completes ∨ (fd ≠ 0 ∧ env.ThreadUndone) := by
  obtain ⟨hpre, hall, heq⟩ := createPipes_spec env.pipes (finRange 21)
  have hnodup : (createPipes env.pipes (finRange 21)).1.Nodup :=
    hpre.sublist.nodup (nodup_finRange 21)
  have hpipes : ((createPipes env.pipes (finRange 21)).1.map pipe).Nodup :=
    hnodup.map fun _ _ h => pipe.inj h
  unfold InitEnv.connectDevice InitEnv.Completes InitEnv.ThreadUndone
  by_cases hconnect : env.connect = false
  · rw [if_pos hconnect, fail_sound_iff (by simp)]
    simp [zero, hconnect, Nat.pos_iff_ne_zero]
  · rw [if_neg hconnect]
    simp only
    by_cases hmade : (createPipes env.pipes (finRange 21)).2 = true
    · have hok : ∀ f, env.pipes f = true := by simpa using hall.mp hmade
      rw [if_neg (by simp [hmade]), startListener_sound_iff (by simp [heq hmade]) hnodup]
      simp [hconnect, hok]
    · have hbad : ¬∀ f, env.pipes f = true := by simpa using mt hall.mpr hmade
      rw [if_pos (by simpa using hmade), fail_sound_iff (by simp [nodup_append, hpipes])]
      simp [zero, hbad, Nat.pos_iff_ne_zero]

/-- **What `RPC_InstanceInit` promises.**  For every outcome of its system calls and allocations the
function returns success only with a context whose device is open and connected, with all pipes and
the listener's thread, and after a failure has set no handle and released what it acquired once,
exactly if the memory cannot be had, or the device is opened and

* either every further step succeeds,
* or the device's descriptor has not the number zero, and, if it is the thread that cannot be
  created, neither has the other one, and `pthread_create` leaves the variable for the thread at
  zero or the kill message cannot be written. -/
theorem instanceInit_sound_iff (env : InitEnv) :
    (instanceInit env).Sound ↔ (env.malloc = true → ∃ fd, env.Opens fd ∧
      (env.Completes ∨ (fd ≠ 0 ∧ env.ThreadUndone))) := by
  unfold instanceInit
  by_cases hmalloc : env.malloc = false
  · rw [if_pos hmalloc]
    refine ⟨fun _ h => by simp [hmalloc] at h, fun _ => ⟨fun h => ?_, fun _ => ⟨rfl, ?_⟩⟩⟩
    · simp [InitEnv.fail] at h
    · exact List.Perm.refl _
  · rw [if_neg hmalloc]
    cases hopen : openLoop env.opens maxAttempts 0 with
    | none =>
      refine ⟨fun h => ?_, fun h => ?_⟩
      · obtain ⟨ctx, hctx, hfd, -⟩ := h.success rfl
        obtain rfl := Option.some.inj hctx
        simp at hfd
      · obtain ⟨fd, hfd, -⟩ := h (by simpa using hmalloc)
        rw [← InitEnv.openLoop_eq_some_iff, hopen] at hfd
        cases hfd
    | some fd =>
      simp only [← InitEnv.openLoop_eq_some_iff, hopen, Option.some.injEq]
      rw [InitEnv.connectDevice_sound_iff]
      exact ⟨fun h _ => ⟨fd, rfl, h⟩, fun h => by
        obtain ⟨fd', rfl, h⟩ := h (by simpa using hmalloc)
        exact h⟩

/-- All calls succeed, but for what `open` returns. -/
def sampleInit (opens : OpenResult) : InitEnv where
  malloc := true
  opens := fun _ => opens
  connect := true
  pipes := fun _ => true
  eventfd := some 4
  thread := .created 1
  killWrite := true

/-- A device that cannot be opened is reported as success, and the descriptor with the number zero
is not closed when the connection fails. -/
theorem instanceInit_not_sound : (¬∀ env : InitEnv, (instanceInit env).Sound) ∧
      (instanceInit (sampleInit .failed)).ret = .none ∧
      (instanceInit (sampleInit .failed)).acquired = [.context] ∧
      (instanceInit { sampleInit (.fd 0) with connect := false }).acquired = [.device, .context] ∧
      (instanceInit { sampleInit (.fd 0) with connect := false }).released = [.context] := by
  refine ⟨fun h => ?_, rfl, rfl, rfl, by decide⟩
  obtain ⟨ctx, hctx, hfd, -⟩ := (h (sampleInit .failed)).success rfl
  obtain rfl := Option.some.inj hctx
  exact absurd hfd (by decide)

end Solana.Rpc
