import Solana.Domx.Proxy

/-!
# Buffer marks

A mark names a component and carries data for it.  The remote core gets other values for the two
fields: the data are replaced by a block of the proxy that holds the original values, and the target
by its handle on the remote core if it is a proxy component itself.  `PROXY_SendCommand` and
`PROXY_EmptyThisBuffer` change the fields in the caller's own structure, and put them back later.

Both overwrite the data pointer before they know whether there is a block, so that it is lost when
there is none.  `PROXY_SendCommand` puts the values back only after a call for a proxy component,
and not on the way out after an error before it.  `marks_restored_iff` says when the caller finds
its values again; the block of the proxy is freed exactly when the call fails.
-/

namespace Solana.Proxy

open Rpc (RpcError)

/-! ## The target of a mark -/

/-- A field of a component name: as many characters as there are before a dot or an apostrophe, but
not none. -/
def scanField (name : List Char) : Option (List Char × List Char) :=
  let field := name.span fun c => c != '.' && c.toNat != 39
  if field.1 = [] then none else some field

/-- A dot of the pattern. -/
def scanDot : List Char → Option (List Char)
  | [] => none
  | c :: rest => if c = '.' then some rest else none

/-- The third field of a component name, as the call of `sscanf` finds it. -/
def coreName (name : List Char) : Option (List Char) := do
  let (_, rest) ← scanField name
  let rest ← scanDot rest
  let (_, rest) ← scanField rest
  let rest ← scanDot rest
  let (core, _) ← scanField rest
  return core

/-- `Core_Array`: the names of `CORE_TESLA`, `CORE_APPM3`, `CORE_SYSM3` and `CORE_CHIRON`. -/
def coreArray : List (List Char) :=
  ["TESLA".toList, "DUCATI1".toList, "DUCATI0".toList, "CHIRON".toList]

/-- `_RPC_IsProxyComponent`: its error, and whether the component is one of a remote core.  `err`
and `name` are what `OMX_GetComponentVersion` returns. -/
def isProxyComponent (err : OmxError) (name : List Char) : OmxError × Bool :=
  if err ≠ .none then (err, false)
  else
    match coreName name with
    | none => (.badParameter, false)
    | some core =>
      match coreArray.idxOf? core with
      | none => (.badParameter, false)
      | some i => (.none, i == 2 || i == 1 || i == 0)

/-! ## Marks -/

/-- `OMX_MARKTYPE`, and the two fields of a buffer header.  Pointers are numbers, and zero is the
null pointer. -/
structure Mark where
  hMarkTargetComponent : Nat
  pMarkData : Nat
  deriving DecidableEq

/-- `PROXY_MARK_DATA`. -/
structure MarkData where
  hComponentActual : Nat
  pMarkDataActual : Nat
  deriving DecidableEq

/-- What the functions meet: the error of the checks of their arguments, what
`OMX_GetComponentVersion` says about the target, what `malloc` returns, the target's handle on the
remote core if it has private data, and the answer of the remote core. -/
structure MarkEnv where
  argsErr : OmxError
  versionErr : OmxError
  targetName : List Char
  malloc : Nat
  remoteHandle : Option Nat
  rpc : RpcError
  compReturn : OmxError

/-- `_RPC_IsProxyComponent` for the target. -/
def MarkEnv.isProxy (env : MarkEnv) : OmxError × Bool :=
  isProxyComponent env.versionErr env.targetName

/-- The caller's mark when it has been changed for the remote core, the contents of the block if
there is one, and the error. -/
structure Wrapped where
  mark : Mark
  block : Option MarkData
  err : OmxError

/-- The changes for the remote core, which both functions make in the same way. -/
def wrapMark (env : MarkEnv) (m : Mark) : Wrapped :=
  if env.isProxy.1 ≠ .none then ⟨m, none, env.isProxy.1⟩
  else
    -- the pointer is overwritten before it is known whether there is a block
    let wrapped : Mark := { m with pMarkData := env.malloc }
    if env.malloc = 0 then ⟨wrapped, none, .insufficientResources⟩
    else
      let block : MarkData := ⟨m.hMarkTargetComponent, m.pMarkData⟩
      if env.isProxy.2 then
        match env.remoteHandle with
        | none => ⟨wrapped, some block, .badParameter⟩
        | some h => ⟨{ wrapped with hMarkTargetComponent := h }, some block, .none⟩
      else ⟨wrapped, some block, .none⟩

/-- What a function returns and leaves: the caller's mark, what the remote core was sent, and
whether a block was allocated and freed again. -/
structure Marked where
  err : OmxError
  mark : Mark
  sent : Option Mark
  allocated : Bool
  freed : Bool
  deriving DecidableEq

/-- `PROXY_SendCommand` for `OMX_CommandMarkBuffer`, with the structure behind `pCmdData`. -/
def proxySendCommand (env : MarkEnv) (m : Mark) : Marked :=
  if env.argsErr ≠ .none then ⟨env.argsErr, m, none, false, false⟩
  else if m.hMarkTargetComponent = 0 then ⟨.badParameter, m, none, false, false⟩
  else
    let w := wrapMark env m
    if w.err ≠ .none then ⟨w.err, w.mark, none, w.block.isSome, w.block.isSome⟩
    else
      let err := (checkRpcError env.rpc env.compReturn).1
      -- the original values are put back for a proxy component only
      ⟨err, if env.isProxy.2 then m else w.mark, some w.mark, true, decide (err ≠ .none)⟩

/-- The end of `PROXY_EmptyThisBuffer`: after an error the fields are taken from the block, which is
freed. -/
def unwrapMark (w : Wrapped) (err : OmxError) (sent : Option Mark) : Marked :=
  match w.block with
  | none => ⟨err, w.mark, sent, false, false⟩
  | some block =>
    if err ≠ .none then
      ⟨err, ⟨block.hComponentActual, block.pMarkDataActual⟩, sent, true, true⟩
    else ⟨err, w.mark, sent, true, false⟩

/-- `PROXY_EmptyThisBuffer` for a header with a mark. -/
def proxyEmptyThisBuffer (env : MarkEnv) (m : Mark) : Marked :=
  if env.argsErr ≠ .none then ⟨env.argsErr, m, none, false, false⟩
  else
    let w : Wrapped := if m.hMarkTargetComponent ≠ 0 then wrapMark env m else ⟨m, none, .none⟩
    if w.err ≠ .none then unwrapMark w w.err none
    else unwrapMark w (checkRpcError env.rpc env.compReturn).1 (some w.mark)

/-! ## What is put back -/

variable {env : MarkEnv} {m : Mark}

/-- Everything that the changes for the remote core can do. -/
lemma wrapMark_cases (env : MarkEnv) (m : Mark) :
    (env.isProxy.1 ≠ .none ∧ wrapMark env m = ⟨m, none, env.isProxy.1⟩) ∨
    (env.isProxy.1 = .none ∧ env.malloc = 0 ∧
      wrapMark env m = ⟨{ m with pMarkData := 0 }, none, .insufficientResources⟩) ∨
    (env.isProxy.1 = .none ∧ env.malloc ≠ 0 ∧
      ∃ target err, wrapMark env m =
          ⟨⟨target, env.malloc⟩, some ⟨m.hMarkTargetComponent, m.pMarkData⟩, err⟩ ∧
        (err = .none ↔ env.isProxy.2 = false ∨ env.remoteHandle.isSome = true) ∧
        (env.isProxy.2 = false ∨ err ≠ .none → target = m.hMarkTargetComponent)) := by
  unfold wrapMark
  by_cases hproxy : env.isProxy.1 ≠ .none
  · exact .inl ⟨hproxy, if_pos hproxy⟩
  · have hnone : env.isProxy.1 = .none := not_not.mp hproxy
    rw [if_neg hproxy]
    by_cases hmalloc : env.malloc = 0
    · exact .inr (.inl ⟨hnone, hmalloc, by simp [hmalloc]⟩)
    · refine .inr (.inr ⟨hnone, hmalloc, ?_⟩)
      rw [if_neg hmalloc]
      cases env.isProxy.2 with
      | false => exact ⟨_, _, rfl, by simp, fun _ => rfl⟩
      | true =>
        cases env.remoteHandle with
        | none => exact ⟨_, _, rfl, by simp, fun _ => rfl⟩
        | some h => exact ⟨_, _, rfl, by simp, by simp⟩

/-- The conditions under which `PROXY_SendCommand` puts the caller's values back: it leaves before
it changes anything, the pointer it writes is the one that was there, or the target is a proxy
component with private data and there is a block. -/
def MarkEnv.PutsBack (env : MarkEnv) (m : Mark) : Prop :=
  env.argsErr ≠ .none ∨ m.hMarkTargetComponent = 0 ∨ env.isProxy.1 ≠ .none ∨
    m.pMarkData = env.malloc ∨
    (env.isProxy.2 = true ∧ env.malloc ≠ 0 ∧ env.remoteHandle.isSome = true)

/-- The case in which `PROXY_EmptyThisBuffer` loses the data of a mark: there is no memory for the
block. -/
def MarkEnv.LosesData (env : MarkEnv) (m : Mark) : Prop :=
  env.argsErr = .none ∧ m.hMarkTargetComponent ≠ 0 ∧ env.isProxy.1 = .none ∧ env.malloc = 0 ∧
    m.pMarkData ≠ 0

lemma proxySendCommand_mark_iff : (proxySendCommand env m).mark = m ↔ env.PutsBack m := by
  unfold proxySendCommand MarkEnv.PutsBack
  by_cases hargs : env.argsErr ≠ .none
  · simp [hargs]
  by_cases htarget : m.hMarkTargetComponent = 0
  · simp [hargs, htarget]
  rw [if_neg hargs, if_neg htarget]
  have hleft : ∀ x : Nat, ({ m with pMarkData := x } : Mark) = m ↔ m.pMarkData = x := fun x =>
    ⟨fun h => (congrArg Mark.pMarkData h).symm, fun h => by rw [← h]⟩
  obtain ⟨hproxy, hw⟩ | ⟨hproxy, hmalloc, hw⟩ | ⟨hproxy, hmalloc, target, err, hw, herr, hsame⟩ :=
    wrapMark_cases env m
  · simp [hw, hproxy]
  · simp [hw, hargs, htarget, hproxy, hmalloc, hleft]
  · by_cases hok : err = .none
    · cases hp : env.isProxy.2 with
      | true => simp [hw, hok, hmalloc, herr.mp hok |>.resolve_left (by simp [hp])]
      | false =>
        rw [hsame (.inl hp)] at hw
        simp [hw, hok, hargs, htarget, hproxy, hleft]
    · have hnoHandle : env.remoteHandle = none :=
        Option.not_isSome_iff_eq_none.mp fun h => hok (herr.mpr (.inr h))
      rw [hsame (.inr hok)] at hw
      simp [hw, hok, hargs, htarget, hproxy, hleft, hnoHandle]

lemma proxySendCommand_freed : (proxySendCommand env m).freed =
      ((proxySendCommand env m).allocated && decide ((proxySendCommand env m).err ≠ .none)) := by
  unfold proxySendCommand
  by_cases hargs : env.argsErr ≠ .none
  · simp [hargs]
  by_cases htarget : m.hMarkTargetComponent = 0
  · simp [hargs, htarget]
  rw [if_neg hargs, if_neg htarget]
  by_cases herr : (wrapMark env m).err = .none
  · simp [herr]
  · simp [herr]

section

variable (w : Wrapped) (err : OmxError) (sent : Option Mark)
include w err sent

/-- What the end of `PROXY_EmptyThisBuffer` leaves of a mark after an error. -/
lemma unwrapMark_mark (herr : err ≠ .none) : (unwrapMark w err sent).mark =
      (w.block.map fun b => ⟨b.hComponentActual, b.pMarkDataActual⟩).getD w.mark := by
  cases hblock : w.block with
  | none => simp [unwrapMark, hblock]
  | some block => simp [unwrapMark, hblock, herr]

lemma unwrapMark_err : (unwrapMark w err sent).err = err := by
  unfold unwrapMark
  split
  · rfl
  · split_ifs <;> rfl

lemma unwrapMark_freed : (unwrapMark w err sent).freed =
      ((unwrapMark w err sent).allocated && decide ((unwrapMark w err sent).err ≠ .none)) := by
  unfold unwrapMark
  split
  · rfl
  · split_ifs with herr <;> simp [herr]

end

/-- The changed header gives the caller's mark back after an error, unless the data were lost. -/
lemma restored_of_not_loses (hargs : env.argsErr = .none) (htarget : m.hMarkTargetComponent ≠ 0) :
    ((wrapMark env m).block.map fun b => (⟨b.hComponentActual, b.pMarkDataActual⟩ : Mark)).getD
        (wrapMark env m).mark = m ↔ ¬env.LosesData m := by
  unfold MarkEnv.LosesData
  obtain ⟨hproxy, hw⟩ | ⟨hproxy, hmalloc, hw⟩ | ⟨hproxy, hmalloc, target, err, hw, -, -⟩ :=
    wrapMark_cases env m
  · simp [hw, hproxy]
  · have hleft : ({ m with pMarkData := 0 } : Mark) = m ↔ m.pMarkData = 0 :=
      ⟨fun h => (congrArg Mark.pMarkData h).symm, fun h => by rw [← h]⟩
    simp [hw, hargs, htarget, hproxy, hmalloc, hleft]
  · simp [hw, hmalloc]

lemma proxyEmptyThisBuffer_mark_iff :
    ((proxyEmptyThisBuffer env m).err ≠ .none → (proxyEmptyThisBuffer env m).mark = m) ↔
      ¬env.LosesData m := by
  unfold proxyEmptyThisBuffer
  by_cases hargs : env.argsErr = .none
  swap
  · simp [hargs, MarkEnv.LosesData]
  rw [if_neg (not_not.mpr hargs)]
  by_cases htarget : m.hMarkTargetComponent = 0
  · simp [htarget, unwrapMark, MarkEnv.LosesData]
  simp only [ne_eq, htarget, not_false_eq_true, if_true]
  by_cases herr : (wrapMark env m).err = .none
  · -- the remote core was asked, so there is a block
    have hkept : ¬env.LosesData m := by
      rintro ⟨-, -, hproxy, hmalloc, -⟩
      simp [wrapMark, hproxy, hmalloc] at herr
    rw [if_neg (not_not.mpr herr), unwrapMark_err]
    refine ⟨fun _ => hkept, fun _ hfailed => ?_⟩
    rw [unwrapMark_mark _ _ _ hfailed]
    exact (restored_of_not_loses hargs htarget).mpr hkept
  · rw [if_pos herr, unwrapMark_err, unwrapMark_mark _ _ _ herr,
      restored_of_not_loses hargs htarget]
    exact ⟨fun h => h herr, fun h _ => h⟩

lemma proxyEmptyThisBuffer_freed :
    (proxyEmptyThisBuffer env m).freed = ((proxyEmptyThisBuffer env m).allocated &&
      decide ((proxyEmptyThisBuffer env m).err ≠ .none)) := by
  unfold proxyEmptyThisBuffer
  by_cases hargs : env.argsErr ≠ .none
  · simp [hargs]
  · rw [if_neg hargs]
    dsimp only
    generalize (if m.hMarkTargetComponent ≠ 0 then wrapMark env m else ⟨m, none, .none⟩) = w
    by_cases herr : w.err ≠ .none
    · rw [if_pos herr]
      exact unwrapMark_freed _ _ _
    · rw [if_neg herr]
      exact unwrapMark_freed _ _ _

/-! ## The caller's mark -/

/-- `PROXY_SendCommand` leaves the caller's mark as it was exactly when it puts the values back, and
after an error `PROXY_EmptyThisBuffer` leaves it as it was exactly when it did not lose the data.
Both free the block of the proxy exactly when they allocated one and do not return
`OMX_ErrorNone`. -/
theorem marks_restored_iff (env : MarkEnv) (m : Mark) :
    ((proxySendCommand env m).mark = m ↔ env.PutsBack m) ∧
    (((proxyEmptyThisBuffer env m).err ≠ .none → (proxyEmptyThisBuffer env m).mark = m) ↔
      ¬env.LosesData m) ∧ (proxySendCommand env m).freed =
      ((proxySendCommand env m).allocated && decide ((proxySendCommand env m).err ≠ .none)) ∧
    (proxyEmptyThisBuffer env m).freed = ((proxyEmptyThisBuffer env m).allocated &&
      decide ((proxyEmptyThisBuffer env m).err ≠ .none)) :=
  ⟨proxySendCommand_mark_iff, proxyEmptyThisBuffer_mark_iff, proxySendCommand_freed,
    proxyEmptyThisBuffer_freed⟩

/-- A mark for a component of the host: the command is accepted, and the caller's structure keeps
the block of the proxy.  And a mark on a buffer when there is no memory for a block: the call fails
and the data are gone. -/
theorem mark_not_restored :
    (let env : MarkEnv := ⟨.none, .none, "OMX.TI.CHIRON.CAMERA".toList, 64, none, .none, .none⟩
     proxySendCommand env ⟨5, 7⟩ = ⟨.none, ⟨5, 64⟩, some ⟨5, 64⟩, true, false⟩) ∧
    (let env : MarkEnv :=
      ⟨.none, .none, "OMX.TI.DUCATI1.VIDEO.DECODER".toList, 0, some 9, .none, .none⟩
     proxyEmptyThisBuffer env ⟨5, 7⟩ = ⟨.insufficientResources, ⟨5, 0⟩, none, false, false⟩) := by
  decide +kernel

end Solana.Proxy
