import Solana.Domx.Camera

/-!
# What the camera proxy gives back

Is every ION handle freed once, every registration taken back once, and every descriptor closed
once, and no other, when the component is torn down?  Not in general: the descriptor of a
component buffer that the remote core refuses is closed twice, a slice buffer that cannot be
registered is in no table, slices that are allocated twice replace each other in the table, and
freeing a buffer from a table closes a descriptor number that was never set.

`Accounts` says that what is not given back is in the tables, or in the hands of the function that
runs; every part of an operation has a rule for it.  `torn_down_settled` is about runs in which
none of the four happens.
-/

namespace Solana.Camera

open Ledgers MemPlugin Runs CamPrivate Ledger.Balanced Function List

open Proxy hiding AllocEnv FreeEnv Component

/-! ## Runs -/

/-- The states in runs whose operations meet a condition. -/
def ReachableWith (Cond : CamPrivate → Op → Prop) : Component → Prop :=
  Reachable (fun c => c = ⟨.init, true⟩) fun c op c' => Cond c.cam op ∧ c.next op = some c'

/-- Everything was given back once, and nothing else. -/
structure CamPrivate.Settled (s : CamPrivate) : Prop where
  ion : s.res.ion.Settled
  regs : s.regs.Settled
  fds : s.res.fds.Settled
  strays : s.res.strays = 0

/-! ## The condition -/

/-- The call succeeds. -/
def SetParamEnv.Succeeds (env : SetParamEnv) : Prop :=
  env.register.first = .registered ∧ env.rpc = .none ∧ env.compReturn = .none ∧
    env.unregisterOk = true

/-- The call registers nothing, or the remote core answers without an error. -/
def SetParamEnv.Clean (env : SetParamEnv) (fd : Int) : Prop :=
  fd < 0 ∨ env.register.first ≠ .registered ∨
    (env.rpc = .none ∧ (env.compReturn = .none ∨ env.compReturn = .noMore))

/-- A buffer that is allocated can be shared, is put into the table and is accepted by the remote
core; the descriptor that is closed with the buffer it replaces is not open. -/
def ComponentEnv.Orderly (env : ComponentEnv) (b : BufferAlloc) (s : CamPrivate) : Prop :=
  env.alloc.Kept ∧ (env.alloc.tiler = .handle →
    place b.nPortIndex b.nIndex < numPlaces ∧ env.set.Succeeds ∧
      (s.component (place b.nPortIndex b.nIndex) = none ∨ env.garbage = .notOpen))

/-- A plane that is allocated can be shared and registered. -/
def PlaneEnv.Orderly (env : PlaneEnv) : Prop :=
  env.alloc.Kept ∧ (env.alloc.tiler = .handle → env.register.first = .registered)

/-- No slice is in the table, every plane that is allocated can be registered, and taken back if
need be. -/
def SlicesEnv.Orderly (env : SlicesEnv) (s : CamPrivate) : Prop :=
  (∀ p ∈ planes, (s.internal p).pBufferHandle = none ∧ (env.plane p).Orderly) ∧
    (∀ i < maxNumInternalBuffers, env.unregisterOk i = true ∧ (env.set i).Clean (env.aux i)) ∧
    env.garbage = .notOpen ∧ env.free.garbage = .notOpen

/-- The queries lead to the allocation of the slices. -/
def VtcQuery.Allocates (q : VtcQuery) : Prop :=
  q.getState = .none ∧ (q.loaded = true ∧ q.vtcSlice = .none ∧ q.nSliceHeight ≠ 0) ∧
    q.stabilisation = .none ∧ q.noiseFilter = .none ∧ q.bVstabOn = false ∧ q.vnfModeOff = false

/-- The condition under which everything is given back once. -/
def Op.Orderly (s : CamPrivate) : Op → Prop
  | .setComponentBuffer b env => env.Orderly b s
  | .sendCommand .stateIdle env => env.query.Allocates → env.slices.Orderly s
  | .sendCommand (.portDisable _) env => env.garbage = .notOpen
  | .sendCommand .stateLoaded env => env.free.garbage = .notOpen
  | .sendCommand .other _ => True
  | .deInit env => env.free.garbage = .notOpen ∧ env.garbage = .notOpen

instance (env : SetParamEnv) : Decidable env.Succeeds := inferInstanceAs (Decidable (_ ∧ _))

instance (env : SetParamEnv) (fd : Int) : Decidable (env.Clean fd) :=
  inferInstanceAs (Decidable (_ ∨ _))

instance (env : ComponentEnv) (b : BufferAlloc) (s : CamPrivate) : Decidable (env.Orderly b s) :=
  inferInstanceAs (Decidable (_ ∧ (_ → _)))

instance (env : PlaneEnv) : Decidable env.Orderly := inferInstanceAs (Decidable (_ ∧ (_ → _)))

instance (env : SlicesEnv) (s : CamPrivate) : Decidable (env.Orderly s) :=
  inferInstanceAs (Decidable (_ ∧ _))

instance (q : VtcQuery) : Decidable q.Allocates := inferInstanceAs (Decidable (_ ∧ _))

instance (s : CamPrivate) : ∀ op : Op, Decidable (op.Orderly s)
  | .setComponentBuffer b env => inferInstanceAs (Decidable (env.Orderly b s))
  | .sendCommand .stateIdle env => inferInstanceAs (Decidable (_ → env.slices.Orderly s))
  | .sendCommand (.portDisable _) env => inferInstanceAs (Decidable (env.garbage = .notOpen))
  | .sendCommand .stateLoaded env => inferInstanceAs (Decidable (env.free.garbage = .notOpen))
  | .sendCommand .other _ => inferInstanceAs (Decidable True)
  | .deInit _ => inferInstanceAs (Decidable (_ ∧ _))

/-! ## Accounts -/

/-- The registration of a plane that is in use. -/
def registration (a : Accessor) : Multiset ℕ :=
  if a.pBufferHandle = none then 0 else heldIn a.pRegBufferHandle

/-- The ION handles in the tables. -/
def CamPrivate.handles (s : CamPrivate) : Multiset ℕ :=
  (∑ k ∈ Finset.range numPlaces, heldIn (s.component k)) +
    ∑ p ∈ planes.toFinset, heldIn (s.internal p).pBufferHandle

/-- The registrations in the tables. -/
def CamPrivate.registrations (s : CamPrivate) : Multiset ℕ :=
  ∑ p ∈ planes.toFinset, registration (s.internal p)

/-- What was obtained and not given back is in the tables, or else it is one of the handles `ion`,
the descriptors `fds` and the registrations `regs`. -/
structure Accounts (s : CamPrivate) (ion fds regs : Multiset ℕ) : Prop where
  ion : s.res.ion.Balanced (ion + s.handles)
  fds : s.res.fds.Balanced fds
  regs : s.regs.Balanced (regs + s.registrations)
  strays : s.res.strays = 0

variable {s : CamPrivate} {ion fds regs : Multiset ℕ}

variable {k : Nat}

lemma handles_update_component (hk : k < numPlaces) (x : Option Nat) (res : Resources) :
    handles { s with component := update s.component k x, res := res } +
      heldIn (s.component k) = heldIn x + s.handles := by
  have h := sum_update heldIn s.component (Finset.mem_range.mpr hk) x
  unfold handles
  rw [add_right_comm, h, add_right_comm, add_comm (heldIn x), add_right_comm]

variable {p : Nat × Bool}

lemma handles_update_internal (hp : p ∈ planes) (a : Accessor) (res : Resources) (l : Ledger) :
    handles
        { s with internal := update s.internal p a, res := res, regs := l } +
      heldIn (s.internal p).pBufferHandle = heldIn a.pBufferHandle + s.handles := by
  have h := sum_update (fun a : Accessor => heldIn a.pBufferHandle) s.internal
    (mem_toFinset.mpr hp) a
  unfold handles
  rw [add_assoc, h, ← add_assoc, add_comm (heldIn a.pBufferHandle)]

lemma registrations_update_internal (hp : p ∈ planes) (a : Accessor) (res : Resources)
    (l : Ledger) : registrations
        { s with internal := update s.internal p a, res := res, regs := l } +
      registration (s.internal p) = registration a + s.registrations := by
  have h := sum_update registration s.internal (mem_toFinset.mpr hp) a
  unfold registrations
  rw [h, add_comm]

/-! ## Rules for the parts of an operation -/

section

variable (h : Accounts s ion fds regs)
include h

lemma Accounts.freeComponent (hk : k < numPlaces) {garbage : Fd}
    (hg : s.component k = none ∨ garbage = .notOpen) :
    Accounts (freeComponent garbage s k) ion fds regs := by
  unfold Camera.freeComponent
  split
  · exact h
  · rename_i x hx
    obtain rfl := hg.resolve_left (by simp [hx])
    have hsum := handles_update_component (s := s) hk none
      (memPluginIonFree (some x) .notOpen s.res)
    rw [hx, heldIn_none, zero_add] at hsum
    refine ⟨releaseOption ?_, h.fds, h.regs, h.strays⟩
    rw [add_left_comm, add_comm (heldIn _), hsum]
    exact h.ion

lemma Accounts.takePlane (hp : p ∈ planes) {x : Nat} (hx : (s.internal p).pBufferHandle = some x)
    {a : Accessor} (ha : a.pBufferHandle = none) : Accounts { s with
      internal := update s.internal p a
      res := memPluginIonFree (some x) .notOpen s.res
      regs := s.regs.releaseOption (s.internal p).pRegBufferHandle } ion fds regs := by
  have hion := handles_update_internal (s := s) hp a (memPluginIonFree (some x) .notOpen s.res)
    (s.regs.releaseOption (s.internal p).pRegBufferHandle)
  have hregs := registrations_update_internal (s := s) hp a
    (memPluginIonFree (some x) .notOpen s.res)
    (s.regs.releaseOption (s.internal p).pRegBufferHandle)
  simp only [hx, ha, heldIn_none, zero_add] at hion
  simp only [registration, hx, ha, reduceCtorEq, if_false, if_true, zero_add] at hregs
  refine ⟨releaseOption ?_, h.fds, releaseOption ?_, h.strays⟩
  · rw [add_left_comm, add_comm (heldIn _), hion]
    exact h.ion
  · rw [add_left_comm, add_comm (heldIn _), hregs]
    exact h.regs

lemma Accounts.freePlane (hp : p ∈ planes) {env : FreeEnv} (hg : env.garbage = .notOpen) :
    Accounts (freePlane env s p) ion fds regs := by
  unfold Camera.freePlane
  split
  · exact h
  · rename_i x hx
    have hreg : (rpcUnRegisterBuffer .ionPointers (env.unregisterOk p)
        (s.internal p).pRegBufferHandle none s.regs).2 =
        s.regs.releaseOption (s.internal p).pRegBufferHandle := by
      cases (s.internal p).pRegBufferHandle <;> rfl
    rw [hg, hreg]
    exact h.takePlane hp hx rfl

end

lemma Accounts.putComponent {x : Option Nat} (h : Accounts s (heldIn x + ion) fds regs)
    (hk : k < numPlaces) (hempty : s.component k = none) :
    Accounts { s with component := update s.component k x } ion fds regs := by
  have hsum := handles_update_component (s := s) hk x s.res
  rw [hempty, heldIn_none, add_zero] at hsum
  refine ⟨?_, h.fds, h.regs, h.strays⟩
  rw [hsum, add_left_comm, ← add_assoc]
  exact h.ion

lemma Accounts.putPlane {x g : Nat} (h : Accounts s (heldIn (some x) + ion) fds
    (heldIn (some g) + regs)) (hp : p ∈ planes) (hempty : (s.internal p).pBufferHandle = none)
    {a : Accessor} (hx : a.pBufferHandle = some x) (hreg : a.pRegBufferHandle = some g) :
    Accounts { s with internal := update s.internal p a } ion fds regs := by
  have hion := handles_update_internal (s := s) hp a s.res s.regs
  have hregs := registrations_update_internal (s := s) hp a s.res s.regs
  rw [hempty, heldIn_none, add_zero, hx] at hion
  simp only [registration, hempty, hx, hreg, reduceCtorEq, if_false, if_true, add_zero] at hregs
  refine ⟨?_, h.fds, ?_, h.strays⟩
  · rw [hion, add_left_comm, ← add_assoc]
    exact h.ion
  · rw [hregs, add_left_comm, ← add_assoc]
    exact h.regs

lemma Accounts.obtain (h : Accounts s ion fds regs) :
    Accounts { s with res := s.res.obtain } (heldIn (some s.res.ion.acquired) + ion)
      (heldIn (some s.res.fds.acquired) + fds) regs := by
  refine ⟨?_, ?_, h.regs, h.strays⟩
  · rw [add_assoc]
    exact h.ion.acquire
  · exact h.fds.acquire

lemma Accounts.close {n : Nat} (h : Accounts s ion (heldIn (some n) + fds) regs) :
    Accounts { s with res := s.res.close (.own n) } ion fds regs :=
  ⟨h.ion, h.fds.release, h.regs, h.strays⟩

/-! ## `__PROXY_SetParameter` -/

variable {fd : Int}

lemma rpcRegisterBuffer_registered (hfd : 0 ≤ fd) {env : RegisterEnv} (h : env.first = .registered)
    (handle1 handle2 : Option Nat) (l : Ledger) :
    rpcRegisterBuffer .ionPointers fd (-1) env handle1 handle2 l =
      ⟨.none, some l.acquired, handle2, l.acquire⟩ := by
  simp [rpcRegisterBuffer, Int.not_lt.mpr hfd, h, ionRegister]

lemma rpcRegisterBuffer_refused {env : RegisterEnv} (h : env.first ≠ .registered) (fd : Int)
    (handle1 handle2 : Option Nat) (l : Ledger) :
    (rpcRegisterBuffer .ionPointers fd (-1) env handle1 handle2 l).err ≠ .none ∧
      (rpcRegisterBuffer .ionPointers fd (-1) env handle1 handle2 l).reg = l := by
  unfold rpcRegisterBuffer
  split
  · exact ⟨nofun, rfl⟩
  · cases hf : env.first with
    | registered => exact absurd hf h
    | failed => exact ⟨nofun, rfl⟩
    | null => exact ⟨nofun, rfl⟩

variable {env : SetParamEnv}

lemma balanced_proxySetParameter (hc : env.Clean fd) {l : Ledger} {held : Multiset ℕ}
    (h : l.Balanced held) : (proxySetParameter env fd l).2.Balanced held := by
  unfold proxySetParameter
  by_cases hfd : fd > -1
  · simp only [if_pos hfd]
    by_cases hreg : env.register.first = .registered
    · have hcall : (checkRpcError env.rpc env.compReturn).2 = true := by
        rcases hc with hneg | href | ⟨hrpc, hret⟩
        · omega
        · exact absurd hreg href
        · simpa [checkRpcError, hrpc] using hret
      have hpos : 0 ≤ fd := by omega
      have hacq : l.acquire.Balanced (heldIn (some l.acquired) + held) := h.acquire
      simp only [rpcRegisterBuffer_registered hpos hreg, hcall, ne_eq, not_true_eq_false,
        if_false, Bool.not_true, Bool.false_eq_true]
      exact hacq.releaseOption
    · obtain ⟨herr, hsame⟩ := rpcRegisterBuffer_refused hreg fd none none l
      rw [if_pos herr, hsame]
      exact h
  · rw [if_neg hfd]
    exact h

lemma SetParamEnv.Succeeds.clean (h : env.Succeeds) (fd : Int) : env.Clean fd :=
  Or.inr (Or.inr ⟨h.2.1, Or.inl h.2.2.1⟩)

lemma proxySetParameter_of_succeeds (h : env.Succeeds) (hfd : 0 ≤ fd) (l : Ledger) :
    (proxySetParameter env fd l).1 = .none := by
  obtain ⟨hreg, hrpc, hret, hun⟩ := h
  have hpos : fd > -1 := by omega
  simp [proxySetParameter, hpos, rpcRegisterBuffer_registered hfd hreg, hrpc, hret, checkRpcError,
    rpcUnRegisterBuffer, hun]

lemma Accounts.setParameter (h : Accounts s ion fds regs) (hc : env.Clean fd) :
    Accounts { s with regs := (proxySetParameter env fd s.regs).2 } ion fds
      regs :=
  ⟨h.ion, h.fds, balanced_proxySetParameter hc h.regs, h.strays⟩

/-! ## The operations -/

lemma component_freeComponent (garbage : Fd) (s : CamPrivate) (k : Nat) :
    (freeComponent garbage s k).component k = none := by
  unfold freeComponent
  split
  · assumption
  · exact update_self ..

namespace Accounts

lemma setComponentBuffer {b : BufferAlloc} {env : ComponentEnv} {prop : BufferProp}
    (h : Accounts s (heldIn prop.pBufferHandle + ion) (heldIn (some prop.bufferFd) + fds) regs)
    (hk : place b.nPortIndex b.nIndex < numPlaces) (hset : env.set.Succeeds)
    (hg : s.component (place b.nPortIndex b.nIndex) = none ∨ env.garbage = .notOpen) :
    Accounts (setComponentBuffer b env prop s).1 ion fds regs := by
  have hnone := proxySetParameter_of_succeeds hset (Int.natCast_nonneg prop.bufferFd) s.regs
  have hfreed := (h.setParameter (hset.clean (prop.bufferFd : Int))).freeComponent hk hg
  have hput := hfreed.putComponent hk (component_freeComponent ..)
  simp only [Camera.setComponentBuffer, hnone, ne_eq, not_true_eq_false, if_false]
  exact hput.close

lemma glueCameraSetParam (h : Accounts s 0 0 0) {b : BufferAlloc} {env : ComponentEnv}
    (ho : env.Orderly b s) : Accounts (glueCameraSetParam b env s).1 0 0 0 := by
  obtain ⟨hkept, hok⟩ := ho
  unfold Camera.glueCameraSetParam
  split
  · exact h
  · generalize hp : tilerParams (b.nAllocWidth * b.nAllocLines % 2 ^ 32) 1 .page = params
    rcases memPluginIonAlloc_tiler1D params (hp ▸ rfl) (hp ▸ rfl) hkept .tilerMask
      s.res with ⟨e, hout⟩ | ⟨hhandle, hout⟩
    · simp only [hout]
      exact h
    · obtain ⟨hk, hset, hg⟩ := hok hhandle
      simp only [hout]
      exact Accounts.setComponentBuffer h.obtain hk hset hg

/-- **Allocating a plane of a slice** fails and changes nothing, or fills its place. -/
lemma allocPlane (h : Accounts s 0 0 0) (hp : p ∈ planes)
    (hempty : (s.internal p).pBufferHandle = none) {env : PlaneEnv} (ho : env.Orderly)
    (params : BufferParams) (htype : params.eBufferType = .tiler1D) (hmap : params.bMap = false) :
    allocPlane params env p s = (s, .noMemory) ∨
      ∃ s' x g, allocPlane params env p s = (s', .done) ∧ Accounts s' 0 0 0 ∧
        s'.internal = update s.internal p
          { s.internal p with pBufferHandle := some x, pRegBufferHandle := some g } := by
  obtain ⟨hkept, hreg⟩ := ho
  unfold Camera.allocPlane
  rcases memPluginIonAlloc_tiler1D params htype hmap hkept .tilerMask s.res with
    ⟨e, hout⟩ | ⟨hhandle, hout⟩
  · simp only [hout]
    exact Or.inl trivial
  · have hfd := Int.natCast_nonneg s.res.fds.acquired
    simp only [hout, rpcRegisterBuffer_registered hfd (hreg hhandle), ne_eq, not_true_eq_false,
      if_false]
    refine Or.inr ⟨_, _, _, rfl, ?_, rfl⟩
    have hall : Accounts { s with res := s.res.obtain, regs := s.regs.acquire }
        (heldIn (some s.res.ion.acquired) + 0) (heldIn (some s.res.fds.acquired) + 0)
        (heldIn (some s.regs.acquired) + 0) :=
      ⟨h.obtain.ion, h.obtain.fds, by
        rw [add_assoc]
        exact h.regs.acquire, h.strays⟩
    exact (hall.putPlane hp hempty rfl rfl).close

lemma dropLuminance (h : Accounts s 0 0 0) {i : Nat} (hi : (i, false) ∈ planes)
    {env : SlicesEnv} (hun : env.unregisterOk i = true) (hg : env.garbage = .notOpen) {x g : Nat}
    (hx : (s.internal (i, false)).pBufferHandle = some x)
    (hreg : (s.internal (i, false)).pRegBufferHandle = some g) :
    Accounts (dropLuminance env i s).1 0 0 0 := by
  have htaken {a : Accessor} (ha : a.pBufferHandle = none) := h.takePlane hi hx ha
  simp only [hreg] at htaken
  simp only [Camera.dropLuminance, hreg, rpcUnRegisterBuffer, hun, freeLuminance, hx, hg,
    reduceCtorEq, false_and, or_self, if_false, if_true, ne_eq, not_true_eq_false]
  exact htaken rfl

lemma vtcFreeMemory (h : Accounts s ion fds regs) {env : FreeEnv}
    (hg : env.garbage = .notOpen) : Accounts (vtcFreeMemory env s) ion fds regs := by
  refine foldlRecOn (motive := fun s => Accounts s ion fds regs) planes _ h ?_
  intro s hs p hp
  exact hs.freePlane hp hg

lemma freeComponents (h : Accounts s ion fds regs) {garbage : Fd}
    (hg : garbage = .notOpen) {ks : List Nat} (hks : ∀ k ∈ ks, k < numPlaces) :
    Accounts (ks.foldl (Camera.freeComponent garbage) s) ion fds regs := by
  refine foldlRecOn (motive := fun s => Accounts s ion fds regs) ks _ h ?_
  intro s hs k hk
  exact hs.freeComponent (hks k hk) (Or.inr hg)

end Accounts

lemma mem_planes : p ∈ planes ↔ p.1 < maxNumInternalBuffers := by
  obtain ⟨i, b⟩ := p
  cases b <;> simp [planes]

/-- **One slice** leaves the places of the others as they were. -/
lemma Accounts.allocSlice (h : Accounts s 0 0 0) {i : Nat} (hi : i < maxNumInternalBuffers)
    (hempty : ∀ b, (s.internal (i, b)).pBufferHandle = none) {env : SlicesEnv}
    (hplane : ∀ b, (env.plane (i, b)).Orderly) (hun : env.unregisterOk i = true)
    (hset : (env.set i).Clean (env.aux i)) (hg : env.garbage = .notOpen)
    (hfree : env.free.garbage = .notOpen) (width height : Nat) :
    Accounts (allocSlice width height env i s).1 0 0 0 ∧
      ((allocSlice width height env i s).2 = none → ∀ j ≠ i, ∀ b,
        (allocSlice width height env i s).1.internal (j, b) = s.internal (j, b)) := by
  have hp : ∀ b, (i, b) ∈ planes := fun b => mem_planes.mpr hi
  unfold Camera.allocSlice
  rcases h.allocPlane (hp false) (hempty false) (hplane false)
    (tilerParams width height .bit8) rfl rfl with hy | ⟨s₁, x, g, hy, h₁, hint₁⟩
  · rw [hy]
    exact ⟨h, nofun⟩
  · have hempty₁ : (s₁.internal (i, true)).pBufferHandle = none := by
      rw [hint₁, update_of_ne (by simp)]
      exact hempty true
    simp only [hy]
    rcases h₁.allocPlane (hp true) hempty₁ (hplane true)
      (tilerParams (width / 2) (height / 2) .bit16) rfl rfl with
      huv | ⟨s₂, x', g', huv, h₂, hint₂⟩
    · simp only [huv]
      refine ⟨h₁.dropLuminance (hp false) hun hg (x := x) (g := g) ?_ ?_, nofun⟩
      · rw [hint₁, update_self]
      · rw [hint₁, update_self]
    · simp only [huv]
      have h₃ := h₂.setParameter hset
      split
      · exact ⟨h₃.vtcFreeMemory hfree, nofun⟩
      · refine ⟨h₃, fun _ j hj b => ?_⟩
        have hne : ∀ c, (j, b) ≠ (i, c) := fun c hc => hj (congrArg Prod.fst hc)
        show s₂.internal (j, b) = s.internal (j, b)
        rw [hint₂, update_of_ne (hne true), hint₁, update_of_ne (hne false)]

lemma Accounts.allocSlices {env : SlicesEnv} (width height : Nat)
    (hplane : ∀ p ∈ planes, (env.plane p).Orderly) (hset : ∀ i < maxNumInternalBuffers,
      env.unregisterOk i = true ∧ (env.set i).Clean (env.aux i))
    (hg : env.garbage = .notOpen) (hfree : env.free.garbage = .notOpen) {is : List Nat}
    (hnodup : is.Nodup) (his : ∀ i ∈ is, i < maxNumInternalBuffers) {s : CamPrivate}
    (hempty : ∀ i ∈ is, ∀ b, (s.internal (i, b)).pBufferHandle = none) (h : Accounts s 0 0 0) :
    Accounts (allocSlices width height env is s).1 0 0 0 := by
  induction is generalizing s with
  | nil => exact h
  | cons i is ih =>
    obtain ⟨hnotin, hnodup⟩ := nodup_cons.mp hnodup
    obtain ⟨hi, his⟩ := forall_mem_cons.mp his
    obtain ⟨hempty_i, hempty⟩ := forall_mem_cons.mp hempty
    have hp : ∀ b, (env.plane (i, b)).Orderly := fun b => hplane _ (mem_planes.mpr hi)
    obtain ⟨h', hframe⟩ := h.allocSlice hi hempty_i hp (hset i hi).1 (hset i hi).2 hg hfree width
      height
    unfold Camera.allocSlices
    generalize Camera.allocSlice width height env i s = r at h' hframe ⊢
    obtain ⟨s', _ | e⟩ := r
    · refine ih hnodup his (fun j hj b => ?_) h'
      have hji : j ≠ i := fun hji => hnotin (hji ▸ hj)
      exact (congrArg Accessor.pBufferHandle (hframe rfl j hji b)).trans (hempty j hj b)
    · exact h'

/-- **Going to idle.** -/
lemma Accounts.vtcAllocateMemory (h : Accounts s 0 0 0) {env : SlicesEnv} {q : VtcQuery}
    (ho : q.Allocates → env.Orderly s) : Accounts (vtcAllocateMemory q env s).1 0 0 0 := by
  have hslices (hq : q.Allocates) :
      Accounts (glueCameraVtcAllocateMemory q.frame.1 q.frame.2 env s).1 0 0 0 := by
    obtain ⟨hplane, hset, hg, hfree⟩ := ho hq
    unfold glueCameraVtcAllocateMemory
    split
    · exact h
    · exact h.allocSlices _ _ (fun p hp => (hplane p hp).2) hset hg hfree nodup_range
        (fun i hi => mem_range.mp hi)
        fun i hi b => (hplane (i, b) (mem_planes.mpr (mem_range.mp hi))).1
  unfold Camera.vtcAllocateMemory
  split_ifs with hstate hslice hstab hnoise hmodes
  · exact h
  · exact h
  · exact h
  · exact hslices ⟨not_not.mp hstate, hslice, not_not.mp hstab, not_not.mp hnoise, hmodes⟩
  · exact h
  · exact h

lemma lt_of_mem_portPlaces {port k : Nat} (hport : port < maxNumOfPorts)
    (hk : k ∈ portPlaces port) : k < numPlaces := by
  obtain ⟨i, hi, rfl⟩ := mem_map.mp hk
  have hi := mem_range.mp hi
  unfold place numPlaces
  unfold maxNumOfPorts at *
  unfold maxNumInternalBuffers at *
  omega

lemma lt_of_mem_disabledPlaces {nParam k : Nat} (hk : k ∈ disabledPlaces nParam) :
    k < numPlaces := by
  obtain ⟨port, hport, hk⟩ := mem_flatMap.mp hk
  split at hk
  · exact lt_of_mem_portPlaces (mem_range.mp hport) hk
  · exact absurd hk not_mem_nil

lemma mem_allPlaces : k ∈ allPlaces ↔ k < numPlaces := by
  constructor
  · intro hk
    obtain ⟨port, hport, hk⟩ := mem_flatMap.mp hk
    exact lt_of_mem_portPlaces (mem_range.mp hport) hk
  · revert k
    decide

/-! ## Teardown -/

/-- What the visit of a place establishes, and no visit undoes, holds of all places at the end. -/
lemma forall_mem_foldl {α σ : Type*} {op : σ → α → σ} {E : α → σ → Prop}
    (hset : ∀ s a, E a (op s a)) (hkeep : ∀ s a b, E a s → E a (op s b)) (l : List α) (s : σ) :
    ∀ a ∈ l, E a (l.foldl op s) := by
  induction l generalizing s with
  | nil => nofun
  | cons b l ih =>
    intro a ha
    rcases mem_cons.mp ha with rfl | ha
    · exact foldlRecOn (motive := E a) l op (hset s a) fun s hs b _ => hkeep s a b hs
    · exact ih _ a ha

lemma component_eq_none_of_freeComponent (garbage : Fd) (j : Nat) (hk : s.component k = none) :
    (freeComponent garbage s j).component k = none := by
  unfold freeComponent
  split
  · exact hk
  · rcases eq_or_ne k j with rfl | hkj
    · exact update_self ..
    · exact (update_of_ne hkj ..).trans hk

lemma pBufferHandle_freePlane (env : FreeEnv) (s : CamPrivate) (p : Nat × Bool) :
    ((freePlane env s p).internal p).pBufferHandle = none := by
  unfold freePlane
  split
  · assumption
  · exact congrArg Accessor.pBufferHandle (update_self p _ s.internal)

lemma pBufferHandle_eq_none_of_freePlane (env : FreeEnv) (q : Nat × Bool)
    (hp : (s.internal p).pBufferHandle = none) :
    ((freePlane env s q).internal p).pBufferHandle = none := by
  rcases eq_or_ne p q with rfl | hpq
  · exact pBufferHandle_freePlane env s p
  · unfold freePlane
    split
    · exact hp
    · exact (congrArg Accessor.pBufferHandle (update_of_ne hpq ..)).trans hp

lemma internal_freeComponent (garbage : Fd) (s : CamPrivate) (k : Nat) :
    (freeComponent garbage s k).internal = s.internal := by
  unfold freeComponent
  split <;> rfl

/-- **After the teardown the tables are empty.** -/
lemma tables_componentPrivateDeInit (env : DeInitEnv) (s : CamPrivate) :
    (∀ k < numPlaces, (componentPrivateDeInit env s).component k = none) ∧
      ∀ p ∈ planes, ((componentPrivateDeInit env s).internal p).pBufferHandle = none := by
  constructor
  · intro k hk
    exact forall_mem_foldl (E := fun k s => s.component k = none)
      (fun s k => component_freeComponent env.garbage s k)
      (fun s k j hk => component_eq_none_of_freeComponent env.garbage j hk) allPlaces _ k
      (mem_allPlaces.mpr hk)
  · intro p hp
    have hint : (componentPrivateDeInit env s).internal = (vtcFreeMemory env.free s).internal :=
      foldlRecOn (motive := fun s' => s'.internal = (vtcFreeMemory env.free s).internal)
        allPlaces _ rfl fun s hs k _ => (internal_freeComponent env.garbage s k).trans hs
    rw [hint]
    exact forall_mem_foldl (E := fun p s => (s.internal p).pBufferHandle = none)
      (fun s p => pBufferHandle_freePlane env.free s p)
      (fun s p q hp => pBufferHandle_eq_none_of_freePlane env.free q hp) planes s p hp

lemma Accounts.settled (h : Accounts s 0 0 0) (hc : ∀ k < numPlaces, s.component k = none)
    (hi : ∀ p ∈ planes, (s.internal p).pBufferHandle = none) : s.Settled := by
  have hcomp : ∑ k ∈ Finset.range numPlaces, heldIn (s.component k) = 0 :=
    Finset.sum_eq_zero fun k hk => by rw [hc k (Finset.mem_range.mp hk), heldIn_none]
  have hint : ∑ p ∈ planes.toFinset, heldIn (s.internal p).pBufferHandle = 0 :=
    Finset.sum_eq_zero fun p hp => by rw [hi p (mem_toFinset.mp hp), heldIn_none]
  have hreg : s.registrations = 0 :=
    Finset.sum_eq_zero fun p hp => if_pos (hi p (mem_toFinset.mp hp))
  have hion := h.ion
  have hregs := h.regs
  unfold handles at hion
  rw [hcomp, hint] at hion
  rw [hreg] at hregs
  exact ⟨hion.settled, hregs.settled, h.fds.settled, h.strays⟩

/-! ## Runs -/

lemma accounts_init : Accounts .init 0 0 0 := by
  refine ⟨?_, balanced_empty, ?_, rfl⟩
  · simp [init, handles, Accessor.zero, Resources.empty]
  · simp [init, registrations, registration, Accessor.zero]

lemma Accounts.next {c c' : Component} (h : Accounts c.cam 0 0 0) {op : Op}
    (ho : op.Orderly c.cam) (hn : c.next op = some c') :
    Accounts c'.cam 0 0 0 ∧ (c'.live = false → c'.cam.Settled) := by
  obtain ⟨-, hn⟩ := Option.ite_none_right_eq_some.mp hn
  cases op with
  | setComponentBuffer b env =>
    obtain rfl := Option.some.inj hn
    exact ⟨h.glueCameraSetParam ho, nofun⟩
  | sendCommand cmd env =>
    obtain rfl := Option.some.inj hn
    refine ⟨?_, nofun⟩
    cases cmd with
    | stateIdle =>
      have hslices : env.query.Allocates → env.slices.Orderly c.cam := ho
      have hvtc := h.vtcAllocateMemory hslices
      unfold cameraSendCommand
      generalize Camera.vtcAllocateMemory env.query env.slices c.cam = r at hvtc ⊢
      dsimp only
      split <;> exact hvtc
    | stateLoaded =>
      have hg : env.free.garbage = .notOpen := ho
      exact h.vtcFreeMemory hg
    | portDisable nParam => exact h.freeComponents ho fun k hk => lt_of_mem_disabledPlaces hk
    | other => exact h
  | deInit env =>
    obtain rfl := Option.some.inj hn
    have h' : Accounts (componentPrivateDeInit env c.cam) 0 0 0 :=
      (h.vtcFreeMemory ho.1).freeComponents ho.2 fun k hk => mem_allPlaces.mp hk
    obtain ⟨hc, hi⟩ := tables_componentPrivateDeInit env c.cam
    exact ⟨h', fun _ => h'.settled hc hi⟩

/-- **Everything is given back once, and nothing else, when the component is torn down**, in every
run of orderly operations. -/
theorem torn_down_settled {c : Component} (hr : ReachableWith (fun s op => op.Orderly s) c)
    (hlive : c.live = false) : c.cam.Settled := by
  have hinv : Accounts c.cam 0 0 0 ∧ (c.live = false → c.cam.Settled) := by
    refine hr.invariant (fun c => Accounts c.cam 0 0 0 ∧ (c.live = false → c.cam.Settled)) ?_ ?_
    · rintro c rfl
      exact ⟨accounts_init, nofun⟩
    · rintro c op c' ⟨h, -⟩ ⟨ho, hn⟩
      exact h.next ho hn
  exact hinv.2 hlive

/-! ### Sample runs -/

/-- A plugin that has memory, and shares it. -/
def sampleAlloc : AllocEnv := ⟨.handle, .handle, .failed, .shared, 0⟩

/-- A call that the remote core answers, or not. -/
def sampleSet (rpc : Rpc.RpcError) : SetParamEnv :=
  ⟨⟨.registered, .registered, .failed⟩, rpc, .none, true⟩

/-- The first buffer of the third port. -/
def sampleBuffer (rpc : Rpc.RpcError) : Op :=
  .setComponentBuffer ⟨2, 0, 640, 480⟩ ⟨true, sampleAlloc, sampleSet rpc, .notOpen⟩

/-- Commands to a component that uses slices. -/
def sampleCommand (loaded : Bool) (register : IonResult) (cmd : Command) : Op :=
  .sendCommand cmd
    { query := ⟨.none, loaded, .none, 16, some (64, 64), .none, false, .none, false⟩
      slices :=
        { ionParams := true
          plane := fun _ => ⟨sampleAlloc, ⟨register, .failed, .failed⟩⟩
          unregisterOk := fun _ => true
          garbage := .notOpen
          aux := fun _ => -1
          set := fun _ => sampleSet .none
          free := ⟨.notOpen, fun _ => true⟩ }
      free := ⟨.notOpen, fun _ => true⟩
      garbage := .notOpen
      remote := .none }

/-- The teardown. -/
def sampleDeInit (garbage : Fd) : Op := .deInit ⟨⟨garbage, fun _ => true⟩, garbage⟩

/-- A component buffer is allocated and replaced, the component becomes idle, which allocates
slices, executes, becomes idle again and is unloaded; the port is disabled and the component is torn
down. -/
theorem torn_down_after_slices : ∃ c, ReachableWith (fun s op => op.Orderly s) c ∧ c.live = false ∧
      c.cam.res.ion.acquired = 10 ∧ c.cam.regs.acquired = 10 ∧ c.cam.Settled := by
  obtain ⟨c, hr, hlive, hion, hregs⟩ : ∃ c, ReachableWith (fun s op => op.Orderly s) c ∧
      c.live = false ∧ c.cam.res.ion.acquired = 10 ∧ c.cam.regs.acquired = 10 :=
    exists_of_run rfl [sampleBuffer .none, sampleBuffer .none,
      sampleCommand true .registered .stateIdle, sampleCommand false .registered .other,
      sampleCommand false .registered .stateIdle, sampleCommand false .registered .stateLoaded,
      sampleCommand true .registered (.portDisable 2), sampleDeInit .notOpen] (by decide +kernel)
  exact ⟨c, hr, hlive, hion, hregs, torn_down_settled hr hlive⟩

/-- A slice cannot be registered and its handle is not freed; the remote core refuses a component
buffer, which stays registered and whose descriptor is closed twice; and the descriptor that is
closed with a component buffer is one of another part of the process. -/
theorem torn_down_unsettled :
    (∃ c, ReachableWith (fun _ _ => True) c ∧ c.live = false ∧ ¬c.cam.res.ion.Settled) ∧
      (∃ c, ReachableWith (fun _ _ => True) c ∧ c.live = false ∧ ¬c.cam.regs.Settled ∧
        c.cam.res.fds.released.count 0 = 2) ∧
      ∃ c, ReachableWith (fun _ _ => True) c ∧ c.live = false ∧ c.cam.res.strays = 1 := by
  refine ⟨?_, ?_, ?_⟩
  · obtain ⟨c, hr, hlive, hion⟩ : ∃ c, ReachableWith (fun _ _ => True) c ∧ c.live = false ∧
        c.cam.res.ion = ⟨1, []⟩ :=
      exists_of_run rfl [sampleCommand true .failed .stateIdle, sampleDeInit .notOpen]
        (by decide +kernel)
    refine ⟨c, hr, hlive, fun hsettled => ?_⟩
    rw [hion] at hsettled
    exact absurd (hsettled 0) (by decide)
  · obtain ⟨c, hr, hlive, hregs, hfds⟩ : ∃ c, ReachableWith (fun _ _ => True) c ∧ c.live = false ∧
        c.cam.regs = ⟨1, []⟩ ∧ c.cam.res.fds.released.count 0 = 2 :=
      exists_of_run rfl [sampleBuffer .hardware, sampleDeInit .notOpen] (by decide +kernel)
    refine ⟨c, hr, hlive, fun hsettled => ?_, hfds⟩
    rw [hregs] at hsettled
    exact absurd (hsettled 0) (by decide)
  · exact exists_of_run rfl [sampleBuffer .none, sampleDeInit .foreign] (by decide +kernel)

end Solana.Camera
