import Solana.Lib.Runs
import Mathlib.Algebra.GroupWithZero.Nat
import Mathlib.Data.Finset.Basic

/-!
# The handles of the OMX core

`OMX_GetHandle` and `OMX_FreeHandle`.  The core keeps two arrays of the same size, one with the
libraries it has loaded and one with the handles of their components, and a slot is taken as long
as its library is not null.  Both functions run under the mutex of the core, so their calls come
one after the other.

The dynamic linker, `malloc` and the functions of the component may fail; their outcomes are the
fields of `GetCall`.  `live` are the blocks that `malloc` has returned and that were not freed,
and `returned` are the handles that a call returned with success and that were not freed since.
The latter is not a variable of the source.
-/

namespace Solana.OmxCore

open Runs Function Finset Option

/-- `MAXCOMP`, the size of `pModules` and `pComponents`. -/
def maxComp : Nat := 50

instance : NeZero maxComp := ⟨by decide⟩

/-- `MAXNAMESIZE`. -/
def maxNameSize : Nat := 128

/-- `OMX_ERRORTYPE`, as far as the core distinguishes its values. -/
inductive OmxError
  | none
  | badParameter
  | undefined
  | invalidComponentName
  | insufficientResources
  | componentNotFound
  | invalidComponent
  | other (code : Nat)
  deriving DecidableEq

/-- The variables of the core. -/
structure Core where
  count : Nat
  pModules : Fin maxComp → Option Nat
  pComponents : Fin maxComp → Option Nat
  live : Finset Nat
  returned : Finset Nat

/-- Before the first component. -/
def Core.init (count : Nat) : Core := ⟨count, fun _ => none, fun _ => none, ∅, ∅⟩

/-- A call of `OMX_GetHandle`: its arguments and the outcomes of what it calls. -/
structure GetCall where
  /-- The name, unless it is null. -/
  cComponentName : Option (List Char)
  /-- Are `pHandle` and `pCallBacks` not null? -/
  pHandle : Bool
  pCallBacks : Bool
  /-- The mode read from the misc driver, if it can be opened and read. -/
  secureMode : Option Nat
  dlopen : Option Nat
  /-- Does `dlsym` find `OMX_ComponentInit`? -/
  dlsym : Bool
  malloc : Option Nat
  componentInit : OmxError
  setCallbacks : OmxError

/-- `malloc` does not return a block that is in use. -/
def GetCall.Possible (c : GetCall) (s : Core) : Prop := ∀ h, c.malloc = some h → h ∉ s.live

instance (c : GetCall) (s : Core) : Decidable (c.Possible s) :=
  match hm : c.malloc with
  | none => isTrue fun _ hh => absurd (hm.symm.trans hh) nofun
  | some h => decidable_of_iff (h ∉ s.live)
      ⟨fun hl _ hh => Option.some.inj (hm.symm.trans hh) ▸ hl, fun hp => hp h hm⟩

/-- The checks of the arguments, with the error of the first that fails. -/
def Core.checkArguments (s : Core) (c : GetCall) : OmxError :=
  match c.cComponentName with
  | none => .badParameter
  | some name =>
    if c.pHandle = false then .badParameter
    else if c.pCallBacks = false then .badParameter
    else if s.count = 0 then .undefined
    else if maxNameSize ≤ name.length then .invalidComponentName
    else .none

/-- The first slot without a library. -/
def Core.emptySlot (s : Core) : Option (Fin maxComp) :=
  (List.finRange maxComp).find? fun i => (s.pModules i).isNone

/-- Is the component refused because the device is in secure mode? -/
def GetCall.refusedAsNonSecure (c : GetCall) : Bool :=
  decide (c.secureMode = some 1) && !decide ("secure".toList <:+: c.cComponentName.getD [])

/-- What `OMX_GetHandle` returns: the core, the error, and what it has stored in `*pHandle`. -/
structure GetResult where
  core : Core
  eError : OmxError
  stored : Option (Option Nat)

/-- The part of `OMX_GetHandle` after the library `m` was loaded into the slot `i`. -/
def Core.loadComponent (s : Core) (c : GetCall) (i : Fin maxComp) (m : Nat) : GetResult :=
  let loaded := { s with pModules := Function.update s.pModules i (some m) }
  if c.dlsym = false then ⟨loaded, .invalidComponent, none⟩
  else
    match c.malloc with
    | none => ⟨loaded, .insufficientResources, some none⟩
    | some h =>
      if c.componentInit = .none then
        let core := { loaded with
          pComponents := Function.update s.pComponents i (some h)
          live := insert h s.live }
        if c.setCallbacks = .none then
          ⟨{ core with returned := insert h s.returned }, .none, some (some h)⟩
        else ⟨core, c.setCallbacks, some (some h)⟩
      else
        -- the library is closed, but its slot is not set to null
        ⟨{ loaded with pComponents := Function.update s.pComponents i none }, c.componentInit,
          some none⟩

/-- `OMX_GetHandle`. -/
def Core.getHandle (s : Core) (c : GetCall) : GetResult :=
  let eError := s.checkArguments c
  if eError ≠ .none then ⟨s, eError, none⟩
  else
    match s.emptySlot with
    | none => ⟨s, .insufficientResources, none⟩
    | some i =>
      if c.refusedAsNonSecure then ⟨s, .componentNotFound, none⟩
      else
        match c.dlopen with
        | none => ⟨s, .componentNotFound, none⟩
        | some m => s.loadComponent c i m

/-- The slot with a handle. -/
def Core.slotOf (s : Core) (h : Nat) : Option (Fin maxComp) :=
  (List.finRange maxComp).find? fun i => s.pComponents i = some h

/-- `OMX_FreeHandle`.  An error of `ComponentDeInit` is only logged. -/
def Core.freeHandle (s : Core) (hComponent : Option Nat) : Core × OmxError :=
  match hComponent with
  | none => (s, .badParameter)
  | some h =>
    if s.count = 0 then (s, .undefined)
    else
      match s.slotOf h with
      | none => (s, .badParameter)
      | some i =>
        ({ s with
            pModules := Function.update s.pModules i none
            pComponents := Function.update s.pComponents i none
            live := s.live.erase h
            returned := s.returned.erase h }, .none)

/-! ## Runs -/

/-- A call of the core. -/
inductive Call
  | getHandle (c : GetCall)
  | freeHandle (hComponent : Option Nat)

/-- The core after a call, if the call is possible. -/
def Core.next (s : Core) : Call → Option Core
  | .getHandle c => if c.Possible s then some (s.getHandle c).core else none
  | .freeHandle hComponent => some (s.freeHandle hComponent).1

/-- The states of the core after some calls that meet a condition. -/
def Core.ReachableWith (Cond : Core → Call → Prop) : Core → Prop :=
  Reachable (fun s => ∃ count, s = .init count) fun s c s' => Cond s c ∧ s.next c = some s'

/-! ## What the slots hold -/

/-- A slot holds a handle that was returned with success and was not freed. -/
def Core.HoldsReturned (s : Core) (i : Fin maxComp) : Prop :=
  ∃ h ∈ s.returned, s.pComponents i = some h

/-- A slot has a library exactly when it holds such a handle. -/
def Core.SlotsExact (s : Core) : Prop := ∀ i, s.pModules i ≠ none ↔ s.HoldsReturned i

/-- A call that gets its library loaded also gets the rest done. -/
def Completes (s : Core) : Call → Bool
  | .getHandle c =>
    decide (s.checkArguments c ≠ .none) || s.emptySlot.isNone || c.refusedAsNonSecure ||
      c.dlopen.isNone ||
      (c.dlsym && c.malloc.isSome && decide (c.componentInit = .none) &&
        decide (c.setCallbacks = .none))
  | .freeHandle _ => true

/-- The slots are exact, and no two of them hold the same handle. -/
structure Core.Inv (s : Core) : Prop where
  exact : s.SlotsExact
  returned_live : ∀ h ∈ s.returned, h ∈ s.live
  null : ∀ i, s.pModules i = none → s.pComponents i = none
  inj : ∀ i j h, s.pComponents i = some h → s.pComponents j = some h → i = j

variable {s : Core} {i : Fin maxComp}

namespace Core

lemma Inv.mem_returned (hi : s.Inv) {h : Nat} (hc : s.pComponents i = some h) : h ∈ s.returned := by
  have hm : s.pModules i ≠ none := fun hm => by simp [hi.null i hm] at hc
  obtain ⟨h', hr, hc'⟩ := (hi.exact i).mp hm
  rwa [some.inj (hc.symm.trans hc')]

lemma inv_init (count : Nat) : (Core.init count).Inv where
  exact i := by simp [Core.init, HoldsReturned]
  returned_live h hh := by simp [Core.init] at hh
  null _ _ := rfl
  inj i j h hi := by simp [Core.init] at hi

/-- `OMX_GetHandle` leaves the core as it is, without success, or loads a library. -/
lemma getHandle_cases (s : Core) (c : GetCall) :
    ((s.getHandle c).core = s ∧ (s.getHandle c).eError ≠ .none ∧
      ((s.getHandle c).eError = .insufficientResources → s.emptySlot = none) ∧
      Completes s (.getHandle c) = true) ∨
    ∃ i m, s.emptySlot = some i ∧ c.dlopen = some m ∧ s.getHandle c = s.loadComponent c i m ∧
      (Completes s (.getHandle c) = true ↔ c.dlsym = true ∧ c.malloc.isSome = true ∧
        c.componentInit = .none ∧ c.setCallbacks = .none) := by
  simp only [getHandle, Completes]
  by_cases harg : s.checkArguments c = .none
  · rw [if_neg (not_not.mpr harg)]
    cases hslot : s.emptySlot with
    | none => exact .inl ⟨rfl, nofun, fun _ => rfl, by simp⟩
    | some i =>
      cases hsec : c.refusedAsNonSecure with
      | true => exact .inl ⟨rfl, nofun, nofun, by simp⟩
      | false =>
        cases hdl : c.dlopen with
        | none => exact .inl ⟨rfl, nofun, nofun, by simp⟩
        | some m => exact .inr ⟨i, m, rfl, rfl, rfl, by simp [harg, and_assoc]⟩
  · rw [if_pos harg]
    refine .inl ⟨rfl, harg, fun he => ?_, by simp [harg]⟩
    -- the arguments are never refused for lack of resources
    have hne : s.checkArguments c ≠ .insufficientResources := by
      unfold checkArguments
      split <;> [exact nofun; split_ifs <;> exact nofun]
    exact absurd he hne

lemma emptySlot_some (h : s.emptySlot = some i) : s.pModules i = none := by
  have := List.find?_some h
  simpa using this

lemma emptySlot_none (h : s.emptySlot = none) (i : Fin maxComp) : s.pModules i ≠ none := by
  have := List.find?_eq_none.mp h i (List.mem_finRange i)
  simpa using this

lemma loadComponent_complete {c : GetCall} {m h : Nat} (hsym : c.dlsym = true)
    (hmalloc : c.malloc = some h) (hinit : c.componentInit = .none)
    (hset : c.setCallbacks = .none) : s.loadComponent c i m = ⟨{ s with
          pModules := update s.pModules i (some m)
          pComponents := update s.pComponents i (some h)
          live := insert h s.live
          returned := insert h s.returned }, .none, some (some h)⟩ := by
  simp [loadComponent, hsym, hmalloc, hinit, hset]

lemma loadComponent_incomplete (hi : s.Inv) {c : GetCall} {m : Nat} (hp : c.Possible s)
    (hslot : s.pModules i = none)
    (hinc : ¬(c.dlsym = true ∧ c.malloc.isSome = true ∧ c.componentInit = .none ∧
      c.setCallbacks = .none)) : (s.loadComponent c i m).core.pModules i ≠ none ∧
      ¬(s.loadComponent c i m).core.HoldsReturned i := by
  have hnull : s.pComponents i = none := hi.null i hslot
  unfold loadComponent
  cases hsym : c.dlsym with
  | false => simp [HoldsReturned, hnull]
  | true =>
    cases hmalloc : c.malloc with
    | none => simp [HoldsReturned, hnull]
    | some h =>
      by_cases hinit : c.componentInit = .none
      · have hset : c.setCallbacks ≠ .none := fun hset =>
          hinc ⟨hsym, by simp [hmalloc], hinit, hset⟩
        -- the handle is a new block, so it was not returned before
        have hnew : h ∉ s.returned := fun hr => hp h hmalloc (hi.returned_live h hr)
        simp [HoldsReturned, hinit, hset, hnew]
      · simp [HoldsReturned, hinit]

lemma Inv.take (hi : s.Inv) {m h : Nat} (hnew : h ∉ s.live) : Core.Inv { s with
      pModules := update s.pModules i (some m)
      pComponents := update s.pComponents i (some h)
      live := insert h s.live
      returned := insert h s.returned } := by
  have hother : ∀ j, s.pComponents j ≠ some h := fun j hj =>
    hnew (hi.returned_live h (hi.mem_returned hj))
  refine ⟨fun j => ?_, fun h' hr => ?_, fun j hj => ?_, fun j k h' hj hk => ?_⟩
  · by_cases hji : j = i
    · simp [hji, HoldsReturned]
    · have hex := hi.exact j
      simp only [HoldsReturned] at hex
      simp only [HoldsReturned, update_of_ne hji, exists_mem_insert, hex, hother j, false_or]
  · rcases mem_insert.mp hr with rfl | hr
    · exact mem_insert_self _ _
    · exact mem_insert_of_mem (hi.returned_live h' hr)
  · by_cases hji : j = i
    · simp [hji] at hj
    · simp only [update_of_ne hji] at hj ⊢
      exact hi.null j hj
  · by_cases hji : j = i <;> by_cases hki : k = i
    · rw [hji, hki]
    · simp only [hji, update_self, update_of_ne hki] at hj hk
      exact absurd (hk.trans hj.symm) (hother k)
    · simp only [hki, update_self, update_of_ne hji] at hj hk
      exact absurd (hj.trans hk.symm) (hother j)
    · simp only [update_of_ne hji, update_of_ne hki] at hj hk
      exact hi.inj j k h' hj hk

lemma Inv.clear (hi : s.Inv) {h : Nat} (hc : s.pComponents i = some h) : Core.Inv { s with
      pModules := update s.pModules i none
      pComponents := update s.pComponents i none
      live := s.live.erase h
      returned := s.returned.erase h } := by
  have hother : ∀ j, j ≠ i → ∀ h', s.pComponents j = some h' → h' ≠ h := fun j hji h' hj hh =>
    hji (hi.inj j i h (hh ▸ hj) hc)
  refine ⟨fun j => ?_, fun h' hr => ?_, fun j hj => ?_, fun j k h' hj hk => ?_⟩
  · by_cases hji : j = i
    · simp [hji, HoldsReturned]
    · simp only [HoldsReturned, update_of_ne hji, mem_erase]
      rw [hi.exact j]
      exact ⟨fun ⟨h', hr, hj⟩ => ⟨h', ⟨hother j hji h' hj, hr⟩, hj⟩,
        fun ⟨h', hr, hj⟩ => ⟨h', hr.2, hj⟩⟩
  · obtain ⟨hne, hr⟩ := mem_erase.mp hr
    exact mem_erase.mpr ⟨hne, hi.returned_live h' hr⟩
  · by_cases hji : j = i
    · simp [hji]
    · simp only [update_of_ne hji] at hj ⊢
      exact hi.null j hj
  · by_cases hji : j = i
    · simp [hji] at hj
    · by_cases hki : k = i
      · simp [hki] at hk
      · simp only [update_of_ne hji, update_of_ne hki] at hj hk
        exact hi.inj j k h' hj hk

/-- `OMX_GetHandle` keeps the slots exact when it completes, and only then. -/
lemma Inv.getHandle (hi : s.Inv) {c : GetCall} (hp : c.Possible s) :
    (Completes s (.getHandle c) = true → (s.getHandle c).core.Inv ∧
      ((s.getHandle c).eError ≠ .none → (s.getHandle c).core = s) ∧
      ((s.getHandle c).eError = .insufficientResources → s.emptySlot = none)) ∧
    (Completes s (.getHandle c) = false → ¬(s.getHandle c).core.SlotsExact) := by
  rcases s.getHandle_cases c with ⟨hcore, -, hres, hcomp⟩ | ⟨i, m, hslot, -, hload, hcomp⟩
  · exact ⟨fun _ => ⟨by rwa [hcore], fun _ => hcore, hres⟩, by simp [hcomp]⟩
  · rw [hload]
    refine ⟨fun hc => ?_, fun hc hexact => ?_⟩
    · obtain ⟨hsym, hmalloc, hinit, hset⟩ := hcomp.mp hc
      obtain ⟨h, hmalloc⟩ := isSome_iff_exists.mp hmalloc
      rw [loadComponent_complete hsym hmalloc hinit hset]
      exact ⟨hi.take (hp h hmalloc), fun he => absurd rfl he, nofun⟩
    · have hinc := mt hcomp.mpr (by simp [hc])
      obtain ⟨hm, hh⟩ := loadComponent_incomplete (m := m) hi hp (emptySlot_some hslot) hinc
      exact hh ((hexact i).mp hm)

lemma Inv.freeHandle (hi : s.Inv) (hComponent : Option Nat) : (s.freeHandle hComponent).1.Inv := by
  unfold Core.freeHandle
  cases hComponent with
  | none => exact hi
  | some h =>
    simp only
    split_ifs
    · exact hi
    · cases hslot : s.slotOf h with
      | none => exact hi
      | some i =>
        have hc := List.find?_some hslot
        exact hi.clear (by simpa using hc)

lemma inv_of_reachable (hr : Core.ReachableWith (fun s c => Completes s c = true) s) : s.Inv := by
  refine hr.invariant Core.Inv ?_ ?_
  · rintro _ ⟨count, rfl⟩
    exact inv_init count
  · rintro s c s' hi ⟨hc, hn⟩
    cases c with
    | getHandle c =>
      obtain ⟨hp, hn⟩ := ite_none_right_eq_some.mp hn
      obtain rfl := some.inj hn
      exact ((hi.getHandle hp).1 hc).1
    | freeHandle hComponent =>
      obtain rfl := some.inj hn
      exact hi.freeHandle hComponent

end Core

/-- **The slots hold live handles.**  As long as every call of `OMX_GetHandle` that gets its library
loaded also succeeds, a slot has a library exactly when it holds a handle that was returned and not
freed.  A further call keeps this exactly when it meets the condition; then it takes no slot if it
fails, and it fails for lack of resources only when all slots hold such handles. -/
theorem slots_hold_live_handles {s : Core}
    (hr : Core.ReachableWith (fun s c => Completes s c = true) s) : s.SlotsExact ∧
      ∀ c : GetCall, c.Possible s →
        (Completes s (.getHandle c) = true ↔ (s.getHandle c).core.SlotsExact) ∧
        (Completes s (.getHandle c) = true →
          ((s.getHandle c).eError ≠ .none → (s.getHandle c).core = s) ∧
          ((s.getHandle c).eError = .insufficientResources → ∀ i, s.HoldsReturned i)) := by
  have hi := Core.inv_of_reachable hr
  refine ⟨hi.exact, fun c hp => ?_⟩
  obtain ⟨hdone, hbroken⟩ := hi.getHandle hp
  refine ⟨⟨fun hc => (hdone hc).1.exact, fun hexact => ?_⟩, fun hc => ?_⟩
  · by_contra hc
    exact hbroken (Bool.eq_false_iff.mpr hc) hexact
  · obtain ⟨-, hfail, hres⟩ := hdone hc
    exact ⟨hfail, fun he i => (hi.exact i).mp (Core.emptySlot_none (hres he) i)⟩

/-- A call that succeeds. -/
def sampleGet (handle : Nat) : GetCall where
  cComponentName := some "OMX.TI.DUCATI1.VIDEO.DECODER".toList
  pHandle := true
  pCallBacks := true
  secureMode := some 0
  dlopen := some 7
  dlsym := true
  malloc := some handle
  componentInit := .none
  setCallbacks := .none

/-- Two handles are returned, the first one is freed, and a library is not found. -/
theorem second_handle_live :
    ∃ s : Core, s.SlotsExact ∧ s.pModules 0 = none ∧ s.pModules 1 = some 7 ∧
      s.pComponents 1 = some 12 ∧ s.returned = {12} := by
  obtain ⟨s, hr, hv⟩ : ∃ s, Core.ReachableWith (fun s c => Completes s c = true) s ∧
      s.pModules 0 = none ∧ s.pModules 1 = some 7 ∧ s.pComponents 1 = some 12 ∧
      s.returned = {12} :=
    exists_of_run ⟨1, rfl⟩ [.getHandle (sampleGet 11), .getHandle (sampleGet 12),
      .freeHandle (some 11), .getHandle { sampleGet 13 with dlopen := none }] (by decide +kernel)
  exact ⟨s, (slots_hold_live_handles hr).1, hv⟩

/-- Components that do not initialise use up the slots: after fifty of them a component is refused
for lack of resources, though no slot holds a handle. -/
theorem failed_components_take_all_slots :
    ∃ s, Core.ReachableWith (fun _ _ => True) s ∧ ¬s.SlotsExact ∧ s.returned = ∅ ∧
      (s.getHandle (sampleGet 11)).eError = .insufficientResources := by
  obtain ⟨s, hr, hm, hc, hv⟩ : ∃ s, Core.ReachableWith (fun _ _ => True) s ∧
      s.pModules 0 = some 7 ∧ s.pComponents 0 = none ∧ s.returned = ∅ ∧
      (s.getHandle (sampleGet 11)).eError = .insufficientResources :=
    exists_of_run ⟨1, rfl⟩
      (List.replicate maxComp (.getHandle { sampleGet 11 with componentInit := .undefined }))
      (by decide +kernel)
  refine ⟨s, hr, fun hexact => ?_, hv⟩
  obtain ⟨h, -, hc'⟩ := (hexact 0).mp (by simp [hm])
  simp [hc] at hc'

end Solana.OmxCore
