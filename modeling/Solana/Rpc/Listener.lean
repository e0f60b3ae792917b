import Solana.Lib.Ledger
import Solana.Lib.Runs
import Mathlib.Data.Fintype.Basic

/-!
# The listener of an RPC context

`RPC_CallbackThread` reads the packets of the remote core.  Callbacks it handles itself; a reply
it hands to the stub that made the call, by writing the packet's address to the message pipe of
the function.  The stub frees the packet after it has read the reply.

The thread keeps `pBuffer` and `eRPCError` from one turn of its loop to the next.  After a reply
has been handed over `pBuffer` still points to it, and `eRPCError` is never cleared, so an error
makes the code after `EXIT` free packets that belong to a stub (`delivered_packet_freed_twice`).
`packets_freed_once` is what holds in the runs that avoid this.
-/

namespace Solana.Rpc

open Runs Ledgers Function List

/-! ## Packets -/

/-- The functions of the interface, `RPC_OMX_MAX_FUNCTION_LIST` of them; each has a pipe. -/
abbrev FxnIdx := Fin 21

/-- `RPC_OMX_ERRORTYPE`; `other` are the codes specific to the transport. -/
inductive RpcError
  | none
  | insufficientResources
  | undefined
  | badParameter
  | hardware
  | unsupportedIndex
  | timeout
  | other (code : Nat)
  deriving DecidableEq

/-- `OMX_ErrorNone`. -/
def omxErrorNone : UInt32 := 0

/-- `OMX_ErrorHardware`. -/
def omxErrorHardware : UInt32 := 0x80001009

/-- `struct omx_packet`, as far as the listener and the stubs read it. -/
structure OmxPacket (δ : Type) where
  fxnIdx : UInt32
  result : UInt32
  data : δ

/-- The function of a packet.  Indices from the static table have bit 31 set. -/
def fxnOf (fxnIdx : UInt32) : Option FxnIdx :=
  let nFxnIdx := if fxnIdx &&& 0x80000000 ≠ 0 then fxnIdx &&& 0x0FFFFFFF else fxnIdx
  if h : nFxnIdx.toNat < 21 then some ⟨nFxnIdx.toNat, h⟩ else none

/-- Is the packet a call of the remote core: `EVENTHANDLER`, `EMPTYBUFFERDONE` or
`FILLBUFFERDONE`? -/
def isCallback (f : FxnIdx) : Bool := f == 16 || f == 15 || f == 12

/-- An address in a message pipe: that of the global `pBufferError`, or of a packet of the
listener, which is known by its number. -/
inductive Message (δ : Type)
  | errorPacket
  | packet (p : Nat) (pkt : OmxPacket δ)

/-- The packet of the listener a message refers to. -/
def Message.number {δ : Type} : Message δ → Option Nat
  | .errorPacket => none
  | .packet p _ => some p

/-! ## One turn of the loop -/

/-- The variables of the thread, the message pipes and the packets.  The last two fields are
what an observer knows: the packets whose address was written to a pipe, and those the listener
freed. -/
structure State (δ : Type) where
  pBuffer : Option Nat
  eRPCError : RpcError
  running : Bool
  pipes : FxnIdx → List (Message δ)
  ledger : Ledger
  written : List Nat
  byListener : List Nat

/-- What `read` returns. -/
inductive ReadResult (δ : Type)
  | packet (pkt : OmxPacket δ)
  | enxio
  | failed

/-- What a turn of the loop meets: a failed `select`, the kill message, or a message of the
remote core, with the outcome of `malloc`, of `read` and of the write to each pipe. -/
inductive Turn (δ : Type)
  | selectFailed
  | kill
  | omx (malloc : Bool) (read : ReadResult δ) (writeOk : FxnIdx → Bool)

variable {δ : Type}

/-- The thread at its start. -/
def State.start : State δ := ⟨none, .none, true, fun _ => [], .empty, [], []⟩

/-- `RPC_freePacket` in the listener. -/
def State.freePacket (p : Nat) (s : State δ) : State δ :=
  { s with ledger := s.ledger.release p, byListener := p :: s.byListener }

/-- `TIMM_OSAL_WriteToPipe`, when it succeeds. -/
def State.push (f : FxnIdx) (m : Message δ) (s : State δ) : State δ :=
  { s with pipes := Function.update s.pipes f (s.pipes f ++ [m]) }

/-- A packet `p` with the contents `pkt` has been read. -/
def State.dispatch (p : Nat) (pkt : OmxPacket δ) (writeOk : FxnIdx → Bool) (s : State δ) :
    State δ :=
  match fxnOf pkt.fxnIdx with
  | none => { s with eRPCError := .undefined }
  | some f =>
    if isCallback f then { s.freePacket p with pBuffer := none }
    else if pkt.result = omxErrorHardware then
      -- the stub gets the global error packet, which it does not free
      let s := { s.freePacket p with pBuffer := none }
      if writeOk f then s.push f .errorPacket else { s with eRPCError := .undefined }
    else if writeOk f then { s.push f (.packet p pkt) with written := p :: s.written }
    else { s with eRPCError := .undefined }

/-- The message of the remote core is read into a new packet.  After a fatal error every pipe
gets the error packet, and nobody looks at the outcome of these writes. -/
def State.receive (malloc : Bool) (read : ReadResult δ) (writeOk : FxnIdx → Bool)
    (s : State δ) : State δ :=
  if !malloc then { s with pBuffer := none, eRPCError := .insufficientResources }
  else
    let p := s.ledger.acquired
    let s := { s with pBuffer := some p, ledger := s.ledger.acquire }
    match read with
    | .enxio =>
      { s with
        pipes := fun f => if writeOk f then s.pipes f ++ [.errorPacket] else s.pipes f
        eRPCError := .hardware }
    | .failed => { s with eRPCError := .undefined }
    | .packet pkt => s.dispatch p pkt writeOk

/-- The code after `EXIT`, which every turn reaches. -/
def State.exit (s : State δ) : State δ :=
  if s.eRPCError = .none then s
  else
    let s := match s.pBuffer with
      | none => s
      | some p => { s.freePacket p with pBuffer := none }
    { s with running := s.running && decide (s.eRPCError ≠ .hardware) }

/-- A turn of the loop of `RPC_CallbackThread`. -/
def State.turn (t : Turn δ) (s : State δ) : State δ :=
  match t with
  | .selectFailed => State.exit { s with eRPCError := .undefined }
  | .kill => { s with running := false }
  | .omx malloc read writeOk => (s.receive malloc read writeOk).exit

/-- What a stub does with the message it has read: the packet is freed unless its result is the
hardware error. -/
def State.freeReturned (m : Message δ) (s : State δ) : State δ :=
  match m with
  | .errorPacket => s
  | .packet p pkt =>
    if pkt.result ≠ omxErrorHardware then { s with ledger := s.ledger.release p } else s

/-- What can happen: a turn of the listener, or a stub that reads from the pipe of a function. -/
inductive Event (δ : Type)
  | turn (t : Turn δ)
  | read (f : FxnIdx)

/-- One step; a stub waits while its pipe is empty. -/
def State.next (s : State δ) : Event δ → Option (State δ)
  | .turn t => if s.running then some (s.turn t) else none
  | .read f =>
    match s.pipes f with
    | [] => none
    | m :: rest => some (State.freeReturned m { s with pipes := Function.update s.pipes f rest })

/-- The states of all runs whose steps satisfy a condition. -/
def State.ReachableWith (Cond : State δ → Event δ → Prop) : State δ → Prop :=
  Reachable (· = State.start) fun s e s' => Cond s e ∧ s.next e = some s'

/-! ## Who owns a packet -/

/-- The packets in a pipe. -/
def packetsIn (ms : List (Message δ)) : Multiset Nat := (ms.filterMap Message.number : List Nat)

/-- The packets that wait in the pipes. -/
def State.piped (s : State δ) : Multiset Nat := ∑ f, packetsIn (s.pipes f)

/-- Does the packet go to a stub? -/
def isDelivered (pkt : OmxPacket δ) (writeOk : FxnIdx → Bool) : Bool :=
  match fxnOf pkt.fxnIdx with
  | none => false
  | some f => !isCallback f && decide (pkt.result ≠ omxErrorHardware) && writeOk f

/-- What keeps the listener from freeing a packet of a stub: `select` does not fail while
`pBuffer` still points to one, and no packet is handed over once there was an error. -/
def KeepsOwnership (s : State δ) : Event δ → Bool
  | .turn .selectFailed => s.pBuffer.isNone
  | .turn (.omx true (.packet pkt) writeOk) =>
    decide (s.eRPCError = .none) || !isDelivered pkt writeOk
  | _ => true

/-- The invariant of the packets. -/
structure Owned (s : State δ) : Prop where
  balanced : s.ledger.Balanced s.piped
  results : ∀ f p pkt, .packet p pkt ∈ s.pipes f → pkt.result ≠ omxErrorHardware
  buffer : ∀ p ∈ s.pBuffer, p ∈ s.written
  numbered : ∀ p ∈ s.written, p < s.ledger.acquired
  released : ∀ p ∈ s.byListener, p ∈ s.ledger.released
  apart : ∀ p ∈ s.written, p ∉ s.byListener

open Message

lemma owned_start : Owned (State.start : State δ) := by
  refine ⟨?_, ?_, ?_, ?_, ?_, ?_⟩
  · simp [State.start, State.piped, packetsIn]
  all_goals simp [State.start]

@[simp] lemma packetsIn_append (ms ms' : List (Message δ)) :
    packetsIn (ms ++ ms') = packetsIn ms + packetsIn ms' := by
  simp [packetsIn]

lemma piped_push (f : FxnIdx) (m : Message δ) (s : State δ) :
    (s.push f m).piped = heldIn m.number + s.piped := by
  have h := sum_update packetsIn s.pipes (Finset.mem_univ f) (s.pipes f ++ [m])
  have hm : packetsIn [m] = heldIn m.number := by
    cases m <;> rfl
  rw [packetsIn_append, hm, add_comm (packetsIn (s.pipes f)), ← add_assoc] at h
  rw [add_comm]
  exact add_right_cancel h

/-- Error packets were appended to the pipes. -/
def OnlyErrors (pipes pipes' : FxnIdx → List (Message δ)) : Prop :=
  ∀ f, ∃ n, pipes' f = pipes f ++ List.replicate n .errorPacket

lemma OnlyErrors.refl (pipes : FxnIdx → List (Message δ)) : OnlyErrors pipes pipes :=
  fun _ => ⟨0, by simp⟩

lemma OnlyErrors.packetsIn {pipes pipes' : FxnIdx → List (Message δ)}
    (h : OnlyErrors pipes pipes') (f : FxnIdx) : packetsIn (pipes' f) = packetsIn (pipes f) := by
  obtain ⟨n, hn⟩ := h f
  have hrep : (replicate n (errorPacket : Message δ)).filterMap number = [] := by
    simp [number, filterMap_replicate]
  rw [hn, packetsIn_append]
  simp [Rpc.packetsIn, hrep]

lemma OnlyErrors.mem {pipes pipes' : FxnIdx → List (Message δ)} (h : OnlyErrors pipes pipes')
    {f : FxnIdx} {p : Nat} {pkt : OmxPacket δ} (hm : .packet p pkt ∈ pipes' f) :
    .packet p pkt ∈ pipes f := by
  obtain ⟨n, hn⟩ := h f
  rw [hn, mem_append] at hm
  rcases hm with hm | hm
  · exact hm
  · cases eq_of_mem_replicate hm

/-- The state after a new packet has been freed by the listener again. -/
def State.discarded (s : State δ) (pipes : FxnIdx → List (Message δ)) (err : RpcError)
    (running : Bool) : State δ where
  pBuffer := none
  eRPCError := err
  running := running
  pipes := pipes
  ledger := s.ledger.acquire.release s.ledger.acquired
  written := s.written
  byListener := s.ledger.acquired :: s.byListener

/-- The state after a new packet has been handed to a stub. -/
def State.delivered (s : State δ) (f : FxnIdx) (pkt : OmxPacket δ) : State δ :=
  { s with
    pBuffer := some s.ledger.acquired
    pipes := Function.update s.pipes f (s.pipes f ++ [.packet s.ledger.acquired pkt])
    ledger := s.ledger.acquire
    written := s.ledger.acquired :: s.written }

/-- The end of a turn that leaves a new packet in `pBuffer` with an error. -/
lemma exit_of_error (s : State δ) (pipes : FxnIdx → List (Message δ)) {err : RpcError}
    (herr : err ≠ .none) : ∃ running, State.exit { s with
      pBuffer := some s.ledger.acquired
      pipes := pipes
      ledger := s.ledger.acquire
      eRPCError := err } = s.discarded pipes err running := by
  refine ⟨s.running && decide (err ≠ .hardware), ?_⟩
  unfold State.exit
  rw [if_neg herr]
  rfl

/-- The end of a turn that has freed the new packet already. -/
lemma exit_of_discarded (s : State δ) (pipes : FxnIdx → List (Message δ)) (err : RpcError)
    (running : Bool) :
    ∃ running', State.exit (s.discarded pipes err running) = s.discarded pipes err running' := by
  unfold State.exit
  by_cases herr : err = .none
  · exact ⟨running, if_pos herr⟩
  · exact ⟨running && decide (err ≠ .hardware), if_neg herr⟩

variable {s : State δ}

/-- **What a turn does with a new packet**: it is freed at once, or it is handed to a stub. -/
lemma turn_omx_cases (read : ReadResult δ) (writeOk : FxnIdx → Bool)
    (hk : KeepsOwnership s (.turn (.omx true read writeOk)) = true) :
    (∃ pipes err running, OnlyErrors s.pipes pipes ∧
      s.turn (.omx true read writeOk) = s.discarded pipes err running) ∨
    ∃ f pkt, pkt.result ≠ omxErrorHardware ∧ read = .packet pkt ∧ fxnOf pkt.fxnIdx = some f ∧
      isCallback f = false ∧ s.turn (.omx true read writeOk) = s.delivered f pkt := by
  cases read with
  | enxio =>
    obtain ⟨running, h⟩ := exit_of_error s
      (fun f => if writeOk f then s.pipes f ++ [.errorPacket] else s.pipes f)
      (show RpcError.hardware ≠ .none by simp)
    refine Or.inl ⟨_, _, running, fun f => ?_, h⟩
    cases writeOk f with
    | false => exact ⟨0, by simp⟩
    | true => exact ⟨1, by simp⟩
  | failed =>
    obtain ⟨running, h⟩ := exit_of_error s s.pipes (show RpcError.undefined ≠ .none by simp)
    exact Or.inl ⟨_, _, running, .refl _, h⟩
  | packet pkt =>
    simp only [State.turn, State.receive, Bool.not_true, Bool.false_eq_true, if_false,
      State.dispatch]
    cases hf : fxnOf pkt.fxnIdx with
    | none =>
      obtain ⟨running, h⟩ := exit_of_error s s.pipes
        (show RpcError.undefined ≠ .none by simp)
      exact Or.inl ⟨_, _, running, .refl _, h⟩
    | some f =>
      simp only
      by_cases hcb : isCallback f = true
      · rw [if_pos hcb]
        obtain ⟨running, h⟩ := exit_of_discarded s s.pipes s.eRPCError s.running
        exact Or.inl ⟨_, _, running, .refl _, h⟩
      · rw [if_neg hcb]
        by_cases hres : pkt.result = omxErrorHardware
        · rw [if_pos hres]
          by_cases hw : writeOk f = true
          · rw [if_pos hw]
            obtain ⟨running, h⟩ := exit_of_discarded s
              (update s.pipes f (s.pipes f ++ [.errorPacket])) s.eRPCError s.running
            refine Or.inl ⟨_, _, running, fun g => ?_, h⟩
            rcases eq_or_ne g f with rfl | hg
            · exact ⟨1, by simp⟩
            · exact ⟨0, by simp [hg]⟩
          · rw [if_neg hw]
            obtain ⟨running, h⟩ := exit_of_discarded s s.pipes .undefined s.running
            exact Or.inl ⟨_, _, running, .refl _, h⟩
        · rw [if_neg hres]
          by_cases hw : writeOk f = true
          · -- handed over: the condition says that there is no error to make `EXIT` free it
            have herr : s.eRPCError = .none := by
              simpa [KeepsOwnership, isDelivered, hf, hcb, hres, hw] using hk
            rw [if_pos hw]
            refine Or.inr ⟨f, pkt, hres, rfl, hf, by simpa using hcb, ?_⟩
            exact if_pos herr
          · rw [if_neg hw]
            obtain ⟨running, h⟩ := exit_of_error s s.pipes
              (show RpcError.undefined ≠ .none by simp)
            exact Or.inl ⟨_, _, running, .refl _, h⟩

lemma Owned.discarded (h : Owned s) {pipes : FxnIdx → List (Message δ)}
    (hp : OnlyErrors s.pipes pipes) (err : RpcError) (running : Bool) :
    Owned (s.discarded pipes err running) where
  balanced := by
    have hpiped : (s.discarded pipes err running).piped = s.piped :=
      Finset.sum_congr rfl fun f _ => hp.packetsIn f
    rw [hpiped]
    exact h.balanced.acquire.release
  results f p pkt hm := h.results f p pkt (hp.mem hm)
  buffer := nofun
  numbered p hm := (h.numbered p hm).trans (Nat.lt_succ_self _)
  released p hm := by
    rcases mem_cons.mp hm with rfl | hm
    · exact mem_cons_self
    · exact mem_cons_of_mem _ (h.released p hm)
  apart p hm hmem := by
    rcases mem_cons.mp hmem with rfl | hmem
    · exact absurd (h.numbered _ hm) (lt_irrefl _)
    · exact h.apart p hm hmem

lemma Owned.delivered (h : Owned s) (f : FxnIdx) {pkt : OmxPacket δ}
    (hres : pkt.result ≠ omxErrorHardware) : Owned (s.delivered f pkt) where
  balanced := by
    have hpiped : (s.delivered f pkt).piped = s.ledger.acquired ::ₘ s.piped :=
      piped_push f (.packet s.ledger.acquired pkt) s
    rw [hpiped]
    exact h.balanced.acquire
  results g p pkt' hm := by
    simp only [State.delivered] at hm
    rcases eq_or_ne g f with rfl | hg
    · rw [update_self, mem_append, mem_singleton] at hm
      rcases hm with hm | hm
      · exact h.results g p pkt' hm
      · cases hm
        exact hres
    · rw [update_of_ne hg] at hm
      exact h.results g p pkt' hm
  buffer p hm := by
    obtain rfl := Option.some.inj hm
    exact mem_cons_self
  numbered p hm := by
    rcases mem_cons.mp hm with rfl | hm
    · exact Nat.lt_succ_self _
    · exact (h.numbered p hm).trans (Nat.lt_succ_self _)
  released := h.released
  apart p hm hmem := by
    rcases mem_cons.mp hm with rfl | hm
    · exact absurd (h.balanced.lt_of_released (h.released _ hmem)) (lt_irrefl _)
    · exact h.apart p hm hmem

lemma Owned.turn (h : Owned s) {t : Turn δ} (hk : KeepsOwnership s (.turn t) = true) :
    Owned (s.turn t) := by
  cases t with
  | selectFailed =>
    have hnone : s.pBuffer = none := by simpa [KeepsOwnership] using hk
    have he : s.turn .selectFailed = { s with eRPCError := .undefined } := by
      simp [State.turn, State.exit, hnone]
    rw [he]
    exact ⟨h.balanced, h.results, h.buffer, h.numbered, h.released, h.apart⟩
  | kill => exact ⟨h.balanced, h.results, h.buffer, h.numbered, h.released, h.apart⟩
  | omx malloc read writeOk =>
    cases malloc with
    | false => exact ⟨h.balanced, h.results, nofun, h.numbered, h.released, h.apart⟩
    | true =>
      rcases turn_omx_cases read writeOk hk with ⟨pipes, err, running, hp, he⟩ |
        ⟨f, pkt, hres, -, -, -, he⟩
      · rw [he]
        exact h.discarded hp err running
      · rw [he]
        exact h.delivered f hres

lemma Owned.read (h : Owned s) {f : FxnIdx} {m : Message δ} {rest : List (Message δ)}
    (hf : s.pipes f = m :: rest) :
    Owned (State.freeReturned m { s with pipes := update s.pipes f rest }) := by
  have hsub : ∀ g p pkt, .packet p pkt ∈ update s.pipes f rest g → .packet p pkt ∈ s.pipes g := by
    intro g p pkt hm
    rcases eq_or_ne g f with rfl | hg
    · rw [update_self] at hm
      exact hf ▸ mem_cons_of_mem _ hm
    · rwa [update_of_ne hg] at hm
  have hsum := sum_update packetsIn s.pipes (Finset.mem_univ f) rest
  have hcons : packetsIn (s.pipes f) = heldIn m.number + packetsIn rest := by
    rw [hf, ← singleton_append, packetsIn_append]
    cases m <;> rfl
  rw [hcons, ← add_assoc, add_comm _ (heldIn m.number)] at hsum
  have hpiped : s.piped = heldIn m.number + ∑ g, packetsIn (update s.pipes f rest g) :=
    (add_right_cancel hsum).symm
  cases m with
  | errorPacket =>
    refine ⟨?_, fun g p pkt hm => h.results g p pkt (hsub g p pkt hm), h.buffer, h.numbered,
      h.released, h.apart⟩
    have hb := h.balanced
    rwa [hpiped, number, heldIn_none, zero_add] at hb
  | packet p pkt =>
    have hres : pkt.result ≠ omxErrorHardware :=
      h.results f p pkt (hf ▸ mem_cons_self)
    simp only [State.freeReturned, if_pos hres]
    refine ⟨?_, fun g p pkt hm => h.results g p pkt (hsub g p pkt hm), h.buffer, h.numbered,
      fun p hm => mem_cons_of_mem _ (h.released p hm), h.apart⟩
    have hb := h.balanced
    rw [hpiped, number, heldIn_some, Multiset.singleton_add] at hb
    exact hb.release

lemma Owned.next {s s' : State δ} {e : Event δ} (h : Owned s)
    (hk : KeepsOwnership s e = true) (hn : s.next e = some s') : Owned s' := by
  cases e with
  | turn t =>
    obtain ⟨-, hs'⟩ := Option.ite_none_right_eq_some.mp hn
    obtain rfl := Option.some.inj hs'
    exact h.turn hk
  | read f =>
    simp only [State.next] at hn
    cases hf : s.pipes f with
    | nil => simp [hf] at hn
    | cons m rest =>
      simp only [hf, Option.some.injEq] at hn
      obtain rfl := hn
      exact h.read hf

lemma owned_of_reachable (hr : State.ReachableWith (fun s e => KeepsOwnership s e = true) s) :
    Owned s := by
  refine Reachable.invariant Owned ?_ ?_ hr
  · rintro s rfl
    exact owned_start
  · rintro s e s' hs ⟨hk, hn⟩
    exact hs.next hk hn

/-- **Every packet is freed once**, unless it still waits in a pipe, and a packet whose address
was written to a pipe is not freed by the listener. -/
theorem packets_freed_once {s : State δ}
    (hr : State.ReachableWith (fun s e => KeepsOwnership s e = true) s) :
    (∀ p < s.ledger.acquired, s.ledger.released.count p + s.piped.count p = 1) ∧
      ∀ p ∈ s.written, p ∉ s.byListener :=
  ⟨fun _ hp => (owned_of_reachable hr).balanced.count_add hp, (owned_of_reachable hr).apart⟩

/-- A reply of `OMX_GetParameter`, handed to the stub and freed by it, and then a packet with a
bad index, freed by the listener. -/
theorem reply_and_bad_packet_freed : ∃ s : State Unit, s.ledger.released = [1, 0] ∧
      (∀ p < 2, s.ledger.released.count p + s.piped.count p = 1) ∧ 0 ∉ s.byListener := by
  obtain ⟨s, hr, hledger, hwritten⟩ : ∃ s : State Unit,
      State.ReachableWith (fun s e => KeepsOwnership s e = true) s ∧
        s.ledger = ⟨2, [1, 0]⟩ ∧ s.written = [0] :=
    exists_of_run rfl [.turn (.omx true (.packet ⟨0x80000002, 0, ()⟩) fun _ => true), .read 2,
      .turn (.omx true (.packet ⟨0x80000033, 0, ()⟩) fun _ => true)] (by decide +kernel)
  obtain ⟨hcount, hapart⟩ := packets_freed_once hr
  rw [hledger] at hcount
  exact ⟨s, by rw [hledger], by rw [hledger]; exact hcount, hapart 0 (by simp [hwritten])⟩

/-- A reply is handed to a stub, and then `select` fails.  The listener frees the packet and so
does the stub. -/
theorem delivered_packet_freed_twice :
    ∃ s : State Unit, State.ReachableWith (fun _ _ => True) s ∧ 0 ∈ s.written ∧
      0 ∈ s.byListener ∧ s.ledger.released.count 0 = 2 := by
  exact exists_of_run rfl [.turn (.omx true (.packet ⟨0x80000002, 0, ()⟩) fun _ => true),
    .turn .selectFailed, .read 2] (by decide +kernel)

end Solana.Rpc
