import Solana.Rpc.Listener

/-!
# Synchronous calls

A stub writes its request to the remote core and then waits at the message pipe of its function
(`RPC_sendPacket_sync`).  The remote core answers the requests of a function in the order in
which they were written, the listener passes the replies on in the order in which they arrive,
and a pipe is a queue.  Nothing in a reply says which call it belongs to: a stub takes the first
message of its pipe.

So two calls of one function that are in flight together may get each other's reply
(`replies_swapped`).  With at most one call of each function in flight every call gets its own
(`calls_get_own_reply`).

The calls are numbered in the order in which their requests are written.  Which thread makes a
call does not matter, as a thread makes its calls one after the other.  The transport works:
the failures the listener knows about are not part of this model.
-/

namespace Solana.Rpc

open Runs Function List Option

variable {δ : Type}

/-! ## The system -/

/-- What a call returns: the result of the remote function, and its data if it succeeded. -/
structure Outcome (δ : Type) where
  result : UInt32
  data : Option δ
  deriving DecidableEq

/-- What a stub makes of a packet. -/
def OmxPacket.outcome (pkt : OmxPacket δ) : Outcome δ :=
  ⟨pkt.result, if pkt.result = omxErrorNone then some pkt.data else none⟩

/-- What a stub makes of the message in its pipe; the result of the error packet is the hardware
error. -/
def Message.outcome : Message δ → Outcome δ
  | .errorPacket => ⟨omxErrorHardware, none⟩
  | .packet _ pkt => pkt.outcome

/-- The stubs, the remote core and the listener.  `answers` and `returned` are what an observer
knows: which packet the remote core produced for which call, and what each call returned. -/
structure Session (δ : Type) where
  rpc : State δ
  /-- The requests the remote core has not answered yet, for each function. -/
  requests : FxnIdx → List Nat
  /-- The packets the listener has not read yet. -/
  inbox : List (OmxPacket δ)
  /-- The calls that wait at each pipe. -/
  waiting : FxnIdx → List Nat
  calls : Nat
  answers : List (Nat × OmxPacket δ)
  returned : List (Nat × Outcome δ)

/-- What can happen. -/
inductive CallEvent (δ : Type)
  /-- A stub writes a request of a function. -/
  | call (f : FxnIdx)
  /-- The remote core answers the oldest request of a function. -/
  | answer (f : FxnIdx) (pkt : OmxPacket δ)
  /-- The remote core sends a callback. -/
  | callback (pkt : OmxPacket δ)
  /-- The listener reads a packet. -/
  | listen
  /-- A stub that waits at the pipe of a function reads from it. -/
  | ret (f : FxnIdx) (c : Nat)

/-- No call was made yet. -/
def Session.start : Session δ := ⟨.start, fun _ => [], [], fun _ => [], 0, [], []⟩

/-- One step. -/
def Session.next (s : Session δ) : CallEvent δ → Option (Session δ)
  | .call f =>
    if isCallback f then none
    else some { s with
      requests := Function.update s.requests f (s.requests f ++ [s.calls])
      waiting := Function.update s.waiting f (s.waiting f ++ [s.calls])
      calls := s.calls + 1 }
  | .answer f pkt =>
    match s.requests f with
    | [] => none
    | c :: rest =>
      if fxnOf pkt.fxnIdx = some f then some { s with
        requests := Function.update s.requests f rest
        inbox := s.inbox ++ [pkt]
        answers := (c, pkt) :: s.answers }
      else none
  | .callback pkt =>
    if (fxnOf pkt.fxnIdx).any isCallback then some { s with inbox := s.inbox ++ [pkt] }
    else none
  | .listen =>
    match s.inbox with
    | [] => none
    | pkt :: rest => some { s with
        inbox := rest
        rpc := s.rpc.turn (.omx true (.packet pkt) fun _ => true) }
  | .ret f c =>
    if c ∈ s.waiting f then
      match s.rpc.pipes f with
      | [] => none
      | m :: rest => some { s with
          rpc := State.freeReturned m { s.rpc with pipes := Function.update s.rpc.pipes f rest }
          waiting := Function.update s.waiting f ((s.waiting f).erase c)
          returned := (c, m.outcome) :: s.returned }
    else none

/-- The states of all runs whose steps satisfy a condition. -/
def Session.ReachableWith (Cond : Session δ → CallEvent δ → Prop) : Session δ → Prop :=
  Reachable (· = Session.start) fun s e s' => Cond s e ∧ s.next e = some s'

/-- The calls have returned what the remote core produced for them. -/
def OwnReplies (s : Session δ) : Prop :=
  ∀ c o, (c, o) ∈ s.returned → ∃ pkt, (c, pkt) ∈ s.answers ∧ o = pkt.outcome

/-- A call is made only while no other call of its function is in flight. -/
def OneAtATime (s : Session δ) : CallEvent δ → Bool
  | .call f => (s.waiting f).isEmpty
  | _ => true

/-! ## Where a call is -/

/-- The packets of a function among those the listener has not read. -/
def Session.inboxOf (s : Session δ) (f : FxnIdx) : List (OmxPacket δ) :=
  s.inbox.filter fun pkt => fxnOf pkt.fxnIdx = some f

/-- How far the one call of a function has got: nobody calls, the request was written, the
answer is under way, or it waits in the pipe. -/
inductive Phase (s : Session δ) (f : FxnIdx) : Prop
  | idle (hw : s.waiting f = []) (hr : s.requests f = []) (hi : s.inboxOf f = [])
      (hp : s.rpc.pipes f = [])
  | asked (c : Nat) (hw : s.waiting f = [c]) (hr : s.requests f = [c]) (hi : s.inboxOf f = [])
      (hp : s.rpc.pipes f = [])
  | answered (c : Nat) (pkt : OmxPacket δ) (ha : (c, pkt) ∈ s.answers) (hw : s.waiting f = [c])
      (hr : s.requests f = []) (hi : s.inboxOf f = [pkt]) (hp : s.rpc.pipes f = [])
  | delivered (c : Nat) (pkt : OmxPacket δ) (m : Message δ) (ha : (c, pkt) ∈ s.answers)
      (hm : m.outcome = pkt.outcome) (hw : s.waiting f = [c]) (hr : s.requests f = [])
      (hi : s.inboxOf f = []) (hp : s.rpc.pipes f = [m])

/-- The invariant of the calls. -/
structure InOrder (s : Session δ) : Prop where
  err : s.rpc.eRPCError = .none
  known : ∀ pkt ∈ s.inbox, ∃ f, fxnOf pkt.fxnIdx = some f
  phase : ∀ f, isCallback f = false → Phase s f
  quiet : ∀ f, isCallback f = true → s.requests f = [] ∧ s.waiting f = []
  own : OwnReplies s

variable {f : FxnIdx}

open Session

/-- The phase of a function depends on its own part of the state only. -/
lemma Phase.congr {s s' : Session δ} (h : Phase s f) (hw : s'.waiting f = s.waiting f)
    (hr : s'.requests f = s.requests f) (hi : s'.inboxOf f = s.inboxOf f)
    (hp : s'.rpc.pipes f = s.rpc.pipes f) (ha : ∀ x ∈ s.answers, x ∈ s'.answers) : Phase s' f := by
  cases h with
  | idle h1 h2 h3 h4 =>
    exact .idle (hw.trans h1) (hr.trans h2) (hi.trans h3) (hp.trans h4)
  | asked c h1 h2 h3 h4 =>
    exact .asked c (hw.trans h1) (hr.trans h2) (hi.trans h3) (hp.trans h4)
  | answered c pkt h h1 h2 h3 h4 =>
    exact .answered c pkt (ha _ h) (hw.trans h1) (hr.trans h2) (hi.trans h3) (hp.trans h4)
  | delivered c pkt m h hm h1 h2 h3 h4 =>
    exact .delivered c pkt m (ha _ h) hm (hw.trans h1) (hr.trans h2) (hi.trans h3) (hp.trans h4)

variable {pkt : OmxPacket δ}

/-- **The listener passes a packet on**: a reply to the pipe of its function, with what the stub
will make of it. -/
lemma turn_passes {s : State δ} (herr : s.eRPCError = .none) {g : FxnIdx}
    (hg : fxnOf pkt.fxnIdx = some g) :
    (s.turn (.omx true (.packet pkt) fun _ => true)).eRPCError = .none ∧ ((isCallback g = true ∧
          (s.turn (.omx true (.packet pkt) fun _ => true)).pipes = s.pipes) ∨
        (isCallback g = false ∧ ∃ m : Message δ, m.outcome = pkt.outcome ∧
          (s.turn (.omx true (.packet pkt) fun _ => true)).pipes =
            update s.pipes g (s.pipes g ++ [m]))) := by
  simp only [State.turn, State.receive, Bool.not_true, Bool.false_eq_true, if_false,
    State.dispatch, hg]
  by_cases hcb : isCallback g = true
  · rw [if_pos hcb]
    simp [State.exit, State.freePacket, herr, hcb]
  · rw [if_neg hcb]
    by_cases hres : pkt.result = omxErrorHardware
    · rw [if_pos hres]
      have hout : (Message.errorPacket : Message δ).outcome = pkt.outcome := by
        have hne : omxErrorHardware ≠ omxErrorNone := by decide
        simp [Message.outcome, OmxPacket.outcome, hres, hne]
      refine ⟨by simp [State.exit, State.freePacket, State.push, herr],
        Or.inr ⟨by simpa using hcb, .errorPacket, hout, ?_⟩⟩
      simp [State.exit, State.freePacket, State.push, herr]
    · rw [if_neg hres]
      refine ⟨by simp [State.exit, State.push, herr],
        Or.inr ⟨by simpa using hcb, .packet s.ledger.acquired pkt, rfl, ?_⟩⟩
      simp [State.exit, State.push, herr]

/-! ## The steps -/

variable {s : Session δ}

lemma InOrder.call (h : InOrder s) (hcb : isCallback f = false) (hone : s.waiting f = []) :
    InOrder { s with
      requests := update s.requests f (s.requests f ++ [s.calls])
      waiting := update s.waiting f (s.waiting f ++ [s.calls])
      calls := s.calls + 1 } := by
  refine ⟨h.err, h.known, fun g hg => ?_, fun g hg => ?_, h.own⟩
  · rcases eq_or_ne g f with rfl | hne
    · cases h.phase g hg with
      | idle hw hr hi hp => exact .asked s.calls (by simp [hw]) (by simp [hr]) hi hp
      | asked c hw _ _ _ => simp [hone] at hw
      | answered c pkt _ hw _ _ _ => simp [hone] at hw
      | delivered c pkt m _ _ hw _ _ _ => simp [hone] at hw
    · exact (h.phase g hg).congr (by simp [hne]) (by simp [hne]) rfl rfl fun _ hx => hx
  · have hne : g ≠ f := by
      rintro rfl
      simp [hcb] at hg
    simpa [hne] using h.quiet g hg

lemma InOrder.answer (h : InOrder s) {c : Nat} {rest : List Nat} (hreq : s.requests f = c :: rest)
    (hf : fxnOf pkt.fxnIdx = some f) : InOrder { s with
      requests := update s.requests f rest
      inbox := s.inbox ++ [pkt]
      answers := (c, pkt) :: s.answers } := by
  refine ⟨h.err, fun q hq => ?_, fun g hg => ?_, fun g hg => ?_, fun c' o ho => ?_⟩
  · rcases mem_append.mp hq with hq | hq
    · exact h.known q hq
    · exact ⟨f, by rwa [mem_singleton.mp hq]⟩
  · rcases eq_or_ne g f with rfl | hne
    · cases h.phase g hg with
      | idle _ hr _ _ => simp [hreq] at hr
      | asked c' hw hr hi hp =>
        obtain ⟨rfl, rfl⟩ := cons.inj (hreq.symm.trans hr)
        refine .answered c pkt mem_cons_self hw (by simp) ?_ hp
        have hfilter : [pkt].filter (fun pkt => decide (fxnOf pkt.fxnIdx = some g)) = [pkt] := by
          simp [hf]
        simp only [inboxOf, filter_append, hfilter]
        exact congrArg (· ++ [pkt]) hi
      | answered c' pkt' _ _ hr _ _ => simp [hreq] at hr
      | delivered c' pkt' m _ _ _ hr _ _ => simp [hreq] at hr
    · refine (h.phase g hg).congr rfl (by simp [hne]) ?_ rfl
        fun _ hx => mem_cons_of_mem _ hx
      simp [inboxOf, hf, Ne.symm hne]
  · have hne : g ≠ f := by
      rintro rfl
      simp [(h.quiet g hg).1] at hreq
    simpa [hne] using h.quiet g hg
  · obtain ⟨pkt', ha, ho'⟩ := h.own c' o ho
    exact ⟨pkt', mem_cons_of_mem _ ha, ho'⟩

lemma InOrder.callback (h : InOrder s) (hcb : (fxnOf pkt.fxnIdx).any isCallback = true) :
    InOrder { s with inbox := s.inbox ++ [pkt] } := by
  obtain ⟨f, hf, hcb⟩ : ∃ f, fxnOf pkt.fxnIdx = some f ∧ isCallback f = true := by
    cases hf : fxnOf pkt.fxnIdx with
    | none => simp [hf] at hcb
    | some f => exact ⟨f, rfl, by simpa [hf] using hcb⟩
  refine ⟨h.err, fun q hq => ?_, fun g hg => ?_, h.quiet, h.own⟩
  · rcases mem_append.mp hq with hq | hq
    · exact h.known q hq
    · exact ⟨f, by rwa [mem_singleton.mp hq]⟩
  · have hne : f ≠ g := by
      rintro rfl
      simp [hcb] at hg
    refine (h.phase g hg).congr rfl rfl ?_ rfl fun _ hx => hx
    simp [inboxOf, hf, hne]

lemma InOrder.listen (h : InOrder s) {rest : List (OmxPacket δ)} (hin : s.inbox = pkt :: rest) :
    InOrder { s with
      inbox := rest
      rpc := s.rpc.turn (.omx true (.packet pkt) fun _ => true) } := by
  obtain ⟨f, hf⟩ := h.known pkt (by simp [hin])
  obtain ⟨herr, hturn⟩ := turn_passes h.err hf
  refine ⟨herr, fun q hq => h.known q (by simp [hin, hq]), fun g hg => ?_, h.quiet, h.own⟩
  have hinbox : s.inboxOf g =
      if f = g then pkt :: rest.filter (fun pkt => fxnOf pkt.fxnIdx = some g)
      else rest.filter fun pkt => fxnOf pkt.fxnIdx = some g := by
    simp [inboxOf, hin, hf, filter_cons]
  rcases hturn with ⟨hcb, hpipes⟩ | ⟨hcb, m, hm, hpipes⟩
  · have hne : f ≠ g := by
      rintro rfl
      simp [hcb] at hg
    rw [if_neg hne] at hinbox
    exact (h.phase g hg).congr rfl rfl hinbox.symm (congrFun hpipes g) fun _ hx => hx
  · rcases eq_or_ne f g with rfl | hne
    · rw [if_pos rfl] at hinbox
      cases h.phase f hg with
      | idle _ _ hi _ => simp [hinbox] at hi
      | asked c _ _ hi _ => simp [hinbox] at hi
      | answered c pkt' ha hw hr hi hp =>
        rw [hinbox] at hi
        obtain ⟨rfl, hrest⟩ := cons.inj hi
        exact .delivered c pkt m ha hm hw hr hrest (by simp [hpipes, hp])
      | delivered c pkt' m' _ _ _ _ hi _ => simp [hinbox] at hi
    · rw [if_neg hne] at hinbox
      exact (h.phase g hg).congr rfl rfl hinbox.symm (by simp [hpipes, Ne.symm hne])
        fun _ hx => hx

lemma freeReturned_pipes (m : Message δ) (s : State δ) :
    (s.freeReturned m).pipes = s.pipes ∧ (s.freeReturned m).eRPCError = s.eRPCError := by
  cases m with
  | errorPacket => exact ⟨rfl, rfl⟩
  | packet p pkt =>
    simp only [State.freeReturned]
    split_ifs <;> exact ⟨rfl, rfl⟩

lemma InOrder.ret (h : InOrder s) {c : Nat} {m : Message δ} {rest : List (Message δ)}
    (hc : c ∈ s.waiting f) (hp : s.rpc.pipes f = m :: rest) : InOrder { s with
      rpc := State.freeReturned m { s.rpc with pipes := update s.rpc.pipes f rest }
      waiting := update s.waiting f ((s.waiting f).erase c)
      returned := (c, m.outcome) :: s.returned } := by
  obtain ⟨hpipes, herr⟩ := freeReturned_pipes m
    { s.rpc with pipes := update s.rpc.pipes f rest }
  have hcb : isCallback f = false := by
    by_contra hcb
    simp [(h.quiet f (by simpa using hcb)).2] at hc
  refine ⟨herr.trans h.err, h.known, fun g hg => ?_, fun g hg => ?_, fun c' o ho => ?_⟩
  · rcases eq_or_ne g f with rfl | hne
    · cases h.phase g hg with
      | idle _ _ _ hp' => simp [hp] at hp'
      | asked c' _ _ _ hp' => simp [hp] at hp'
      | answered c' pkt _ _ _ _ hp' => simp [hp] at hp'
      | delivered c' pkt m' _ _ hw hr hi hp' =>
        have hcc : c = c' := by simpa [hw] using hc
        have hrest : rest = [] := (cons.inj (hp.symm.trans hp')).2
        refine .idle ?_ hr hi ?_
        · simp [hw, hcc]
        · simpa [hpipes] using hrest
    · exact (h.phase g hg).congr (by simp [hne]) rfl rfl (by simp [hpipes, hne]) fun _ hx => hx
  · have hne : g ≠ f := by
      rintro rfl
      simp [hcb] at hg
    simpa [hne] using h.quiet g hg
  · -- the only call at this pipe is the one whose answer was delivered
    rcases mem_cons.mp ho with ho | ho
    · obtain ⟨rfl, rfl⟩ := Prod.mk.inj ho
      cases h.phase f hcb with
      | idle hw _ _ _ => simp [hw] at hc
      | asked c'' _ _ _ hp' => simp [hp] at hp'
      | answered c'' pkt _ _ _ _ hp' => simp [hp] at hp'
      | delivered c'' pkt m' ha hm hw _ _ hp' =>
        obtain rfl : c' = c'' := by simpa [hw] using hc
        obtain rfl := (cons.inj (hp.symm.trans hp')).1
        exact ⟨pkt, ha, hm⟩
    · exact h.own c' o ho

lemma InOrder.next {s s' : Session δ} {e : CallEvent δ} (h : InOrder s)
    (hone : OneAtATime s e = true) (hn : s.next e = some s') : InOrder s' := by
  cases e with
  | call f =>
    obtain ⟨hcb, hs'⟩ := ite_none_left_eq_some.mp hn
    obtain rfl := some.inj hs'
    exact h.call (by simpa using hcb) (by simpa [OneAtATime] using hone)
  | answer f pkt =>
    simp only [Session.next] at hn
    cases hreq : s.requests f with
    | nil => simp [hreq] at hn
    | cons c rest =>
      simp only [hreq] at hn
      obtain ⟨hf, hs'⟩ := ite_none_right_eq_some.mp hn
      obtain rfl := some.inj hs'
      exact h.answer hreq hf
  | callback pkt =>
    obtain ⟨hcb, hs'⟩ := ite_none_right_eq_some.mp hn
    obtain rfl := some.inj hs'
    exact h.callback hcb
  | listen =>
    simp only [Session.next] at hn
    cases hin : s.inbox with
    | nil => simp [hin] at hn
    | cons pkt rest =>
      simp only [hin] at hn
      obtain rfl := some.inj hn
      exact h.listen hin
  | ret f c =>
    obtain ⟨hc, hn⟩ := ite_none_right_eq_some.mp hn
    cases hp : s.rpc.pipes f with
    | nil => simp [hp] at hn
    | cons m rest =>
      simp only [hp] at hn
      obtain rfl := some.inj hn
      exact h.ret hc hp

lemma inOrder_start : InOrder (start : Session δ) where
  err := rfl
  known := nofun
  phase _ _ := .idle rfl rfl rfl rfl
  quiet _ _ := ⟨rfl, rfl⟩
  own := nofun

/-- **Every call returns its own reply**, in every run with at most one call of each function in
flight. -/
theorem calls_get_own_reply {s : Session δ}
    (hr : Session.ReachableWith (fun s e => OneAtATime s e = true) s) : OwnReplies s := by
  have hinv : InOrder s := by
    refine Reachable.invariant InOrder ?_ ?_ hr
    · rintro s rfl
      exact inOrder_start
    · rintro s e s' hs ⟨hone, hn⟩
      exact hs.next hone hn
  exact hinv.own

/-- Two calls of different functions, answered in the other order. -/
theorem two_calls_get_own_replies :
    ∃ s : Session Nat, s.returned = [(1, ⟨0, some 20⟩), (0, ⟨0, some 10⟩)] ∧ OwnReplies s := by
  obtain ⟨s, hr, hret⟩ : ∃ s : Session Nat, s.ReachableWith (fun s e => OneAtATime s e = true) ∧
      s.returned = [(1, ⟨0, some 20⟩), (0, ⟨0, some 10⟩)] :=
    exists_of_run rfl [.call 2, .call 6, .answer 6 ⟨0x80000006, 0, 20⟩,
      .answer 2 ⟨0x80000002, 0, 10⟩, .listen, .listen, .ret 2 0, .ret 6 1] (by decide +kernel)
  exact ⟨s, hret, calls_get_own_reply hr⟩

/-- Two calls of `OMX_GetParameter` at once.  The second stub reads first and returns the reply
to the first call. -/
theorem replies_swapped :
    ∃ s : Session Nat, Session.ReachableWith (fun _ _ => True) s ∧ ¬ OwnReplies s := by
  obtain ⟨s, hr, hret, hans⟩ : ∃ s : Session Nat, s.ReachableWith (fun _ _ => True) ∧
      s.returned = [(1, ⟨0, some 10⟩)] ∧
      (s.answers.map fun a => (a.1, a.2.outcome)) = [(1, ⟨0, some 20⟩), (0, ⟨0, some 10⟩)] :=
    exists_of_run rfl [.call 2, .call 2, .answer 2 ⟨0x80000002, 0, 10⟩,
      .answer 2 ⟨0x80000002, 0, 20⟩, .listen, .listen, .ret 2 1] (by decide +kernel)
  refine ⟨s, hr, fun hown => ?_⟩
  obtain ⟨pkt, ha, ho⟩ := hown 1 ⟨0, some 10⟩ (by simp [hret])
  have hmem : (1, pkt.outcome) ∈ s.answers.map fun a => (a.1, a.2.outcome) :=
    mem_map.mpr ⟨(1, pkt), ha, rfl⟩
  rw [hans, ← ho] at hmem
  exact absurd hmem (by decide)

end Solana.Rpc
