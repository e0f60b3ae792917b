import Solana.Usbd.Invariants

/-!
# Requests of the application

An application writes its requests, each a text that ends with a zero character, to a stream
socket.  `usbd_socket_event` reads once into a buffer that it has cleared, and takes what is there
up to the first zero for a request.  It does not join what it has read to the next read, and it
does not look behind the first zero.
-/

namespace Solana.Usbd

open List

/-! ## Reads -/

/-- The end of a request. -/
abbrev nul : Char := Char.ofNat 0

/-- What an application writes for some requests. -/
def stream (requests : List (List Char)) : List Char := requests.flatMap (· ++ [nul])

/-- The mode that the daemon takes a read for a request of. -/
def Daemon.executes (c : Config) (d : Daemon) (read : List Char) : Option UsbMode :=
  if d.cable = .factory then none else requestedMode c.build (cString read)

/-- The requests that the daemon executes when its reads return some characters, each with the
daemon after it, as long as it has an application.  The `k`-th request finds `env k`. -/
def Daemon.serve (c : Config) (env : Nat → Env) :
    Nat → Daemon → List (List Char) → List (UsbMode × Daemon)
  | _, _, [] => []
  | k, d, read :: reads =>
    match d.app with
    | none => []
    | some fd =>
      let d' := d.socketEvent c fd (.data read) (env k)
      match d.executes c read with
      | none => serve c env k d' reads
      | some m => (m, d') :: serve c env (k + 1) d' reads

/-- Each read returns whole requests, and all but the first of them name no mode.  The zero of a
request may come late, with a read in which no request names a mode. -/
inductive WholeReads (b : Build) : List (List Char) → List (List Char) → Prop
  | nil : WholeReads b [] []
  | cons (m : List Char) (more : List (List Char)) {requests reads : List (List Char)}
      (hm : nul ∉ m) (hmore : ∀ m ∈ more, requestedMode b (cString m) = none)
      (hreads : WholeReads b requests reads) :
      WholeReads b (m :: (more ++ requests)) (stream (m :: more) :: reads)
  | late (m : List Char) (more : List (List Char)) {requests reads : List (List Char)}
      (hne : m ≠ []) (hm : nul ∉ m) (hmore : ∀ m ∈ more, requestedMode b (cString m) = none)
      (hreads : WholeReads b requests reads) :
      WholeReads b (m :: (more ++ requests)) (m :: (nul :: stream more) :: reads)

/-! ## One read -/

variable {c : Config} {env : Nat → Env} {d : Daemon} {read read' m : List Char}

/-- The first request of a read is the text that the daemon looks at. -/
lemma cString_stream (h : nul ∉ m) (more : List (List Char)) :
    cString (stream (m :: more)) = cString m := by
  have hself := untilNul_append h []
  rw [append_nil] at hself
  rw [cString, cString, hself, stream, flatMap_cons, append_assoc, untilNul_append h]
  simp [untilNul]

lemma Daemon.socketEvent_of_executes_none (h : d.executes c read = none) (fd : Nat) (env : Env) :
    d.socketEvent c fd (.data read) env = d := by
  unfold executes at h
  simp only [socketEvent]
  split_ifs at h ⊢
  · rfl
  · rw [h]

/-! ## All reads -/

/-- Only the text before the first zero counts. -/
lemma Daemon.serve_congr (h : cString read = cString read') (k : Nat) (reads : List (List Char)) :
    d.serve c env k (read :: reads) = d.serve c env k (read' :: reads) := by
  simp only [serve, executes, socketEvent, h]

lemma Daemon.serve_append {more : List (List Char)}
    (h : ∀ m ∈ more, requestedMode c.build (cString m) = none) (k : Nat)
    (reads : List (List Char)) : d.serve c env k (more ++ reads) = d.serve c env k reads := by
  induction more with
  | nil => rfl
  | cons m more ih =>
    obtain ⟨hm, hmore⟩ := forall_mem_cons.mp h
    have hnone : d.executes c m = none := by simp [executes, hm]
    rw [cons_append, serve, hnone, ← ih hmore]
    cases happ : d.app with
    | none => cases more ++ reads <;> simp only [serve, happ]
    | some fd => simp only [socketEvent_of_executes_none hnone]

/-- **The daemon executes the requests in order** if every read returns whole requests, but for the
last zero, of which only the first may name a mode. -/
theorem serve_of_wholeReads {requests reads : List (List Char)}
    (h : WholeReads c.build requests reads) (env : Nat → Env) (k : Nat) (d : Daemon) :
    stream requests = reads.flatten ∧ d.serve c env k reads = d.serve c env k requests := by
  induction h generalizing k d with
  | nil => exact ⟨rfl, rfl⟩
  | cons m more hm hmore _ ih =>
    refine ⟨?_, ?_⟩
    · rw [flatten_cons, ← (ih k d).1, stream, ← cons_append, flatMap_append]
      rfl
    · rw [Daemon.serve_congr (cString_stream hm more)]
      unfold Daemon.serve
      simp only [Daemon.serve_append hmore, (ih _ _).2]
  | @late m more _ reads _ _ hmore _ ih =>
    refine ⟨by simp [stream, ← (ih k d).1], ?_⟩
    -- the text before the late zero is empty
    have hskip : ∀ k (d : Daemon),
        d.serve c env k ((nul :: stream more) :: reads) = d.serve c env k reads :=
      fun k d => d.serve_append (forall_mem_singleton.mpr rfl) k reads
    unfold Daemon.serve
    simp only [Daemon.serve_append hmore, hskip, (ih _ _).2]

/-- The requests that the daemon executes after a cable was plugged in and an application has
connected. -/
def sampleServe (reads : List (List Char)) : List (UsbMode × Daemon) :=
  (((Daemon.boot sampleMemory).changeCable .usb).connect (sampleEnv "0" "0")).serve samplePhone
    (fun _ => sampleEnv "0" "0") 0 reads

/-- Two requests. -/
def mtpRequest : List Char := "usb_mode_mtp".toList
def mscRequest : List Char := "usb_mode_msc".toList

theorem sampleServe_whole : sampleServe [mtpRequest, [nul], stream [mscRequest, []]] =
      sampleServe [mtpRequest, mscRequest, []] :=
  (serve_of_wholeReads (.late mtpRequest [] (by decide) (by decide) nofun
    (.cons mscRequest [[]] (by decide) (by decide) .nil)) _ 0 _).2

/-- **A request is lost** if it comes in one read with an earlier one, or in two reads. -/
theorem requests_lost :
    let joined := [stream [mtpRequest, mscRequest]]
    let split := [stream [mtpRequest] ++ mscRequest.take 4, mscRequest.drop 4 ++ [nul]]
    joined.flatten = stream [mtpRequest, mscRequest] ∧
      split.flatten = stream [mtpRequest, mscRequest] ∧
      (sampleServe [mtpRequest, mscRequest]).map Prod.fst = [.mtp, .msc] ∧
      (sampleServe joined).map Prod.fst = [.mtp] ∧ (sampleServe split).map Prod.fst = [.mtp] := by
  decide +kernel

end Solana.Usbd
