import Solana.Lib.Lockstep
import Mathlib.Tactic.SplitIfs

/-!
# OSAL pipes

An OSAL pipe is a pipe of the kernel with a count of the messages and of the bytes in it.
`TIMM_OSAL_WriteToPipe` puts a message at the end and `TIMM_OSAL_ReadFromPipe` takes one from the
front; `TIMM_OSAL_WriteToFrontOfPipe` writes the message at the end, and then reads as many bytes
as there were and writes them behind it.

The last function never sets its status to success.  It compares what it has written back with the
size of the new message, and does not count the bytes of a message that comes first, so that later
calls read too few bytes and leave the messages in the wrong order (`pipe_not_deque`).
`pipe_deque_iff`: a pipe is a double-ended queue exactly in the runs without that function, with
messages that are not empty.

The system calls succeed here: a write is never partial, and memory is there for every size but a
negative one, which is a size beyond the address space.
-/

namespace Solana.Osal

open Lockstep

/-! ## The pipe -/

/-- The errors of the pipe functions, `TIMM_OSAL_ERRORTYPE`. -/
inductive PipeError
  | none
  | parameter
  | pipeEmpty
  | unknown
  deriving DecidableEq

/-- `TIMM_OSAL_PIPE`, with the bytes in the pipe. -/
structure Pipe where
  bytes : List UInt8
  messageCount : Int
  totalBytesInPipe : Int
  deriving DecidableEq

/-- The pipe that `TIMM_OSAL_CreatePipe` makes. -/
def Pipe.create : Pipe := ⟨[], 0, 0⟩

/-- `TIMM_OSAL_WriteToPipe`. -/
def Pipe.writeToPipe (p : Pipe) (message : List UInt8) : Pipe × PipeError :=
  if message.length = 0 then (p, .parameter)
  else
    (⟨p.bytes ++ message, p.messageCount + 1, p.totalBytesInPipe + message.length⟩, .none)

/-- `TIMM_OSAL_WriteToFrontOfPipe`. -/
def Pipe.writeToFrontOfPipe (p : Pipe) (message : List UInt8) : Pipe × PipeError :=
  if message.length = 0 then (p, .parameter)
  else
    let p := { p with bytes := p.bytes ++ message, messageCount := p.messageCount + 1 }
    if p.messageCount > 1 then
      -- no memory for a negative number of bytes
      if p.totalBytesInPipe < 0 then (p, .parameter)
      else
        let n := p.totalBytesInPipe.toNat
        let p := { p with bytes := p.bytes.drop n ++ p.bytes.take n }
        -- the number of bytes written back is compared with the size of the message
        if n ≠ message.length then (p, .parameter)
        else ({ p with totalBytesInPipe := p.totalBytesInPipe + message.length }, .unknown)
    else (p, .unknown)

/-- What a call returns, with the message that was read. -/
inductive PipeAnswer
  | returned (status : PipeError) (message : List UInt8)
  /-- The call waits for a message. -/
  | blocked
  deriving DecidableEq

/-- `TIMM_OSAL_ReadFromPipe`; `suspend` says that the call may wait. -/
def Pipe.readFromPipe (p : Pipe) (size : Nat) (suspend : Bool) : Pipe × PipeAnswer :=
  if size = 0 then (p, .returned .parameter [])
  else if p.messageCount = 0 ∧ suspend = false then (p, .returned .pipeEmpty [])
  else if p.bytes = [] then (p, .blocked)
  else
    (⟨p.bytes.drop size, p.messageCount - 1, p.totalBytesInPipe - size⟩,
      .returned .none (p.bytes.take size))

/-! ## Runs -/

/-- The calls on a pipe, with messages of one size. -/
inductive PipeCall (size : Nat)
  | write (message : Vector UInt8 size)
  | writeToFront (message : Vector UInt8 size)
  | read (suspend : Bool)

/-- A call on the pipe. -/
def Pipe.call {size : Nat} (p : Pipe) : PipeCall size → Pipe × PipeAnswer
  | .write message =>
    let (p, status) := p.writeToPipe message.toList
    (p, .returned status [])
  | .writeToFront message =>
    let (p, status) := p.writeToFrontOfPipe message.toList
    (p, .returned status [])
  | .read suspend => p.readFromPipe size suspend

/-- The same call on a double-ended queue of messages. -/
def dequeCall {size : Nat} (q : List (Vector UInt8 size)) :
    PipeCall size → List (Vector UInt8 size) × PipeAnswer
  | .write message => (q ++ [message], .returned .none [])
  | .writeToFront message => (message :: q, .returned .none [])
  | .read suspend =>
    match q with
    | [] => ([], if suspend then .blocked else .returned .pipeEmpty [])
    | message :: q => (q, .returned .none message.toList)

/-- The pipe holds the messages of a queue, and its counts are right. -/
structure Pipe.Holds {size : Nat} (p : Pipe) (q : List (Vector UInt8 size)) : Prop where
  bytes : p.bytes = (q.map Vector.toList).flatten
  messageCount : p.messageCount = q.length
  totalBytesInPipe : p.totalBytesInPipe = p.bytes.length

/-- In a run of calls the pipe is a double-ended queue: the calls return what they return on a
queue, and after each of them the pipe holds the messages of the queue. -/
def BehavesAsDeque {size : Nat} (calls : List (PipeCall size)) : Prop :=
  answers Pipe.call .create calls = answers dequeCall [] calls ∧
    ∀ made, made <+: calls → (after Pipe.call .create made).Holds (after dequeCall [] made)

/-- The call is not of the function that writes to the front. -/
def PipeCall.atEnds {size : Nat} : PipeCall size → Bool
  | .write _ => true
  | .writeToFront _ => false
  | .read _ => true

/-! ## Calls that are sound -/

variable {size : Nat} {p : Pipe} {q : List (Vector UInt8 size)}

open Pipe

lemma Pipe.Holds.write (h : p.Holds q) (message : Vector UInt8 size) (hsize : 0 < size) :
    (p.call (.write message)).2 = .returned .none [] ∧
      (p.call (.write message)).1.Holds (q ++ [message]) := by
  have hne : ¬message.toList.length = 0 := by
    rw [Vector.length_toList]
    omega
  simp only [call, writeToPipe, if_neg hne, true_and]
  refine ⟨?_, ?_, ?_⟩
  · simp [h.bytes]
  · simp [h.messageCount]
  · simp [h.totalBytesInPipe]

lemma Pipe.Holds.read (h : p.Holds q) (suspend : Bool) (hsize : 0 < size) :
    (p.call (.read suspend : PipeCall size)).2 = (dequeCall q (.read suspend)).2 ∧
      (p.call (.read suspend : PipeCall size)).1.Holds (dequeCall q (.read suspend)).1 := by
  have hne : ¬size = 0 := by omega
  simp only [call, readFromPipe, if_neg hne]
  cases q with
  | nil =>
    have hbytes : p.bytes = [] := h.bytes
    have hcount : p.messageCount = 0 := h.messageCount
    cases suspend <;> simpa [dequeCall, hbytes, hcount] using h
  | cons message q =>
    have hbytes : p.bytes = message.toList ++ (q.map Vector.toList).flatten := by
      simpa using h.bytes
    have hcount : p.messageCount = q.length + 1 := by simpa using h.messageCount
    have hempty : ¬p.bytes = [] := by
      intro hnil
      have hlen := congrArg List.length (hbytes.symm.trans hnil)
      simp only [List.length_append, Vector.length_toList, List.length_nil] at hlen
      omega
    have hlen : message.toList.length = size := Vector.length_toList
    rw [if_neg (by omega), if_neg hempty]
    refine ⟨?_, ?_, ?_, ?_⟩
    · simp [dequeCall, hbytes, hlen]
    · simp [dequeCall, hbytes, hlen]
    · simp [dequeCall, hcount]
    · simp only [h.totalBytesInPipe, hbytes, List.length_drop, List.length_append, hlen]
      omega

lemma Pipe.holds_simulates (hsize : 0 < size) :
    Simulates (@Pipe.call size) dequeCall (fun _ call => call.atEnds = true) Pipe.Holds := by
  intro p q call h hcall
  cases call with
  | write message => exact h.write message hsize
  | writeToFront message => simp [PipeCall.atEnds] at hcall
  | read suspend => exact h.read suspend hsize

/-! ## Calls that are not -/

lemma Pipe.writeToFront_ne (p : Pipe) (message : Vector UInt8 size) :
    (p.call (.writeToFront message)).2 ≠ .returned .none [] := by
  simp only [call, writeToFrontOfPipe]
  split_ifs <;> simp

lemma Pipe.call_of_empty (p : Pipe) (call : PipeCall 0) (hcall : call.atEnds = true) :
    (p.call call).2 = .returned .parameter [] := by
  cases call with
  | write message => simp [call, writeToPipe]
  | writeToFront message => simp [PipeCall.atEnds] at hcall
  | read suspend => simp [call, readFromPipe]

lemma dequeCall_ne_parameter (call : PipeCall size) :
    (dequeCall q call).2 ≠ .returned .parameter [] := by
  cases call with
  | write message => simp [dequeCall]
  | writeToFront message => simp [dequeCall]
  | read suspend => cases q <;> cases suspend <;> simp [dequeCall]

lemma sound_of_answers_eq {calls : List (PipeCall size)}
    (h : answers call .create calls = answers dequeCall [] calls) {call : PipeCall size}
    (hcall : call ∈ calls) : 0 < size ∧ call.atEnds = true := by
  obtain ⟨p, q, hanswer⟩ := exists_of_answers_eq h call hcall
  have hends : call.atEnds = true := by
    cases call with
    | write message => rfl
    | writeToFront message => exact absurd hanswer (p.writeToFront_ne message)
    | read suspend => rfl
  refine ⟨Nat.pos_of_ne_zero ?_, hends⟩
  rintro rfl
  rw [p.call_of_empty call hends] at hanswer
  exact dequeCall_ne_parameter call hanswer.symm

lemma allowed_of_forall {calls : List (PipeCall size)} : ∀ {p : Pipe},
    (∀ call ∈ calls, call.atEnds = true) →
      Allowed call (fun _ call => call.atEnds = true) p calls := by
  induction calls with
  | nil => exact fun _ => trivial
  | cons call calls ih =>
    exact fun h => ⟨h call List.mem_cons_self, ih fun c hc => h c (List.mem_cons_of_mem _ hc)⟩

/-- **An OSAL pipe as a double-ended queue.**  With successful system calls and messages of one
size, the calls of a run return what they return on a double-ended queue of messages, and the pipe
holds the messages of that queue with the right counts after each of them, exactly if no message is
written to the front and, unless there is no call, the messages are not empty. -/
theorem pipe_deque_iff (calls : List (PipeCall size)) :
    BehavesAsDeque calls ↔ ∀ call ∈ calls, 0 < size ∧ call.atEnds = true := by
  constructor
  · exact fun h call hcall => sound_of_answers_eq h.1 hcall
  · intro h
    have hstart : create.Holds ([] : List (Vector UInt8 size)) := ⟨rfl, rfl, rfl⟩
    cases calls with
    | nil =>
      refine ⟨rfl, fun made hmade => ?_⟩
      obtain rfl := List.prefix_nil.mp hmade
      exact hstart
    | cons call calls =>
      have hsim := holds_simulates (h call List.mem_cons_self).1
      refine ⟨(hsim.run _ hstart (allowed_of_forall fun c hc => (h c hc).2)).1,
        fun made hmade => ?_⟩
      exact (hsim.run made hstart (allowed_of_forall fun c hc =>
        (h c (hmade.subset hc)).2)).2

/-- A message of one byte. -/
def byteMessage (b : UInt8) : Vector UInt8 1 := #v[b]

/-- A write to the front of an empty pipe does not report success, and does not count the byte.  A
second one is then read after the first. -/
theorem pipe_not_deque : (¬∀ (size : Nat) (calls : List (PipeCall size)), BehavesAsDeque calls) ∧
      (Pipe.create.call (.writeToFront (byteMessage 1))) = (⟨[1], 1, 0⟩, .returned .unknown []) ∧
      answers Pipe.call .create
          [.writeToFront (byteMessage 1), .writeToFront (byteMessage 2), .read false] =
        [.returned .unknown [], .returned .parameter [], .returned .none [1]] ∧ answers dequeCall []
          [.writeToFront (byteMessage 1), .writeToFront (byteMessage 2), .read false] =
        [.returned .none [], .returned .none [], .returned .none [2]] := by
  refine ⟨fun h => ?_, by decide, by decide, by decide⟩
  exact absurd (h 1 [.writeToFront (byteMessage 1)]).1 (by decide)

end Solana.Osal
