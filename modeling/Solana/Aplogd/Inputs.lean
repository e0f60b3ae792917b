import Solana.Aplogd.Daemon
import Mathlib.Tactic.SplitIfs

/-!
# The inputs of the log daemon

Each input of the daemon stands in two tables: `aplogd_io_array` has its descriptor, and
`aplogd_io_fd` has the descriptor that is polled.  An error or a hangup closes the polled descriptor
and takes it out of the second table only.  A change of the configuration polls the descriptors of
the first table again, the end of the daemon closes them again, and the connection to `vold` is
opened again only if there is none in the first table.

Descriptors are numbered in the order in which they are opened, so that each number is one
descriptor for the whole run.  `uses`, which is not a variable of the source, records what is done
with them.  Of the reading of a log device only whether it ends the process is modelled here; what
it does to the buffers is in `Solana.Aplogd.Daemon`.

`closed_inputs_not_used`: as long as `vold` does not hang up, and no input is lost before the
configuration changes or the daemon ends, no descriptor is used once it was closed, and a missing
connection to `vold` is opened by the next pass of the main loop that can.
-/

namespace Solana.Aplogd

open Runs Function Option List

/-! ## State -/

/-- `enum aplogd_poll_indexes`. -/
inductive PollIndex
  | stream (i : StreamId)
  | vold
  deriving DecidableEq

/-- The indexes below `APLOGD_MAX_IO_FDS`. -/
def PollIndex.all : List PollIndex := StreamId.all.map .stream ++ [.vold]

/-- A system call on a descriptor. -/
inductive FdOp
  | poll
  | read
  | close
  deriving DecidableEq

/-- A use of a descriptor. -/
structure Use where
  op : FdOp
  fd : Nat
  deriving DecidableEq

/-- The two tables of inputs. -/
structure Inputs where
  /-- The fields `input_fd` of `aplogd_io_array`, unless they are -1. -/
  inputFd : PollIndex → Option Nat
  /-- The fields `fd` of `aplogd_io_fd`, unless they are -1. -/
  pollFd : PollIndex → Option Nat
  running : Bool
  /-- The number of descriptors that were opened. -/
  opened : Nat
  /-- What was done with descriptors, in order. -/
  uses : List Use

/-- `aplogd_io_array_init`. -/
def Inputs.init : Inputs := ⟨fun _ => none, fun _ => none, true, 0, []⟩

/-- Use a descriptor, if there is one. -/
def Inputs.use (s : Inputs) (op : FdOp) (fd : Option Nat) : Inputs :=
  { s with uses := s.uses ++ fd.toList.map (Use.mk op) }

/-- `aplogd_io_add_poll_fd`. -/
def Inputs.addPollFd (s : Inputs) (fd : Nat) (i : PollIndex) : Inputs :=
  { s with pollFd := Function.update s.pollFd i (some fd) }

/-- `aplogd_io_remove_poll_fd`. -/
def Inputs.removePollFd (s : Inputs) (i : PollIndex) : Inputs :=
  { s with pollFd := Function.update s.pollFd i none }

/-! ## Setting up -/

/-- Open an input and poll it. -/
def Inputs.openInput (s : Inputs) (i : PollIndex) (ok : Bool) : Inputs :=
  if ok then
    ({ s with
      inputFd := Function.update s.inputFd i (some s.opened)
      opened := s.opened + 1 }).addPollFd s.opened i
  else s

/-- The loop of `aplogd_input_setup`. -/
def Inputs.setupStreams (collect ok : StreamId → Bool) : List StreamId → Inputs → Inputs
  | [], s => s
  | i :: is, s =>
    setupStreams collect ok is
      (if collect i && (s.inputFd (.stream i)).isNone then s.openInput (.stream i) (ok i) else s)

/-- What `aplogd_input_setup` finds. -/
structure InputEnv where
  /-- Can the log device be opened? -/
  ok : StreamId → Bool
  /-- Does `vold` answer? -/
  vold : Bool

/-- `aplogd_input_setup`, with whether it succeeds. -/
def Inputs.inputSetup (collect : StreamId → Bool) (s : Inputs) (env : InputEnv) : Inputs × Bool :=
  ((s.setupStreams collect env.ok StreamId.all).openInput .vold env.vold,
    StreamId.all.all fun i => !collect i || (s.inputFd (.stream i)).isSome || env.ok i)

/-- The loop of `aplogd_io_cleanup`. -/
def Inputs.cleanupLoop : List PollIndex → Inputs → Inputs
  | [], s => s
  | i :: is, s =>
    let s := s.removePollFd i
    let s := s.use .close (s.inputFd i)
    cleanupLoop is { s with inputFd := Function.update s.inputFd i none }

/-- `aplogd_io_cleanup`, at the end of the daemon. -/
def Inputs.cleanup (s : Inputs) : Inputs :=
  { Inputs.cleanupLoop PollIndex.all.reverse s with running := false }

/-- The start of `aplogd_log_io`; `outputs` says whether the output files can be opened. -/
def Inputs.boot (collect : StreamId → Bool) (outputs : Bool) (env : InputEnv) : Inputs :=
  let (s, ok) := Inputs.init.inputSetup collect env
  if outputs && ok then s else s.cleanup

/-! ## The main loop -/

/-- What `poll` reports for a descriptor. -/
structure Revents where
  pollin : Bool
  err : Bool
  hup : Bool
  /-- Any other flag. -/
  other : Bool

/-- `revents` is not zero. -/
def Revents.nonzero (r : Revents) : Bool := r.pollin || r.err || r.hup || r.other

/-- The descriptor was lost. -/
def Revents.lost (r : Revents) : Bool := r.err || r.hup

/-- The uses of descriptors in `aplogd_io_read_data`, and whether it exits. -/
def Inputs.readData (s : Inputs) (i : PollIndex) (exits : Bool) : Inputs :=
  match i with
  | .stream .kernel => s.use .read (s.pollFd i)
  | .stream _ => { s.use .read (s.pollFd i) with running := !exits }
  | .vold => s.use .read (s.inputFd .vold)

/-- `aplogd_io_handle_pollerr`. -/
def Inputs.handlePollerr (s : Inputs) (i : PollIndex) : Inputs :=
  (s.use .close (s.pollFd i)).removePollFd i

/-- `aplogd_io_handle_poll`. -/
def Inputs.handlePoll (s : Inputs) (i : PollIndex) (r : Revents) (exits : Bool) : Inputs :=
  let s := if r.pollin then s.readData i exits else s
  if s.running && r.lost then s.handlePollerr i else s

/-- The loop over the results of `poll`.  Entries without a descriptor have no results, and an
entry that was removed is looked at again but has none left. -/
def Inputs.handlePolls (revents : PollIndex → Revents) (exits : PollIndex → Bool) :
    List PollIndex → Nat → Inputs → Inputs
  | [], _, s => s
  | _ :: _, 0, s => s
  | i :: is, pollRet + 1, s =>
    if s.running = false then s
    else if (s.pollFd i).isSome && (revents i).nonzero then
      handlePolls revents exits is pollRet (s.handlePoll i (revents i) (exits i))
    else handlePolls revents exits is (pollRet + 1) s

/-- What `poll` returns. -/
inductive PollResult
  | failed
  | timeout
  | ready (pollRet : Nat) (revents : PollIndex → Revents) (exits : PollIndex → Bool)

/-- What happens in a pass of the main loop. -/
structure Pass where
  configChanged : Bool
  poll : PollResult
  /-- Does `vold` answer? -/
  vold : Bool

/-- The part of the main loop for a change of the configuration, after `aplogd_config_load`. -/
def Inputs.configChanged (collect : StreamId → Bool) (s : Inputs) : Inputs :=
  { s with pollFd := fun
      | .stream i =>
        if collect i = false then none
        else (s.inputFd (.stream i)).or (s.pollFd (.stream i))
      | .vold => s.pollFd .vold }

/-- The call of `poll`. -/
def Inputs.polling (s : Inputs) : Inputs :=
  { s with uses := s.uses ++ (PollIndex.all.filterMap s.pollFd).map (Use.mk .poll) }

/-- What is done about the result of `poll`. -/
def Inputs.handleResult (s : Inputs) : PollResult → Inputs
  | .failed | .timeout => s
  | .ready pollRet revents exits => s.handlePolls revents exits PollIndex.all pollRet

/-- Open a connection to `vold` if there is none. -/
def Inputs.reconnect (s : Inputs) (ok : Bool) : Inputs :=
  if s.running && (s.inputFd .vold).isNone then s.openInput .vold ok else s

/-- A pass of the main loop. -/
def Inputs.pass (collect : StreamId → Bool) (s : Inputs) (p : Pass) : Inputs :=
  let s := if p.configChanged then s.configChanged collect else s
  (s.polling.handleResult p.poll).reconnect p.vold

/-- A step of the daemon. -/
inductive InputEvent
  | pass (p : Pass)
  | shutdown

/-- The inputs after a step. -/
def Inputs.next (collect : StreamId → Bool) (s : Inputs) (e : InputEvent) : Option Inputs :=
  if s.running then
    match e with
    | .pass p => some (s.pass collect p)
    | .shutdown => some s.cleanup
  else none

/-- The states of the inputs in runs whose steps meet a condition. -/
def Inputs.ReachableWith (collect : StreamId → Bool) (Cond : Inputs → InputEvent → Prop) :
    Inputs → Prop :=
  Reachable (fun s => ∃ outputs env, s = Inputs.boot collect outputs env)
    fun s e s' => Cond s e ∧ s.next collect e = some s'

/-! ## Descriptors that are not used any more -/

/-- A use does not close what a later one needs. -/
def Use.Spares (u v : Use) : Prop := u.op = .close → u.fd ≠ v.fd

instance decidableSpares : DecidableRel Use.Spares := fun u v =>
  inferInstanceAs (Decidable (u.op = .close → u.fd ≠ v.fd))

/-- A descriptor is open and in use. -/
def Inputs.Connected (s : Inputs) (i : PollIndex) : Prop :=
  ∃ fd, s.pollFd i = some fd ∧ Use.mk .close fd ∉ s.uses

/-- Every descriptor of the first table is polled. -/
def Inputs.allPolled (s : Inputs) : Bool :=
  PollIndex.all.all fun i => (s.inputFd i).isNone || (s.pollFd i).isSome

/-- `vold` does not hang up. -/
def PollResult.keepsVold : PollResult → Bool
  | .failed | .timeout => true
  | .ready _ revents _ => !(revents .vold).lost

/-- `vold` does not hang up, and when the configuration changes or the daemon ends no input was
lost before. -/
def InputEvent.keeps (s : Inputs) : InputEvent → Bool
  | .pass p => (!p.configChanged || s.allPolled) && p.poll.keepsVold
  | .shutdown => s.allPolled

/-- The tables agree, except that a log device that was lost is still in the first one. -/
structure Inputs.Sound (s : Inputs) : Prop where
  spares : s.uses.Pairwise Use.Spares
  used_lt : ∀ u ∈ s.uses, u.fd < s.opened
  input_lt : ∀ i fd, s.inputFd i = some fd → fd < s.opened
  input_inj : ∀ i j fd, s.inputFd i = some fd → s.inputFd j = some fd → i = j
  polled : ∀ i fd, s.pollFd i = some fd → s.inputFd i = some fd ∧ Use.mk .close fd ∉ s.uses
  vold : ∀ fd, s.inputFd .vold = some fd → s.pollFd .vold = some fd

variable {collect : StreamId → Bool} {s s' : Inputs}

open Inputs

lemma PollIndex.mem_all (i : PollIndex) : i ∈ PollIndex.all := by
  cases i with
  | stream i => cases i <;> decide
  | vold => decide

lemma update_eq_some {f : PollIndex → Option Nat} {i j : PollIndex} {x : Option Nat} {fd : Nat} :
    update f i x j = some fd ↔ (j = i ∧ x = some fd) ∨ (j ≠ i ∧ f j = some fd) := by
  by_cases hj : j = i
  · simp [hj]
  · simp [hj]

lemma spares_append {uses : List Use} (h : uses.Pairwise Use.Spares) {op : FdOp} {fds : List Nat}
    (hop : op = .close → fds.Nodup) (hfds : ∀ fd ∈ fds, Use.mk .close fd ∉ uses) :
    (uses ++ fds.map (Use.mk op)).Pairwise Use.Spares := by
  refine pairwise_append.mpr ⟨h, ?_, fun u hu v hv => ?_⟩
  · by_cases hc : op = .close
    · have hne : fds.Pairwise (· ≠ ·) := hop hc
      refine pairwise_map.mpr (hne.imp ?_)
      intro fd fd' hne _
      exact hne
    · exact pairwise_map.mpr (pairwise_of_forall fun _ _ h => absurd h hc)
  · obtain ⟨fd, hfd, rfl⟩ := mem_map.mp hv
    rintro hclose rfl
    refine hfds u.fd hfd ?_
    rw [← hclose]
    exact hu

variable {i : PollIndex}

namespace Inputs

lemma Sound.open_of_polled (h : s.Sound) {fd : Nat} (hp : s.pollFd i = some fd) :
    fd < s.opened ∧ Use.mk .close fd ∉ s.uses :=
  ⟨h.input_lt i fd (h.polled i fd hp).1, (h.polled i fd hp).2⟩

lemma Sound.use_open (h : s.Sound) {op : FdOp} (hop : op ≠ .close) {fds : List Nat}
    (hfds : ∀ fd ∈ fds, fd < s.opened ∧ Use.mk .close fd ∉ s.uses) :
    { s with uses := s.uses ++ fds.map (Use.mk op) }.Sound := by
  refine { h with spares := ?_, used_lt := fun u hu => ?_, polled := fun i fd hp => ?_ }
  · exact spares_append h.spares (fun hc => absurd hc hop) fun fd hfd => (hfds fd hfd).2
  · rcases mem_append.mp hu with hu | hu
    · exact h.used_lt u hu
    · obtain ⟨fd, hfd, rfl⟩ := mem_map.mp hu
      exact (hfds fd hfd).1
  · refine ⟨(h.polled i fd hp).1, fun hmem => ?_⟩
    rcases mem_append.mp hmem with hmem | hmem
    · exact (h.polled i fd hp).2 hmem
    · obtain ⟨fd', -, heq⟩ := mem_map.mp hmem
      exact hop (Use.mk.inj heq).1

lemma Sound.close (h : s.Sound) (hi : i ≠ .vold) {fd : Nat} (hfd : s.inputFd i = some fd)
    (hopen : Use.mk .close fd ∉ s.uses) : ((s.use .close (some fd)).removePollFd i).Sound where
  spares := spares_append h.spares (fun _ => pairwise_singleton _ fd) fun fd' hfd' => by
    rwa [mem_singleton.mp hfd']
  used_lt u hu := by
    rcases mem_append.mp hu with hu | hu
    · exact h.used_lt u hu
    · rw [mem_singleton.mp hu]
      exact h.input_lt i fd hfd
  input_lt := h.input_lt
  input_inj := h.input_inj
  polled j fd' hp := by
    obtain ⟨-, hp⟩ | ⟨hj, hp⟩ := update_eq_some.mp hp
    · cases hp
    obtain ⟨hin, hne⟩ := h.polled j fd' hp
    refine ⟨hin, fun hmem => ?_⟩
    rcases mem_append.mp hmem with hmem | hmem
    · exact hne hmem
    · obtain ⟨-, rfl⟩ := Use.mk.inj (mem_singleton.mp hmem)
      exact hj (h.input_inj j i fd' hin hfd)
  vold fd' hin := update_eq_some.mpr (.inr ⟨hi.symm, h.vold fd' hin⟩)

/-! ## Setting up and ending -/

lemma sound_init : init.Sound :=
  ⟨.nil, nofun, nofun, nofun, nofun, nofun⟩

lemma Sound.openInput (h : s.Sound) (hi : s.inputFd i = none) (ok : Bool) :
    (s.openInput i ok).Sound := by
  unfold Inputs.openInput Inputs.addPollFd
  split_ifs
  · have hfresh : ∀ j, s.inputFd j ≠ some s.opened := fun j hj =>
      Nat.lt_irrefl _ (h.input_lt j _ hj)
    refine ⟨h.spares, fun u hu => Nat.lt_succ_of_lt (h.used_lt u hu), fun j fd hj => ?_,
      fun j k fd hj hk => ?_, fun j fd hj => ?_, fun fd hv => ?_⟩
    · obtain ⟨-, heq⟩ | ⟨-, hj⟩ := update_eq_some.mp hj
      · exact Nat.lt_succ_of_le (Nat.le_of_eq (some.inj heq).symm)
      · exact Nat.lt_succ_of_lt (h.input_lt j fd hj)
    · obtain ⟨rfl, hj'⟩ | ⟨-, hj'⟩ := update_eq_some.mp hj <;>
        obtain ⟨rfl, hk'⟩ | ⟨-, hk'⟩ := update_eq_some.mp hk
      · rfl
      · exact absurd (hk'.trans hj'.symm) (hfresh k)
      · exact absurd (hj'.trans hk'.symm) (hfresh j)
      · exact h.input_inj j k fd hj' hk'
    · obtain ⟨rfl, heq⟩ | ⟨hne, hj⟩ := update_eq_some.mp hj
      · obtain rfl := some.inj heq
        exact ⟨update_self .., fun hmem => Nat.lt_irrefl _ (h.used_lt _ hmem)⟩
      · obtain ⟨hin, hopen⟩ := h.polled j fd hj
        exact ⟨update_eq_some.mpr (.inr ⟨hne, hin⟩), hopen⟩
    · obtain ⟨hi, heq⟩ | ⟨hne, hv⟩ := update_eq_some.mp hv
      · exact update_eq_some.mpr (.inl ⟨hi, heq⟩)
      · exact update_eq_some.mpr (.inr ⟨hne, h.vold fd hv⟩)
  · exact h

lemma inputFd_openInput_of_ne {i j : PollIndex} (hj : j ≠ i) (ok : Bool) :
    (s.openInput i ok).inputFd j = s.inputFd j := by
  unfold Inputs.openInput Inputs.addPollFd
  split_ifs
  · exact update_of_ne hj ..
  · rfl

@[simp] lemma uses_openInput (s : Inputs) (i : PollIndex) (ok : Bool) :
    (s.openInput i ok).uses = s.uses := by
  unfold Inputs.openInput
  split_ifs <;> rfl

lemma uses_setupStreams {ok : StreamId → Bool} : ∀ (is : List StreamId) (s : Inputs),
    (Inputs.setupStreams collect ok is s).uses = s.uses
  | [], _ => rfl
  | i :: is, s => by
    unfold Inputs.setupStreams
    rw [uses_setupStreams is]
    split_ifs
    · exact s.uses_openInput _ _
    · rfl

lemma Sound.setupStreams (collect ok : StreamId → Bool) : ∀ (is : List StreamId) {s : Inputs},
    s.Sound → s.inputFd .vold = none → (Inputs.setupStreams collect ok is s).Sound ∧
        (Inputs.setupStreams collect ok is s).inputFd .vold = none
  | [], s, h, hv => ⟨h, hv⟩
  | i :: is, s, h, hv => by
    unfold Inputs.setupStreams
    split_ifs with hc
    · have hi : s.inputFd (.stream i) = none :=
        isNone_iff_eq_none.mp (Bool.and_eq_true_iff.mp hc).2
      exact Inputs.Sound.setupStreams collect ok is (h.openInput hi (ok i))
        ((inputFd_openInput_of_ne (by simp) (ok i)).trans hv)
    · exact Inputs.Sound.setupStreams collect ok is h hv

end Inputs

/-- No descriptor of the first table was closed. -/
def Inputs.Held (s : Inputs) : Prop :=
  ∀ i fd, s.inputFd i = some fd → Use.mk .close fd ∉ s.uses

lemma Inputs.Sound.held (h : s.Sound) (hall : s.allPolled = true) : s.Held := by
  intro i fd hi
  have hp : (s.pollFd i).isSome = true := by
    simpa [hi] using all_eq_true.mp hall i i.mem_all
  obtain ⟨fd', hp⟩ := isSome_iff_exists.mp hp
  obtain ⟨hin, hopen⟩ := h.polled i fd' hp
  obtain rfl := some.inj (hi.symm.trans hin)
  exact hopen

/-- A round of the loop of `aplogd_io_cleanup`. -/
def Inputs.cleanupOne (s : Inputs) (i : PollIndex) : Inputs :=
  { (s.removePollFd i).use .close (s.inputFd i) with
    inputFd := Function.update s.inputFd i none }

lemma Inputs.cleanupLoop_cons (i : PollIndex) (is : List PollIndex) (s : Inputs) :
    cleanupLoop (i :: is) s = cleanupLoop is (s.cleanupOne i) := rfl

lemma Inputs.Sound.cleanupOne (h : s.Sound) (hheld : s.Held) (i : PollIndex) :
    (s.cleanupOne i).Sound ∧ (s.cleanupOne i).Held := by
  have hlist : ∀ fd ∈ (s.inputFd i).toList, s.inputFd i = some fd := fun fd hfd =>
    mem_toList.mp hfd
  -- a descriptor of another input is not the one that is closed
  have hother : ∀ j fd, j ≠ i → s.inputFd j = some fd →
      Use.mk .close fd ∉ s.uses ++ (s.inputFd i).toList.map (Use.mk .close) := by
    intro j fd hne hj hmem
    rcases mem_append.mp hmem with hmem | hmem
    · exact hheld j fd hj hmem
    · obtain ⟨fd', hfd', heq⟩ := mem_map.mp hmem
      obtain ⟨-, rfl⟩ := Use.mk.inj heq
      exact hne (h.input_inj j i fd' hj (hlist fd' hfd'))
  refine ⟨⟨?_, fun u hu => ?_, fun j fd hj => ?_, fun j k fd hj hk => ?_, fun j fd hj => ?_,
    fun fd hv => ?_⟩, fun j fd hj => ?_⟩
  · refine spares_append h.spares (fun _ => ?_) fun fd hfd => hheld i fd (hlist fd hfd)
    cases s.inputFd i with
    | none => exact .nil
    | some fd => exact pairwise_singleton _ fd
  · rcases mem_append.mp hu with hu | hu
    · exact h.used_lt u hu
    · obtain ⟨fd, hfd, rfl⟩ := mem_map.mp hu
      exact h.input_lt i fd (hlist fd hfd)
  · obtain ⟨-, hj⟩ | ⟨-, hj⟩ := update_eq_some.mp hj
    · cases hj
    · exact h.input_lt j fd hj
  · obtain ⟨-, hj⟩ | ⟨-, hj⟩ := update_eq_some.mp hj
    · cases hj
    obtain ⟨-, hk⟩ | ⟨-, hk⟩ := update_eq_some.mp hk
    · cases hk
    exact h.input_inj j k fd hj hk
  · obtain ⟨-, hj⟩ | ⟨hne, hj⟩ := update_eq_some.mp hj
    · cases hj
    have hin := (h.polled j fd hj).1
    exact ⟨update_eq_some.mpr (.inr ⟨hne, hin⟩), hother j fd hne hin⟩
  · obtain ⟨-, hv⟩ | ⟨hne, hv⟩ := update_eq_some.mp hv
    · cases hv
    exact update_eq_some.mpr (.inr ⟨hne, h.vold fd hv⟩)
  · obtain ⟨-, hj⟩ | ⟨hne, hj⟩ := update_eq_some.mp hj
    · cases hj
    exact hother j fd hne hj

lemma Inputs.Sound.cleanupLoop : ∀ (is : List PollIndex) {s : Inputs}, s.Sound → s.Held →
    (cleanupLoop is s).Sound
  | [], _, h, _ => h
  | i :: is, s, h, hheld => by
    rw [cleanupLoop_cons]
    obtain ⟨h₁, hheld₁⟩ := h.cleanupOne hheld i
    exact Inputs.Sound.cleanupLoop is h₁ hheld₁

section

variable (h : s.Sound)
include h

namespace Inputs.Sound

lemma stopped (running : Bool) :
    { s with running := running }.Sound := ⟨h.1, h.2, h.3, h.4, h.5, h.6⟩

lemma cleanup (hheld : s.Held) : s.cleanup.Sound :=
  (h.cleanupLoop _ hheld).stopped false

/-! ## Passes of the main loop -/

lemma configChanged (hall : s.allPolled = true) : (s.configChanged collect).Sound := by
  refine ⟨h.spares, h.used_lt, h.input_lt, h.input_inj, fun i fd hp => ?_, h.vold⟩
  cases i with
  | vold => exact h.polled .vold fd hp
  | stream i =>
    obtain ⟨-, hp⟩ := ite_none_left_eq_some.mp hp
    have hin : s.inputFd (.stream i) = some fd := by
      rcases or_eq_some_iff.mp hp with hin | ⟨-, hp⟩
      · exact hin
      · exact (h.polled _ fd hp).1
    exact ⟨hin, h.held hall _ fd hin⟩

lemma polling : s.polling.Sound := by
  refine h.use_open (by decide : FdOp.poll ≠ .close) fun fd hfd => ?_
  obtain ⟨i, -, hp⟩ := mem_filterMap.mp hfd
  exact h.open_of_polled hp

lemma readOption (fd : Option Nat) (hfd : ∀ f, fd = some f → s.pollFd i = some f) :
    (s.use .read fd).Sound :=
  h.use_open (by decide : FdOp.read ≠ .close) fun f hf =>
    h.open_of_polled (hfd f (mem_toList.mp hf))

lemma readData (i : PollIndex) (exits : Bool) : (s.readData i exits).Sound := by
  cases i with
  | vold => exact h.readOption _ h.vold
  | stream i =>
    have hread := h.readOption (s.pollFd (.stream i)) fun _ hf => hf
    cases i with
    | kernel => exact hread
    | main | radio | events | system => exact hread.stopped _

lemma handlePollerr (hi : i ≠ .vold) : (s.handlePollerr i).Sound := by
  unfold Inputs.handlePollerr
  cases hp : s.pollFd i with
  | some fd => exact h.close hi (h.polled i fd hp).1 (h.polled i fd hp).2
  | none =>
    have hself : (s.use .close none).removePollFd i = s := by
      have hupdate : update s.pollFd i none = s.pollFd := by
        rw [← hp, update_eq_self]
      simp [use, removePollFd, hupdate]
    rwa [hself]

end Inputs.Sound

end

/-- The loop over the results of `poll` keeps what reading an input and losing one keep. -/
lemma Inputs.handlePolls_rule {P : Inputs → Prop} {revents : PollIndex → Revents}
    {exits : PollIndex → Bool}
    (hread : ∀ (s : Inputs) i, s.running = true → P s → P (s.readData i (exits i)))
    (herr : ∀ (s : Inputs) i, (revents i).lost = true → P s → P (s.handlePollerr i)) :
    ∀ (is : List PollIndex) (pollRet : Nat) {s : Inputs}, P s →
      P (handlePolls revents exits is pollRet s)
  | [], _, _, h => by
    unfold handlePolls
    exact h
  | _ :: _, 0, _, h => h
  | i :: is, pollRet + 1, s, h => by
    have hlost : ∀ s : Inputs, P s →
        P (if s.running && (revents i).lost then s.handlePollerr i else s) := by
      intro s h
      split_ifs with hl
      · exact herr s i (Bool.and_eq_true_iff.mp hl).2 h
      · exact h
    unfold handlePolls
    split_ifs with hrun
    · exact h
    · refine handlePolls_rule hread herr is pollRet ?_
      unfold handlePoll
      by_cases hin : (revents i).pollin = true
      · simp only [if_pos hin]
        exact hlost _ (hread s i (by simpa using hrun) h)
      · simp only [if_neg hin]
        exact hlost s h
    · exact handlePolls_rule hread herr is (pollRet + 1) h

lemma Inputs.Sound.pass_polled (h : s.Sound) (collect : StreamId → Bool) {p : Pass}
    (hk : (InputEvent.pass p).keeps s = true) :
    ∃ s₁ : Inputs, s₁.Sound ∧ s.pass collect p = s₁.reconnect p.vold := by
  obtain ⟨hc, hv⟩ := Bool.and_eq_true_iff.mp hk
  refine ⟨_, ?_, rfl⟩
  have hconf : (if p.configChanged then s.configChanged collect else s).Sound := by
    split_ifs with hchanged
    · exact h.configChanged (by simpa [hchanged] using hc)
    · exact h
  cases hp : p.poll with
  | failed | timeout => exact hconf.polling
  | ready pollRet revents exits =>
    have hkeeps : (revents .vold).lost = false := by simpa [hp, PollResult.keepsVold] using hv
    refine handlePolls_rule (fun _ i _ h => h.readData i _)
      (fun _ i hl h => h.handlePollerr fun hi => ?_) _ _ hconf.polling
    rw [hi, hkeeps] at hl
    cases hl

lemma Inputs.sound_boot (outputs : Bool) (env : InputEnv) : (boot collect outputs env).Sound := by
  obtain ⟨hs, hv⟩ := Inputs.Sound.setupStreams collect env.ok StreamId.all sound_init rfl
  have hsetup := hs.openInput hv env.vold
  unfold boot
  simp only
  split_ifs
  · exact hsetup
  · refine hsetup.cleanup fun i fd _ hmem => ?_
    change Use.mk .close fd ∈ (Inputs.openInput _ _ _).uses at hmem
    rw [uses_openInput, uses_setupStreams] at hmem
    cases hmem

lemma Inputs.Sound.pass (h : s.Sound) {p : Pass} (hk : (InputEvent.pass p).keeps s = true) :
    (s.pass collect p).Sound := by
  obtain ⟨s₁, h₁, heq⟩ := h.pass_polled collect hk
  rw [heq]
  unfold reconnect
  split_ifs with hv
  · exact h₁.openInput (isNone_iff_eq_none.mp (Bool.and_eq_true_iff.mp hv).2) _
  · exact h₁

lemma Inputs.Sound.next (h : s.Sound) {e : InputEvent} (hk : e.keeps s = true)
    (hn : s.next collect e = some s') : s'.Sound := by
  obtain ⟨-, hn⟩ := ite_none_right_eq_some.mp hn
  cases e with
  | pass p =>
    obtain rfl := some.inj hn
    exact h.pass hk
  | shutdown =>
    obtain rfl := some.inj hn
    exact h.cleanup (h.held hk)

/-- A pass that does not end the process is connected to `vold` if it answers. -/
lemma Inputs.Sound.connected_pass (h : s.Sound) {p : Pass}
    (hk : (InputEvent.pass p).keeps s = true) (hrun : (s.pass collect p).running = true)
    (hans : p.vold = true) : (s.pass collect p).Connected .vold := by
  obtain ⟨s₁, h₁, heq⟩ := h.pass_polled collect hk
  rw [heq] at hrun ⊢
  unfold reconnect at *
  cases hv : s₁.inputFd .vold with
  | some fd =>
    simp only [isNone_some, Bool.and_false, Bool.false_eq_true, if_false]
    exact ⟨fd, h₁.vold fd hv, (h₁.polled .vold fd (h₁.vold fd hv)).2⟩
  | none =>
    have hs₁ : s₁.running = true := by
      by_contra hne
      simp [hne] at hrun
    simp only [hs₁, isNone_none, Bool.and_self, if_true, hans, Inputs.openInput, Inputs.addPollFd]
    exact ⟨s₁.opened, update_self PollIndex.vold (some s₁.opened) s₁.pollFd,
      fun hmem => Nat.lt_irrefl _ (h₁.used_lt _ hmem)⟩

/-- **Closed inputs are left alone.**  In every run in which `vold` does not hang up, and no input
is lost before the configuration changes or the daemon ends, a descriptor is not polled, read or
closed once it was closed, and the next pass of the main loop in which `vold` answers is connected
to it. -/
theorem closed_inputs_not_used (hr : Inputs.ReachableWith collect (fun s e => e.keeps s = true) s) :
    s.uses.Pairwise Use.Spares ∧
      ∀ p s', (InputEvent.pass p).keeps s = true → s.next collect (.pass p) = some s' →
        s'.running = true → p.vold = true → s'.Connected .vold := by
  have h : s.Sound := by
    refine hr.invariant Inputs.Sound ?_ ?_
    · rintro s ⟨outputs, env, rfl⟩
      exact sound_boot outputs env
    · rintro s e s' hs ⟨hk, hn⟩
      exact hs.next hk hn
  refine ⟨h.spares, fun p s' hk hn hrun hans => ?_⟩
  obtain rfl := some.inj (ite_none_right_eq_some.mp hn).2
  exact h.connected_pass hk hrun hans

/-! ## Lost inputs -/

/-- The input at an index is lost, and nothing else happens. -/
def lostPass (i : PollIndex) (vold : Bool) : Pass where
  configChanged := false
  poll := .ready 1 (fun j => ⟨false, false, j = i, false⟩) fun _ => false
  vold := vold

/-- The configuration changed. -/
def changedPass : Pass := ⟨true, .timeout, true⟩

/-- The daemon starts before `vold` does.  The main log is lost, its descriptor is closed once, and
the next pass is connected to `vold`. -/
theorem lost_log_closed_once : ∃ s : Inputs, Use.mk .close 0 ∈ s.uses ∧ s.pollFd .vold = none ∧
      s.uses.Pairwise Use.Spares ∧
      (s.pass (fun _ => true) ⟨false, .timeout, true⟩).Connected .vold := by
  obtain ⟨s, hr, hmem, hp, s', hn, hrunning⟩ : ∃ s,
      Inputs.ReachableWith (fun _ => true) (fun s e => e.keeps s = true) s ∧
        Use.mk .close 0 ∈ s.uses ∧ s.pollFd .vold = none ∧
        ∃ s', s.next (fun _ => true) (.pass ⟨false, .timeout, true⟩) = some s' ∧
          s'.running = true :=
    exists_of_run ⟨true, ⟨fun _ => true, false⟩, rfl⟩
      [.pass (lostPass (.stream .main) false)] (by decide +kernel)
  obtain ⟨hspares, hconn⟩ := closed_inputs_not_used hr
  have hs' := hconn _ s' rfl hn hrunning rfl
  obtain rfl := some.inj (ite_none_right_eq_some.mp hn).2
  exact ⟨s, hmem, hp, hspares, hs'⟩

/-- `vold` is not polled, but its descriptor is still in the first table. -/
structure Inputs.Forgotten (s : Inputs) : Prop where
  pollFd : s.pollFd .vold = none
  inputFd : s.running = true → s.inputFd .vold ≠ none

section

variable (h : s.Forgotten)
include h

namespace Inputs.Forgotten

lemma readData (i : PollIndex) (exits : Bool) :
    s.running = true → (s.readData i exits).Forgotten := by
  intro hrun
  rcases i with (_ | _ | _ | _ | _) | _ <;> exact ⟨h.pollFd, fun _ => h.inputFd hrun⟩

lemma handlePollerr (i : PollIndex) : (s.handlePollerr i).Forgotten := by
  refine ⟨?_, h.inputFd⟩
  by_cases hi : PollIndex.vold = i
  · subst hi
    exact update_self PollIndex.vold none s.pollFd
  · exact (update_of_ne hi ..).trans h.pollFd

lemma handleResult (result : PollResult) : (s.handleResult result).Forgotten := by
  cases result with
  | failed | timeout => exact h
  | ready pollRet revents exits =>
    exact handlePolls_rule (fun _ i hrun h => h.readData i _ hrun)
      (fun _ i _ h => h.handlePollerr i) _ _ h

lemma reconnect (ok : Bool) : s.reconnect ok = s := by
  refine if_neg fun hc => ?_
  obtain ⟨hrun, hnone⟩ := Bool.and_eq_true_iff.mp hc
  exact h.inputFd hrun (isNone_iff_eq_none.mp hnone)

lemma pass (p : Pass) : (s.pass collect p).Forgotten := by
  have hconf : (if p.configChanged then s.configChanged collect else s).Forgotten := by
    split_ifs
    exacts [⟨h.pollFd, h.inputFd⟩, h]
  have hpoll : (if p.configChanged then s.configChanged collect else s).polling.Forgotten :=
    ⟨hconf.pollFd, hconf.inputFd⟩
  have hdone := hpoll.handleResult p.poll
  unfold Inputs.pass
  rwa [hdone.reconnect]

end Inputs.Forgotten

end

lemma Inputs.pollFd_cleanupLoop {j : PollIndex} : ∀ (is : List PollIndex) {s : Inputs},
    s.pollFd j = none → (cleanupLoop is s).pollFd j = none
  | [], _, h => h
  | i :: is, s, h => by
    rw [cleanupLoop_cons]
    refine pollFd_cleanupLoop is ?_
    by_cases hj : j = i
    · rw [hj]
      exact update_self ..
    · exact (update_of_ne hj ..).trans h

lemma Inputs.Forgotten.next (h : s.Forgotten) {e : InputEvent}
    (hn : s.next collect e = some s') : s'.Forgotten := by
  obtain ⟨-, hn⟩ := ite_none_right_eq_some.mp hn
  cases e with
  | pass p =>
    obtain rfl := some.inj hn
    exact h.pass p
  | shutdown =>
    obtain rfl := some.inj hn
    exact ⟨pollFd_cleanupLoop PollIndex.all.reverse h.pollFd, nofun⟩

/-- The main log is lost and the configuration changes: the closed descriptor is polled.  `vold`
hangs up: whatever happens later, there is no connection to it any more. -/
theorem lost_inputs_reused_or_forgotten :
    (¬∀ s : Inputs, Inputs.ReachableWith (fun _ => true) (fun _ _ => True) s →
      s.uses.Pairwise Use.Spares) ∧
    ∃ s : Inputs, Inputs.ReachableWith (fun _ => true) (fun _ _ => True) s ∧ s.running = true ∧
      ∀ s' : Inputs, Reachable (· = s)
        (fun s (e : InputEvent) s' => s.next (fun _ => true) e = some s') s' →
        ¬s'.Connected .vold := by
  constructor
  · intro h
    obtain ⟨s, hr, hbad⟩ : ∃ s, Inputs.ReachableWith (fun _ => true) (fun _ _ => True) s ∧
        ¬s.uses.Pairwise Use.Spares :=
      exists_of_run ⟨true, ⟨fun _ => true, true⟩, rfl⟩
        [.pass (lostPass (.stream .main) true), .pass changedPass] (by decide +kernel)
    exact hbad (h s hr)
  · obtain ⟨s, hr, hrunning, hp, hin⟩ : ∃ s,
        Inputs.ReachableWith (fun _ => true) (fun _ _ => True) s ∧ s.running = true ∧
          s.pollFd .vold = none ∧ s.inputFd .vold = some 5 :=
      exists_of_run ⟨true, ⟨fun _ => true, true⟩, rfl⟩ [.pass (lostPass .vold true)]
        (by decide +kernel)
    refine ⟨s, hr, hrunning, fun s' hr => ?_⟩
    have h : s'.Forgotten := by
      refine hr.invariant Inputs.Forgotten ?_ fun _ _ _ h hn => h.next hn
      rintro _ rfl
      exact ⟨hp, fun _ hnone => by simp [hin] at hnone⟩
    rintro ⟨fd, hfd, -⟩
    rw [h.pollFd] at hfd
    cases hfd

end Solana.Aplogd
