import Solana.Charge.Session

/-!
# The sequence of keys for the memory test

`launch_sequence` counts how many of its nine keys were pressed in order.  A key that is not the
next one sets the counter back to zero, also if it could itself begin the sequence or continue an
earlier part of it, and the counter of a complete sequence stays at nine, so that the next key is
compared with the memory after the array.

As long as neither happens, the counter is the length of the longest beginning of the sequence that
was pressed last (`Detector.Tracks`), and so the sequence is reported exactly when it is complete
(`sequence_reported`).
-/

namespace Solana.Charge

open Runs List Option

/-! ## The detector -/

/-- The keys that `launch_sequence` looks at. -/
def isLaunchKey (r : Event) : Bool :=
  r = .volumedownKeyDown ∨ r = .volumeupKeyDown ∨ r = .powerKeyDown

/-- The counter of `launch_sequence`, and the keys that it was called with, in order. -/
structure Detector where
  counter : Nat
  keys : List Event
  deriving DecidableEq

/-- A call of `launch_sequence`, with the memory after its array. -/
structure LaunchCall where
  event : Event
  beyond : Nat → Event

/-- The detector after a call. -/
def Detector.next (d : Detector) (call : LaunchCall) : Detector :=
  ⟨(launchSequence call.beyond call.event d.counter).1,
    if isLaunchKey call.event then d.keys ++ [call.event] else d.keys⟩

/-- The states in runs whose calls meet a condition. -/
def Detector.ReachableWith (Cond : Detector → Event → Prop) : Detector → Prop :=
  Reachable (· = ⟨0, []⟩) fun d call d' => Cond d call.event ∧ some (d.next call) = some d'

/-- No key is pressed once the sequence is complete, and volume up only when it is the next key. -/
def Detector.Follows (d : Detector) (r : Event) : Prop :=
  isLaunchKey r = true → ¬launchKeys <:+ d.keys ∧
    (r = .volumeupKeyDown → launchKeys[d.counter]? = some .volumeupKeyDown)

instance (d : Detector) (r : Event) : Decidable (d.Follows r) :=
  inferInstanceAs (Decidable (_ → _))

/-! ## The counter -/

/-- The counter is the length of the longest beginning of the sequence that was pressed last. -/
structure Detector.Tracks (d : Detector) : Prop where
  le : d.counter ≤ launchKeys.length
  pressed : launchKeys.take d.counter <:+ d.keys
  longest : ∀ j ≤ launchKeys.length, launchKeys.take j <:+ d.keys → j ≤ d.counter

variable {d : Detector}

lemma concat_suffix_concat {α : Type} {l m : List α} {a b : α} :
    l ++ [a] <:+ m ++ [b] ↔ l <:+ m ∧ a = b := by
  rw [← reverse_prefix, reverse_concat, reverse_concat, cons_prefix_cons, reverse_prefix, and_comm]

/-- A longer beginning that was pressed last ends with the last key. -/
lemma take_succ_suffix {i : Nat} (hi : i < launchKeys.length) {keys : List Event} {r : Event} :
    launchKeys.take (i + 1) <:+ keys ++ [r] ↔
      launchKeys.take i <:+ keys ∧ launchKeys[i]? = some r := by
  rw [take_add_one, getElem?_eq_getElem hi, toList_some, concat_suffix_concat, some.injEq]

/-- A key that ends a shorter beginning, and is not volume up, ends no longer one before it. -/
lemma no_border : ∀ c < launchKeys.length, ∀ i < c,
    launchKeys[i]? ≠ some .volumeupKeyDown → launchKeys[i]? ≠ launchKeys[c]? →
    ¬launchKeys.take i <:+ launchKeys.take c := by decide

lemma Detector.Tracks.counter_lt (h : d.Tracks) (hnot : ¬launchKeys <:+ d.keys) :
    d.counter < launchKeys.length := by
  refine Nat.lt_of_le_of_ne h.le fun heq => hnot ?_
  have hpressed := h.pressed
  rwa [heq, take_length] at hpressed

lemma Detector.Tracks.next (h : d.Tracks) {call : LaunchCall} (hf : d.Follows call.event) :
    (d.next call).Tracks := by
  obtain ⟨r, beyond⟩ := call
  by_cases hkey : isLaunchKey r = true
  swap
  · simp only [Detector.next, launchSequence, if_neg hkey]
    rw [if_neg (by simpa [isLaunchKey] using hkey)]
    exact h
  obtain ⟨hnot, hup⟩ := hf hkey
  have hlt := h.counter_lt hnot
  -- a beginning that was pressed last continues one that was pressed before
  have hlast : ∀ j ≤ launchKeys.length, launchKeys.take j <:+ d.keys ++ [r] → j = 0 ∨
      ∃ i, j = i + 1 ∧ i ≤ d.counter ∧ launchKeys.take i <:+ d.keys ∧ launchKeys[i]? = some r := by
    intro j hj hsuffix
    cases j with
    | zero => exact .inl rfl
    | succ i =>
      obtain ⟨hi, hr⟩ := (take_succ_suffix hj).mp hsuffix
      exact .inr ⟨i, rfl, h.longest i (Nat.le_of_lt hj) hi, hi, hr⟩
  simp only [Detector.next, launchSequence, if_pos hkey]
  rw [if_pos (by simpa [isLaunchKey] using hkey), getElem?_eq_getElem hlt, getD_some]
  by_cases hnext : launchKeys[d.counter] = r
  · rw [if_pos hnext]
    refine ⟨hlt, (take_succ_suffix hlt).mpr ⟨h.pressed, ?_⟩, fun j hj hsuffix => ?_⟩
    · rw [getElem?_eq_getElem hlt, hnext]
    · obtain rfl | ⟨i, rfl, hi, -⟩ := hlast j hj hsuffix
      · exact Nat.zero_le _
      · exact Nat.succ_le_succ hi
  · rw [if_neg hnext]
    refine ⟨Nat.zero_le _, nil_suffix, fun j hj hsuffix => ?_⟩
    obtain rfl | ⟨i, rfl, hi, hpressed, hr⟩ := hlast j hj hsuffix
    · exact Nat.le_refl _
    -- the counter was too small to have seen this beginning
    have hne : launchKeys[i]? ≠ launchKeys[d.counter]? := by
      rw [hr, getElem?_eq_getElem hlt]
      exact fun heq => hnext (some.inj heq).symm
    have hlt' : i < d.counter := Nat.lt_of_le_of_ne hi fun heq => hne (by rw [heq])
    refine absurd (suffix_of_suffix_length_le hpressed h.pressed ?_)
      (no_border d.counter hlt i hlt' ?_ hne)
    · simp only [length_take]
      omega
    · intro hup'
      rw [hr] at hup'
      exact hne (hr.trans ((congrArg some (some.inj hup')).trans (hup (some.inj hup')).symm))

/-- **The sequence is reported when it is complete.**  In every run in which no key follows a
complete sequence and volume up is pressed only when it is the next key, the next key, if the
sequence is not yet complete, is compared with an entry of the table, and every event is reported
exactly if it is a key and the last nine keys are the sequence. -/
theorem sequence_reported (hd : d.ReachableWith Detector.Follows) (beyond : Nat → Event) (r : Event)
    (hnot : isLaunchKey r = true → ¬launchKeys <:+ d.keys) :
    (isLaunchKey r = true → d.counter < launchKeys.length) ∧
      ((launchSequence beyond r d.counter).2 = true ↔
        isLaunchKey r = true ∧ launchKeys <:+ d.keys ++ [r]) := by
  have h : d.Tracks := by
    refine hd.invariant Detector.Tracks ?_ ?_
    · rintro d rfl
      exact ⟨Nat.zero_le _, nil_suffix, fun j hj hsuffix => by
        have hlen := hsuffix.length_le
        simp only [length_take, length_nil] at hlen
        omega⟩
    · rintro d call d' h ⟨hf, hs⟩
      obtain rfl := some.inj hs
      exact h.next hf
  refine ⟨fun hkey => h.counter_lt (hnot hkey), ?_⟩
  by_cases hkey : isLaunchKey r = true
  swap
  · rw [launchSequence, if_neg (by simpa [isLaunchKey] using hkey)]
    simp [hkey]
  have hlt := h.counter_lt (hnot hkey)
  have hwhole : launchKeys <:+ d.keys ++ [r] ↔
      launchKeys.take 8 <:+ d.keys ∧ launchKeys[8]? = some r :=
    @take_succ_suffix 8 (by decide) d.keys r
  rw [launchSequence, if_pos (by simpa [isLaunchKey] using hkey), hwhole]
  simp only [hkey, true_and, beq_iff_eq, getElem?_eq_getElem hlt, getD_some]
  have hlen : launchKeys.length = 9 := rfl
  constructor
  · intro hcount
    split_ifs at hcount with hr
    swap
    · omega
    have heq : d.counter = 8 := by omega
    have hpressed := h.pressed
    rw [heq] at hpressed
    exact ⟨hpressed, by rw [← heq, getElem?_eq_getElem hlt, hr]⟩
  · rintro ⟨hpressed, hr⟩
    have heq : d.counter = 8 := Nat.le_antisymm (by omega) (h.longest 8 (by decide) hpressed)
    rw [← heq, getElem?_eq_getElem hlt] at hr
    rw [if_pos (some.inj hr), heq]
    rfl

/-- Calls for some keys. -/
def launchCalls (keys : List Event) : List LaunchCall := keys.map (⟨·, fun _ => .none⟩)

/-- The first eight keys are followed by the power key. -/
theorem sequence_reported_sample : (launchSequence (fun _ => .none) .powerKeyDown 8).2 = true := by
  obtain ⟨d, hd, hcounter, hkeys⟩ : ∃ d, Detector.ReachableWith Detector.Follows d ∧
      d.counter = 8 ∧ d.keys = launchKeys.take 8 :=
    exists_of_run rfl (launchCalls (launchKeys.take 8)) (by decide +kernel)
  rw [← hcounter]
  refine (sequence_reported hd (fun _ => .none) .powerKeyDown ?_).2.mpr ?_
  · rw [hkeys]
    decide
  · rw [hkeys]
    decide

/-- The detector after some keys, whether they follow or not. -/
def pressKeys (keys : List Event) : Detector := (launchCalls keys).foldl Detector.next ⟨0, []⟩

/-- Volume up is pressed three times: the last nine keys are the sequence, and it is not reported.
After a complete sequence, the next key is compared with the memory after the table. -/
theorem sequence_missed :
    launchKeys <:+ (pressKeys (.volumeupKeyDown :: launchKeys.take 8)).keys ++ [.powerKeyDown] ∧
      (launchSequence (fun _ => .none) .powerKeyDown
        (pressKeys (.volumeupKeyDown :: launchKeys.take 8)).counter).2 = false ∧
      ¬(pressKeys launchKeys).counter < launchKeys.length := by decide

end Solana.Charge
