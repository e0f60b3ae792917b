import Mathlib.Logic.Relation

/-!
# Runs of a labelled transition system

`Reachable init step` collects the states that a finite run of `step` can reach from an
initial state.  The one rule every safety argument of a system uses is
`Reachable.invariant`: what holds at the start and is kept by each step holds throughout.
`Reachable.mono` transports reachability along a weakening of the start condition and of
the step relation, which is how a run with side conditions on its steps is seen as a run of
the plain system.  `runWith` takes given steps of a system with a step function, so that
`reachable_runWith` makes the result of a computation a reachable state, and `exists_of_run` has it
computed that this state has a property.
-/

namespace Solana.Runs

open Option

variable {σ ι : Type*}

/-- The states reached by some finite run. -/
inductive Reachable (init : σ → Prop) (step : σ → ι → σ → Prop) : σ → Prop
  | start {s : σ} (h : init s) : Reachable init step s
  | next {s s' : σ} {i : ι} (h : Reachable init step s) (hs : step s i s') :
      Reachable init step s'

variable {init init' : σ → Prop} {step step' : σ → ι → σ → Prop}

/-- **The invariant rule.** -/
theorem Reachable.invariant (Inv : σ → Prop) (h0 : ∀ s, init s → Inv s)
    (hstep : ∀ s i s', Inv s → step s i s' → Inv s') {s : σ} (h : Reachable init step s) :
    Inv s := by
  induction h with
  | start h => exact h0 _ h
  | next _ hs ih => exact hstep _ _ _ ih hs

theorem Reachable.mono (h0 : ∀ s, init s → init' s)
    (hstep : ∀ s i s', step s i s' → step' s i s') {s : σ} (h : Reachable init step s) :
    Reachable init' step' s := by
  induction h with
  | start h => exact .start (h0 _ h)
  | next _ hs ih => exact .next ih (hstep _ _ _ hs)

/-! ## Executable runs -/

/-- Take some steps, as long as each of them passes a check and is possible. -/
def runWith (next : σ → ι → Option σ) (ok : σ → ι → Bool) : σ → List ι → Option σ
  | s, [] => some s
  | s, i :: is => if ok s i then (next s i).bind fun s' => runWith next ok s' is else none

variable {next : σ → ι → Option σ} {ok : σ → ι → Bool}

lemma runWith_cons {i : ι} {is : List ι} {s s' : σ} (h : runWith next ok s (i :: is) = some s') :
    ok s i = true ∧ ∃ s₁, next s i = some s₁ ∧ runWith next ok s₁ is = some s' := by
  obtain ⟨hok, h⟩ := ite_none_right_eq_some.mp h
  exact ⟨hok, bind_eq_some_iff.mp h⟩

lemma runWith_append {is' : List ι} :
    ∀ (is : List ι) {s s' s'' : σ}, runWith next ok s is = some s' →
      runWith next ok s' is' = some s'' → runWith next ok s (is ++ is') = some s''
  | [], s, s', s'', h, h' => by
    obtain rfl := some.inj h
    exact h'
  | i :: is, s, s', s'', h, h' => by
    obtain ⟨hok, s₁, h₁, h₂⟩ := runWith_cons h
    rw [List.cons_append, runWith, if_pos hok, h₁]
    exact runWith_append is h₂ h'

lemma reachable_runWith {Cond : σ → ι → Prop} (hok : ∀ s i, ok s i = true → Cond s i) :
    ∀ (is : List ι) {s s' : σ}, Reachable init (fun s i s' => Cond s i ∧ next s i = some s') s →
      runWith next ok s is = some s' →
      Reachable init (fun s i s' => Cond s i ∧ next s i = some s') s'
  | [], s, s', hr, h => by
    obtain rfl := some.inj h
    exact hr
  | i :: is, s, s', hr, h => by
    obtain ⟨hc, s₁, h₁, h₂⟩ := runWith_cons h
    exact reachable_runWith hok is (.next hr ⟨hok s i hc, h₁⟩) h₂

section

variable {Cond : σ → ι → Prop} [∀ s i, Decidable (Cond s i)] {P : σ → Prop} [DecidablePred P]

/-- A run that begins if the system starts, and ends in a state with a property. -/
lemma exists_of_start {o : Option σ} (ho : ∀ s, o = some s → init s) (is : List ι)
    (h : ((o.bind fun s => runWith next (fun s i => Cond s i) s is).any fun s => P s) = true) :
    ∃ s, Reachable init (fun s i s' => Cond s i ∧ next s i = some s') s ∧ P s := by
  obtain ⟨s, hs, hP⟩ := (any_eq_true _ _).mp h
  obtain ⟨s₀, h₀, hrun⟩ := bind_eq_some_iff.mp hs
  exact ⟨s, reachable_runWith (fun _ _ => of_decide_eq_true) is (.start (ho s₀ h₀)) hrun,
    of_decide_eq_true hP⟩

/-- The same from an initial state. -/
lemma exists_of_run {s : σ} (hs : init s) (is : List ι)
    (h : ((runWith next (fun s i => Cond s i) s is).any fun s => P s) = true) :
    ∃ s, Reachable init (fun s i s' => Cond s i ∧ next s i = some s') s ∧ P s := by
  refine exists_of_start (o := some s) ?_ is h
  rintro _ ⟨⟩
  exact hs

end

end Solana.Runs
