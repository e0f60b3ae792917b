import Mathlib.Tactic.Lemma
import Mathlib.Tactic.TypeStar

/-!
# Machines that answer the same calls

A machine takes a call in a state, answers it and goes on in another state.  Two machines are
compared call by call: a relation of their states that every allowed call keeps, with equal
answers, gives equal answers over whole runs (`Simulates.run`).  The calls of a run are
allowed by a condition on the state in which each of them is made (`Allowed`), so that a protocol
of the caller can be part of the statement.
-/

namespace Solana.Lockstep

variable {σ τ ι ο : Type*}

/-- The state after some calls. -/
def after (step : σ → ι → σ × ο) : σ → List ι → σ
  | s, [] => s
  | s, i :: is => after step (step s i).1 is

/-- The answers to some calls. -/
def answers (step : σ → ι → σ × ο) : σ → List ι → List ο
  | _, [] => []
  | s, i :: is => (step s i).2 :: answers step (step s i).1 is

/-- Each call is made in a state in which it is allowed. -/
def Allowed (step : σ → ι → σ × ο) (Ok : σ → ι → Prop) : σ → List ι → Prop
  | _, [] => True
  | s, i :: is => Ok s i ∧ Allowed step Ok (step s i).1 is

variable {step : σ → ι → σ × ο} {step' : τ → ι → τ × ο} {Ok : σ → ι → Prop}

/-- The first machine simulates the second: an allowed call has the same answer, and the states
stay related. -/
def Simulates (step : σ → ι → σ × ο) (step' : τ → ι → τ × ο) (Ok : σ → ι → Prop)
    (R : σ → τ → Prop) : Prop :=
  ∀ s t i, R s t → Ok s i → (step s i).2 = (step' t i).2 ∧ R (step s i).1 (step' t i).1

variable {R : σ → τ → Prop}

/-- **The simulation rule.** -/
theorem Simulates.run (h : Simulates step step' Ok R) : ∀ (is : List ι) {s : σ} {t : τ},
    R s t → Allowed step Ok s is →
      answers step s is = answers step' t is ∧ R (after step s is) (after step' t is)
  | [], _, _, hR, _ => ⟨rfl, hR⟩
  | i :: is, s, t, hR, hok => by
    obtain ⟨hans, hnext⟩ := h s t i hR hok.1
    obtain ⟨hrest, hafter⟩ := h.run is hnext hok.2
    refine ⟨?_, hafter⟩
    simp only [answers, hans, hrest]

/-- Machines that answer some calls equally answer each of the calls equally, in some states. -/
lemma exists_of_answers_eq : ∀ {is : List ι} {s : σ} {t : τ},
    answers step s is = answers step' t is → ∀ i ∈ is, ∃ s t, (step s i).2 = (step' t i).2
  | j :: is, s, t, h, i, hi => by
    obtain ⟨hhead, htail⟩ := List.cons.inj h
    rcases List.mem_cons.mp hi with rfl | hi
    · exact ⟨s, t, hhead⟩
    · exact exists_of_answers_eq htail i hi

end Solana.Lockstep
