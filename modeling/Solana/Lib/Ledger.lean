import Mathlib.Algebra.BigOperators.Group.Finset.Piecewise

/-!
# Accounting for resources

A `Ledger` numbers the resources a program acquires and records the numbers of those it
releases.  It is `Balanced` against the resources that are held at the moment when each
acquired one is held or released, and once only.  `Balanced.acquire` and `Balanced.release` are
the rules for the two operations; a program that keeps its ledger balanced never releases a
resource twice (`Balanced.count_le_one`), and has released every one of them exactly once when
it holds none (`Balanced.count_eq_one`).

Resources held by a family of places are summed over the family, and `sum_update` says what
changing one place does to the sum.  Where the places need not be balanced, `SinglyHeld` says that
no two of them hold the same number, which putting new numbers into some of them keeps
(`SinglyHeld.renew`).
-/

namespace Solana.Ledgers

open Multiset Function

/-! ## Ledgers -/

/-- The number of resources acquired, and the ones released, newest first. -/
structure Ledger where
  acquired : ℕ
  released : List ℕ
  deriving DecidableEq

/-- Nothing was acquired yet. -/
def Ledger.empty : Ledger := ⟨0, []⟩

/-- Acquire a resource, under the next number. -/
def Ledger.acquire (l : Ledger) : Ledger := { l with acquired := l.acquired + 1 }

/-- Release a resource, whether it is held or not. -/
def Ledger.release (l : Ledger) (r : ℕ) : Ledger := { l with released := r :: l.released }

/-- Release a resource if there is one. -/
def Ledger.releaseOption (l : Ledger) (r : Option ℕ) : Ledger :=
  { l with released := r.toList ++ l.released }

/-- Every resource acquired is released or held, once in all. -/
def Ledger.Balanced (l : Ledger) (held : Multiset ℕ) : Prop :=
  (l.released : Multiset ℕ) + held = Multiset.range l.acquired

variable {l : Ledger} {held : Multiset ℕ} {r : ℕ}

@[simp] lemma balanced_empty : Ledger.empty.Balanced 0 := rfl

lemma Ledger.Balanced.acquire (h : l.Balanced held) : l.acquire.Balanced (l.acquired ::ₘ held) := by
  unfold Ledger.Balanced Ledger.acquire at *
  rw [add_cons, h, range_succ]

lemma Ledger.Balanced.release (h : l.Balanced (r ::ₘ held)) : (l.release r).Balanced held := by
  unfold Ledger.Balanced Ledger.release at *
  rw [← h, add_cons, ← cons_coe, cons_add]

/-- The resources in a place that holds at most one. -/
def heldIn (r : Option ℕ) : Multiset ℕ := r.toList

@[simp] lemma heldIn_none : heldIn none = 0 := rfl

@[simp] lemma heldIn_some (r : ℕ) : heldIn (some r) = {r} := rfl

lemma Ledger.Balanced.releaseOption {r : Option ℕ} (h : l.Balanced (heldIn r + held)) :
    (l.releaseOption r).Balanced held := by
  unfold Ledger.Balanced Ledger.releaseOption heldIn at *
  rw [← h, ← coe_add, add_assoc, add_left_comm]

section

variable (h : l.Balanced held)
include h

namespace Ledger.Balanced

lemma lt_of_released (hr : r ∈ l.released) : r < l.acquired := by
  rw [← mem_range, ← h]
  exact mem_add.mpr (Or.inl hr)

lemma count_add (hr : r < l.acquired) : l.released.count r + held.count r = 1 := by
  have hc := congrArg (Multiset.count r) h
  rw [Multiset.count_add, Multiset.coe_count] at hc
  rw [hc]
  exact count_eq_one_of_mem (nodup_range _) (mem_range.mpr hr)

lemma held_eq {held' : Multiset ℕ} (h' : l.Balanced held') : held = held' :=
  add_left_cancel (Eq.trans h (Eq.symm h'))

lemma not_released (hr : r ∈ held) : r ∉ l.released := by
  intro hmem
  have hcount := h.count_add (h.lt_of_released hmem)
  have hheld : 0 < held.count r := count_pos.mpr hr
  have hreleased : 0 < l.released.count r := List.count_pos_iff.mpr hmem
  omega

/-- **Nothing is released twice.** -/
lemma count_le_one (r : ℕ) : l.released.count r ≤ 1 := by
  by_cases hr : r < l.acquired
  · exact (Nat.le_add_right _ _).trans_eq (h.count_add hr)
  · rw [List.count_eq_zero_of_not_mem fun hmem => hr (h.lt_of_released hmem)]
    exact Nat.zero_le 1

end Ledger.Balanced

end

/-- **When nothing is held, everything has been released once.** -/
lemma Ledger.Balanced.count_eq_one (h : l.Balanced 0) (hr : r < l.acquired) :
    l.released.count r = 1 := by
  have := h.count_add hr
  rwa [count_zero, Nat.add_zero] at this

/-- Everything acquired has been released once, and nothing else was released. -/
def Ledger.Settled (l : Ledger) : Prop :=
  ∀ r, l.released.count r = if r < l.acquired then 1 else 0

lemma Ledger.Balanced.settled (h : l.Balanced 0) : l.Settled := by
  intro r
  split
  · exact h.count_eq_one ‹_›
  · exact List.count_eq_zero_of_not_mem fun hmem => ‹¬ r < l.acquired› (h.lt_of_released hmem)

/-! ## Families of places -/

lemma sum_update {ι α : Type*} [DecidableEq ι] (g : α → Multiset ℕ) (f : ι → α) {t : Finset ι}
    {i : ι} (hi : i ∈ t) (x : α) :
    (∑ j ∈ t, g (update f i x j)) + g (f i) = (∑ j ∈ t, g (f j)) + g x := by
  have hcomp : (fun j => g (update f i x j)) =
      update (fun j => g (f j)) i (g x) := by
    funext j
    exact apply_update (fun _ => g) f i x j
  rw [hcomp, Finset.sum_update_of_mem hi, add_right_comm,
    ← Finset.sum_sdiff (Finset.singleton_subset_iff.mpr hi), Finset.sum_singleton,
    add_comm (g x), add_comm (g (f i) + g x), add_assoc]

/-! ## Places that hold at most one number each -/

section SinglyHeld

variable {ι κ : Type*} {n n' n'' : ℕ} {f f' f'' : ι → Option ℕ}

/-- The numbers in a group of places are replaced by none or by new ones: by numbers from `n` on
and below `n'`, each in one place only. -/
structure Renews (n n' : ℕ) (f f' : ι → Option ℕ) : Prop where
  le : n ≤ n'
  source : ∀ p r, f' p = some r → f p = some r ∨ n ≤ r ∧ r < n'
  apart : ∀ p q r, n ≤ r → f' p = some r → f' q = some r → p = q

/-- Several groups of places hold numbers below `n`, each in one place only. -/
structure SinglyHeld (n : ℕ) (t : κ → ι → Option ℕ) : Prop where
  below : ∀ i p r, t i p = some r → r < n
  apart : ∀ i j p q r, t i p = some r → t j q = some r → i = j ∧ p = q

lemma Renews.of_below (hle : n ≤ n') (hb : ∀ p r, f p = some r → r < n)
    (hsub : ∀ p r, f' p = some r → f p = some r) : Renews n n' f f' :=
  ⟨hle, fun p r h => .inl (hsub p r h),
    fun p _ r hr h _ => absurd (hb p r (hsub p r h)) (Nat.not_lt.mpr hr)⟩

/-- New numbers are apart when each place has one of its own to draw on. -/
lemma Renews.of_fresh {g : ι → ℕ} (hg : Function.Injective g) (hle : n ≤ n')
    (hb : ∀ p r, f p = some r → r < n)
    (hsource : ∀ p r, f' p = some r → f p = some r ∨ r = g p ∧ n ≤ r ∧ r < n') :
    Renews n n' f f' := by
  refine ⟨hle, fun p r h => (hsource p r h).imp id And.right, fun p q r hr hp hq => hg ?_⟩
  have hnew : ∀ p, f' p = some r → r = g p := fun p hp =>
    (hsource p r hp).elim (fun hold => absurd (hb p r hold) (Nat.not_lt.mpr hr)) And.left
  rw [← hnew p hp, ← hnew q hq]

lemma Renews.below (h : Renews n n' f f') (hb : ∀ p r, f p = some r → r < n) :
    ∀ p r, f' p = some r → r < n' := fun p r hp =>
  (h.source p r hp).elim (fun hold => (hb p r hold).trans_le h.le) And.right

lemma Renews.trans (h : Renews n n' f f') (h' : Renews n' n'' f' f'') : Renews n n'' f f'' := by
  refine ⟨h.le.trans h'.le, fun p r hp => ?_, fun p q r hr hp hq => ?_⟩
  · rcases h'.source p r hp with hp | ⟨hge, hlt⟩
    · exact (h.source p r hp).imp id fun hr => ⟨hr.1, hr.2.trans_le h'.le⟩
    · exact .inr ⟨h.le.trans hge, hlt⟩
  · by_cases hr' : n' ≤ r
    · exact h'.apart p q r hr' hp hq
    · exact h.apart p q r hr ((h'.source p r hp).resolve_right fun h => hr' h.1)
        ((h'.source q r hq).resolve_right fun h => hr' h.1)

/-- **Renewing one of the groups keeps the numbers apart.** -/
lemma SinglyHeld.renew [DecidableEq κ] {t : κ → ι → Option ℕ} (h : SinglyHeld n t) {c : κ}
    (hr : Renews n n' (t c) f') : SinglyHeld n' (update t c f') := by
  have hbelow := hr.below (h.below c)
  -- a number of the renewed group that another group holds as well is an old one
  have hold : ∀ j p q r, j ≠ c → f' p = some r → t j q = some r → False := by
    intro j p q r hj hp hq
    rcases hr.source p r hp with hp | ⟨hge, -⟩
    · exact hj (h.apart j c q p r hq hp).1
    · exact absurd (h.below j q r hq) (Nat.not_lt.mpr hge)
  refine ⟨fun i p r hi => ?_, fun i j p q r hi hj => ?_⟩
  · rcases eq_or_ne i c with rfl | hic
    · rw [update_self] at hi
      exact hbelow p r hi
    · rw [update_of_ne hic] at hi
      exact (h.below i p r hi).trans_le hr.le
  · rcases eq_or_ne i c with rfl | hic <;> rcases eq_or_ne j i with rfl | hji
    · rw [update_self] at hi hj
      by_cases hn : n ≤ r
      · exact ⟨rfl, hr.apart p q r hn hi hj⟩
      · exact ⟨rfl, (h.apart j j p q r ((hr.source p r hi).resolve_right fun h => hn h.1)
          ((hr.source q r hj).resolve_right fun h => hn h.1)).2⟩
    · rw [update_self] at hi
      rw [update_of_ne hji] at hj
      exact (hold j p q r hji hi hj).elim
    · rw [update_of_ne hic] at hi hj
      exact h.apart j j p q r hi hj
    · rw [update_of_ne hic] at hi
      rcases eq_or_ne j c with rfl | hjc
      · rw [update_self] at hj
        exact (hold i q p r hic hj hi).elim
      · rw [update_of_ne hjc] at hj
        exact h.apart i j p q r hi hj

end SinglyHeld

end Solana.Ledgers
