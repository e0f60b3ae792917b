import Mathlib.Algebra.BigOperators.Group.List.Basic
import Mathlib.Algebra.Order.Ring.Nat
import Mathlib.Data.List.Lex

/-!
# Ranking by packed scores

A candidate is ranked by several criteria, the first of them the most important one.  A program
often packs them into the bits of one number and keeps a running maximum of these numbers.

`pack` puts fields of given widths into a number.  As long as the fields fit, they can be read back
(`unpack_pack`), and the numbers are ordered as the lists of fields are, lexicographically
(`pack_lt_pack_iff`).  `runningBest` is the scan with a running maximum; it finds the first of the
largest candidates (`runningBest_eq_some_iff`).
-/

namespace Solana.Ranking

open List

/-! ## Packed fields -/

/-- Fields of given widths, as the bits of a number. -/
def pack : List Nat → List Nat → Nat
  | _ :: ws, x :: xs => x * 2 ^ ws.sum + pack ws xs
  | _, _ => 0

/-- The fields of given widths in a number. -/
def unpack : List Nat → Nat → List Nat
  | [], _ => []
  | w :: ws, n => n / 2 ^ ws.sum % 2 ^ w :: unpack ws n

/-- Every field fits into its width. -/
def Fits (ws xs : List Nat) : Prop := List.Forall₂ (fun w x => x < 2 ^ w) ws xs

variable {ws xs ys : List Nat}

lemma pack_lt (h : Fits ws xs) : pack ws xs < 2 ^ ws.sum := by
  induction h with
  | nil => exact Nat.one_pos
  | @cons w x ws xs hx hxs ih =>
    calc x * 2 ^ ws.sum + pack ws xs < x * 2 ^ ws.sum + 2 ^ ws.sum := Nat.add_lt_add_left ih _
      _ = (x + 1) * 2 ^ ws.sum := (Nat.succ_mul _ _).symm
      _ ≤ 2 ^ w * 2 ^ ws.sum := Nat.mul_le_mul_right _ hx
      _ = 2 ^ (w :: ws).sum := by rw [sum_cons, pow_add]

lemma unpack_add_mul (ws : List Nat) (n m : Nat) :
    unpack ws (m * 2 ^ ws.sum + n) = unpack ws n := by
  induction ws generalizing m with
  | nil => rfl
  | cons w ws ih =>
    have hsum : m * 2 ^ (w :: ws).sum = m * 2 ^ w * 2 ^ ws.sum := by
      rw [sum_cons, pow_add, Nat.mul_assoc]
    rw [hsum]
    simp only [unpack, ih, cons.injEq, and_true]
    rw [Nat.add_comm, Nat.add_mul_div_right _ _ (Nat.two_pow_pos _), Nat.add_mul_mod_self_right]

/-- **Fields that fit do not carry into each other.** -/
lemma unpack_pack (h : Fits ws xs) : unpack ws (pack ws xs) = xs := by
  induction h with
  | nil => rfl
  | @cons w x ws xs hx hxs ih =>
    have hlt : pack ws xs < 2 ^ ws.sum := pack_lt hxs
    simp only [unpack, pack, unpack_add_mul, ih, cons.injEq, and_true]
    rw [Nat.add_comm, Nat.add_mul_div_right _ _ (Nat.two_pow_pos _), Nat.div_eq_of_lt hlt,
      Nat.zero_add, Nat.mod_eq_of_lt hx]

lemma pack_lt_pack_iff (hx : Fits ws xs) (hy : Fits ws ys) : pack ws xs < pack ws ys ↔ xs < ys := by
  induction hx generalizing ys with
  | nil =>
    cases hy
    simp [pack]
  | @cons w x ws xs hx hxs ih =>
    cases hy with
    | @cons _ y _ ys hy hys =>
      have hxlt : pack ws xs < 2 ^ ws.sum := pack_lt hxs
      have hylt : pack ws ys < 2 ^ ws.sum := pack_lt hys
      rw [cons_lt_cons_iff, ← ih hys]
      simp only [pack]
      rcases lt_trichotomy x y with hlt | rfl | hgt
      · have hmul : (x + 1) * 2 ^ ws.sum ≤ y * 2 ^ ws.sum := Nat.mul_le_mul_right _ hlt
        rw [Nat.succ_mul] at hmul
        exact ⟨fun _ => Or.inl hlt, fun _ => by omega⟩
      · simp
      · have hmul : (y + 1) * 2 ^ ws.sum ≤ x * 2 ^ ws.sum := Nat.mul_le_mul_right _ hgt
        rw [Nat.succ_mul] at hmul
        refine ⟨fun h => absurd h (by omega), ?_⟩
        rintro (h | ⟨h, -⟩) <;> omega

/-! ## The running maximum -/

variable {κ μ : Type*} [LinearOrder κ] [LinearOrder μ]

/-- The candidate at a position is the first of the largest ones; a position without a candidate
is `none`. -/
def IsFirstMax (ks : List (Option κ)) (i : Nat) : Prop :=
  ∃ k, ks[i]? = some (some k) ∧ (∀ (j : Nat) k', ks[j]? = some (some k') → k' ≤ k) ∧
    ∀ (j : Nat) k', ks[j]? = some (some k') → j < i → k' < k

lemma IsFirstMax.unique {ks : List (Option κ)} {i j : Nat} (hi : IsFirstMax ks i)
    (hj : IsFirstMax ks j) : i = j := by
  obtain ⟨k, hk, hmax, hfirst⟩ := hi
  obtain ⟨k', hk', hmax', hfirst'⟩ := hj
  rcases lt_trichotomy i j with hlt | heq | hlt
  · exact absurd (hfirst' i k hk hlt) (not_lt.mpr (hmax j k' hk'))
  · exact heq
  · exact absurd (hfirst j k' hk' hlt) (not_lt.mpr (hmax' i k hk))

/-- Keys that are ordered in the same way have the same first maximum. -/
lemma isFirstMax_map {f : κ → μ} {ks : List (Option κ)}
    (hf : ∀ k k', some k ∈ ks → some k' ∈ ks → (f k < f k' ↔ k < k')) {i : Nat} :
    IsFirstMax (ks.map (Option.map f)) i ↔ IsFirstMax ks i := by
  have hget : ∀ (j : Nat) m, (ks.map (Option.map f))[j]? = some (some m) ↔
      ∃ k, ks[j]? = some (some k) ∧ f k = m := by
    intro j m
    rw [List.getElem?_map, Option.map_eq_some_iff]
    constructor
    · rintro ⟨_ | k, hk, hm⟩
      · cases hm
      · exact ⟨k, hk, Option.some.inj hm⟩
    · rintro ⟨k, hk, rfl⟩
      exact ⟨some k, hk, rfl⟩
  have hle : ∀ k k', some k ∈ ks → some k' ∈ ks → (f k ≤ f k' ↔ k ≤ k') := by
    intro k k' hk hk'
    rw [← not_lt, ← not_lt, hf k' k hk' hk]
  constructor
  · rintro ⟨m, hm, hmax, hfirst⟩
    obtain ⟨k, hk, rfl⟩ := (hget i m).mp hm
    have hkm := mem_of_getElem? hk
    exact ⟨k, hk, fun j k' hk' => (hle k' k (mem_of_getElem? hk') hkm).mp
        (hmax j _ ((hget j _).mpr ⟨k', hk', rfl⟩)),
      fun j k' hk' hlt => (hf k' k (mem_of_getElem? hk') hkm).mp
        (hfirst j _ ((hget j _).mpr ⟨k', hk', rfl⟩) hlt)⟩
  · rintro ⟨k, hk, hmax, hfirst⟩
    have hkm := mem_of_getElem? hk
    refine ⟨f k, (hget i _).mpr ⟨k, hk, rfl⟩, fun j m hm => ?_, fun j m hm hlt => ?_⟩
    · obtain ⟨k', hk', rfl⟩ := (hget j m).mp hm
      exact (hle k' k (mem_of_getElem? hk') hkm).mpr (hmax j k' hk')
    · obtain ⟨k', hk', rfl⟩ := (hget j m).mp hm
      exact (hf k' k (mem_of_getElem? hk') hkm).mpr (hfirst j k' hk' hlt)

/-- A scan that keeps the position of the best candidate so far and its score. -/
def better (i : Nat) (p : Option Nat × Nat) : Option Nat → Option Nat × Nat
  | none => p
  | some k => if p.2 < k then (some i, k) else p

@[inherit_doc better]
def runningBest : Nat → Option Nat × Nat → List (Option Nat) → Option Nat × Nat
  | _, p, [] => p
  | i, p, o :: ks => runningBest (i + 1) (better i p o) ks

/-- What the scan knows after some positions: there was no candidate, or it has the first of the
largest ones and its score. -/
structure Scanned (ks : List (Option Nat)) (p : Option Nat × Nat) : Prop where
  empty : p.1 = none → p.2 = 0 ∧ ∀ (j k : Nat), ks[j]? ≠ some (some k)
  found : ∀ i, p.1 = some i → ks[i]? = some (some p.2) ∧
    (∀ (j : Nat) k, ks[j]? = some (some k) → k ≤ p.2) ∧
    ∀ (j : Nat) k, ks[j]? = some (some k) → j < i → k < p.2

lemma getElem?_concat {ks : List (Option Nat)} {o : Option Nat} {j k : Nat} :
    (ks ++ [o])[j]? = some (some k) ↔ ks[j]? = some (some k) ∨ j = ks.length ∧ o = some k := by
  rw [List.getElem?_append]
  split_ifs with hj
  · constructor
    · exact Or.inl
    · rintro (h | ⟨rfl, -⟩)
      · exact h
      · exact absurd hj (lt_irrefl _)
  · rw [List.getElem?_eq_none (not_lt.mp hj), List.getElem?_singleton]
    split_ifs with hz
    · have hj' : j = ks.length := by omega
      simp [hj']
    · have hj' : j ≠ ks.length := by omega
      simp [hj']

lemma Scanned.step {ks : List (Option Nat)} {p : Option Nat × Nat} (h : Scanned ks p)
    {o : Option Nat} (hpos : ∀ k, o = some k → 0 < k) :
    Scanned (ks ++ [o]) (better ks.length p o) := by
  have hle : ∀ (j : Nat) k, ks[j]? = some (some k) → k ≤ p.2 := by
    intro j k hk
    cases hp : p.1 with
    | none => exact absurd hk ((h.empty hp).2 j k)
    | some i => exact (h.found i hp).2.1 j k hk
  by_cases hnew : ∃ k, o = some k ∧ p.2 < k
  · -- a better candidate
    obtain ⟨k, rfl, hlt⟩ := hnew
    rw [better, if_pos hlt]
    refine ⟨nofun, fun i hi => ?_⟩
    obtain rfl := Option.some.inj hi
    refine ⟨getElem?_concat.mpr (Or.inr ⟨rfl, rfl⟩), fun j k' hk' => ?_, fun j k' hk' hj => ?_⟩
    · rcases getElem?_concat.mp hk' with hk' | ⟨-, hk'⟩
      · exact (hle j k' hk').trans hlt.le
      · exact (Option.some.inj hk').ge
    · rcases getElem?_concat.mp hk' with hk' | ⟨rfl, -⟩
      · exact (hle j k' hk').trans_lt hlt
      · exact absurd hj (lt_irrefl _)
  · have heq : better ks.length p o = p := by
      cases o with
      | none => rfl
      | some k => exact if_neg fun hlt => hnew ⟨k, rfl, hlt⟩
    rw [heq]
    have hold : ∀ k, o = some k → k ≤ p.2 := fun k hk => not_lt.mp fun hlt => hnew ⟨k, hk, hlt⟩
    refine ⟨fun hp => ⟨(h.empty hp).1, fun j k hk => ?_⟩, fun i hi => ?_⟩
    · rcases getElem?_concat.mp hk with hk | ⟨-, hk⟩
      · exact (h.empty hp).2 j k hk
      · exact absurd (hold k hk) (not_le.mpr ((h.empty hp).1 ▸ hpos k hk))
    · obtain ⟨hget, hmax, hfirst⟩ := h.found i hi
      have hlen : i < ks.length := (List.getElem?_eq_some_iff.mp hget).1
      refine ⟨getElem?_concat.mpr (Or.inl hget), fun j k hk => ?_, fun j k hk hj => ?_⟩
      · rcases getElem?_concat.mp hk with hk | ⟨-, hk⟩
        · exact hmax j k hk
        · exact hold k hk
      · rcases getElem?_concat.mp hk with hk | ⟨rfl, -⟩
        · exact hfirst j k hk hj
        · exact absurd (hj.trans hlen) (lt_irrefl _)

lemma Scanned.scan : ∀ (ks : List (Option Nat)) {pre : List (Option Nat)}
    {p : Option Nat × Nat}, Scanned pre p → (∀ k, some k ∈ ks → 0 < k) →
    Scanned (pre ++ ks) (runningBest pre.length p ks)
  | [], pre, p, h, _ => by simpa [runningBest] using h
  | o :: ks, pre, p, h, hpos => by
    have hstep := h.step (o := o) fun k hk => hpos k (hk ▸ mem_cons_self)
    have hrest := Scanned.scan ks hstep fun k hk => hpos k (mem_cons_of_mem o hk)
    rw [append_assoc, singleton_append, length_append, length_singleton]
      at hrest
    exact hrest

/-- **The scan finds the first of the largest candidates**, if every score is positive. -/
lemma runningBest_eq_some_iff {ks : List (Option Nat)} (hpos : ∀ k, some k ∈ ks → 0 < k)
    {i : Nat} : (runningBest 0 (none, 0) ks).1 = some i ↔ IsFirstMax ks i := by
  have hstart : Scanned [] (none, 0) := ⟨fun _ => ⟨rfl, by simp⟩, nofun⟩
  have h : Scanned ks (runningBest 0 (none, 0) ks) := hstart.scan ks hpos
  have hfound : ∀ j, (runningBest 0 (none, 0) ks).1 = some j → IsFirstMax ks j :=
    fun j hj => ⟨_, h.found j hj⟩
  refine ⟨hfound i, fun hi => ?_⟩
  cases hb : (runningBest 0 (none, 0) ks).1 with
  | none =>
    obtain ⟨k, hk, -⟩ := hi
    exact absurd hk ((h.empty hb).2 i k)
  | some j => rw [(hfound j hb).unique hi]

end Solana.Ranking
