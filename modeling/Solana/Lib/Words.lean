import Mathlib.Algebra.Order.Ring.Nat

/-!
# Words in memory

Memory is a byte for every position.  `store` copies bytes to a position and `load` reads the number
that is laid out there, lowest byte first.  What was stored is loaded again (`load_store_byteOf`),
and storing elsewhere does not change it (`load_store_of_disjoint`).
-/

namespace Solana.Words

variable {mem mem' src : ℕ → UInt8} {pos pos' n v w : ℕ}

/-- The bytes of a number, lowest first. -/
def byteOf (v k : ℕ) : UInt8 := UInt8.ofNat (v / 256 ^ k)

/-- The number in `w` bytes from a position on. -/
def load (mem : ℕ → UInt8) : ℕ → ℕ → ℕ
  | _, 0 => 0
  | pos, w + 1 => (mem pos).toNat + 256 * load mem (pos + 1) w

/-- Copy `n` bytes to a position. -/
def store (mem : ℕ → UInt8) (pos : ℕ) (src : ℕ → UInt8) (n : ℕ) : ℕ → UInt8 := fun i =>
  if pos ≤ i ∧ i < pos + n then src (i - pos) else mem i

lemma load_congr : ∀ {pos pos' : ℕ} (w : ℕ), (∀ k < w, mem (pos + k) = mem' (pos' + k)) →
    load mem pos w = load mem' pos' w
  | _, _, 0, _ => rfl
  | pos, pos', w + 1, h => by
    have hfirst : mem pos = mem' pos' := h 0 (Nat.succ_pos w)
    have hrest : ∀ k < w, mem (pos + 1 + k) = mem' (pos' + 1 + k) := fun k hk => by
      rw [Nat.add_assoc, Nat.add_assoc, Nat.add_comm 1 k]
      exact h (k + 1) (Nat.succ_lt_succ hk)
    rw [load, load, hfirst, load_congr w hrest]

lemma load_store_of_disjoint (h : pos + w ≤ pos' ∨ pos' + n ≤ pos) :
    load (store mem pos' src n) pos w = load mem pos w := by
  refine load_congr w fun k hk => if_neg ?_
  omega

lemma load_store_self : load (store mem pos src w) pos w = load src 0 w := by
  refine load_congr w fun k hk => ?_
  rw [store, if_pos ⟨Nat.le_add_right _ _, Nat.add_lt_add_left hk _⟩, Nat.add_sub_cancel_left,
    Nat.zero_add]

lemma load_byteOf (v : ℕ) : ∀ k w : ℕ, load (byteOf v) k w = v / 256 ^ k % 256 ^ w
  | k, 0 => (Nat.mod_one _).symm
  | k, w + 1 => by
    have hbyte : (byteOf v k).toNat = v / 256 ^ k % 256 := UInt8.toNat_ofNat'
    rw [load, load_byteOf v (k + 1) w, hbyte, pow_succ 256 k, ← Nat.div_div_eq_div_mul,
      Nat.pow_succ', Nat.mod_mul]

lemma load_store_byteOf : load (store mem pos (byteOf v) w) pos w = v % 256 ^ w := by
  rw [load_store_self, load_byteOf, pow_zero, Nat.div_one]

end Solana.Words
