import Mathlib.Algebra.Group.Int.Defs
import Mathlib.Algebra.Group.Nat.Defs

/-!
# The type `long` of 32 bits

On a target with 32 bits the values of `long` and `time_t` are the integers from -2³¹ on and below
2³¹; a calculation whose result is not one of them keeps its lowest 32 bits.
-/

namespace Solana

/-- The `long` that a calculation results in. -/
def long (n : Int) : Int := (n + 2 ^ 31) % 2 ^ 32 - 2 ^ 31

lemma long_of_lt {n : Int} (h : -2 ^ 31 ≤ n ∧ n < 2 ^ 31) : long n = n := by
  unfold long
  omega

/-- `struct timespec`. -/
structure Timespec where
  tvSec : Int
  tvNsec : Int
  deriving DecidableEq

/-- The time in nanoseconds. -/
def Timespec.nanoseconds (t : Timespec) : Int := t.tvSec * 1000000000 + t.tvNsec

/-- The nanoseconds are less than a second. -/
def Timespec.Valid (t : Timespec) : Prop := 0 ≤ t.tvNsec ∧ t.tvNsec < 1000000000

end Solana
