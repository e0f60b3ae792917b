import Mathlib.Data.List.TakeWhile
import Mathlib.Tactic.IntervalCases

/-!
# C strings and the numbers in them

A pointer into a buffer is the list of the bytes from there on.  The string it points to ends
before the first zero byte; behind the end of the list the buffer is taken to hold zeros.  What
two strings have in common is stated for appended lists: a terminated string does not depend on
the bytes that follow, and an open one continues into them.
-/

namespace Solana

open List

/-! ## Strings -/

/-- The part of a text before its terminator. -/
def untilNul {α : Type*} [DecidableEq α] (nul : α) (s : List α) : List α := s.takeWhile (· ≠ nul)

lemma untilNul_append {α : Type*} [DecidableEq α] {nul : α} {s : List α} (h : nul ∉ s)
    (t : List α) : untilNul nul (s ++ t) = s ++ untilNul nul t := by
  refine takeWhile_append_of_pos fun b hb => ?_
  have hne : b ≠ nul := fun h0 => h (h0 ▸ hb)
  simpa using hne

/-- The bytes of a text. -/
def bytes (s : String) : List UInt8 := s.toList.map fun c => c.toNat.toUInt8

/-- The string that a pointer points to. -/
def cstr (s : List UInt8) : List UInt8 := untilNul 0 s

/-- `s + strlen(s) + 1`, the pointer behind the terminating zero of a string. -/
def afterCstr (s : List UInt8) : List UInt8 := s.drop ((cstr s).length + 1)

variable {s t : List UInt8}

lemma zero_notMem_cstr (s : List UInt8) : 0 ∉ cstr s := by
  intro h
  simpa using mem_takeWhile_imp h

lemma cstr_append_of_notMem (h : 0 ∉ s) (t : List UInt8) : cstr (s ++ t) = s ++ cstr t :=
  untilNul_append h t

lemma cstr_append_zero (h : 0 ∉ s) (t : List UInt8) : cstr (s ++ 0 :: t) = s := by
  rw [cstr_append_of_notMem h]
  simp [cstr, untilNul]

lemma afterCstr_append_zero (h : 0 ∉ s) (t : List UInt8) : afterCstr (s ++ 0 :: t) = t := by
  rw [afterCstr, cstr_append_zero h]
  simp

lemma cstr_append_of_mem (h : 0 ∈ s) (t : List UInt8) : cstr (s ++ t) = cstr s := by
  obtain ⟨a, b, rfl, ha⟩ := eq_append_cons_of_mem h
  rw [append_assoc, cons_append, cstr_append_zero ha, cstr_append_zero ha]

lemma afterCstr_append_of_mem (h : 0 ∈ s) (t : List UInt8) :
    afterCstr (s ++ t) = afterCstr s ++ t := by
  obtain ⟨a, b, rfl, ha⟩ := eq_append_cons_of_mem h
  rw [append_assoc, cons_append, afterCstr_append_zero ha, afterCstr_append_zero ha]

lemma length_cstr_add_length_afterCstr (h : 0 ∈ s) :
    (cstr s).length + 1 + (afterCstr s).length = s.length := by
  obtain ⟨a, b, rfl, ha⟩ := eq_append_cons_of_mem h
  rw [cstr_append_zero ha, afterCstr_append_zero ha, length_append, length_cons]
  omega

lemma afterCstr_length_lt (h : s ≠ []) : (afterCstr s).length < s.length := by
  have hpos := length_pos_iff.mpr h
  rw [afterCstr, length_drop]
  omega

/-- `strstr`: the string from the first occurrence of a text on. -/
def strstr (needle : List UInt8) : List UInt8 → Option (List UInt8)
  | [] => if needle = [] then some [] else none
  | b :: s => if needle.isPrefixOf (b :: s) then some (b :: s) else strstr needle s

/-- `strchr`: the string from the first occurrence of a character on. -/
def strchr (c : UInt8) : List UInt8 → Option (List UInt8)
  | [] => none
  | b :: s => if b = c then some (b :: s) else strchr c s

/-! ## Numbers -/

/-- `isspace`. -/
def isSpace (b : UInt8) : Bool := b == 32 || (9 ≤ b && b ≤ 13)

/-- The value of a digit; at least 36 for a byte that is none. -/
def digitVal (b : UInt8) : Nat :=
  if 48 ≤ b ∧ b ≤ 57 then b.toNat - 48
  else if 97 ≤ b ∧ b ≤ 122 then b.toNat - 87
  else if 65 ≤ b ∧ b ≤ 90 then b.toNat - 55
  else 36

/-- The number that the digits at the beginning of a string make, after the number read so
far. -/
def readDigits (base : Nat) : Nat → List UInt8 → Nat
  | n, [] => n
  | n, b :: s => if digitVal b < base then readDigits base (n * base + digitVal b) s else n

/-- Whether a number starts with a minus sign, and what follows the sign. -/
def readSign : List UInt8 → Bool × List UInt8
  | 45 :: s => (true, s)
  | 43 :: s => (false, s)
  | s => (false, s)

/-- The base that the beginning of a number selects if the caller gives none, and the digits. -/
def readBase : List UInt8 → Nat × List UInt8
  | 48 :: 120 :: s => (16, s)
  | 48 :: 88 :: s => (16, s)
  | 48 :: s => (8, 48 :: s)
  | s => (10, s)

/-- `atoi`, where `long` has 32 bits. -/
def atoi (s : List UInt8) : Int :=
  let (neg, s) := readSign (s.dropWhile isSpace)
  let n : Int := readDigits 10 0 s
  max (-0x80000000) (min 0x7fffffff (if neg then -n else n))

/-- `strtoull` with base 0. -/
def strtoull (s : List UInt8) : Nat :=
  let (neg, s) := readSign (s.dropWhile isSpace)
  let (base, s) := readBase s
  let n := readDigits base 0 s
  if 0x10000000000000000 ≤ n then 0xffffffffffffffff
  else if neg then (0x10000000000000000 - n) % 0x10000000000000000
  else n

example : atoi (bytes " -12x") = -12 := by decide +kernel
example : strtoull (bytes "0x1f") = 31 := by decide +kernel

end Solana
