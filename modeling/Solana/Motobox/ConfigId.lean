import Mathlib.Data.Nat.Digits.Lemmas
import Solana.Lib.CString

/-!
# Configuration ids

`setconfig` checks its argument, and `getconfig` the line that it reads from the configuration file,
by printing the number that `atoi` returns and comparing the result with the text behind its leading
zeros.  A string is the list of its bytes, none of which is zero.

`confid_accepted_iff` compares both with the ids that are meant, `ConfigId`.
-/

namespace Solana.Motobox

open List

/-! ## The check -/

/-- The decimal digits of a number. -/
def decimal (n : Nat) : List UInt8 :=
  if n = 0 then [48] else ((Nat.digits 10 n).map fun d => (48 + d).toUInt8).reverse

/-- `sprintf` with `%d`. -/
def sprintfD (v : Int) : List UInt8 :=
  if v < 0 then 45 :: decimal v.natAbs else decimal v.natAbs

/-- The text that is compared. -/
def skipZeros (confid : List UInt8) : List UInt8 :=
  if 1 < confid.length then confid.dropWhile (· = 48) else confid

/-- The check of `setconfig_main`, and that of `getconfig`. -/
def accepts (confid : List UInt8) : Bool :=
  let value := atoi confid
  sprintfD value = skipZeros confid ∧ -1 ≤ value ∧ value ≤ 2147483647

/-- `fgets`, where the file has this content: the first line with its newline, as far as it fits. -/
def fgets (size : Nat) (content : List UInt8) : Option (List UInt8) :=
  if content = [] then none
  else
    let text := content.take (size - 1)
    some (text.take (text.idxOf 10 + 1))

/-- `getconfig` accepts what it reads. -/
def getconfigAccepts (content : List UInt8) : Bool := (fgets 255 content).any accepts

/-! ## What is meant -/

def IsDigit (b : UInt8) : Prop := 48 ≤ b ∧ b ≤ 57

instance : DecidablePred IsDigit := fun _ => inferInstanceAs (Decidable (_ ∧ _))

/-- The value of a string of digits. -/
def value (s : List UInt8) : Nat := Nat.ofDigits 10 (s.reverse.map digitVal)

/-- The ids: `-1`, and the strings of digits whose value is not too large. -/
def ConfigId (s : List UInt8) : Prop :=
  s = bytes "-1" ∨ s ≠ [] ∧ (∀ b ∈ s, IsDigit b) ∧ value s ≤ 2147483647

/-- Two or more zeros. -/
def Zeros (s : List UInt8) : Prop := 2 ≤ s.length ∧ ∀ b ∈ s, b = 48

/-! ## Digits -/

variable {s : List UInt8} {b : UInt8}

lemma IsDigit.add_digitVal (h : IsDigit b) : 48 + digitVal b = b.toNat :=
  (congrArg (48 + ·) (if_pos h)).trans (Nat.add_sub_cancel' h.1)

lemma IsDigit.digitVal_lt (h : IsDigit b) : digitVal b < 10 := by
  have hle : b.toNat ≤ 57 := h.2
  have := h.add_digitVal
  omega

lemma IsDigit.byte (h : IsDigit b) : (48 + digitVal b).toUInt8 = b := by
  rw [h.add_digitVal]
  exact UInt8.ofNat_toNat

lemma byte_isDigit {d : Nat} (h : d < 10) :
    IsDigit (48 + d).toUInt8 ∧ digitVal (48 + d).toUInt8 = d := by
  interval_cases d <;> decide

lemma value_zero_cons (s : List UInt8) : value (48 :: s) = value s := by
  simp [value, Nat.ofDigits_append, digitVal]

lemma value_dropWhile (s : List UInt8) : value (s.dropWhile (· = 48)) = value s := by
  induction s with
  | nil => rfl
  | cons b s ih =>
    by_cases hb : b = 48
    · rw [dropWhile_cons_of_pos (by simpa using hb), ih, hb, value_zero_cons]
    · rw [dropWhile_cons_of_neg (by simpa using hb)]

lemma readDigits_eq (h : ∀ b ∈ s, IsDigit b) : readDigits 10 0 s = value s := by
  have hfold : ∀ n, readDigits 10 n s = s.foldl (fun n b => digitVal b + 10 * n) n := by
    induction s with
    | nil => exact fun n => rfl
    | cons b s ih =>
      intro n
      rw [readDigits, if_pos (h b mem_cons_self).digitVal_lt, Nat.mul_comm, Nat.add_comm,
        ih fun c hc => h c (mem_cons_of_mem _ hc), foldl_cons]
  rw [hfold, value, Nat.ofDigits_eq_foldr, foldr_map, foldr_reverse]
  rfl

lemma map_eq_self {α : Type*} {f : α → α} {l : List α} (h : ∀ a ∈ l, f a = a) : l.map f = l :=
  (map_congr_left h).trans (map_id' l)

lemma value_decimal (n : Nat) : (∀ b ∈ decimal n, IsDigit b) ∧ value (decimal n) = n := by
  unfold decimal
  split_ifs with hn
  · exact ⟨by simp [IsDigit], hn ▸ rfl⟩
  have hlt : ∀ d ∈ Nat.digits 10 n, d < 10 := fun d => Nat.digits_lt_base (by decide)
  refine ⟨?_, ?_⟩
  · simp only [mem_reverse, mem_map]
    rintro _ ⟨d, hd, rfl⟩
    exact (byte_isDigit (hlt d hd)).1
  · have hmap := map_eq_self fun d hd => (byte_isDigit (hlt d hd)).2
    rw [value, reverse_reverse, map_map, Function.comp_def, hmap, Nat.ofDigits_digits]

lemma decimal_value (hdigits : ∀ b ∈ s, IsDigit b) (hne : s ≠ []) (hhead : s.head hne ≠ 48) :
    decimal (value s) = s := by
  have hlast : ∀ h : s.reverse.map digitVal ≠ [], (s.reverse.map digitVal).getLast h ≠ 0 := by
    intro h
    rw [getLast_map, getLast_reverse]
    intro hzero
    exact hhead ((hdigits _ (head_mem hne)).byte.symm.trans (by rw [hzero]; rfl))
  have hdigs : Nat.digits 10 (value s) = s.reverse.map digitVal := by
    refine Nat.digits_ofDigits 10 (by decide) _ (fun d hd => ?_) hlast
    obtain ⟨b, hb, rfl⟩ := mem_map.mp hd
    exact (hdigits b (mem_reverse.mp hb)).digitVal_lt
  have hpos : value s ≠ 0 := by
    intro hzero
    rw [hzero] at hdigs
    simp [hne] at hdigs
  rw [decimal, if_neg hpos, hdigs, map_map, ← map_reverse, reverse_reverse]
  exact map_eq_self fun b hb => (hdigits b hb).byte

lemma decimal_ne_nil (n : Nat) : decimal n ≠ [] := by
  unfold decimal
  split_ifs with hn
  · decide
  · simpa [Nat.digits_eq_nil_iff_eq_zero] using hn

/-! ## Reading and comparing -/

lemma atoi_digit_cons (h : IsDigit b) (s : List UInt8) :
    atoi (b :: s) = min 0x7fffffff (readDigits 10 0 (b :: s) : Int) := by
  have hspace : isSpace b = false := by
    obtain ⟨h48, h57⟩ := h
    simp only [isSpace]
    grind
  have hsign : readSign (b :: s) = (false, b :: s) := by
    unfold readSign
    obtain ⟨h48, h57⟩ := h
    split
    · grind
    · grind
    · rfl
  rw [atoi, dropWhile_cons_of_neg (by simp [hspace]), hsign]
  simp only [Bool.false_eq_true, if_false]
  omega

lemma value_skipZeros (s : List UInt8) : value (skipZeros s) = value s := by
  unfold skipZeros
  split_ifs
  · exact value_dropWhile s
  · rfl

lemma mem_or_mem_skipZeros (h : b ∈ s) : b = 48 ∨ b ∈ skipZeros s := by
  unfold skipZeros
  split_ifs
  · rw [← takeWhile_append_dropWhile (p := (· = (48 : UInt8))) (l := s), mem_append] at h
    exact h.imp (fun h => by simpa using mem_takeWhile_imp h) id
  · exact .inr h

lemma Zeros.skipZeros_eq_nil (h : Zeros s) : skipZeros s = [] := by
  refine (if_pos h.1).trans (dropWhile_eq_nil_iff.mpr ?_)
  simpa using h.2

/-- The text that is compared with a digit string. -/
lemma decimal_eq_skipZeros (hne : s ≠ []) (hdigits : ∀ b ∈ s, IsDigit b) (hzeros : ¬Zeros s) :
    decimal (value s) = skipZeros s := by
  unfold skipZeros
  split_ifs with hlen
  · have hdrop : s.dropWhile (· = 48) ≠ [] := by
      intro hnil
      exact hzeros ⟨hlen, by simpa using dropWhile_eq_nil_iff.mp hnil⟩
    rw [← value_dropWhile]
    refine decimal_value (fun b hb => hdigits b (dropWhile_suffix _ |>.mem hb)) hdrop ?_
    simpa using head_dropWhile_not (· = (48 : UInt8)) hdrop
  · obtain ⟨b, rfl⟩ : ∃ b, s = [b] := by
      refine length_eq_one_iff.mp ?_
      have := length_pos_of_ne_nil hne
      omega
    by_cases hb : b = 48
    · subst hb
      rfl
    · exact decimal_value hdigits hne hb

lemma eq_of_skipZeros_eq (hneg : atoi s < 0) (h : skipZeros s = bytes "-1") : s = bytes "-1" := by
  unfold skipZeros at h
  split_ifs at h
  · cases s with
    | nil => simp [atoi, readSign, readDigits] at hneg
    | cons b s =>
      have hb : b ≠ 48 := by
        rintro rfl
        rw [atoi_digit_cons (by decide)] at hneg
        omega
      rwa [dropWhile_cons_of_neg (by simpa using hb)] at h
  · exact h

lemma accepts_iff : accepts s = true ↔ ConfigId s ∧ ¬Zeros s := by
  unfold accepts
  rw [decide_eq_true_iff]
  constructor
  · rintro ⟨heq, hmin, hmax⟩
    by_cases hneg : atoi s < 0
    · obtain rfl : s = bytes "-1" := by
        refine eq_of_skipZeros_eq hneg ?_
        rw [← heq, show atoi s = -1 by omega]
        decide +kernel
      exact ⟨.inl rfl, fun h => absurd (h.2 45 (by decide)) (by decide)⟩
    · rw [sprintfD, if_neg hneg] at heq
      obtain ⟨hdigits, hvalue⟩ := value_decimal (atoi s).natAbs
      have hne := decimal_ne_nil (atoi s).natAbs
      rw [heq] at hdigits hvalue hne
      rw [value_skipZeros] at hvalue
      refine ⟨.inr ⟨?_, fun b hb => ?_, by omega⟩, fun h => hne h.skipZeros_eq_nil⟩
      · rintro rfl
        exact hne rfl
      · rcases mem_or_mem_skipZeros hb with rfl | hb
        · decide
        · exact hdigits b hb
  · rintro ⟨rfl | ⟨hne, hdigits, hvalue⟩, hzeros⟩
    · decide +kernel
    · have hatoi : atoi s = value s := by
        cases s with
        | nil => exact absurd rfl hne
        | cons b s =>
          rw [atoi_digit_cons (hdigits b mem_cons_self), readDigits_eq hdigits]
          omega
      rw [hatoi, sprintfD, if_neg (by omega), Int.natAbs_natCast]
      exact ⟨decimal_eq_skipZeros hne hdigits hzeros, by omega, by omega⟩

lemma Zeros.configId (h : Zeros s) : ConfigId s := by
  refine .inr ⟨ne_nil_of_length_pos (Nat.zero_lt_of_lt h.1), fun b hb => ?_, ?_⟩
  · rw [h.2 b hb]
    decide
  · rw [← value_skipZeros, h.skipZeros_eq_nil]
    decide

/-! ## The two programs -/

lemma ConfigId.newline_notMem (h : ConfigId s) : 10 ∉ s := by
  intro hmem
  rcases h with rfl | ⟨-, hdigits, -⟩
  · exact absurd hmem (by decide)
  · exact absurd (hdigits 10 hmem) (by decide)

/-- `getconfig` accepts the strings whose first 254 bytes `setconfig` accepts. -/
lemma getconfigAccepts_iff : getconfigAccepts s = true ↔
    ConfigId (s.take 254) ∧ ¬Zeros (s.take 254) := by
  rw [← accepts_iff, getconfigAccepts, fgets]
  split_ifs with hs
  · subst hs
    decide +kernel
  · show accepts ((s.take 254).take ((s.take 254).idxOf 10 + 1)) = true ↔ _
    by_cases hmem : 10 ∈ s.take 254
    -- a newline is in both texts or in neither, and no id has one
    · have hline := (mem_take_iff_idxOf_lt hmem).mpr (Nat.lt_succ_self _)
      exact iff_of_false (fun h => (accepts_iff.mp h).1.newline_notMem hline)
        fun h => (accepts_iff.mp h).1.newline_notMem hmem
    · rw [idxOf_of_notMem hmem, take_of_length_le (Nat.le_succ _)]

/-- **Configuration ids.**  A string is accepted by both programs exactly if it is an id, unless it
is two or more zeros or too long for the buffer of `getconfig`.  A string that is too long is judged
by its first 254 bytes. -/
theorem confid_accepted_iff (s : List UInt8) :
    ((accepts s = true ↔ ConfigId s) ∧ (getconfigAccepts s = true ↔ ConfigId s)) ↔
      ¬Zeros s ∧ (s.length ≤ 254 ∨ (ConfigId (s.take 254) ∧ ¬Zeros (s.take 254) ↔ ConfigId s)) := by
  have hset : (accepts s = true ↔ ConfigId s) ↔ ¬Zeros s := by
    rw [accepts_iff, and_iff_left_iff_imp]
    exact ⟨fun h hzeros => h hzeros.configId hzeros, fun h _ => h⟩
  rw [hset, getconfigAccepts_iff]
  refine and_congr_right fun hzeros => ⟨.inr, ?_⟩
  rintro (hlen | h)
  · rw [take_of_length_le hlen]
    exact and_iff_left hzeros
  · exact h

/-- **Two zeros** are refused, and so are 254 zeros with a digit behind them by `getconfig`. -/
theorem confid_refused : ConfigId (bytes "00") ∧ accepts (bytes "00") = false ∧
      ConfigId (replicate 254 48 ++ [53]) ∧ accepts (replicate 254 48 ++ [53]) = true ∧
      getconfigAccepts (replicate 254 48 ++ [53]) = false := by
  refine ⟨Zeros.configId ⟨by decide, by decide +kernel⟩, ?_, .inr ⟨by decide, ?_, ?_⟩, ?_⟩
  all_goals decide +kernel

end Solana.Motobox
