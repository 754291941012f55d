import Mathlib.Data.List.Induction
import Mathlib.Data.List.TakeWhile
import ReadYourWrites.Text.Numeral

-- The decimal digits of a natural, and what they are read as. Any digits are those of the natural that
-- they are read as, but for zeros in front.

namespace ReadYourWrites.Text

theorem isDigit_iff {c : Char} : isDigit c = true ↔ 48 ≤ c.toNat ∧ c.toNat ≤ 57 := by
  simp only [isDigit, Bool.and_eq_true, decide_eq_true_eq, Char.le_def, UInt32.le_iff_toNat_le]
  rfl

theorem ofDigits_eq (cs : List Char) : ofDigits cs = Nat.ofDigitChars 10 cs 0 :=
  Nat.ofDigitChars_eq_foldl.symm

theorem ofDigits_toDigits (n : Nat) : ofDigits (Nat.toDigits 10 n) = n := by
  rw [ofDigits_eq, Nat.ofDigitChars_toDigits (by decide) (by decide)]

theorem isDigit_of_mem_toDigits {c : Char} {n : Nat} (h : c ∈ Nat.toDigits 10 n) :
    isDigit c = true :=
  Nat.isDigit_of_mem_toDigits (by decide) (by decide) h

-- Leading zeros do not count.
theorem ofDigits_padded (zeros n : Nat) :
    ofDigits (List.replicate zeros '0' ++ Nat.toDigits 10 n) = n := by
  rw [ofDigits_eq, Nat.ofDigitChars_append, Nat.ofDigitChars_replicate_zero, Nat.mul_zero,
    ← ofDigits_eq, ofDigits_toDigits]

theorem ofDigits_nil : ofDigits [] = 0 :=
  rfl

theorem ofDigits_concat (cs : List Char) (c : Char) :
    ofDigits (cs ++ [c]) = 10 * ofDigits cs + (c.toNat - 48) := by
  rw [ofDigits, List.foldl_append]
  rfl

theorem digit_lt_ten {c : Char} (digit : isDigit c = true) : c.toNat - 48 < 10 := by
  have ⟨low, high⟩ := isDigit_iff.mp digit
  omega

theorem toDigits_digit {c : Char} (digit : isDigit c = true) :
    Nat.toDigits 10 (c.toNat - 48) = [c] := by
  have small := digit_lt_ten digit
  have char : Nat.digitChar (c.toNat - 48) = c := by
    have ⟨low, high⟩ := isDigit_iff.mp digit
    apply Char.toNat_inj.mp
    rw [Nat.toNat_digitChar_of_lt_ten small]
    omega
  rw [Nat.toDigits_of_lt_base small, char]

-- One digit more behind those of a positive natural.
theorem toDigits_concat {c : Char} {n : Nat} (digit : isDigit c = true) (positive : 0 < n) :
    Nat.toDigits 10 n ++ [c] = Nat.toDigits 10 (10 * n + (c.toNat - 48)) := by
  rw [← Nat.toDigits_append_toDigits (by decide) positive (digit_lt_ten digit), toDigits_digit digit]

-- The induction is from the last digit. What comes before it are the digits of a positive natural, or
-- zeros only, which then count as zeros in front.
theorem exists_zeros {cs : List Char} (digits : ∀ c ∈ cs, isDigit c = true) (nonempty : cs ≠ []) :
    ∃ zeros, cs = List.replicate zeros '0' ++ Nat.toDigits 10 (ofDigits cs) := by
  induction cs using List.reverseRecOn with
  | nil => exact absurd rfl nonempty
  | append_singleton cs c ih =>
    have last : isDigit c = true := digits c (by simp)
    rw [ofDigits_concat]
    by_cases hn : cs = []
    case pos =>
      subst hn
      refine ⟨0, ?_⟩
      rw [ofDigits_nil, Nat.mul_zero, Nat.zero_add, toDigits_digit last]
      rfl
    case neg =>
      obtain ⟨zeros, he⟩ := ih (fun d hd => digits d (List.mem_append_left _ hd)) hn
      by_cases positive : 0 < ofDigits cs
      case pos =>
        refine ⟨zeros, ?_⟩
        rw [← toDigits_concat last positive, ← List.append_assoc, ← he]
      case neg =>
        have zero : ofDigits cs = 0 := by omega
        rw [zero, Nat.toDigits_zero, ← List.replicate_succ'] at he
        refine ⟨zeros + 1, ?_⟩
        rw [zero, Nat.mul_zero, Nat.zero_add, toDigits_digit last, ← he]

end ReadYourWrites.Text
