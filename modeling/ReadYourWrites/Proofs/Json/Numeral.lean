import Mathlib.Data.List.TakeWhile
import ReadYourWrites.Json.Reader
import ReadYourWrites.Proofs.Text.Digits

-- Numbers as they are written in JSON texts. An integer is written by its digits, with a sign if it is
-- negative, and is read as itself if it has not more than 64 bits.

namespace ReadYourWrites.Json

open Text

namespace Reader.Part

-- The part of a number that begins it.
def first? (c : Char) : Option Part :=
  if c = '-' then some .sign
  else if c = '0' then some .zero
  else if isDigit c then some .digits
  else none

-- The part of a number that some more characters lead to.
def follow (part : Part) : List Char → Option Part
  | [] => some part
  | c :: cs => (part.next c).bind (·.follow cs)

theorem follow_digits {cs : List Char} (h : ∀ c ∈ cs, isDigit c = true) :
    follow .digits cs = some .digits := by
  induction cs with
  | nil => rfl
  | cons c cs ih =>
    rw [follow, next, if_pos (h c List.mem_cons_self), Option.bind_some]
    exact ih fun d hd => h d (List.mem_cons_of_mem _ hd)

end Reader.Part

-- Whether a text is a number of JSON as a whole.
def isNumeral : List Char → Bool
  | [] => false
  | c :: cs => ((Reader.Part.first? c).bind (·.follow cs)).any Reader.Part.isComplete

-- No number but zero begins with the digit zero.
theorem toDigits_eq_cons {n : Nat} (positive : 0 < n) :
    ∃ c cs, Nat.toDigits 10 n = c :: cs ∧ c ≠ '0' := by
  have nonzero : ∀ d < 10, 0 < d → Nat.digitChar d ≠ '0' := by decide
  induction n using Nat.strongRecOn with
  | ind n ih =>
    rw [Nat.toDigits_eq_if (by decide)]
    split
    case isTrue small => exact ⟨_, [], rfl, nonzero n small positive⟩
    case isFalse large =>
      obtain ⟨c, cs, he, hc⟩ := ih (n / 10) (by omega) (by omega)
      exact ⟨c, cs ++ [(n % 10).digitChar], by rw [he, List.cons_append], hc⟩

theorem follow_toDigits (n : Nat) :
    ∃ c cs part, Nat.toDigits 10 n = c :: cs ∧ Reader.Part.first? c = some part ∧
      Reader.Part.next c .sign = some part ∧ part.follow cs = some part ∧ part.isComplete = true := by
  by_cases hn : n = 0
  case pos => exact ⟨'0', [], .zero, by rw [hn, Nat.toDigits_zero], rfl, rfl, rfl, rfl⟩
  case neg =>
    obtain ⟨c, cs, he, hc⟩ := toDigits_eq_cons (Nat.pos_of_ne_zero hn)
    have digits : ∀ d ∈ c :: cs, isDigit d = true := fun d hd => isDigit_of_mem_toDigits (he ▸ hd)
    have digit := digits c List.mem_cons_self
    have sign : c ≠ '-' := by
      rintro rfl
      cases digit
    refine ⟨c, cs, .digits, he, ?_, ?_, Reader.Part.follow_digits ?_, rfl⟩
    case refine_1 => rw [Reader.Part.first?, if_neg sign, if_neg hc, if_pos digit]
    case refine_2 => rw [Reader.Part.next, if_neg hc, if_pos digit]
    case refine_3 => exact fun d hd => digits d (List.mem_cons_of_mem _ hd)

-- The digits of an integer, behind a sign if it is negative.
theorem toList_toString (n : Int) :
    (toString n).toList =
      if 0 ≤ n then Nat.toDigits 10 n.toNat else '-' :: Nat.toDigits 10 (-n).toNat := by
  rw [Int.toString_eq_repr, Int.repr_eq_if]
  split
  case isTrue => exact Nat.toList_repr
  case isFalse => rw [String.toList_append, Nat.toList_repr]; rfl

theorem isNumeral_toString (n : Int) : isNumeral (toString n).toList = true := by
  rw [toList_toString]
  split
  case isTrue =>
    obtain ⟨c, cs, part, he, first, _, more, complete⟩ := follow_toDigits n.toNat
    rw [he, isNumeral, first, Option.bind_some, more]
    exact complete
  case isFalse =>
    obtain ⟨c, cs, part, he, _, next, more, complete⟩ := follow_toDigits (-n).toNat
    have all : Reader.Part.follow .sign (c :: cs) = some part := by
      rw [Reader.Part.follow, next, Option.bind_some, more]
    rw [he, isNumeral, Reader.Part.first?, if_pos rfl, Option.bind_some, all]
    exact complete

theorem le_foldl_digits (cs : List Char) (n : Nat) :
    n ≤ cs.foldl (fun n c => 10 * n + Scaled.digitValue c) n := by
  induction cs generalizing n with
  | nil => exact Nat.le_refl n
  | cons c cs ih =>
    have step : n ≤ 10 * n + Scaled.digitValue c := by omega
    exact Nat.le_trans step (ih _)

-- All digits are taken in if their value fits.
theorem Scaled.whole_eq {cs : List Char} {s : Scaled}
    (fits : cs.foldl (fun n c => 10 * n + digitValue c) s.significand < wordBound) :
    s.whole cs = { s with significand := cs.foldl (fun n c => 10 * n + digitValue c) s.significand } := by
  induction cs generalizing s with
  | nil => rfl
  | cons c cs ih =>
    rw [List.foldl_cons] at fits
    have small := Nat.lt_of_le_of_lt (le_foldl_digits cs _) fits
    rw [whole, if_pos small]
    exact ih fits

theorem Scaled.whole_toDigits {n : Nat} (fits : n < wordBound) :
    whole ⟨0, 0⟩ (Nat.toDigits 10 n) = ⟨n, 0⟩ := by
  have value : (Nat.toDigits 10 n).foldl (fun n c => 10 * n + digitValue c) 0 = n := ofDigits_toDigits n
  rw [whole_eq (value.symm ▸ fits), value]

theorem ofNumber?_toString {n : Int} (low : -9_223_372_036_854_775_808 ≤ n) (high : n < wordBound) :
    ofNumber? (toString n).toList = some (.integer n) := by
  have bound : wordBound = 18_446_744_073_709_551_616 := rfl
  have digits (n : Nat) : ∀ c ∈ Nat.toDigits 10 n, isDigit c = true :=
    fun _ => isDigit_of_mem_toDigits
  have taken (n : Nat) : (Nat.toDigits 10 n).takeWhile isDigit = Nat.toDigits 10 n :=
    List.takeWhile_eq_self_iff.mpr (digits n)
  have left (n : Nat) : (Nat.toDigits 10 n).dropWhile isDigit = [] :=
    List.dropWhile_eq_nil_iff.mpr (digits n)
  rw [toList_toString]
  split
  case isTrue positive =>
    have whole := Scaled.whole_toDigits (n := n.toNat) (by omega)
    have unsigned : ((Nat.toDigits 10 n.toNat).head? == some '-') = false := by
      rw [beq_eq_false_iff_ne]
      intro he
      cases digits n.toNat '-' (List.mem_of_head? he)
    simp only [ofNumber?, unsigned, Bool.false_eq_true, if_false, taken, left, whole]
    rw [if_neg (not_not_intro rfl), if_pos (by decide), Int.toNat_of_nonneg positive]
  case isFalse negative =>
    have whole := Scaled.whole_toDigits (n := (-n).toNat) (by omega)
    simp only [ofNumber?, List.head?_cons, beq_self_eq_true, if_true, List.tail_cons, taken, left, whole]
    have small : (-n).toNat ≠ 0 ∧ (-n).toNat ≤ 9_223_372_036_854_775_808 := by omega
    have value : -((-n).toNat : Int) = n := by omega
    rw [if_neg (not_not_intro rfl), if_neg (by decide), if_pos small, value]

end ReadYourWrites.Json
