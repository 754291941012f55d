import ReadYourWrites.Proofs.Text.Digits

-- Numerals as they may be written. A natural has many of them, as its digits may stand behind zeros and
-- a plus sign. Every numeral of a natural below 2⁶⁴ is read as this natural, and no other text is read
-- at all.

namespace ReadYourWrites.Text

structure Numeral where
  plus : Bool
  -- The number of zeros in front of the digits.
  zeros : Nat
  value : Nat

namespace Numeral

def digits (x : Numeral) : List Char :=
  List.replicate x.zeros '0' ++ Nat.toDigits 10 x.value

def text (x : Numeral) : String :=
  .ofList (if x.plus then '+' :: x.digits else x.digits)

theorem isDigit_of_mem_digits {x : Numeral} {c : Char} (h : c ∈ x.digits) : isDigit c = true := by
  cases List.mem_append.mp h
  case inl hz =>
    rw [List.eq_of_mem_replicate hz]
    rfl
  case inr hd => exact isDigit_of_mem_toDigits hd

theorem digits_ne_nil (x : Numeral) : x.digits ≠ [] :=
  List.append_ne_nil_of_right_ne_nil _ Nat.toDigits_ne_nil

theorem ofDigits_digits (x : Numeral) : ofDigits x.digits = x.value :=
  ofDigits_padded x.zeros x.value

end Numeral

-- A plus sign is no digit.
theorem dropPlus_eq_self {cs : List Char} (digits : ∀ c ∈ cs, isDigit c = true) : dropPlus cs = cs := by
  unfold dropPlus
  split
  case h_1 => cases digits '+' List.mem_cons_self
  case h_2 => rfl

-- At most one plus sign is dropped.
theorem exists_plus (cs : List Char) :
    ∃ plus : Bool, cs = if plus then '+' :: dropPlus cs else dropPlus cs := by
  unfold dropPlus
  split
  case h_1 => exact ⟨true, rfl⟩
  case h_2 => exact ⟨false, rfl⟩

theorem dropPlus_text (x : Numeral) : dropPlus x.text.toList = x.digits := by
  rw [Numeral.text, String.toList_ofList]
  split
  case isTrue => rfl
  case isFalse => exact dropPlus_eq_self fun _ => Numeral.isDigit_of_mem_digits

variable {text : String} {n : Nat}

theorem exists_numeral_iff : (∃ x : Numeral, x.text = text ∧ x.value = n) ↔
    readNat (dropPlus text.toList) = some n := by
  constructor
  case mp =>
    rintro ⟨x, rfl, rfl⟩
    have digits : x.digits.all isDigit = true :=
      List.all_eq_true.mpr fun _ => Numeral.isDigit_of_mem_digits
    rw [dropPlus_text, readNat, if_pos ⟨x.digits_ne_nil, digits⟩, x.ofDigits_digits]
  case mpr =>
    intro h
    rw [readNat, Option.ite_none_right_eq_some] at h
    obtain ⟨⟨nonempty, digits⟩, value⟩ := h
    obtain ⟨zeros, hz⟩ := exists_zeros (List.all_eq_true.mp digits) nonempty
    obtain ⟨plus, hp⟩ := exists_plus text.toList
    refine ⟨⟨plus, zeros, n⟩, ?_, rfl⟩
    rw [Numeral.text, Numeral.digits, ← Option.some.inj value, ← hz, ← hp, String.ofList_toList]

theorem readWord_eq_some_iff :
    readWord text = some n ↔ ∃ x : Numeral, x.text = text ∧ x.value = n ∧ n < wordBound := by
  rw [readWord, Option.filter_eq_some_iff, ← exists_numeral_iff, decide_eq_true_eq]
  simp only [← and_assoc, exists_and_right]

theorem readWord_text {x : Numeral} (fits : x.value < wordBound) : readWord x.text = some x.value :=
  readWord_eq_some_iff.mpr ⟨x, rfl, rfl, fits⟩

-- The texts that no natural below 2⁶⁴ is written as: there is nothing behind the sign, or something
-- other than a digit, or the value is too large.
inductive Foreign (text : String) : Prop
  | bare : dropPlus text.toList = [] → Foreign text
  | marked {c} : c ∈ dropPlus text.toList → isDigit c = false → Foreign text
  | large {x : Numeral} : x.text = text → wordBound ≤ x.value → Foreign text

theorem foreign_iff_readWord : Foreign text ↔ readWord text = none := by
  constructor
  case mp =>
    intro h
    cases h with
    | bare empty => simp [readWord, readNat, empty]
    | marked member mark =>
      have some : ¬(dropPlus text.toList).all isDigit = true := fun all =>
        Bool.false_ne_true (mark.symm.trans (List.all_eq_true.mp all _ member))
      simp [readWord, readNat, some]
    | large spelled large =>
      simp [readWord, exists_numeral_iff.mp ⟨_, spelled, rfl⟩, large]
  case mpr =>
    intro h
    by_cases empty : dropPlus text.toList = []
    case pos => exact .bare empty
    case neg =>
      by_cases digits : ∀ c ∈ dropPlus text.toList, isDigit c = true
      case neg =>
        simp only [not_forall] at digits
        obtain ⟨c, member, mark⟩ := digits
        exact .marked member (Bool.eq_false_iff.mpr mark)
      case pos =>
        have read : readNat (dropPlus text.toList) = some (ofDigits (dropPlus text.toList)) :=
          if_pos ⟨empty, List.all_eq_true.mpr digits⟩
        obtain ⟨x, spelled, _⟩ := exists_numeral_iff.mpr read
        refine .large spelled (Nat.le_of_not_lt fun fits => ?_)
        rw [← spelled, readWord_text fits] at h
        cases h

-- A text is foreign if no numeral with a value below 2⁶⁴ is this text.
theorem foreign_iff : Foreign text ↔ ∀ x : Numeral, x.text = text → wordBound ≤ x.value := by
  rw [foreign_iff_readWord]
  constructor
  case mp =>
    rintro h x rfl
    refine Nat.le_of_not_lt fun fits => ?_
    cases h.symm.trans (readWord_text fits)
  case mpr =>
    intro h
    refine Option.eq_none_iff_forall_ne_some.mpr fun n hn => ?_
    obtain ⟨x, spelled, rfl, fits⟩ := readWord_eq_some_iff.mp hn
    exact absurd (h x spelled) (Nat.not_le_of_lt fits)

instance : Decidable (Foreign text) :=
  decidable_of_iff _ foreign_iff_readWord.symm

end ReadYourWrites.Text
