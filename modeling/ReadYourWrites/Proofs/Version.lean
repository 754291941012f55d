import ReadYourWrites.Proofs.Text.Numeral
import ReadYourWrites.Version

-- Laws of the order of resource versions. It is the order of numbers on numerals of 64 bits, and the
-- order of bytes on all other texts, where a numeral among them counts as a text. Each of the two is a
-- total order. Together they are not: three versions can be in a circle, and `Tangled` says which.

namespace ReadYourWrites

namespace Text

-- The order of bytes is that of lists.
theorem compareBytes_eq (as bs : List UInt8) : compareBytes as bs = compare as bs := by
  induction as generalizing bs with
  | nil => cases bs <;> simp [compareBytes]
  | cons a as ih => cases bs <;> simp [compareBytes, List.compare_cons_cons, ih]

theorem compareTexts_eq (a b : String) : compareTexts a b = compare (bytes a) (bytes b) :=
  compareBytes_eq (bytes a) (bytes b)

theorem bytes_injective {a b : String} (h : bytes a = bytes b) : a = b :=
  String.toByteArray_inj.mp (ByteArray.ext (Array.toList_inj.mp h))

instance : Std.TransCmp compareTexts where
  eq_swap := by
    simp only [compareTexts, compareBytes_eq]
    exact Std.OrientedOrd.eq_swap
  isLE_trans := by
    simp only [compareTexts, compareBytes_eq]
    exact Std.TransOrd.isLE_trans

instance : Std.LawfulEqCmp compareTexts where
  eq_of_compare := by
    simp only [compareTexts, compareBytes_eq]
    exact fun h => bytes_injective (Std.LawfulEqOrd.eq_of_compare h)

variable {a b c : String}

theorem compareTexts_trans (hab : compareTexts a b ≠ .gt) (hbc : compareTexts b c ≠ .gt) :
    compareTexts a c ≠ .gt := by
  have hl : (compareTexts a c).isLE := Std.TransCmp.isLE_trans (Ordering.isLE_iff_ne_gt.mpr hab)
    (Ordering.isLE_iff_ne_gt.mpr hbc)
  exact Ordering.isLE_iff_ne_gt.mp hl

theorem compareTexts_lt (h : compareTexts a b ≠ .gt) (hn : a ≠ b) : compareTexts a b = .lt := by
  cases hc : compareTexts a b
  case lt => rfl
  case eq => exact absurd (Std.LawfulEqCmp.eq_of_compare hc) hn
  case gt => exact absurd hc h

end Text

namespace Version

open Text

variable {a b c : String}

theorem compare_of_numerals {m n : Nat} (ha : readWord a = some m) (hb : readWord b = some n) :
    compare a b = Ord.compare m n := by
  simp only [compare, ha, hb]

theorem compare_of_left (h : readWord a = none) : compare a b = compareTexts a b := by
  simp only [compare, h]

theorem compare_of_right (h : readWord b = none) : compare a b = compareTexts a b := by
  simp only [compare, h]
  cases readWord a <;> rfl

-- Natural numbers below 2⁶⁴ are compared as such, in whatever way they are written.
theorem compare_text {x y : Numeral} (hx : x.value < wordBound) (hy : y.value < wordBound) :
    compare x.text y.text = Ord.compare x.value y.value :=
  compare_of_numerals (readWord_text hx) (readWord_text hy)

theorem compare_of_foreign (h : Foreign a ∨ Foreign b) : compare a b = compareTexts a b := by
  cases h
  case inl ha => exact compare_of_left (foreign_iff_readWord.mp ha)
  case inr hb => exact compare_of_right (foreign_iff_readWord.mp hb)

theorem compare_self (version : String) : compare version version = .eq := by
  cases h : readWord version
  case none => exact (compare_of_left h).trans Std.ReflCmp.compare_self
  case some n => exact (compare_of_numerals h h).trans Std.ReflCmp.compare_self

theorem compare_swap (a b : String) : compare a b = (compare b a).swap := by
  cases ha : readWord a
  case none =>
    rw [compare_of_left ha, compare_of_right ha]
    exact Std.OrientedCmp.eq_swap
  case some m =>
    cases hb : readWord b
    case none =>
      rw [compare_of_right hb, compare_of_left hb]
      exact Std.OrientedCmp.eq_swap
    case some n =>
      rw [compare_of_numerals ha hb, compare_of_numerals hb ha]
      exact Std.OrientedOrd.eq_swap

theorem ne_lt_iff_swap : compare a b ≠ .lt ↔ compare b a ≠ .gt := by
  rw [compare_swap b a, ne_eq, ne_eq, Ordering.swap_eq_gt]

-- Two of the versions are numerals, and the one with the smaller value comes later by its bytes. The
-- third is no numeral, and by its bytes it lies between them.
inductive Tangled : String → String → String → Prop
  | first {a b c n k} : readWord a = none → readWord b = some n → readWord c = some k → n ≤ k →
      compareTexts c a = .lt → compareTexts a b = .lt → Tangled a b c
  | second {a b c m k} : readWord a = some m → readWord b = none → readWord c = some k → k < m →
      compareTexts a b = .lt → compareTexts b c = .lt → Tangled a b c
  | third {a b c m n} : readWord a = some m → readWord b = some n → readWord c = none → m ≤ n →
      compareTexts b c = .lt → compareTexts c a = .lt → Tangled a b c

-- A text that is a numeral is not one that is none.
theorem ne_of_readWord {n : Nat} (ha : readWord a = some n) (hb : readWord b = none) : a ≠ b := by
  rintro rfl
  cases ha.symm.trans hb

-- The versions in a circle are those that are tangled.
theorem tangled_iff :
    Tangled a b c ↔ compare a b ≠ .gt ∧ compare b c ≠ .gt ∧ compare a c = .gt := by
  constructor
  case mp =>
    intro h
    cases h with
    | first ha hb hc hle hca hab =>
      rw [compare_of_left ha, compare_of_numerals hb hc, compare_of_left ha]
      exact ⟨by simp [hab], Nat.compare_ne_gt.mpr hle, Std.OrientedCmp.gt_of_lt hca⟩
    | second ha hb hc hlt hab hbc =>
      rw [compare_of_right hb, compare_of_left hb, compare_of_numerals ha hc]
      exact ⟨by simp [hab], by simp [hbc], Nat.compare_eq_gt.mpr hlt⟩
    | third ha hb hc hle hbc hca =>
      rw [compare_of_numerals ha hb, compare_of_right hc, compare_of_right hc]
      exact ⟨Nat.compare_ne_gt.mpr hle, by simp [hbc], Std.OrientedCmp.gt_of_lt hca⟩
  case mpr =>
    rintro ⟨hab, hbc, hac⟩
    cases ha : readWord a <;> cases hb : readWord b <;> cases hc : readWord c
    case none.some.some =>
      rw [compare_of_left ha] at hab hac
      rw [compare_of_numerals hb hc, Nat.compare_ne_gt] at hbc
      have hl := compareTexts_lt hab (ne_of_readWord hb ha).symm
      exact .first ha hb hc hbc (Std.OrientedCmp.gt_iff_lt.mp hac) hl
    case some.none.some =>
      rw [compare_of_right hb] at hab
      rw [compare_of_left hb] at hbc
      rw [compare_of_numerals ha hc, Nat.compare_eq_gt] at hac
      have hl := compareTexts_lt hab (ne_of_readWord ha hb)
      exact .second ha hb hc hac hl (compareTexts_lt hbc (ne_of_readWord hc hb).symm)
    case some.some.none =>
      rw [compare_of_numerals ha hb, Nat.compare_ne_gt] at hab
      rw [compare_of_right hc] at hbc hac
      have hl := compareTexts_lt hbc (ne_of_readWord hb hc)
      exact .third ha hb hc hab hl (Std.OrientedCmp.gt_iff_lt.mp hac)
    case some.some.some =>
      rw [compare_of_numerals ha hb, Nat.compare_ne_gt] at hab
      rw [compare_of_numerals hb hc, Nat.compare_ne_gt] at hbc
      rw [compare_of_numerals ha hc, Nat.compare_eq_gt] at hac
      omega
    -- With one numeral at most all three are compared by their bytes.
    all_goals
      simp only [compare, ha, hb, hc] at hab hbc hac
      exact absurd hac (compareTexts_trans hab hbc)

-- The order is transitive but for versions that are tangled.
theorem compare_trans_iff (hab : compare a b ≠ .gt) (hbc : compare b c ≠ .gt) :
    compare a c ≠ .gt ↔ ¬Tangled a b c := by
  simp [tangled_iff, hab, hbc]

end Version

end ReadYourWrites
