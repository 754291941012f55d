import Mathlib.Algebra.Group.Nat.Defs
import Mathlib.Data.List.TakeWhile
import ReadYourWrites.Proofs.Text.Digits
import ReadYourWrites.Time.Timestamp

-- A point in time is read as what it was from the text that it is written as.

namespace ReadYourWrites

namespace Timestamp

open Text (isDigit ofDigits trimStart isBlank)

variable {digits rest cs : List Char} {mark : Char}

-- The digits of a number.
structure Spells (digits : List Char) (n : Nat) : Prop where
  all : ∀ c ∈ digits, isDigit c = true
  some : digits ≠ []
  value : ofDigits digits = n

theorem trimStart_of_digits {n : Nat} (h : Spells digits n) :
    trimStart (digits ++ rest) = digits ++ rest := by
  cases digits with
  | nil => exact absurd rfl h.some
  | cons c digits =>
    have ⟨low, high⟩ := Text.isDigit_iff.mp (h.all c List.mem_cons_self)
    have hb : isBlank c = false := by
      simp [isBlank]
      omega
    simp [trimStart, hb]

-- A number ends at the first mark that is no digit.
theorem scanNumber_append {most n : Nat} (h : Spells digits n) (short : digits.length ≤ most)
    (ends : isDigit mark = false) :
    scanNumber most (digits ++ mark :: rest) = Option.some (n, mark :: rest) := by
  have taken : ((digits ++ mark :: rest).take most).takeWhile isDigit = digits := by
    rw [List.take_append, List.take_of_length_le short, List.takeWhile_append_of_pos h.all]
    cases most - digits.length <;> simp [ends]
  rw [scanNumber, taken, if_neg h.some, List.drop_left, h.value]

theorem spells_padded (places n : Nat) : Spells (padded places n).toList n := by
  rw [padded, String.toList_ofList]
  refine ⟨fun c hc => ?_, ?_, Text.ofDigits_padded _ n⟩
  case refine_1 =>
    obtain hz | hd := List.mem_append.mp hc
    case inl => rw [List.eq_of_mem_replicate hz]; rfl
    case inr => exact Text.isDigit_of_mem_toDigits hd
  case refine_2 => simp [Nat.toDigits_ne_nil]

theorem length_padded (places n : Nat) (positive : 0 < places) (fits : n < 10 ^ places) :
    (padded places n).toList.length = places := by
  have := (Nat.length_toDigits_le_iff (by decide) positive).mpr fits
  rw [padded, String.toList_ofList, List.length_append, List.length_replicate]
  omega

theorem scanPart_padded (n : Nat) (mark : Char) (fits : n < 100) (ends : isDigit mark = false) :
    scanPart ((padded 2 n).toList ++ mark :: rest) = some (n, mark :: rest) := by
  have spells := spells_padded 2 n
  have short := length_padded 2 n (by decide) fits
  rw [scanPart, trimStart_of_digits spells, scanNumber_append spells short.le ends]

-- A year without a sign.
theorem scanYear_digits {n : Nat} (h : Spells digits n) (short : digits.length ≤ 4) :
    scanYear (digits ++ '-' :: rest) = some ((n : Int), '-' :: rest) := by
  have scanned : scanNumber 4 (digits ++ '-' :: rest) = some (n, '-' :: rest) :=
    scanNumber_append h short rfl
  rw [scanYear, trimStart_of_digits h]
  cases digits with
  | nil => exact absurd rfl h.some
  | cons c digits =>
    have digit := h.all c List.mem_cons_self
    split
    case h_1 he =>
      obtain ⟨rfl, _⟩ := List.cons.inj he
      cases digit
    case h_2 he =>
      obtain ⟨rfl, _⟩ := List.cons.inj he
      cases digit
    case h_3 => rw [scanned, Option.map_some]

-- The years of a sign and a number of any length.
theorem scanYear_minus {n : Nat} (h : Spells digits n) :
    scanYear ('-' :: (digits ++ '-' :: rest)) = some (-(n : Int), '-' :: rest) := by
  have trimmed : trimStart ('-' :: (digits ++ '-' :: rest)) = '-' :: (digits ++ '-' :: rest) := rfl
  rw [scanYear, trimmed]
  change (scanNumber _ _).map (fun found => (-(found.1 : Int), found.2)) = _
  rw [scanNumber_append h (by simp) rfl, Option.map_some]

theorem scanYear_plus {n : Nat} (h : Spells digits n) :
    scanYear ('+' :: (digits ++ '-' :: rest)) = some ((n : Int), '-' :: rest) := by
  have trimmed : trimStart ('+' :: (digits ++ '-' :: rest)) = '+' :: (digits ++ '-' :: rest) := rfl
  rw [scanYear, trimmed]
  change (scanNumber _ _).map (fun found => ((found.1 : Int), found.2)) = _
  rw [scanNumber_append h (by simp) rfl, Option.map_some]

theorem scanYear_yearText (year : Int) :
    scanYear ((yearText year).toList ++ '-' :: rest) = some (year, '-' :: rest) := by
  have spells := spells_padded 4 year.natAbs
  rw [yearText]
  split
  case isTrue negative =>
    have value : -(year.natAbs : Int) = year := by omega
    have signed := @scanYear_minus _ rest _ spells
    rw [value] at signed
    rw [String.toList_append]
    exact signed
  case isFalse =>
    have value : (year.natAbs : Int) = year := by omega
    split
    case isTrue large =>
      have signed := @scanYear_plus _ rest _ spells
      rw [value] at signed
      rw [String.toList_append]
      exact signed
    case isFalse small =>
      have short := length_padded 4 year.natAbs (by decide) (by omega)
      rw [scanYear_digits spells short.le, value]

theorem toUtc_zero {time : CivilTime} (h : time.IsValid) : time.toUtc 0 = time := by
  have fits := h.hour
  have within := h.minute
  obtain ⟨year, month, day, hour, minute, second⟩ := time
  dsimp only at *
  have low : ¬((hour : Int) * 60 + minute - 0) < 0 := by omega
  have high : ¬1440 ≤ ((hour : Int) * 60 + minute - 0) := by omega
  simp only [CivilTime.toUtc, low, high, if_false, CivilTime.withMinuteOfDay, CivilTime.mk.injEq,
    true_and, and_true]
  omega

theorem day_le {time : CivilTime} (h : time.IsValid) : time.day ≤ 31 := by
  refine h.day.right.trans ?_
  rw [CivilTime.daysIn]
  grind

theorem scanMark_cons (h : isBlank mark = false) : scanMark mark (mark :: cs) = some cs := by
  simp [scanMark, trimStart, h]

theorem ofCivil?_time (t : Timestamp) : ofCivil? t.time = some t := by
  rw [ofCivil?, dif_pos t.valid]

theorem read_text (t : Timestamp) : read t.text = some t := by
  have valid := t.valid
  have month := valid.month.right
  have day := day_le valid
  have hour := valid.hour
  have minute := valid.minute
  have second := valid.second
  have cut : t.text.toList = (yearText t.time.year).toList ++ '-' ::
      ((padded 2 t.time.month).toList ++ '-' :: ((padded 2 t.time.day).toList ++ 'T' ::
        ((padded 2 t.time.hour).toList ++ ':' :: ((padded 2 t.time.minute).toList ++ ':' ::
          ((padded 2 t.time.second).toList ++ ['Z']))))) := by
    simp [text]
  have dash (cs : List Char) : scanMark '-' ('-' :: cs) = some cs := scanMark_cons rfl
  have colon (cs : List Char) : scanMark ':' (':' :: cs) = some cs := scanMark_cons rfl
  -- Each part of the text leaves the next one behind.
  rw [read, cut, scanYear_yearText]
  refine Option.bind_eq_some_iff.mpr ⟨_, rfl, Option.bind_eq_some_iff.mpr ⟨_, dash _, ?_⟩⟩
  refine Option.bind_eq_some_iff.mpr ⟨_, scanPart_padded _ '-' (by omega) rfl, ?_⟩
  refine Option.bind_eq_some_iff.mpr ⟨_, dash _, ?_⟩
  refine Option.bind_eq_some_iff.mpr ⟨_, scanPart_padded _ 'T' (by omega) rfl, ?_⟩
  refine Option.bind_eq_some_iff.mpr ⟨_, rfl, ?_⟩
  refine Option.bind_eq_some_iff.mpr ⟨_, scanPart_padded _ ':' (by omega) rfl, ?_⟩
  refine Option.bind_eq_some_iff.mpr ⟨_, colon _, ?_⟩
  refine Option.bind_eq_some_iff.mpr ⟨_, scanPart_padded _ ':' (by omega) rfl, ?_⟩
  refine Option.bind_eq_some_iff.mpr ⟨_, colon _, ?_⟩
  refine Option.bind_eq_some_iff.mpr ⟨_, scanPart_padded _ 'Z' (by omega) rfl, ?_⟩
  change ((ofCivil? t.time).bind fun here => ofCivil? (here.time.toUtc 0)) = some t
  rw [ofCivil?_time, Option.bind_some, toUtc_zero valid, ofCivil?_time]

end Timestamp

end ReadYourWrites
