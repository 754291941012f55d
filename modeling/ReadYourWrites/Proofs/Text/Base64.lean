import Mathlib.Data.List.TakeWhile
import ReadYourWrites.Proofs.Walk
import ReadYourWrites.Text.Base64

-- Bytes that are written in Base64 are read as what they were.

namespace ReadYourWrites.Text.Base64

-- The groups of six bits that bytes are cut into.
def sextets : List UInt8 → List Nat
  | [] => []
  | [a] => [a.toNat / 4, a.toNat % 4 * 16]
  | [a, b] => [a.toNat / 4, a.toNat % 4 * 16 + b.toNat / 16, b.toNat % 16 * 4]
  | a :: b :: c :: rest =>
    (a.toNat / 4) :: (a.toNat % 4 * 16 + b.toNat / 16) :: (b.toNat % 16 * 4 + c.toNat / 64) ::
      (c.toNat % 64) :: sextets rest

-- What is put behind the symbols to make their number a multiple of four.
def padding : List UInt8 → List Char
  | [] => []
  | [_] => ['=', '=']
  | [_, _] => ['=']
  | _ :: _ :: _ :: rest => padding rest

theorem encode_eq (bytes : List UInt8) :
    encode bytes = (sextets bytes).map symbol ++ padding bytes := by
  fun_induction encode bytes
  case case4 ih => rw [ih]; rfl
  all_goals rfl

theorem lt_of_mem_sextets {bytes : List UInt8} {n : Nat} (h : n ∈ sextets bytes) : n < 64 := by
  fun_induction sextets bytes
  case case1 => cases h
  case case2 a =>
    have := a.toNat_lt
    simp only [List.mem_cons, List.not_mem_nil, or_false] at h
    omega
  case case3 a b =>
    have := a.toNat_lt
    have := b.toNat_lt
    simp only [List.mem_cons, List.not_mem_nil, or_false] at h
    omega
  case case4 a b c rest ih =>
    have := a.toNat_lt
    have := b.toNat_lt
    have := c.toNat_lt
    simp only [List.mem_cons] at h
    obtain h | h | h | h | h := h
    case inr.inr.inr.inr => exact ih h
    all_goals omega

theorem ofNat_eq (byte : UInt8) {n : Nat} (h : n = byte.toNat) : UInt8.ofNat n = byte :=
  h ▸ UInt8.ofNat_toNat

theorem ofSextets_sextets (bytes : List UInt8) : ofSextets (sextets bytes) = some bytes := by
  fun_induction sextets bytes
  case case1 => rfl
  case case2 a =>
    have hq : a.toNat % 4 * 16 % 16 = 0 := by omega
    rw [ofSextets, if_pos hq, ofNat_eq a (by omega)]
  case case3 a b =>
    have := b.toNat_lt
    have hr : b.toNat % 16 * 4 % 4 = 0 := by omega
    rw [ofSextets, if_pos hr, ofNat_eq a (by omega), ofNat_eq b (by omega)]
  case case4 a b c rest ih =>
    have := b.toNat_lt
    have := c.toNat_lt
    rw [ofSextets, ih, Option.map_some, ofNat_eq a (by omega),
      ofNat_eq b (by omega), ofNat_eq c (by omega)]

theorem padding_fits (bytes : List UInt8) :
    (padding bytes).all (· = '=') = true ∧
      (padding bytes).length ≤ paddingLimit (sextets bytes).length := by
  fun_induction padding bytes
  case case1 => decide
  case case2 => exact ⟨rfl, Nat.le_refl 2⟩
  case case3 => exact ⟨rfl, Nat.le_refl 1⟩
  case case4 a b c rest ih =>
    have whole : paddingLimit (sextets (a :: b :: c :: rest)).length =
        paddingLimit (sextets rest).length := by
      simp only [sextets, List.length_cons, paddingLimit]
      omega
    rw [whole]
    exact ih

theorem symbol_ne_pad {n : Nat} (h : n < 64) : symbol n ≠ '=' := by
  intro he
  have hs := sextet?_symbol h
  rw [he] at hs
  cases hs

theorem mapM_symbols (bytes : List UInt8) :
    ((sextets bytes).map symbol).mapM sextet? = some (sextets bytes) :=
  mapM_map_eq_some fun _ hn => sextet?_symbol (lt_of_mem_sextets hn)

theorem decode_encode (bytes : List UInt8) : decode (encode bytes) = some bytes := by
  have symbols : ∀ c ∈ (sextets bytes).map symbol, decide (c ≠ '=') = true := by
    intro c hc
    obtain ⟨n, hn, rfl⟩ := List.mem_map.mp hc
    exact decide_eq_true (symbol_ne_pad (lt_of_mem_sextets hn))
  have ⟨signs, fits⟩ := padding_fits bytes
  have apart : (padding bytes).takeWhile (· ≠ '=') = [] ∧
      (padding bytes).dropWhile (· ≠ '=') = padding bytes := by
    cases hp : padding bytes with
    | nil => exact ⟨rfl, rfl⟩
    | cons c more =>
      rw [hp, List.all_cons, Bool.and_eq_true] at signs
      obtain rfl : c = '=' := of_decide_eq_true signs.left
      exact ⟨rfl, rfl⟩
  have data : (encode bytes).takeWhile (· ≠ '=') = (sextets bytes).map symbol := by
    rw [encode_eq, List.takeWhile_append_of_pos symbols, apart.left, List.append_nil]
  have rest : (encode bytes).dropWhile (· ≠ '=') = padding bytes := by
    rw [encode_eq, List.dropWhile_append_of_pos symbols, apart.right]
  have accepted : ((padding bytes).all (· = '=') &&
      decide ((padding bytes).length ≤ paddingLimit (sextets bytes).length)) = true := by
    rw [signs, decide_eq_true fits]
    rfl
  rw [decode, data, rest, mapM_symbols, List.length_map]
  refine Option.bind_eq_some_iff.mpr ⟨(), ?_, ofSextets_sextets bytes⟩
  rw [guard, if_pos accepted]
  rfl

end ReadYourWrites.Text.Base64
