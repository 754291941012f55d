import ReadYourWrites.Proofs.Selector.Spelling

-- Selectors that are joined by commas. Joining two selectors joins the requirements that they stand
-- for, and the fault of the first comes before that of the second. So a selector can be read piece by
-- piece, and every way to write down a list of requirements is read as this list.

namespace ReadYourWrites

open Text

-- White space.
structure Gap where
  text : List Char
  blank : ∀ c ∈ text, isBlank c = true

-- The characters that keys and values of labels are made of.
def isLabelChar (c : Char) : Bool :=
  c.isAlphanum || "-_./".toList.contains c

structure LabelValue where
  text : List Char
  legal : ∀ c ∈ text, isLabelChar c = true

structure LabelKey extends LabelValue where
  ne_nil : text ≠ []

theorem toNat_of_isLabelChar {c : Char} (h : isLabelChar c = true) :
    45 ≤ c.toNat ∧ c.toNat ≤ 122 := by
  have hc : c.isAlphanum = true ∨ c = '-' ∨ c = '_' ∨ c = '.' ∨ c = '/' := by
    simpa [isLabelChar] using h
  obtain h | rfl | rfl | rfl | rfl := hc
  case inl =>
    have he : c.toNat = c.val.toNat := rfl
    delta Char.isAlphanum Char.isAlpha Char.isUpper Char.isLower Char.isDigit at h
    simp only [ge_iff_le, ↓Char.isValue, Char.reduceVal, UInt32.le_iff_toNat_le, UInt32.reduceToNat,
      Bool.or_eq_true, Bool.and_eq_true, decide_eq_true_eq] at h
    omega
  all_goals decide

theorem not_mark_of_isLabelChar {c : Char} (h : isLabelChar c = true) : c ∉ ",=!<>()".toList := by
  have marks : ",=!<>()".toList.all (!isLabelChar ·) = true := by decide
  intro hm
  have hn := List.all_eq_true.mp marks c hm
  simp [h] at hn

-- Keys and values of labels can stand in a term as they are.
theorem plain_of_isLabelChar {c : Char} (h : isLabelChar c = true) : Requirement.Plain c where
  not_blank := by
    have range := toNat_of_isLabelChar h
    simp only [isBlank, Bool.or_eq_false_iff, Bool.and_eq_false_iff, decide_eq_false_iff_not,
      beq_eq_false_iff_ne]
    omega
  not_mark hm := not_mark_of_isLabelChar h (List.mem_cons_of_mem _ hm)

namespace Requirement

-- The ways to write down a requirement on a label.
inductive Form
  | equals (twice : Bool) (key : LabelKey) (left right : Gap) (value : LabelValue)
  | notEquals (key : LabelKey) (left right : Gap) (value : LabelValue)
  | exist (key : LabelKey)
  | missing (gap : Gap) (key : LabelKey)

namespace Form

def meant : Form → Requirement
  | .equals _ key _ _ value => pair .equals key.text value.text
  | .notEquals key _ _ value => pair .notEquals key.text value.text
  | .exist key => .exist (.ofList key.text)
  | .missing _ key => .missing (.ofList key.text)

def text : Form → List Char
  | .equals false key left right value =>
    key.text ++ left.text ++ "=".toList ++ (right.text ++ value.text)
  | .equals true key left right value =>
    key.text ++ left.text ++ "==".toList ++ (right.text ++ value.text)
  | .notEquals key left right value =>
    key.text ++ left.text ++ "!=".toList ++ (right.text ++ value.text)
  | .exist key => key.text
  | .missing gap key => '!' :: (gap.text ++ key.text)

end Form

variable {key left right value term : List Char} {requirement : Requirement}

theorem sides_of_labels (key : LabelKey) (left right : Gap) (value : LabelValue) :
    Sides key.text left.text right.text value.text where
  key_ne_nil := key.ne_nil
  key c hc := plain_of_isLabelChar (key.legal c hc)
  left := left.blank
  right := right.blank
  value c hc := plain_of_isLabelChar (value.legal c hc)

theorem Form.spelling (form : Form) : Spelling form.text form.meant := by
  cases form with
  | equals twice key left right value =>
    have hs := sides_of_labels key left right value
    cases twice
    case false => exact .equals hs
    case true => exact .equalsTwice hs
  | notEquals key left right value => exact .notEquals (sides_of_labels key left right value)
  | exist key => exact .exist key.ne_nil fun c hc => plain_of_isLabelChar (key.legal c hc)
  | missing gap key =>
    exact .missing gap.blank key.ne_nil fun c hc => plain_of_isLabelChar (key.legal c hc)

theorem comma_not_mem_label (value : LabelValue) : ',' ∉ value.text :=
  fun hm => not_mark_of_isLabelChar (value.legal _ hm) (by decide)

theorem comma_not_mem_gap (gap : Gap) : ',' ∉ gap.text :=
  not_mem_of_blank gap.blank (by decide)

theorem comma_not_mem_pair (key : LabelKey) (left right : Gap) (value : LabelValue)
    {mark : List Char} (hm : ',' ∉ mark) :
    ',' ∉ key.text ++ left.text ++ mark ++ (right.text ++ value.text) := by
  have before := List.not_mem_append (comma_not_mem_label key.toLabelValue) (comma_not_mem_gap left)
  have after := List.not_mem_append (comma_not_mem_gap right) (comma_not_mem_label value)
  exact List.not_mem_append (List.not_mem_append before hm) after

-- A term that is written in one of these ways ends in front of the next comma.
theorem Form.comma_not_mem (form : Form) : ',' ∉ form.text := by
  cases form with
  | equals twice key left right value =>
    cases twice <;> exact comma_not_mem_pair key left right value (by decide)
  | notEquals key left right value => exact comma_not_mem_pair key left right value (by decide)
  | exist key => exact comma_not_mem_label key.toLabelValue
  | missing gap key =>
    have behind := List.not_mem_append (comma_not_mem_gap gap) (comma_not_mem_label key.toLabelValue)
    exact List.not_mem_cons_of_ne_of_not_mem (by decide) behind

-- Trimming a pair takes away the white space behind the mark, if there is no value.
theorem Sides.trim_eq {c : Char} (h : Sides key left right value) (mark : List Char)
    (hm : mark.getLast? = some c) (hc : isBlank c = false) :
    ∃ gap, Sides key left gap value ∧
      trim (key ++ left ++ mark ++ (right ++ value)) = key ++ left ++ mark ++ (gap ++ value) := by
  have start (cs : List Char) : ∀ d ∈ (key ++ cs).head?, isBlank d = false := by
    intro d hd
    rw [List.head?_append_of_ne_nil _ h.key_ne_nil] at hd
    exact (h.key d (List.mem_of_head? hd)).not_blank
  by_cases hv : value = []
  case pos =>
    subst hv
    refine ⟨[], { h with right := List.forall_mem_nil _ }, ?_⟩
    have last : ∀ d ∈ (key ++ left ++ mark).getLast?, isBlank d = false := by
      intro d hd
      rw [List.getLast?_append, hm] at hd
      cases hd
      exact hc
    have bare := trim_eq_self (by simpa only [List.append_assoc] using start (left ++ mark)) last
    have around := trim_around (List.forall_mem_nil _) h.right (key ++ left ++ mark)
    simpa only [List.nil_append, List.append_nil, bare] using around
  case neg =>
    refine ⟨right, h, trim_eq_self ?_ ?_⟩
    case refine_1 => simpa only [List.append_assoc] using start (left ++ (mark ++ (right ++ value)))
    case refine_2 =>
      intro d hd
      rw [← List.append_assoc, List.getLast?_append_of_ne_nil _ hv] at hd
      exact (h.value d (List.mem_of_getLast? hd)).not_blank

theorem Spelling.ne_nil (h : Spelling term requirement) : term ≠ [] := by
  cases h with
  | exist hk => exact hk
  | missing => exact List.cons_ne_nil _ _
  | equals hs | equalsTwice hs | notEquals hs => simp [hs.key_ne_nil]

-- A term without the white space at its ends spells the same.
theorem Spelling.trim (h : Spelling term requirement) : Spelling (Text.trim term) requirement := by
  cases h with
  | equals hs =>
    have ⟨gap, sides, he⟩ := hs.trim_eq "=".toList rfl (by decide)
    rw [he]
    exact .equals sides
  | equalsTwice hs =>
    have ⟨gap, sides, he⟩ := hs.trim_eq "==".toList rfl (by decide)
    rw [he]
    exact .equalsTwice sides
  | notEquals hs =>
    have ⟨gap, sides, he⟩ := hs.trim_eq "!=".toList rfl (by decide)
    rw [he]
    exact .notEquals sides
  | exist hk hp =>
    have he : Text.trim term = term := trim_pad_left (List.forall_mem_nil _) (not_blank_of_plain hp)
    rw [he]
    exact .exist hk hp
  | @missing gap key hg hk hp =>
    have he : Text.trim ('!' :: (gap ++ key)) = '!' :: (gap ++ key) := by
      refine trim_eq_self (by simp; decide) ?_
      intro d hd
      rw [← List.cons_append, List.getLast?_append_of_ne_nil _ hk] at hd
      exact (hp d (List.mem_of_getLast? hd)).not_blank
    rw [he]
    exact .missing hg hk hp

end Requirement

namespace Selector

theorem terms_join (as bs : List Char) : terms (as ++ ',' :: bs) = terms as ++ terms bs := by
  simp only [terms, splitAll_append, List.map_append, List.filter_append]

theorem parse_join (s t : String) :
    parse (s ++ "," ++ t) = do return (← parse s) ++ (← parse t) := by
  have hj : (s ++ "," ++ t).toList = s.toList ++ ',' :: t.toList := by simp
  rw [parse, hj, terms_join, List.mapM_append]
  rfl

-- What stands between two commas: at most one term, with white space around it.
structure Piece where
  left : Gap
  term : Option Requirement.Form
  right : Gap

namespace Piece

def meant (piece : Piece) : Option Requirement :=
  piece.term.map Requirement.Form.meant

def text (piece : Piece) : String :=
  .ofList (piece.left.text ++ (piece.term.map Requirement.Form.text).getD [] ++ piece.right.text)

-- A piece is read as the requirement in it, if there is one.
theorem parse_text (piece : Piece) : parse piece.text = .ok piece.meant.toList := by
  obtain ⟨left, term, right⟩ := piece
  have hc : ',' ∉ (term.map Requirement.Form.text).getD [] := by
    cases term
    case none => exact List.not_mem_nil
    case some form => exact form.comma_not_mem
  have alone := splitAll_of_not_mem (List.not_mem_append
    (List.not_mem_append (Requirement.comma_not_mem_gap left) hc)
    (Requirement.comma_not_mem_gap right))
  rw [parse, terms, text, String.toList_ofList, alone, List.map_singleton,
    trim_around left.blank right.blank]
  cases term
  case none => rfl
  case some form =>
    have spelled := form.spelling.trim
    rw [Option.map_some, Option.getD_some, List.filter_cons_of_pos (by simpa using spelled.ne_nil)]
    exact mapM_eq_ok_iff.mpr (.cons spelled.ofTerm_eq .nil)

end Piece

-- However requirements on labels are written down and joined by commas, they are read as these
-- requirements, in order.
theorem parse_intercalate (pieces : List Piece) :
    parse (",".intercalate (pieces.map Piece.text)) = .ok (pieces.filterMap Piece.meant) := by
  induction pieces with
  | nil => rfl
  | cons piece pieces ih =>
    have joined :
        piece.meant.toList ++ pieces.filterMap Piece.meant = (piece :: pieces).filterMap Piece.meant := by
      rw [List.filterMap_cons]
      cases piece.meant <;> rfl
    rw [← joined]
    cases pieces with
    | nil =>
      rw [List.map_singleton, String.intercalate_singleton, piece.parse_text]
      exact congrArg _ (List.append_nil _).symm
    | cons =>
      rw [List.map_cons, String.intercalate_cons_of_ne_nil (by simp), parse_join, piece.parse_text, ih]
      rfl

-- The words for sets of values, as keys and values of labels.
example : parse " in == notin ,, notin!= in,!  in,in=" =
    .ok [.equals "in" "notin", .notEquals "notin" "in", .missing "in", .equals "in" ""] := by
  decide +kernel

end Selector

end ReadYourWrites
