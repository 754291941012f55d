import ReadYourWrites.Proofs.Text.Cutting
import ReadYourWrites.Proofs.Walk
import ReadYourWrites.Selector

-- How the requirements of a selector are spelled, and what they ask of labels. A term that spells a
-- requirement is read as this requirement. Of the other terms only those that ask for a set of values
-- are refused.

namespace ReadYourWrites

open Text

namespace Requirement

-- What a requirement asks of labels.
def AskedOf (labels : String → Option String) : Requirement → Prop
  | .equals key value => labels key = some value
  | .notEquals key value => labels key = none ∨ ∃ other, labels key = some other ∧ other ≠ value
  | .exist key => ∃ value, labels key = some value
  | .missing key => labels key = none

theorem holds_iff {labels : String → Option String} {requirement : Requirement} :
    requirement.holds labels = true ↔ requirement.AskedOf labels := by
  cases requirement with
  | equals key value => simp [holds, AskedOf]
  | notEquals key value => cases h : labels key <;> simp [holds, AskedOf, h]
  | exist key => simp [holds, AskedOf, Option.isSome_iff_exists]
  | missing key => simp [holds, AskedOf]

-- The characters of keys and values: no white space, and none of those that join terms.
structure Plain (c : Char) : Prop where
  not_blank : isBlank c = false
  not_mark : c ∉ "=!<>()".toList

instance : DecidablePred Plain := fun c =>
  decidable_of_iff (isBlank c = false ∧ c ∉ "=!<>()".toList)
    ⟨fun h => ⟨h.left, h.right⟩, fun h => ⟨h.not_blank, h.not_mark⟩⟩

-- A key and a value, and the white space between each of them and the mark that joins them.
structure Sides (key left right value : List Char) : Prop where
  key_ne_nil : key ≠ []
  key : ∀ c ∈ key, Plain c
  left : ∀ c ∈ left, isBlank c = true
  right : ∀ c ∈ right, isBlank c = true
  value : ∀ c ∈ value, Plain c

def pair (make : String → String → Requirement) (key value : List Char) : Requirement :=
  make (.ofList key) (.ofList value)

-- The terms that spell a requirement.
inductive Spelling : List Char → Requirement → Prop
  | equals {key left right value} : Sides key left right value →
      Spelling (key ++ left ++ "=".toList ++ (right ++ value)) (pair .equals key value)
  | equalsTwice {key left right value} : Sides key left right value →
      Spelling (key ++ left ++ "==".toList ++ (right ++ value)) (pair .equals key value)
  | notEquals {key left right value} : Sides key left right value →
      Spelling (key ++ left ++ "!=".toList ++ (right ++ value)) (pair .notEquals key value)
  | exist {key} : key ≠ [] → (∀ c ∈ key, Plain c) → Spelling key (.exist (.ofList key))
  | missing {gap key} : (∀ c ∈ gap, isBlank c = true) → key ≠ [] → (∀ c ∈ key, Plain c) →
      Spelling ('!' :: (gap ++ key)) (.missing (.ofList key))

theorem not_blank_of_plain {cs : List Char} (h : ∀ c ∈ cs, Plain c) : ∀ c ∈ cs, isBlank c = false :=
  fun c hc => (h c hc).not_blank

theorem not_mem_of_plain {cs : List Char} {c : Char} (h : ∀ d ∈ cs, Plain d)
    (hc : c ∈ "=!<>()".toList) : c ∉ cs :=
  fun hm => (h c hm).not_mark hc

theorem not_mem_of_blank {cs : List Char} {c : Char} (h : ∀ d ∈ cs, isBlank d = true)
    (hc : isBlank c = false) : c ∉ cs := by
  intro hm
  rw [h c hm] at hc
  cases hc

namespace Sides

variable {key left right value : List Char} {c : Char}

-- A mark occurs on neither side.
theorem not_mem_before (h : Sides key left right value) (hc : c ∈ "=!<>()".toList)
    (hb : isBlank c = false) : c ∉ key ++ left := by
  exact List.not_mem_append (not_mem_of_plain h.key hc) (not_mem_of_blank h.left hb)

theorem not_mem_after (h : Sides key left right value) (hc : c ∈ "=!<>()".toList)
    (hb : isBlank c = false) : c ∉ right ++ value := by
  exact List.not_mem_append (not_mem_of_blank h.right hb) (not_mem_of_plain h.value hc)

theorem not_mem {mark : List Char} (h : Sides key left right value) (hc : c ∈ "=!<>()".toList)
    (hb : isBlank c = false) (hm : c ∉ mark) : c ∉ key ++ left ++ mark ++ (right ++ value) :=
  List.not_mem_append (List.not_mem_append (h.not_mem_before hc hb) hm) (h.not_mem_after hc hb)

theorem ofParts_eq (h : Sides key left right value) (make : String → String → Requirement) :
    ofParts make (key ++ left, right ++ value) = pair make key value := by
  have hk : trim (key ++ left) = key := trim_pad_right (not_blank_of_plain h.key) h.left
  have hv : trim (right ++ value) = value := trim_pad_left h.right (not_blank_of_plain h.value)
  rw [ofParts, hk, hv, pair]

end Sides

-- Characters in a row, of which the first does not occur in front, are all found behind.
theorem sublist_of_append {before after cs : List Char} {c : Char} (hc : c ∉ before)
    (h : (c :: cs).Sublist (before ++ after)) : (c :: cs).Sublist after := by
  induction before with
  | nil => exact h
  | cons d before ih =>
    rw [List.mem_cons, not_or] at hc
    cases h with
    | cons _ hs => exact ih hc.right hs
    | cons_cons => exact absurd rfl hc.left

-- The words that ask for a set of values stand between white space. In a term that spells a requirement
-- only white space and marks do.
theorem not_isSetBased {front gap back : List Char} (hf : ∀ c ∈ front, isBlank c = false)
    (hg : 'n' ∉ gap) (hb : ∀ c ∈ back, isBlank c = false) (ho : '(' ∉ front ++ (gap ++ back)) :
    isSetBased (front ++ (gap ++ back)) = false := by
  have apart : ¬[' ', 'n', ' '].Sublist (front ++ (gap ++ back)) := by
    intro hs
    have hfront : ' ' ∉ front := fun hm => by cases hf ' ' hm
    have htail := (List.sublist_cons_self ..).trans (sublist_of_append hfront hs)
    have hback : ' ' ∈ back := (sublist_of_append hg htail).subset (by simp)
    cases hb ' ' hback
  have none_of {mark : List Char} (hm : [' ', 'n', ' '].Sublist mark) :
      occurs mark (front ++ (gap ++ back)) = false := by
    rw [Bool.eq_false_iff, ne_eq, occurs_iff]
    exact fun hi => apart (hm.trans hi.sublist)
  have hin : occurs " in ".toList (front ++ (gap ++ back)) = false := none_of (by decide)
  have hnotin : occurs " notin ".toList (front ++ (gap ++ back)) = false := none_of (by decide)
  have hopen : (front ++ (gap ++ back)).contains '(' = false := by simpa using ho
  rw [isSetBased, hin, hnotin, hopen]
  rfl

namespace Sides

variable {key left right value mark : List Char}

theorem not_isSetBased (h : Sides key left right value) (hn : 'n' ∉ mark) (ho : '(' ∉ mark) :
    isSetBased (key ++ left ++ mark ++ (right ++ value)) = false := by
  have hgap : 'n' ∉ left ++ (mark ++ right) :=
    List.not_mem_append (not_mem_of_blank h.left (by decide))
      (List.not_mem_append hn (not_mem_of_blank h.right (by decide)))
  have assoc : key ++ left ++ mark ++ (right ++ value) =
      key ++ ((left ++ (mark ++ right)) ++ value) := by simp only [List.append_assoc]
  have hopen : '(' ∉ key ++ left ++ mark ++ (right ++ value) := h.not_mem (by decide) (by decide) ho
  rw [assoc] at hopen ⊢
  exact Requirement.not_isSetBased (not_blank_of_plain h.key) hgap (not_blank_of_plain h.value) hopen

-- A pair that is joined by a mark is read by this mark, if no other is found first.
theorem splitFirst_eq (h : Sides key left right value) {c : Char} {rest : List Char}
    (hc : c ∈ "=!<>()".toList) (hb : isBlank c = false) :
    splitFirst (c :: rest) (key ++ left ++ (c :: rest) ++ (right ++ value)) =
      some (key ++ left, right ++ value) :=
  splitFirst_append (h.not_mem_before hc hb)

end Sides

namespace Spelling

variable {term : List Char} {requirement : Requirement}

theorem not_isSetBased (h : Spelling term requirement) : isSetBased term = false := by
  cases h with
  | equals hs => exact hs.not_isSetBased (by decide) (by decide)
  | equalsTwice hs => exact hs.not_isSetBased (by decide) (by decide)
  | notEquals hs => exact hs.not_isSetBased (by decide) (by decide)
  | exist _ hk =>
    have hopen : '(' ∉ term ++ ([] ++ []) :=
      List.not_mem_append (not_mem_of_plain hk (by decide)) List.not_mem_nil
    have h := Requirement.not_isSetBased (not_blank_of_plain hk) List.not_mem_nil
      (List.forall_mem_nil _) hopen
    rwa [List.nil_append, List.append_nil] at h
  | @missing gap key hg _ hk =>
    have hopen : '(' ∉ ['!'] ++ (gap ++ key) :=
      List.not_mem_append (by decide)
        (List.not_mem_append (not_mem_of_blank hg (by decide)) (not_mem_of_plain hk (by decide)))
    have hbang : ∀ c ∈ ['!'], isBlank c = false := List.forall_mem_singleton.mpr rfl
    exact Requirement.not_isSetBased hbang (not_mem_of_blank hg (by decide)) (not_blank_of_plain hk)
      hopen

-- Besides keys, values and white space there are only two marks in a term that spells a requirement.
theorem not_mem {c : Char} (h : Spelling term requirement) (hc : c ∈ "<>()".toList) : c ∉ term := by
  have marks : "<>()".toList.all fun c =>
      c ∈ "=!<>()".toList ∧ isBlank c = false ∧ c ≠ '=' ∧ c ≠ '!' := by decide
  have ⟨marked, solid, equal, bang⟩ := of_decide_eq_true (List.all_eq_true.mp marks c hc)
  cases h with
  | equals hs => exact hs.not_mem marked solid (by simpa using equal)
  | equalsTwice hs => exact hs.not_mem marked solid (by simpa using equal)
  | notEquals hs => exact hs.not_mem marked solid (by simpa using ⟨bang, equal⟩)
  | exist _ hk => exact not_mem_of_plain hk marked
  | missing hg _ hk =>
    have hn := List.not_mem_append (not_mem_of_blank hg solid) (not_mem_of_plain hk marked)
    exact List.not_mem_cons_of_ne_of_not_mem bang hn

end Spelling

-- How a term that asks for no set of values is read, by the first mark that is found in it.
section Reading

variable {term : List Char} {parts : List Char × List Char} (single : isSetBased term = false)
include single

theorem ofTerm_of_notEquals (h : splitFirst "!=".toList term = some parts) :
    ofTerm term = .ok (ofParts .notEquals parts) := by
  simp only [ofTerm, single, h, Bool.false_eq_true, if_false]

theorem ofTerm_of_equalsTwice (hn : splitFirst "!=".toList term = none)
    (h : splitFirst "==".toList term = some parts) : ofTerm term = .ok (ofParts .equals parts) := by
  simp only [ofTerm, single, hn, h, Bool.false_eq_true, if_false]

theorem ofTerm_of_equals (hn : splitFirst "!=".toList term = none)
    (he : splitFirst "==".toList term = none) (h : splitFirst "=".toList term = some parts) :
    ofTerm term = .ok (ofParts .equals parts) := by
  simp only [ofTerm, single, hn, he, h, Bool.false_eq_true, if_false]

theorem ofTerm_of_exist (he : '=' ∉ term) (hn : '!' ∉ term) :
    ofTerm term = .ok (.exist (.ofList term)) := by
  have h₁ : splitFirst "!=".toList term = none := splitFirst_of_not_mem (by decide) he
  have h₂ : splitFirst "==".toList term = none := splitFirst_of_not_mem (by decide) he
  have h₃ : splitFirst "=".toList term = none := splitFirst_of_not_mem (by decide) he
  simp only [ofTerm, single, h₁, h₂, h₃, Bool.false_eq_true, if_false]
  split
  case h_1 => exact absurd List.mem_cons_self hn
  case h_2 => rfl

end Reading

theorem ofTerm_of_missing {key : List Char} (single : isSetBased ('!' :: key) = false)
    (he : '=' ∉ '!' :: key) : ofTerm ('!' :: key) = .ok (.missing (.ofList (trim key))) := by
  have h₁ : splitFirst "!=".toList ('!' :: key) = none := splitFirst_of_not_mem (by decide) he
  have h₂ : splitFirst "==".toList ('!' :: key) = none := splitFirst_of_not_mem (by decide) he
  have h₃ : splitFirst "=".toList ('!' :: key) = none := splitFirst_of_not_mem (by decide) he
  simp only [ofTerm, single, h₁, h₂, h₃, Bool.false_eq_true, if_false]

-- A pair that is joined by an equality mark has no other mark in it.
theorem Sides.splitFirst_notEquals {key left right value mark : List Char}
    (h : Sides key left right value) (hm : '!' ∉ mark) :
    splitFirst "!=".toList (key ++ left ++ mark ++ (right ++ value)) = none := by
  have hn : '!' ∉ key ++ left ++ mark ++ (right ++ value) := h.not_mem (by decide) (by decide) hm
  exact splitFirst_of_not_mem (by decide) hn

theorem Sides.splitFirst_equalsTwice {key left right value : List Char}
    (h : Sides key left right value) :
    splitFirst "==".toList (key ++ left ++ "=".toList ++ (right ++ value)) = none := by
  rw [splitFirst_eq_none_iff]
  intro hi
  have hb := h.not_mem_before (c := '=') (by decide) (by decide)
  have ha := h.not_mem_after (c := '=') (by decide) (by decide)
  have hc := hi.sublist.count_le '='
  rw [List.count_append, List.count_append, List.count_eq_zero_of_not_mem hb,
    List.count_eq_zero_of_not_mem ha] at hc
  revert hc
  decide

-- A term that spells a requirement is read as this requirement.
theorem Spelling.ofTerm_eq {term : List Char} {requirement : Requirement}
    (h : Spelling term requirement) : ofTerm term = .ok requirement := by
  have single := h.not_isSetBased
  cases h with
  | equals hs =>
    rw [ofTerm_of_equals single (hs.splitFirst_notEquals (by decide)) hs.splitFirst_equalsTwice
      (hs.splitFirst_eq (by decide) (by decide)), hs.ofParts_eq]
  | equalsTwice hs =>
    rw [ofTerm_of_equalsTwice single (hs.splitFirst_notEquals (by decide))
      (hs.splitFirst_eq (by decide) (by decide)), hs.ofParts_eq]
  | notEquals hs =>
    rw [ofTerm_of_notEquals single (hs.splitFirst_eq (by decide) (by decide)), hs.ofParts_eq]
  | exist _ hk =>
    exact ofTerm_of_exist single (not_mem_of_plain hk (by decide)) (not_mem_of_plain hk (by decide))
  | @missing gap key hg _ hk =>
    have hm : '=' ∉ '!' :: (gap ++ key) :=
      List.not_mem_cons_of_ne_of_not_mem (by decide)
        (List.not_mem_append (not_mem_of_blank hg (by decide)) (not_mem_of_plain hk (by decide)))
    have ht : trim (gap ++ key) = key := trim_pad_left hg (not_blank_of_plain hk)
    rw [ofTerm_of_missing single hm, ht]

theorem ofTerm_fails_iff {term : List Char} :
    (∃ e, ofTerm term = .error e) ↔ isSetBased term = true := by
  cases hs : isSetBased term
  case true => simp [ofTerm, hs]
  case false =>
    refine iff_of_false ?_ Bool.false_ne_true
    rintro ⟨e, he⟩
    cases hn : splitFirst "!=".toList term
    case some =>
      rw [ofTerm_of_notEquals hs hn] at he
      cases he
    case none =>
      cases ht : splitFirst "==".toList term
      case some =>
        rw [ofTerm_of_equalsTwice hs hn ht] at he
        cases he
      case none =>
        cases ho : splitFirst "=".toList term
        case some =>
          rw [ofTerm_of_equals hs hn ht ho] at he
          cases he
        case none =>
          simp only [ofTerm, hs, hn, ht, ho, Bool.false_eq_true, if_false] at he
          split at he <;> cases he

end Requirement

namespace Selector

variable {text : String}

theorem parse_fails_iff :
    (∃ e, parse text = .error e) ↔
      ∃ term ∈ terms text.toList, Requirement.isSetBased term = true := by
  simp only [parse, mapM_fails_iff, Requirement.ofTerm_fails_iff]

-- A selector whose terms all spell a requirement is read as these requirements.
theorem parse_of_spelling {requirements : List Requirement}
    (h : List.Forall₂ Requirement.Spelling (terms text.toList) requirements) :
    parse text = .ok requirements :=
  mapM_eq_ok_iff.mpr (h.imp fun _ _ hs => hs.ofTerm_eq)

end Selector

end ReadYourWrites
