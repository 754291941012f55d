import Mathlib.Data.List.DropRight
import ReadYourWrites.Text.Blank
import ReadYourWrites.Text.Split

-- Laws of cutting a text at a word and of trimming it.

namespace ReadYourWrites.Text

-- Joining two texts with the mark between them joins their pieces.
theorem splitAll_append {α : Type} [DecidableEq α] (mark : α) (as bs : List α) :
    splitAll mark (as ++ mark :: bs) = splitAll mark as ++ splitAll mark bs := by
  induction as with
  | nil => simp [splitAll]
  | cons a as ih =>
    rw [List.cons_append, splitAll, splitAll, ih]
    split
    case isTrue => rfl
    case isFalse =>
      cases hs : splitAll mark as with
      | nil => exact absurd hs (splitAll_ne_nil mark as)
      | cons piece pieces => rfl

theorem splitAll_of_not_mem {α : Type} [DecidableEq α] {mark : α} {as : List α} (h : mark ∉ as) :
    splitAll mark as = [as] := by
  induction as with
  | nil => rfl
  | cons a as ih =>
    rw [List.mem_cons, not_or] at h
    rw [splitAll, if_neg (Ne.symm h.left), ih h.right]
    rfl

variable {mark before after left word right cs : List Char} {c : Char}

theorem splitFirst_eq_none_iff : splitFirst mark cs = none ↔ ¬mark <:+: cs := by
  induction cs with
  | nil => by_cases h : mark = [] <;> simp [splitFirst, h]
  | cons d cs ih =>
    rw [splitFirst, List.infix_cons_iff]
    split
    case isTrue hp => simp [List.isPrefixOf_iff_prefix.mp hp]
    case isFalse hp =>
      rw [List.isPrefixOf_iff_prefix] at hp
      simp [ih, hp]

-- A word of which one character does not occur is not found.
theorem splitFirst_of_not_mem (hm : c ∈ mark) (hc : c ∉ cs) : splitFirst mark cs = none :=
  splitFirst_eq_none_iff.mpr fun hi => hc (hi.subset hm)

theorem occurs_iff : occurs mark cs = true ↔ mark <:+: cs := by
  rw [occurs, ← Decidable.not_iff_not, ← splitFirst_eq_none_iff]
  simp

-- A word whose first character does not occur in the text in front of it is found.
theorem splitFirst_append (h : c ∉ before) :
    splitFirst (c :: mark) (before ++ c :: mark ++ after) = some (before, after) := by
  induction before with
  | nil => simp [splitFirst]
  | cons d before ih =>
    have hd : ¬(c :: mark).isPrefixOf (d :: (before ++ c :: mark ++ after)) = true := by
      intro hp
      have he := (List.cons_prefix_cons.mp (List.isPrefixOf_iff_prefix.mp hp)).left
      exact h (he ▸ List.mem_cons_self)
    have hb : c ∉ before := fun hm => h (List.mem_cons_of_mem _ hm)
    rw [List.cons_append, List.cons_append, splitFirst, if_neg hd, ih hb]
    rfl

theorem trimStart_append (h : ∀ d ∈ left, isBlank d = true) :
    trimStart (left ++ cs) = trimStart cs :=
  List.dropWhile_append_of_pos h

theorem trimEnd_append (h : ∀ d ∈ right, isBlank d = true) : trimEnd (cs ++ right) = trimEnd cs := by
  rw [trimEnd, trimEnd, List.reverse_append, List.dropWhile_append_of_pos]
  simpa using h

-- White space around a text does not count.
theorem trim_around (hl : ∀ d ∈ left, isBlank d = true) (hr : ∀ d ∈ right, isBlank d = true)
    (cs : List Char) : trim (left ++ cs ++ right) = trim cs := by
  rw [trim, trim, List.append_assoc, trimStart_append hl]
  by_cases hc : ∀ d ∈ cs, isBlank d = true
  case pos =>
    have hn : trimStart right = [] := List.dropWhile_eq_nil_iff.mpr hr
    have he : trimStart cs = [] := List.dropWhile_eq_nil_iff.mpr hc
    rw [trimStart_append hc, hn, he]
  case neg =>
    have hs : trimStart (cs ++ right) = trimStart cs ++ right := by
      rw [trimStart, List.dropWhile_append, if_neg (by simpa using hc)]
      rfl
    rw [hs, trimEnd_append hr]

-- A text that neither begins nor ends with white space stays as it is.
theorem trim_eq_self (hs : ∀ d ∈ cs.head?, isBlank d = false)
    (he : ∀ d ∈ cs.getLast?, isBlank d = false) : trim cs = cs := by
  have start : trimStart cs = cs := by
    cases cs with
    | nil => rfl
    | cons d cs => simp [trimStart, hs d rfl]
  have last : trimEnd cs = cs := by
    apply List.rdropWhile_eq_self_iff.mpr
    intro hn
    simp [he _ (List.getLast_mem_getLast? hn)]
  rw [trim, start, last]

-- White space around a word is cut off.
theorem trim_pad (hl : ∀ d ∈ left, isBlank d = true) (hw : ∀ d ∈ word, isBlank d = false)
    (hr : ∀ d ∈ right, isBlank d = true) : trim (left ++ word ++ right) = word := by
  rw [trim_around hl hr]
  exact trim_eq_self (fun d hd => hw d (List.mem_of_head? hd))
    (fun d hd => hw d (List.mem_of_getLast? hd))

theorem trim_pad_left (hl : ∀ d ∈ left, isBlank d = true) (hw : ∀ d ∈ word, isBlank d = false) :
    trim (left ++ word) = word := by
  have h := trim_pad hl hw (List.forall_mem_nil _)
  rwa [List.append_nil] at h

theorem trim_pad_right (hw : ∀ d ∈ word, isBlank d = false) (hr : ∀ d ∈ right, isBlank d = true) :
    trim (word ++ right) = word :=
  trim_pad (List.forall_mem_nil _) hw hr

end ReadYourWrites.Text
