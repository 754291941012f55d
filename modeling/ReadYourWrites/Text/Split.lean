-- Cutting a text at a mark: at every occurrence of a character, or at the first occurrence of a
-- word.

namespace ReadYourWrites.Text

variable {α : Type} [DecidableEq α]

-- The pieces between the occurrences of `mark`, in order. There is always one piece at least.
def splitAll (mark : α) : List α → List (List α)
  | [] => [[]]
  | c :: cs =>
    if c = mark then [] :: splitAll mark cs else (splitAll mark cs).modifyHead (c :: ·)

theorem splitAll_ne_nil (mark : α) (cs : List α) : splitAll mark cs ≠ [] := by
  induction cs with
  | nil => simp [splitAll]
  | cons c cs ih =>
    rw [splitAll]
    split
    · simp
    · simpa using ih

-- What stands before and after the first occurrence of the word `mark`.
def splitFirst (mark : List Char) : List Char → Option (List Char × List Char)
  | [] => if mark = [] then some ([], []) else none
  | c :: cs =>
    if mark.isPrefixOf (c :: cs) then some ([], (c :: cs).drop mark.length)
    else (splitFirst mark cs).map fun (before, after) => (c :: before, after)

-- Whether the word `mark` occurs.
def occurs (mark cs : List Char) : Bool :=
  (splitFirst mark cs).isSome

-- The two parts with the mark between them are the text.
theorem append_of_splitFirst {mark cs before after : List Char}
    (h : splitFirst mark cs = some (before, after)) : before ++ mark ++ after = cs := by
  induction cs generalizing before with
  | nil =>
    simp only [splitFirst] at h
    split at h <;> simp_all
  | cons c cs ih =>
    rw [splitFirst] at h
    split at h
    · rename_i hp
      obtain ⟨rest, hr⟩ := List.isPrefixOf_iff_prefix.1 hp
      simp only [Option.some.injEq, Prod.mk.injEq] at h
      obtain ⟨rfl, rfl⟩ := h
      rw [← hr]
      simp
    · obtain ⟨⟨b, a⟩, hb, h⟩ := Option.map_eq_some_iff.1 h
      simp only [Prod.mk.injEq] at h
      obtain ⟨rfl, rfl⟩ := h
      simpa using ih hb

end ReadYourWrites.Text
