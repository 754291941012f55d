import ReadYourWrites.Json.Printer
import ReadYourWrites.Proofs.Json.Numeral

-- Which way the texts of words, numbers and strings lead the reader from one state to another. Nothing
-- marks the end of a number, so the reader notices it only behind the number.

namespace ReadYourWrites.Json.Reader

open Text (isDigit)

-- Whether some characters lead from one state to another.
def Reads (s : State) (cs : List Char) (t : State) : Prop :=
  ∀ rest, read s (cs ++ rest) = read t rest

namespace Reads

variable {s t u : State} {c : Char} {cs ds : List Char}

theorem nil : Reads s [] s :=
  fun _ => rfl

theorem cons (h : step s c = some t) (hr : Reads t cs u) : Reads s (c :: cs) u := by
  intro rest
  rw [List.cons_append, read, h]
  exact hr rest

theorem single (h : step s c = some t) : Reads s [c] t :=
  nil.cons h

theorem append (h : Reads s cs t) (hr : Reads t ds u) : Reads s (cs ++ ds) u := by
  intro rest
  rw [List.append_assoc, h, hr]

end Reads

-- Whether a character may stand right behind a value.
def isMark (c : Char) : Bool :=
  c == ',' || c == ']' || c == '\x7d'

-- What may follow when a value has been read: nothing if it stands on its own, or else a mark that is
-- taken in.
inductive Follows (s : State) : List Char → Prop
  | none : s.frames = [] → Follows s []
  | mark {c : Char} {cs : List Char} {t : State} : isMark c = true → step s c = some t →
      Follows s (c :: cs)

-- Whether some characters that begin with a mark lead from one state to another.
inductive Continues (s : State) : List Char → State → Prop
  | mk {c : Char} {cs : List Char} {t u : State} : isMark c = true → step s c = some t →
      Reads t cs u → Continues s (c :: cs) u

-- Whether some characters lead to a state as soon as the next one is known.
def Settles (s : State) (cs : List Char) (t : State) : Prop :=
  ∀ rest, Follows t rest → read s (cs ++ rest) = read t rest

namespace Settles

variable {s t u : State} {cs ds : List Char}

theorem of_reads (h : Reads s cs t) : Settles s cs t :=
  fun rest _ => h rest

theorem after (h : Reads s cs t) (hs : Settles t ds u) : Settles s (cs ++ ds) u := by
  intro rest follows
  rw [List.append_assoc, h, hs rest follows]

theorem continues (h : Settles s cs t) (more : Continues t ds u) : Reads s (cs ++ ds) u := by
  obtain ⟨mark, hs, hr⟩ := more
  intro rest
  rw [List.append_assoc]
  exact (h _ (.mark mark hs)).trans (hr.cons hs rest)

end Settles

-- Frames among which a value may stand next.
inductive Takes : List Frame → Prop
  | none : Takes []
  | array {items : List Term} {outer : List Frame} : Takes (.array items :: outer)
  | field {fields : List (Quotation × Term)} {name : Quotation} {outer : List Frame} :
      Takes (.field fields name :: outer)

-- Whether a value may begin.
structure State.Due (s : State) : Prop where
  takes : Takes s.frames
  mode : s.mode = .value ∨ s.mode = .itemOrEnd

namespace State

variable {s : State}

-- It does not matter in which mode a value ends.
theorem finish_within (takes : Takes s.frames) (mode : Mode) (value : Term) :
    (s.within mode).finish value = s.finish value := by
  obtain ⟨frames, _, _⟩ := s
  cases takes <;> rfl

theorem finishString_within (takes : Takes s.frames) (mode : Mode) (quotation : Quotation) :
    (s.within mode).finishString quotation = s.finish (.scalar (.string quotation)) := by
  refine Eq.trans ?_ (finish_within takes mode _)
  obtain ⟨frames, _, _⟩ := s
  cases takes <;> rfl

theorem finish_mode (takes : Takes s.frames) (value : Term) : (s.finish value).mode = .done := by
  obtain ⟨frames, _, _⟩ := s
  cases takes <;> rfl

theorem eq_nil_of_finish {value : Term} (h : (s.finish value).frames = []) : s.frames = [] := by
  obtain ⟨frames, _, _⟩ := s
  cases frames with
  | nil => rfl
  | cons frame frames => cases frame <;> cases h

end State

theorem step_of_due {s : State} (due : s.Due) {c : Char} (h : c ≠ ']') : step s c = stepValue s c := by
  obtain hm | hm := due.mode
  case inl => rw [step, hm]
  case inr => rw [step, hm]; exact if_neg h

-- A word that is given by its letters.
theorem reads_word {s : State} (takes : Takes s.frames) (meaning : Json) {word : List Char}
    (some : word ≠ []) :
    Reads (s.within (.word word meaning)) word (s.finish (.scalar (.word meaning none))) := by
  induction word with
  | nil => exact absurd rfl some
  | cons c word ih =>
    cases word with
    | nil =>
      refine .single ?_
      rw [← State.finish_within takes (.word [c] meaning)]
      simp [step, State.within, State.finishScalar]
    | cons d word =>
      refine .cons ?_ (ih (by simp))
      simp [step, State.within]

-- The characters of a number.
theorem reads_number {part last : Part} {cs : List Char} (h : part.follow cs = some last) (s : State)
    (read : List Char) :
    Reads (s.within (.number part read)) cs (s.within (.number last (cs.reverse ++ read))) := by
  induction cs generalizing part read with
  | nil =>
    obtain rfl := Option.some.inj h
    exact .nil
  | cons c cs ih =>
    obtain ⟨next, hn, follow⟩ := Option.bind_eq_some_iff.mp h
    have steps : step (s.within (.number part read)) c = some (s.within (.number next (c :: read))) := by
      simp only [step, State.within, stepNumber, hn]
    have more := ih follow (c :: read)
    rw [List.reverse_cons, List.append_assoc]
    exact .cons steps more

-- A mark ends a number.
theorem step_number_of_mark {s : State} (takes : Takes s.frames) {last : Part} {read : List Char}
    (complete : last.isComplete = true) {c : Char} (mark : isMark c = true) :
    step (s.within (.number last read)) c =
      step (s.finish (.scalar (.number read.reverse none))) c := by
  have none : last.next c = none ∧ isDigit c = false := by
    simp only [isMark, Bool.or_eq_true, beq_iff_eq] at mark
    obtain (rfl | rfl) | rfl := mark <;> cases last <;> exact ⟨rfl, rfl⟩
  have ended : stepNumber.finished (s.within (.number last read)) read =
      s.finish (.scalar (.number read.reverse .none)) :=
    State.finish_within takes _ _
  have right : step (s.finish (.scalar (.number read.reverse .none))) c =
      stepDone (s.finish (.scalar (.number read.reverse .none))) c := by
    rw [step, State.finish_mode takes]
  have left : step (s.within (.number last read)) c =
      stepDone (stepNumber.finished (s.within (.number last read)) read) c := by
    change stepNumber (s.within (.number last read)) last read c = _
    cases last with
    | zero | digits | fraction | exponentDigits => simp [stepNumber, none, Part.isComplete]
    | sign | point | exponent | exponentSign => cases complete
  rw [left, right, ended]

theorem settles_complete {s : State} (takes : Takes s.frames) {last : Part} {read : List Char}
    (complete : last.isComplete = true) :
    Settles (s.within (.number last read)) [] (s.finish (.scalar (.number read.reverse none))) := by
  intro rest follows
  cases follows with
  | none h =>
    obtain ⟨frames, _, _⟩ := s
    obtain rfl : frames = [] := State.eq_nil_of_finish h
    simp [Reader.read, State.close, State.withName, State.begun, State.within, State.finish, wrap,
      complete]
  | mark mark hs =>
    rw [List.nil_append, Reader.read, Reader.read, step_number_of_mark takes complete mark, hs]

theorem stepValue_of_first {c : Char} {part : Part} (h : Part.first? c = some part) (s : State) :
    c ≠ ']' ∧ stepValue s c = some (s.within (.number part [c])) := by
  rw [Part.first?] at h
  split at h
  case isTrue he =>
    obtain rfl := he
    obtain rfl := Option.some.inj h
    exact ⟨by decide, rfl⟩
  case isFalse sign =>
    split at h
    case isTrue he =>
      obtain rfl := he
      obtain rfl := Option.some.inj h
      exact ⟨by decide, rfl⟩
    case isFalse zero =>
      split at h
      case isFalse => cases h
      case isTrue digit =>
        obtain rfl := Option.some.inj h
        have apart (d : Char) (hd : isDigit d = false) : c ≠ d := by
          rintro rfl
          cases digit.symm.trans hd
        have space : isSpace c = false := by
          simp [isSpace, apart ' ' rfl, apart '\n' rfl, apart '\t' rfl, apart '\r' rfl]
        refine ⟨apart ']' rfl, ?_⟩
        simp [stepValue, space, apart '\x7b' rfl, apart '[' rfl, apart '"' rfl, sign, zero, digit]

theorem settles_numeral {s : State} (due : s.Due) {cs : List Char} (h : isNumeral cs = true) :
    Settles s cs (s.finish (.scalar (.number cs none))) := by
  cases cs with
  | nil => cases h
  | cons c cs =>
    obtain ⟨last, hl, complete⟩ := (Option.any_eq_true _ _).mp h
    obtain ⟨part, first, follow⟩ := Option.bind_eq_some_iff.mp hl
    obtain ⟨apart, begins⟩ := stepValue_of_first first s
    rw [← step_of_due due apart] at begins
    have reads := Reads.cons begins (reads_number follow s [c])
    have ends : Settles (s.within (.number last (cs.reverse ++ [c]))) [] _ :=
      settles_complete due.takes complete
    rw [List.reverse_append, List.reverse_reverse] at ends
    have all := ends.after reads
    rw [List.append_nil] at all
    exact all

-- How a character of a string is read: as a unit if it is written by its number, or else as it is.
def glyph (c : Char) : Glyph :=
  if (escape c).length = 6 then .unit c.toNat else .plain c

theorem hexValue?_hexDigit {n : Nat} (h : n < 16) :
    hexValue? (hexDigit n) = some n ∧ (hexDigit n).utf8Size = 1 := by
  have all : ∀ n < 16, hexValue? (hexDigit n) = some n ∧ (hexDigit n).utf8Size = 1 := by decide
  exact all n h

-- A control character by its number.
theorem reads_unit (s : State) {n : Nat} (small : n < 0x20) (read : List Glyph) :
    Reads (s.within (.string .none read)) ['\\', 'u', '0', '0', hexDigit (n / 16), hexDigit (n % 16)]
      (s.within (.string .none (.unit n :: read))) := by
  obtain ⟨high, wide⟩ := hexValue?_hexDigit (n := n / 16) (by omega)
  obtain ⟨low, narrow⟩ := hexValue?_hexDigit (n := n % 16) (by omega)
  have third : step (s.within (.string (.hex (some 0) 2) read)) (hexDigit (n / 16)) =
      some (s.within (.string (.hex (some (n / 16)) 1) read)) := by
    simp [step, State.within, stepString, high, wide]
  have fourth : step (s.within (.string (.hex (some (n / 16)) 1) read)) (hexDigit (n % 16)) =
      some (s.within (.string .none (.unit n :: read))) := by
    have sum : 16 * (n / 16) + n % 16 = n := by omega
    simp [step, State.within, stepString, low, narrow, sum]
  exact .cons rfl (.cons rfl (.cons rfl (.cons rfl (.cons third (.single fourth)))))

theorem reads_escape (s : State) (c : Char) (read : List Glyph) :
    Reads (s.within (.string .none read)) (escape c) (s.within (.string .none (glyph c :: read))) := by
  rw [glyph, escape]
  split
  case isTrue he =>
    obtain rfl := he
    exact .cons rfl (.single rfl)
  case isFalse quote =>
    split
    case isTrue he =>
      obtain rfl := he
      exact .cons rfl (.single rfl)
    case isFalse backslash =>
      iterate 5
        split
        case isTrue he =>
          obtain rfl := he
          exact .cons rfl (.single rfl)
      split
      case isTrue small => exact reads_unit s small read
      case isFalse large =>
        refine .single ?_
        simp [step, State.within, stepString, quote, backslash, large]

theorem reads_glyphs (s : State) (cs : List Char) (read : List Glyph) :
    Reads (s.within (.string .none read)) (cs.flatMap escape)
      (s.within (.string .none ((cs.map glyph).reverse ++ read))) := by
  induction cs generalizing read with
  | nil => exact .nil
  | cons c cs ih =>
    rw [List.flatMap_cons, List.map_cons, List.reverse_cons, List.append_assoc]
    exact (reads_escape s c read).append (ih (glyph c :: read))

-- A text as it is read from its quoted form.
def quotation (text : String) : Quotation :=
  ⟨text.toList.map glyph, none⟩

-- A text in quotes, where one may begin.
theorem reads_quote {s : State} (begins : step s '"' = some (s.within (.string .none [])))
    (text : String) :
    ∃ mode, Reads s (quote text).toList ((s.within mode).finishString (quotation text)) := by
  have inner := reads_glyphs s text.toList []
  rw [List.append_nil] at inner
  have ends : step (s.within (.string .none (text.toList.map glyph).reverse)) '"' =
      some ((s.within (.string .none (text.toList.map glyph).reverse)).finishString
        (quotation text)) := by
    simp [step, State.within, stepString, quotation]
  refine ⟨.string .none (text.toList.map glyph).reverse, ?_⟩
  rw [quote, String.toList_ofList]
  exact .cons begins (inner.append (.single ends))

end ReadYourWrites.Json.Reader
