import ReadYourWrites.Json.Reread
import ReadYourWrites.Proofs.Json.Running
import ReadYourWrites.Proofs.Object.Fields
import ReadYourWrites.Proofs.Walk

-- Values are read from their texts as what they are: all that are not too deep, name no field of an
-- object twice, and hold no number but integers of 64 bits and numbers that are read as themselves.

namespace ReadYourWrites.Json

open Reader
open Text (wordBound)

theorem glyph_eq (c : Char) : glyph c = .plain c ∨ c.toNat < 0x20 ∧ glyph c = .unit c.toNat := by
  rw [glyph, escape]
  iterate 7
    split
    case isTrue => exact .inl rfl
  split
  case isTrue small => exact .inr ⟨small, rfl⟩
  case isFalse => exact .inl rfl

theorem Glyph.decode_unit {n : Nat} (small : n < 0x20) (fault : Option Fault) (rest : List Glyph) :
    decode fault (.unit n :: rest) = (decode fault rest).map (Char.ofNat n :: ·) := by
  have whole : isLowUnit n = false ∧ isHighUnit n = false := by
    simp only [isLowUnit, isHighUnit, Bool.and_eq_false_iff, decide_eq_false_iff_not]
    omega
  cases rest with
  | nil =>
    simp only [decode, whole]
    cases Fault.check fault <;> rfl
  | cons next rest =>
    cases next with
    | plain c =>
      simp only [decode, whole]
      cases decode fault rest <;> rfl
    | unit m => simp [decode, whole]

theorem decode_quotation (text : String) : (quotation text).decode = .ok text := by
  have decoded (cs : List Char) : Glyph.decode none (cs.map glyph) = .ok cs := by
    induction cs with
    | nil => rfl
    | cons c cs ih =>
      rw [List.map_cons]
      obtain plain | ⟨small, unit⟩ := glyph_eq c
      case inl => rw [plain, Glyph.decode, ih]; rfl
      case inr => rw [unit, Glyph.decode_unit small, ih, Char.ofNat_toNat]; rfl
  rw [Quotation.decode, quotation, decoded]
  exact congrArg Except.ok String.ofList_toList

-- Whether a value is read again from its text, where so many arrays and objects are open around it.
structure Rereads (level : Nat) (json : Json) (term : Term) : Prop where
  value : term.value = .ok json
  settles {s : State} : s.Due → s.frames.length = level →
    Settles s json.compact.toList (s.finish term)

-- The same of a field of an object.
structure RereadsField (level : Nat) (field : String × Json) (part : Quotation × Term) : Prop where
  name : part.1 = quotation field.1
  rereads : Rereads level field.2 part.2

theorem toList_intercalate (text : String) (texts : List String) :
    (",".intercalate (text :: texts)).toList =
      text.toList ++ texts.flatMap fun text => ',' :: text.toList := by
  induction texts generalizing text with
  | nil => simp
  | cons next texts ih =>
    rw [String.intercalate_cons_of_ne_nil (by simp), String.toList_append, String.toList_append, ih]
    simp

theorem toList_compact_array (items : List Json) :
    (array items).compact.toList =
      '[' :: ((",".intercalate (compactItems items)).toList ++ [']']) := by
  rw [compact, String.toList_append, String.toList_append]
  rfl

theorem toList_compact_object (fields : List (String × Json)) :
    (object fields).compact.toList =
      '\x7b' :: ((",".intercalate (compactFields fields)).toList ++ ['\x7d']) := by
  rw [compact, String.toList_append, String.toList_append]
  rfl

section

variable {level : Nat} {outer : List Frame} {result : Option Term}

-- The items of an array from the second one on, and its end.
theorem continues_items {items : List Json} {terms : List Term}
    (h : List.Forall₂ (Rereads level) items terms) (depth : outer.length + 1 = level)
    (first : List Term) :
    Continues ⟨.array first :: outer, .done, result⟩
      (((compactItems items).flatMap fun text => ',' :: text.toList) ++ [']'])
      ((⟨outer, .done, result⟩ : State).finish
        (.array level (itemsOf (terms.reverse ++ first) .closed))) := by
  induction h generalizing first with
  | nil =>
    obtain rfl := depth
    exact .mk rfl rfl .nil
  | @cons item term items terms rereads _ ih =>
    have due : (⟨.array first :: outer, .value, result⟩ : State).Due := ⟨.array, .inl rfl⟩
    have more := (rereads.settles due depth).continues (ih (term :: first))
    rw [List.reverse_cons, List.append_assoc]
    simp only [compactItems, List.flatMap_cons, List.cons_append, List.append_assoc]
    exact .mk rfl rfl more

theorem settles_field {field : String × Json} {part : Quotation × Term}
    (h : RereadsField level field part) (depth : outer.length + 1 = level)
    (first : List (Quotation × Term)) {mode : Mode} (begins : mode = .name ∨ mode = .nameOrEnd) :
    Settles ⟨.object first :: outer, mode, result⟩
      (quote field.1 ++ ":" ++ field.2.compact).toList
      ⟨.object (part :: first) :: outer, .done, result⟩ := by
  obtain ⟨_, term⟩ := part
  obtain ⟨rfl, rereads⟩ := h
  have begins : step ⟨.object first :: outer, mode, result⟩ '"' =
      some ⟨.object first :: outer, .string .none [], result⟩ := by
    obtain rfl | rfl := begins <;> rfl
  obtain ⟨_, name⟩ := reads_quote begins field.1
  have colon : step ⟨.field first (quotation field.1) :: outer, .colon, result⟩ ':' =
      some ⟨.field first (quotation field.1) :: outer, .value, result⟩ := rfl
  have due : (⟨.field first (quotation field.1) :: outer, .value, result⟩ : State).Due :=
    ⟨.field, .inl rfl⟩
  rw [String.toList_append, String.toList_append]
  exact (rereads.settles due depth).after (name.append (.single colon))

-- The fields of an object from the second one on, and its end.
theorem continues_fields {fields : List (String × Json)} {parts : List (Quotation × Term)}
    (h : List.Forall₂ (RereadsField level) fields parts) (depth : outer.length + 1 = level)
    (first : List (Quotation × Term)) :
    Continues ⟨.object first :: outer, .done, result⟩
      (((compactFields fields).flatMap fun text => ',' :: text.toList) ++ ['\x7d'])
      ((⟨outer, .done, result⟩ : State).finish
        (.object level (fieldsOf (parts.reverse ++ first) .closed))) := by
  induction h generalizing first with
  | nil =>
    obtain rfl := depth
    exact .mk rfl rfl .nil
  | @cons field part fields parts rereads _ ih =>
    have more := (settles_field rereads depth first (.inl rfl)).continues (ih (part :: first))
    rw [List.reverse_cons, List.append_assoc]
    simp only [compactFields, List.flatMap_cons, List.cons_append, List.append_assoc]
    exact .mk rfl rfl more

end

theorem values_items {level : Nat} {items : List Json} {terms : List Term}
    (h : List.Forall₂ (Rereads level) items terms) :
    (itemsOf terms.reverse .closed).values = .ok items := by
  rw [itemsOf, List.foldl_reverse]
  induction h with
  | nil => rfl
  | cons rereads _ ih =>
    rw [List.foldr_cons, Items.values, rereads.value, ih]
    rfl

theorem values_fields {level : Nat} {fields : List (String × Json)} {parts : List (Quotation × Term)}
    (h : List.Forall₂ (RereadsField level) fields parts) :
    (fieldsOf parts.reverse .closed).values = .ok fields := by
  rw [fieldsOf, List.foldl_reverse]
  induction h with
  | nil => rfl
  | cons rereads _ ih =>
    obtain ⟨name, rereads⟩ := rereads
    rw [List.foldr_cons, Fields.values, name, decode_quotation, rereads.value, ih]
    rfl

theorem rereads_array {level : Nat} {items : List Json} {terms : List Term}
    (shallow : level + 1 < depthLimit) (h : List.Forall₂ (Rereads (level + 1)) items terms) :
    Rereads level (.array items) (.array (level + 1) (itemsOf terms.reverse .closed)) where
  value := by
    rw [Term.value, checkLevel, if_pos shallow, values_items h]
    rfl
  settles {s} due depth := by
    have begins : step s '[' = some (s.push (.array []) .itemOrEnd) :=
      step_of_due due (by decide)
    rw [toList_compact_array]
    refine .of_reads (.cons begins ?_)
    cases h with
    | nil =>
      refine .single ?_
      subst depth
      exact congrArg some (State.finish_within due.takes .itemOrEnd _)
    | @cons item term items terms rereads rest =>
      have opened : (s.push (.array []) .itemOrEnd).Due := ⟨.array, .inr rfl⟩
      have deeper : s.frames.length + 1 = level + 1 := congrArg (· + 1) depth
      have reads := (rereads.settles opened deeper).continues (continues_items rest deeper [term])
      rw [compactItems, toList_intercalate, List.append_assoc, List.reverse_cons]
      rw [← State.finish_within due.takes .done]
      exact reads

theorem rereads_object {level : Nat} {fields : List (String × Json)} {parts : List (Quotation × Term)}
    (shallow : level + 1 < depthLimit) (nodup : (fields.map Prod.fst).Nodup)
    (h : List.Forall₂ (RereadsField (level + 1)) fields parts) :
    Rereads level (.object fields) (.object (level + 1) (fieldsOf parts.reverse .closed)) where
  value := by
    rw [Term.value, checkLevel, if_pos shallow, values_fields h]
    exact congrArg (Except.ok ∘ Json.object) (distinct_of_nodup nodup)
  settles {s} due depth := by
    have begins : step s '\x7b' = some (s.push (.object []) .nameOrEnd) :=
      step_of_due due (by decide)
    rw [toList_compact_object]
    refine .of_reads (.cons begins ?_)
    cases h with
    | nil =>
      refine .single ?_
      subst depth
      exact congrArg some (State.finish_within due.takes .nameOrEnd _)
    | @cons field part fields parts rereads rest =>
      have deeper : s.frames.length + 1 = level + 1 := congrArg (· + 1) depth
      have first : Settles (s.push (.object []) .nameOrEnd)
          (quote field.1 ++ ":" ++ field.2.compact).toList
          ⟨.object [part] :: s.frames, .done, s.result⟩ :=
        settles_field rereads deeper [] (.inr rfl)
      have reads := first.continues (continues_fields rest deeper [part])
      rw [compactFields, toList_intercalate, List.append_assoc, List.reverse_cons]
      rw [← State.finish_within due.takes .done]
      exact reads

-- Values that are read as what they are written as, where so many arrays and objects are open around
-- them.
inductive Legible : Nat → Json → Prop
  | null {level : Nat} : Legible level .null
  | bool {level : Nat} {value : Bool} : Legible level (.bool value)
  | integer {level : Nat} {n : Int} : -9_223_372_036_854_775_808 ≤ n → n < wordBound →
      Legible level (.integer n)
  | decimal {level : Nat} {text : String} : isNumeral text.toList = true →
      ofNumber? text.toList = some (.decimal text) → Legible level (.decimal text)
  | string {level : Nat} {text : String} : Legible level (.string text)
  | array {level : Nat} {items : List Json} : level + 1 < depthLimit →
      (∀ item ∈ items, Legible (level + 1) item) → Legible level (.array items)
  | object {level : Nat} {fields : List (String × Json)} : level + 1 < depthLimit →
      (fields.map Prod.fst).Nodup → (∀ field ∈ fields, Legible (level + 1) field.2) →
      Legible level (.object fields)

theorem rereads_number {level : Nat} {json : Json} (numeral : isNumeral json.compact.toList = true)
    (value : ofNumber? json.compact.toList = some json) :
    Rereads level json (.scalar (.number json.compact.toList none)) where
  value := by
    rw [Term.value, Scalar.value, value]
    rfl
  settles due _ := settles_numeral due numeral

theorem rereads_word {level : Nat} {json : Json} (c : Char) {cs : List Char} (some : cs ≠ [])
    (text : json.compact.toList = c :: cs)
    (begins : ∀ s, c ≠ ']' ∧ stepValue s c = .some (s.within (.word cs json))) :
    Rereads level json (.scalar (.word json none)) where
  value := rfl
  settles {s} due _ := by
    rw [text]
    refine .of_reads (.cons ?_ (reads_word due.takes json some))
    rw [step_of_due due (begins s).left, (begins s).right]

theorem Legible.rereads {level : Nat} {json : Json} (h : Legible level json) :
    ∃ term, Rereads level json term := by
  induction h with
  | null => exact ⟨_, rereads_word 'n' (by simp) rfl fun _ => ⟨by decide, rfl⟩⟩
  | @bool _ value =>
    cases value with
    | false => exact ⟨_, rereads_word 'f' (by simp) rfl fun _ => ⟨by decide, rfl⟩⟩
    | true => exact ⟨_, rereads_word 't' (by simp) rfl fun _ => ⟨by decide, rfl⟩⟩
  | integer low high =>
    exact ⟨_, rereads_number (isNumeral_toString _) (ofNumber?_toString low high)⟩
  | decimal numeral value => exact ⟨_, rereads_number numeral value⟩
  | @string _ text =>
    refine ⟨.scalar (.string (quotation text)), ?_, ?_⟩
    case refine_1 =>
      rw [Term.value, Scalar.value, decode_quotation]
      rfl
    case refine_2 =>
      intro s due _
      obtain ⟨mode, reads⟩ := reads_quote (step_of_due due (by decide)) text
      rw [State.finishString_within due.takes] at reads
      exact .of_reads reads
  | array shallow _ ih =>
    obtain ⟨terms, h⟩ := exists_forall₂_iff.mpr ih
    exact ⟨_, rereads_array shallow h⟩
  | object shallow nodup _ ih =>
    obtain ⟨parts, h⟩ := exists_forall₂_iff.mpr fun field hf =>
      have ⟨term, rereads⟩ := ih field hf
      ⟨(quotation field.1, term), RereadsField.mk rfl rereads⟩
    exact ⟨_, rereads_object shallow nodup h⟩

-- A value of any type is checked by being read.
theorem check_any (term : Term) : term.check .any = term.value := by
  cases term with
  | scalar s =>
    rw [Term.check, Term.value]
    cases s.value <;> rfl
  | array | object => rw [Term.check, Term.value]

theorem isStable_of_legible {json : Json} (h : Legible 0 json) : json.isStable = true := by
  obtain ⟨term, value, settles⟩ := h.rereads
  have due : start.Due := ⟨.none, .inl rfl⟩
  have reads : Reader.read start json.compact.toList = ⟨term, none⟩ := by
    have all := settles due rfl [] (.none rfl)
    rw [List.append_nil] at all
    exact all
  have parsed : parse json.compact = .ok json := by
    rw [parse, Document.ofText, reads, Form.ofDocument, Form.ofTerm, Form.json, check_any, value]
    rfl
  rw [isStable, reread?, parsed]
  exact beq_self_eq_true (some json)

end ReadYourWrites.Json
