import ReadYourWrites.Json.Number

-- JSON texts by their structure, as far as they are JSON texts. Where a text ends too early or goes
-- wrong its structure has a fault, and holds what stands before that. So a reader that goes through
-- the structure in order meets whatever is wrong with the text when it gets there, and not before.

namespace ReadYourWrites.Json

-- Why a text is not read.
inductive Fault where
  -- The text ends before the value does.
  | incomplete
  | malformed
deriving DecidableEq, Repr

-- A character of a string: one that stands there itself, or a unit of UTF-16 that is given by its
-- number. A character in two units need not have both.
inductive Glyph where
  | plain (c : Char)
  | unit (n : Nat)
deriving DecidableEq, Repr

-- A string with its fault, if it has no end.
structure Quotation where
  glyphs : List Glyph
  fault : Option Fault
deriving DecidableEq, Repr

inductive Scalar where
  -- One of the words null, true and false, by what it means.
  | word (meaning : Json) (fault : Option Fault)
  | number (text : List Char) (fault : Option Fault)
  | string (quotation : Quotation)
  -- No value begins where one is due.
  | nothing (fault : Fault)

mutual

-- The arrays and objects that are open within an array or object, and itself, are as many as its
-- level says.
inductive Term where
  | scalar (scalar : Scalar)
  | array (level : Nat) (items : Items)
  | object (level : Nat) (fields : Fields)

inductive Items where
  | closed
  | broken (fault : Fault)
  | item (value : Term) (rest : Items)

inductive Fields where
  | closed
  | broken (fault : Fault)
  | field (name : Quotation) (value : Term) (rest : Fields)

end

-- A whole text. Its ending is a fault if something follows the value.
structure Document where
  value : Term
  ending : Option Fault

-- So many arrays and objects may not be open at once in a value that is kept.
def depthLimit : Nat :=
  128

-- The fields in the order of their first occurrence, each with its last value.
def distinct (fields : List (String × Json)) : List (String × Json) :=
  fields.foldl put []
where
  put (fields : List (String × Json)) (field : String × Json) : List (String × Json) :=
    if fields.any (·.1 == field.1) then
      fields.map fun old => if old.1 == field.1 then field else old
    else fields ++ [field]

theorem distinct.put_subset (fields : List (String × Json)) (field : String × Json) :
    put fields field ⊆ fields ++ [field] := by
  intro other h
  rw [put] at h
  split at h
  case isFalse => exact h
  case isTrue =>
    obtain ⟨old, ho, rfl⟩ := List.mem_map.mp h
    split
    case isTrue => exact List.mem_append_right _ (List.mem_singleton_self _)
    case isFalse => exact List.mem_append_left _ ho

-- A new name is added once, and a name that is there already keeps its place.
theorem distinct.nodup_put {fields : List (String × Json)} (nodup : (fields.map Prod.fst).Nodup)
    (field : String × Json) : ((put fields field).map Prod.fst).Nodup := by
  rw [put]
  split
  case isTrue =>
    have names : (fields.map fun old => if old.1 == field.1 then field else old).map Prod.fst =
        fields.map Prod.fst := by
      rw [List.map_map]
      refine List.map_congr_left fun old _ => ?_
      by_cases h : old.1 = field.1 <;> simp [h]
    rwa [names]
  case isFalse fresh =>
    rw [List.map_append, List.nodup_append]
    refine ⟨nodup, by simp, ?_⟩
    rintro name hn own ho rfl
    obtain rfl := List.mem_singleton.mp ho
    obtain ⟨old, hm, he⟩ := List.mem_map.mp hn
    exact fresh (List.any_eq_true.mpr ⟨old, hm, beq_iff_eq.mpr he⟩)

theorem distinct_subset (fields : List (String × Json)) : distinct fields ⊆ fields := by
  suffices h : ∀ kept, fields.foldl distinct.put kept ⊆ kept ++ fields from h []
  induction fields with
  | nil => exact fun kept => (List.append_nil kept).symm ▸ List.Subset.refl kept
  | cons field fields ih =>
    intro kept other h
    rw [List.append_cons]
    cases List.mem_append.mp (ih _ h) with
    | inl h => exact List.mem_append_left _ (distinct.put_subset kept field h)
    | inr h => exact List.mem_append_right _ h

theorem nodup_distinct (fields : List (String × Json)) :
    ((distinct fields).map Prod.fst).Nodup := by
  suffices h : ∀ kept, (kept.map Prod.fst).Nodup →
      ((fields.foldl distinct.put kept).map Prod.fst).Nodup from h [] .nil
  induction fields with
  | nil => exact fun _ nodup => nodup
  | cons field fields ih => exact fun _ nodup => ih _ (distinct.nodup_put nodup field)

-- Fails if there is a fault.
def Fault.check : Option Fault → Except Fault Unit
  | none => .ok ()
  | some fault => .error fault

def isHighUnit (n : Nat) : Bool :=
  0xD800 ≤ n && n ≤ 0xDBFF

def isLowUnit (n : Nat) : Bool :=
  0xDC00 ≤ n && n ≤ 0xDFFF

-- The characters of a string. Each half of a character has to have its other half.
def Glyph.decode (fault : Option Fault) : List Glyph → Except Fault (List Char)
  | [] => (Fault.check fault).map fun _ => []
  | .plain c :: rest => (decode fault rest).map (c :: ·)
  | [.unit n] =>
    if isLowUnit n then .error .malformed
    else if isHighUnit n then .error (fault.getD .malformed)
    else (Fault.check fault).map fun _ => [Char.ofNat n]
  | .unit n :: .plain c :: rest =>
    if isLowUnit n || isHighUnit n then .error .malformed
    else (decode fault rest).map (Char.ofNat n :: c :: ·)
  | .unit n :: .unit m :: rest =>
    if isLowUnit n then .error .malformed
    else if isHighUnit n then
      if isLowUnit m then
        let code := 0x10000 + (n - 0xD800) * 0x400 + (m - 0xDC00)
        (decode fault rest).map (Char.ofNat code :: ·)
      else .error .malformed
    else (decode fault (.unit m :: rest)).map (Char.ofNat n :: ·)

def Quotation.decode (q : Quotation) : Except Fault String :=
  (Glyph.decode q.fault q.glyphs).map .ofList

def Scalar.value : Scalar → Except Fault Json
  | .word meaning fault => (Fault.check fault).map fun _ => meaning
  | .number text fault => do
    Fault.check fault
    match ofNumber? text with
    | some value => return value
    | none => throw .malformed
  | .string quotation => quotation.decode.map .string
  | .nothing fault => .error fault

-- What is wrong with a scalar whose value does not matter. A number that is cut off is malformed
-- then, and a string may hold halves of characters.
def Scalar.skip : Scalar → Except Fault Unit
  | .word _ fault => Fault.check fault
  | .number _ none => .ok ()
  | .number _ (some _) => .error .malformed
  | .string quotation => Fault.check quotation.fault
  | .nothing fault => .error fault

mutual

-- Goes through a value that does not matter.
def Term.skip : Term → Except Fault Unit
  | .scalar s => s.skip
  | .array _ items => items.skip
  | .object _ fields => fields.skip

def Items.skip : Items → Except Fault Unit
  | .closed => .ok ()
  | .broken fault => .error fault
  | .item value rest => do
    value.skip
    rest.skip

def Fields.skip : Fields → Except Fault Unit
  | .closed => .ok ()
  | .broken fault => .error fault
  | .field name value rest => do
    Fault.check name.fault
    value.skip
    rest.skip

end

-- Fails if too many arrays and objects are open.
def checkLevel (level : Nat) : Except Fault Unit :=
  if level < depthLimit then .ok () else .error .malformed

mutual

-- The value that a term stands for.
def Term.value : Term → Except Fault Json
  | .scalar s => s.value
  | .array level items => do
    checkLevel level
    return .array (← items.values)
  | .object level fields => do
    checkLevel level
    return .object (distinct (← fields.values))

def Items.values : Items → Except Fault (List Json)
  | .closed => .ok []
  | .broken fault => .error fault
  | .item value rest => do
    let value ← value.value
    return value :: (← rest.values)

def Fields.values : Fields → Except Fault (List (String × Json))
  | .closed => .ok []
  | .broken fault => .error fault
  | .field name value rest => do
    let name ← name.decode
    let value ← value.value
    return (name, value) :: (← rest.values)

end

end ReadYourWrites.Json
