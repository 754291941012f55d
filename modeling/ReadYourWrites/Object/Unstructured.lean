import ReadYourWrites.Object

-- Objects of any kind, as they are read from JSON. They keep all their fields, but the type metadata
-- stays only if both of its parts are texts.

namespace ReadYourWrites

-- The texts that say which kind an object has.
structure TypeMeta where
  apiVersion : String
  kind : String
deriving DecidableEq, Repr

namespace Unstructured

def writeTypes : Option TypeMeta → List (String × Json)
  | some types => [("apiVersion", .string types.apiVersion), ("kind", .string types.kind)]
  | none => []

end Unstructured

-- The other fields are the ones that are left once the metadata and the type metadata are taken out.
-- So they form a JSON object, and no field stands in two places: an object of this type can always be
-- written, and what it writes has no name twice. A program can put together an object whose other
-- fields are no JSON object, or name once more what has a place of its own. No JSON text is read as
-- such an object, and it is not of this type.
structure Unstructured where
  types : Option TypeMeta
  metadata : Metadata
  -- All other fields.
  fields : List (String × Json)
  distinct : ((Unstructured.writeTypes types).map Prod.fst ++
    "metadata" :: fields.map Prod.fst).Nodup
deriving DecidableEq, Repr

namespace Unstructured

-- What belongs to the metadata is not among the other fields, and no part of the type metadata is if
-- the object has any.
theorem nodup_iff {types : Option TypeMeta} {names : List String} :
    ((writeTypes types).map Prod.fst ++ "metadata" :: names).Nodup ↔
      names.Nodup ∧ "metadata" ∉ names ∧
        (types.isSome → "apiVersion" ∉ names ∧ "kind" ∉ names) := by
  cases types <;> grind [writeTypes]

-- An object without other fields.
def bare (types : Option TypeMeta) (metadata : Metadata) : Unstructured where
  types := types
  metadata := metadata
  fields := []
  distinct := nodup_iff.mpr (by simp)

-- Takes the type metadata out of the fields of an object, going through them in order. The first
-- part that is not a text or has been found already ends the search: it is lost, as are the parts
-- found before it, and a part behind it stays among the fields.
def takeTypes (apiVersion kind : Option String) :
    List (String × Json) → Option TypeMeta × List (String × Json)
  | [] =>
    match apiVersion, kind with
    | some apiVersion, some kind => (some ⟨apiVersion, kind⟩, [])
    | _, _ => (none, [])
  | (name, value) :: rest =>
    if name = "apiVersion" then
      match apiVersion, value with
      | none, .string text => takeTypes (some text) kind rest
      | _, _ => (none, rest)
    else if name = "kind" then
      match kind, value with
      | none, .string text => takeTypes apiVersion (some text) rest
      | _, _ => (none, rest)
    else
      let (types, rest) := takeTypes apiVersion kind rest
      (types, (name, value) :: rest)

theorem takeTypes_sublist (apiVersion kind : Option String) (fields : List (String × Json)) :
    (takeTypes apiVersion kind fields).2.Sublist fields := by
  fun_induction takeTypes apiVersion kind fields
  case case1 | case2 => exact .slnil
  case case3 ih | case5 ih => exact ih.cons _
  case case4 | case6 => exact List.sublist_cons_self ..
  case case7 he ih =>
    rw [he] at ih
    exact ih.cons_cons _

-- A search that finds the type metadata leaves no part of it behind.
theorem takeTypes_typed (apiVersion kind : Option String) (fields : List (String × Json)) :
    (takeTypes apiVersion kind fields).1.isSome →
      "apiVersion" ∉ (takeTypes apiVersion kind fields).2.map Prod.fst ∧
        "kind" ∉ (takeTypes apiVersion kind fields).2.map Prod.fst := by
  fun_induction takeTypes apiVersion kind fields
  case case1 => simp
  case case2 | case4 | case6 =>
    intro h
    cases h
  case case3 ih | case5 ih => exact ih
  case case7 ha hk _ _ he ih =>
    rw [he] at ih
    simpa only [List.map_cons, List.mem_cons, Ne.symm ha, Ne.symm hk, false_or] using ih

-- The type metadata among the given fields of an object, and what is left without it and without the
-- metadata.
def taken (fields : List (String × Json)) : Option TypeMeta × List (String × Json) :=
  takeTypes none none (fields.filter (·.1 ≠ "metadata"))

theorem taken_sublist (fields : List (String × Json)) :
    (taken fields).2.Sublist (fields.filter (·.1 ≠ "metadata")) :=
  takeTypes_sublist ..

-- An object with the given metadata that has the given fields. Of several fields of one name the last
-- is kept.
def ofFields (metadata : Metadata) (fields : List (String × Json)) : Unstructured where
  types := (taken fields).1
  metadata := metadata
  fields := Json.distinct (taken fields).2
  distinct := by
    have kept : (Json.distinct (taken fields).2).map Prod.fst ⊆ (taken fields).2.map Prod.fst :=
      List.map_subset _ (Json.distinct_subset _)
    refine nodup_iff.mpr ⟨Json.nodup_distinct _, fun h => ?_, fun typed => ?_⟩
    case refine_1 =>
      have ⟨field, hf, hn⟩ := List.mem_map.mp (kept h)
      have own := (List.mem_filter.mp ((taken_sublist fields).subset hf)).right
      exact of_decide_eq_true own hn
    case refine_2 =>
      have ⟨apiVersion, kind⟩ := takeTypes_typed _ _ _ typed
      exact ⟨fun h => apiVersion (kept h), fun h => kind (kept h)⟩

def read (json : Json) : Option Unstructured := do
  let fields ← json.fields?
  let metadata ← Metadata.read (← fields.lookup "metadata")
  return ofFields metadata fields

def form : Json.Form Unstructured where
  shape := .record .extensible [("metadata", .required, Metadata.shape)]
  read := read

def write (object : Unstructured) : Json :=
  .object (writeTypes object.types ++ ("metadata", object.metadata.write) :: object.fields)

theorem distinct_write (object : Unstructured) : object.write.Distinct := by
  simpa only [Json.Distinct, write, Json.fields?, Option.getD_some, List.map_append, List.map_cons]
    using object.distinct

instance : Object Unstructured where
  read := read
  write := write
  metadata := metadata
  isUnstructured := true

-- An object of any type as an unstructured one.
def ofObject {K : Type} [Object K] (object : K) : Except Error Unstructured :=
  Object.decode Unstructured (Object.write object)

-- An unstructured object as one of another type.
def toObject (K : Type) [Object K] (object : Unstructured) : Except Error K :=
  Object.decode K object.write

end Unstructured

end ReadYourWrites
