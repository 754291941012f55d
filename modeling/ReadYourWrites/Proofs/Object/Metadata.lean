import ReadYourWrites.Object.ConfigMap
import ReadYourWrites.Object.Namespace
import ReadYourWrites.Object.Secret
import ReadYourWrites.Object.Unstructured

-- The metadata in the written form of an object. It names the key of the object: a missing namespace
-- is left out, and the namespace with the empty name is written. Who reads the written form finds the
-- same key in it, and the same labels.

namespace ReadYourWrites

theorem Json.lookup_field {α : Type} (name other : String) (write : α → Json) (value : Option α) :
    (field name write value).lookup other = if other = name then value.map write else none := by
  cases value
  case none => simp [field]
  case some a =>
    by_cases h : other = name
    case pos => simp [field, h]
    case neg => simp [field, List.lookup_cons, h, beq_false_of_ne h]

-- Reading the values of fields one by one keeps their names.
theorem Json.lookup_of_mapM {α : Type} {read : Json → Option α} {written : List (String × Json)}
    {fields : List (String × α)}
    (h : (written.mapM fun (name, value) => (read value).map (name, ·)) = some fields)
    (name : String) : fields.lookup name = (written.lookup name).bind read := by
  induction written generalizing fields with
  | nil =>
    cases h
    rfl
  | cons field written ih =>
    have ⟨own, value⟩ := field
    rw [List.mapM_cons] at h
    obtain ⟨_, hv, h⟩ := Option.bind_eq_some_iff.mp h
    obtain ⟨rest, hr, h⟩ := Option.bind_eq_some_iff.mp h
    obtain ⟨a, ha, rfl⟩ := Option.map_eq_some_iff.mp hv
    cases h
    by_cases hn : name = own
    case pos => simp [hn, ha]
    case neg => simp [List.lookup_cons, beq_false_of_ne hn, ih hr]

theorem Json.lookup_mapOf {α : Type} {read : Json → Option α} {json : Json}
    {fields : List (String × α)} (h : mapOf read json = some fields) (name : String) :
    fields.lookup name = (json.get? name).bind read := by
  obtain ⟨written, hw, h⟩ := Option.bind_eq_some_iff.mp h
  have hg : json.get? name = written.lookup name := by simp [get?, hw]
  rw [hg, lookup_of_mapM h]

namespace Metadata

theorem get?_write_name (m : Metadata) : m.write.get? "name" = m.name.map .string := by
  simp [write, Json.get?, Json.fields?, List.lookup_append, Json.lookup_field]

theorem get?_write_namespace (m : Metadata) :
    m.write.get? "namespace" = m.scope.map .string := by
  simp [write, Json.get?, Json.fields?, List.lookup_append, Json.lookup_field]

theorem of_read {json : Json} {m : Metadata} (h : read json = some m) :
    json.optional Json.string? "name" = some m.name ∧
      json.optional Json.string? "namespace" = some m.scope ∧
      json.optional (Json.mapOf Json.string?) "labels" = some m.labels := by
  obtain ⟨_, -, h⟩ := Option.bind_eq_some_iff.mp h
  obtain ⟨name, hn, h⟩ := Option.bind_eq_some_iff.mp h
  obtain ⟨scope, hs, h⟩ := Option.bind_eq_some_iff.mp h
  -- The fields between the namespace and the labels, and then those behind the labels.
  iterate 5 obtain ⟨_, -, h⟩ := Option.bind_eq_some_iff.mp h
  obtain ⟨labels, hl, h⟩ := Option.bind_eq_some_iff.mp h
  iterate 8 obtain ⟨_, -, h⟩ := Option.bind_eq_some_iff.mp h
  cases h
  exact ⟨hn, hs, hl⟩

-- The value of a label.
def label (m : Metadata) (name : String) : Option String :=
  m.labels.bind (·.lookup name)

theorem label_of_read {json : Json} {m : Metadata} (h : read json = some m) (name : String) :
    m.label name = ((json.get? "labels").bind (·.get? name)).bind Json.string? := by
  have ⟨_, _, hl⟩ := of_read h
  simp only [Json.optional] at hl
  split at hl
  case h_1 hg =>
    simp only [Option.some.injEq] at hl
    rw [label, ← hl, hg]
    rfl
  case h_2 hg =>
    simp only [Option.some.injEq] at hl
    rw [label, ← hl, hg]
    rfl
  case h_3 labels _ hg =>
    obtain ⟨fields, hf, hl⟩ := Option.map_eq_some_iff.mp hl
    rw [label, ← hl, hg]
    exact Json.lookup_mapOf hf name

end Metadata

theorem Json.names_field {α : Type} (name : String) (write : α → Json) (value : Option α) :
    ((field name write value).map Prod.fst).Sublist [name] := by
  cases value with
  | none => exact List.nil_sublist _
  | some => exact List.Sublist.refl _

theorem Typed.distinct_write {resource : Resource} {m : Metadata} {fields : List (String × Json)}
    (names : List String) (own : (fields.map Prod.fst).Sublist names)
    (apart : (["apiVersion", "kind", "metadata"] ++ names).Nodup) :
    (write resource m fields).Distinct :=
  apart.sublist (own.append_left ["apiVersion", "kind", "metadata"])

-- Types whose objects write their metadata, in a form in which no two fields have one name.
class WritesMetadata (K : Type) [Object K] : Prop where
  get?_metadata (object : K) :
    (Object.write object).get? "metadata" = some (Object.metadata object).write
  distinct (object : K) : (Object.write object).Distinct

namespace WritesMetadata

-- What the written form says about the key.
theorem at?_key {K : Type} [Object K] [WritesMetadata K] (object : K) {key : Key}
    (h : (Object.metadata object).key? = some key) :
    (Object.write object).at? ["metadata", "name"] = some (.string key.name) ∧
      (Object.write object).at? ["metadata", "namespace"] = key.scope.map .string := by
  obtain ⟨name, hn, rfl⟩ := Option.map_eq_some_iff.mp h
  simp [Json.at?, get?_metadata, Metadata.get?_write_name, Metadata.get?_write_namespace, hn]

instance : WritesMetadata ConfigMap where
  get?_metadata _ := rfl
  distinct object := by
    refine Typed.distinct_write ["data", "binaryData", "immutable"] ?_ (by decide)
    simp only [List.map_append]
    exact ((Json.names_field ..).append (Json.names_field ..)).append (Json.names_field ..)

instance : WritesMetadata Secret where
  get?_metadata _ := rfl
  distinct object := by
    refine Typed.distinct_write ["data", "stringData", "immutable", "type"] ?_ (by decide)
    simp only [List.map_append]
    exact (((Json.names_field ..).append (Json.names_field ..)).append (Json.names_field ..)).append
      (Json.names_field ..)

instance : WritesMetadata Namespace where
  get?_metadata _ := rfl
  distinct object := by
    refine Typed.distinct_write ["spec", "status"] ?_ (by decide)
    simp only [List.map_append]
    exact (Json.names_field ..).append (Json.names_field ..)

instance : WritesMetadata Unstructured where
  get?_metadata object := by
    cases h : object.types <;>
      simp [Object.write, Unstructured.write, Unstructured.writeTypes, h, Json.get?, Json.fields?] <;> rfl
  distinct := Unstructured.distinct_write

end WritesMetadata

theorem Typed.required_of_readMetadata {resource : Resource} {json : Json} {m : Metadata}
    (h : readMetadata resource json = some m) : json.required Metadata.read "metadata" = some m := by
  obtain ⟨_, -, h⟩ := Option.bind_eq_some_iff.mp h
  exact h

-- Types whose objects are read with the metadata that is written.
class ReadsMetadata (K : Type) [Object K] : Prop where
  required_metadata {json : Json} {object : K} : Object.read json = some object →
    json.required Metadata.read "metadata" = some (Object.metadata object)

namespace ReadsMetadata

theorem get?_metadata {K : Type} [Object K] [ReadsMetadata K] {json : Json} {object : K}
    (h : Object.read json = some object) :
    ∃ written, json.get? "metadata" = some written ∧
      Metadata.read written = some (Object.metadata object) :=
  Option.bind_eq_some_iff.mp (required_metadata h)

-- An object is read with the key that its written form names.
theorem key?_eq {K : Type} [Object K] [ReadsMetadata K] {json : Json} {object : K} {key : Key}
    (h : Object.read json = some object)
    (name : json.at? ["metadata", "name"] = some (.string key.name))
    (scope : json.at? ["metadata", "namespace"] = key.scope.map .string) :
    (Object.metadata object).key? = some key := by
  have ⟨written, hw, hr⟩ := get?_metadata h
  have ⟨hn, hs, _⟩ := Metadata.of_read hr
  have an : written.get? "name" = some (.string key.name) := by simpa [Json.at?, hw] using name
  have as : written.get? "namespace" = key.scope.map .string := by simpa [Json.at?, hw] using scope
  have hm : (Object.metadata object).name = some key.name := by
    simpa [Json.optional, an, Json.string?, eq_comm] using hn
  have hk : (Object.metadata object).scope = key.scope := by
    cases hc : key.scope <;> simpa [Json.optional, as, hc, Json.string?, eq_comm] using hs
  rw [Metadata.key?, hm, hk]
  rfl

instance : ReadsMetadata ConfigMap where
  required_metadata h := by
    obtain ⟨_, hm, h⟩ := Option.bind_eq_some_iff.mp h
    obtain ⟨_, -, h⟩ := Option.bind_eq_some_iff.mp h
    obtain ⟨_, -, h⟩ := Option.bind_eq_some_iff.mp h
    obtain ⟨_, -, h⟩ := Option.bind_eq_some_iff.mp h
    cases h
    exact Typed.required_of_readMetadata hm

instance : ReadsMetadata Secret where
  required_metadata h := by
    obtain ⟨_, hm, h⟩ := Option.bind_eq_some_iff.mp h
    obtain ⟨_, -, h⟩ := Option.bind_eq_some_iff.mp h
    obtain ⟨_, -, h⟩ := Option.bind_eq_some_iff.mp h
    obtain ⟨_, -, h⟩ := Option.bind_eq_some_iff.mp h
    obtain ⟨_, -, h⟩ := Option.bind_eq_some_iff.mp h
    cases h
    exact Typed.required_of_readMetadata hm

instance : ReadsMetadata Namespace where
  required_metadata h := by
    obtain ⟨_, hm, h⟩ := Option.bind_eq_some_iff.mp h
    obtain ⟨_, -, h⟩ := Option.bind_eq_some_iff.mp h
    obtain ⟨_, -, h⟩ := Option.bind_eq_some_iff.mp h
    cases h
    exact Typed.required_of_readMetadata hm

instance : ReadsMetadata Unstructured where
  required_metadata {json _} h := by
    obtain ⟨fields, hf, h⟩ := Option.bind_eq_some_iff.mp h
    obtain ⟨written, hw, h⟩ := Option.bind_eq_some_iff.mp h
    obtain ⟨_, hm, h⟩ := Option.bind_eq_some_iff.mp h
    cases h
    have found : json.get? "metadata" = some written := Option.bind_eq_some_iff.mpr ⟨fields, hf, hw⟩
    exact Option.bind_eq_some_iff.mpr ⟨written, found, hm⟩

end ReadsMetadata

end ReadYourWrites
