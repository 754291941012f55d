import ReadYourWrites.Proofs.Object.Fields
import ReadYourWrites.Proofs.Store.Answers
import ReadYourWrites.Proofs.Text.Base64
import ReadYourWrites.Proofs.Time.Timestamp

-- Objects are read as what they were from the form that they are written in. A field without a value
-- is left out, so a value must not be written as null. Only what a manager of fields has set can be
-- null, and it is lost then.

namespace ReadYourWrites

namespace Json

variable {α : Type} {read : Json → Option α} {write : α → Json}

theorem get?_object (fields : List (String × Json)) (name : String) :
    (object fields).get? name = fields.lookup name :=
  rfl

theorem lookup_field_append (own name : String) (value : Option α) (rest : List (String × Json)) :
    (field own write value ++ rest).lookup name =
      if name = own then (value.map write).or (rest.lookup name) else rest.lookup name := by
  rw [List.lookup_append, lookup_field]
  split <;> simp

theorem lookup_cons_name (own name : String) (value : Json) (rest : List (String × Json)) :
    ((own, value) :: rest).lookup name = if name = own then some value else rest.lookup name := by
  by_cases h : name = own
  case pos => simp [h]
  case neg => simp [List.lookup_cons, beq_false_of_ne h, h]

-- Whether a value is read as what it was, wherever a field for it may be missing.
structure Faithful (read : Json → Option α) (write : α → Json) (a : α) : Prop where
  read_write : read (write a) = some a
  not_null : write a ≠ .null

theorem optional_of_get? {json : Json} {name : String} {value : Option α}
    (written : json.get? name = value.map write)
    (faithful : ∀ a, value = some a → Faithful read write a) :
    optional read json name = some value := by
  cases value with
  | none => rw [optional, written]; rfl
  | some a =>
    obtain ⟨read_write, not_null⟩ := faithful a rfl
    rw [optional, written, Option.map_some]
    split
    case h_1 he => cases he
    case h_2 he => exact absurd (Option.some.inj he) not_null
    case h_3 he =>
      cases he
      rw [read_write, Option.map_some]

-- A value that a field is read with has been written there, and not as null.
theorem exists_of_optional {json : Json} {name : String} {a : α}
    (h : optional read json name = some (some a)) : ∃ value, value ≠ .null ∧ read value = some a := by
  rw [optional] at h
  split at h
  case h_1 | h_2 => cases h
  case h_3 value null _ =>
    obtain ⟨b, hr, hb⟩ := Option.map_eq_some_iff.mp h
    exact ⟨value, null, Option.some.inj hb ▸ hr⟩

theorem faithful_string (text : String) : Faithful string? .string text :=
  ⟨rfl, nofun⟩

theorem faithful_bool (value : Bool) : Faithful bool? .bool value :=
  ⟨rfl, nofun⟩

theorem faithful_int64 (n : Int64) : Faithful int64? ofInt64 n := by
  refine ⟨?_, nofun⟩
  have low : Int64.minValue.toInt ≤ n.toInt := Int64.le_toInt n
  have high : n.toInt ≤ Int64.maxValue.toInt := Int64.toInt_le n
  rw [int64?, ofInt64, integer?, if_pos ⟨low, high⟩, Option.map_some, Int64.ofInt_toInt]

theorem faithful_list {as : List α} (h : ∀ a ∈ as, read (write a) = some a) :
    Faithful (listOf read) (ofList write) as := by
  refine ⟨?_, nofun⟩
  rw [listOf, ofList, items?, Option.bind_eq_bind, Option.bind_some, mapM_map_eq_some h]

theorem faithful_map {fields : List (String × α)}
    (h : ∀ field ∈ fields, read (write field.2) = some field.2) :
    Faithful (mapOf read) (ofMap write) fields := by
  refine ⟨?_, nofun⟩
  rw [mapOf, ofMap, fields?, Option.bind_eq_bind, Option.bind_some, mapM_map_eq_some]
  intro field hf
  change (read (write field.2)).map (field.1, ·) = some field
  rw [h field hf]
  rfl

theorem faithful_strings (texts : List String) : Faithful (listOf string?) (ofList .string) texts :=
  faithful_list fun _ _ => rfl

theorem faithful_labels (labels : List (String × String)) :
    Faithful (mapOf string?) (ofMap .string) labels :=
  faithful_map fun _ _ => rfl

theorem faithful_bytes (fields : List (String × List UInt8)) :
    Faithful (mapOf Typed.bytes?) (ofMap Typed.ofBytes) fields := by
  refine faithful_map fun field _ => ?_
  rw [Typed.bytes?, Typed.ofBytes, string?, Option.bind_eq_bind, Option.bind_some,
    String.toList_ofList, Text.Base64.decode_encode]

theorem faithful_time (t : Timestamp) : Faithful Timestamp.ofJson? Timestamp.toJson t := by
  refine ⟨?_, nofun⟩
  rw [Timestamp.ofJson?, Timestamp.toJson, string?, Option.bind_eq_bind, Option.bind_some, t.read_text]

end Json

open Json

theorem OwnerReference.read_write (owner : OwnerReference) : read owner.write = some owner := by
  have controller : optional bool? owner.write "controller" = some owner.controller :=
    optional_of_get? (by simp [write, get?_object, lookup_cons_name, lookup_field_append, lookup_field])
      fun _ _ => faithful_bool _
  have block : optional bool? owner.write "blockOwnerDeletion" = some owner.blockOwnerDeletion :=
    optional_of_get? (by simp [write, get?_object, lookup_cons_name, lookup_field_append, lookup_field])
      fun _ _ => faithful_bool _
  rw [read, controller, block]
  rfl

-- Whether what a manager of fields has set is not null.
def ManagedFields.Plain (managed : ManagedFields) : Prop :=
  managed.fields ≠ some .null

theorem ManagedFields.read_write {managed : ManagedFields} (plain : managed.Plain) :
    read managed.write = some managed := by
  have apiVersion : optional string? managed.write "apiVersion" = some managed.apiVersion :=
    optional_of_get? (by simp [write, get?_object, lookup_field_append, lookup_field])
      fun _ _ => faithful_string _
  have fieldsType : optional string? managed.write "fieldsType" = some managed.fieldsType :=
    optional_of_get? (by simp [write, get?_object, lookup_field_append, lookup_field])
      fun _ _ => faithful_string _
  have fields : optional some managed.write "fieldsV1" = some managed.fields := by
    have faithful (json : Json) (h : managed.fields = some json) : Faithful some id json :=
      ⟨rfl, fun he => plain (h.trans (congrArg some he))⟩
    exact optional_of_get? (by simp [write, get?_object, lookup_field_append, lookup_field]) faithful
  have manager : optional string? managed.write "manager" = some managed.manager :=
    optional_of_get? (by simp [write, get?_object, lookup_field_append, lookup_field])
      fun _ _ => faithful_string _
  have operation : optional string? managed.write "operation" = some managed.operation :=
    optional_of_get? (by simp [write, get?_object, lookup_field_append, lookup_field])
      fun _ _ => faithful_string _
  have subresource : optional string? managed.write "subresource" = some managed.subresource :=
    optional_of_get? (by simp [write, get?_object, lookup_field_append, lookup_field])
      fun _ _ => faithful_string _
  have time : optional Timestamp.ofJson? managed.write "time" = some managed.time :=
    optional_of_get? (by simp [write, get?_object, lookup_field_append, lookup_field])
      fun _ _ => faithful_time _
  rw [read, apiVersion, fieldsType, fields, manager, operation, subresource, time]
  rfl

theorem ManagedFields.plain_of_read {json : Json} {managed : ManagedFields}
    (h : read json = some managed) : managed.Plain := by
  obtain ⟨_, -, h⟩ := Option.bind_eq_some_iff.mp h
  iterate 2 obtain ⟨_, -, h⟩ := Option.bind_eq_some_iff.mp h
  obtain ⟨fields, hf, h⟩ := Option.bind_eq_some_iff.mp h
  iterate 4 obtain ⟨_, -, h⟩ := Option.bind_eq_some_iff.mp h
  obtain rfl := Option.some.inj h
  intro null
  dsimp only at null
  obtain ⟨value, not_null, read⟩ := exists_of_optional (null ▸ hf)
  exact not_null (Option.some.inj read)

-- Whether no manager of fields has set what is null.
def Metadata.Plain (m : Metadata) : Prop :=
  ∀ managers, m.managedFields = some managers → ∀ managed ∈ managers, managed.Plain

theorem Metadata.plain_of_read {json : Json} {m : Metadata} (h : read json = some m) : m.Plain := by
  obtain ⟨_, -, h⟩ := Option.bind_eq_some_iff.mp h
  iterate 15 obtain ⟨_, -, h⟩ := Option.bind_eq_some_iff.mp h
  obtain ⟨managed, hm, h⟩ := Option.bind_eq_some_iff.mp h
  obtain rfl := Option.some.inj h
  intro managers given manager member
  dsimp only at given
  obtain ⟨value, _, read⟩ := exists_of_optional (given ▸ hm)
  obtain ⟨items, _, walk⟩ := Option.bind_eq_some_iff.mp read
  have ⟨_, _, read⟩ := exists_of_mapM walk member
  exact ManagedFields.plain_of_read read

theorem Metadata.read_write {m : Metadata} (plain : m.Plain) : read m.write = some m := by
  have name := optional_of_get? m.get?_write_name fun _ _ => faithful_string _
  have scope := optional_of_get? m.get?_write_namespace fun _ _ => faithful_string _
  have uid : optional string? m.write "uid" = some m.uid :=
    optional_of_get? (by simp [write, get?_object, lookup_field_append, lookup_field])
      fun _ _ => faithful_string _
  have resourceVersion : optional string? m.write "resourceVersion" = some m.resourceVersion :=
    optional_of_get? (by simp [write, get?_object, lookup_field_append, lookup_field])
      fun _ _ => faithful_string _
  have generateName : optional string? m.write "generateName" = some m.generateName :=
    optional_of_get? (by simp [write, get?_object, lookup_field_append, lookup_field])
      fun _ _ => faithful_string _
  have selfLink : optional string? m.write "selfLink" = some m.selfLink :=
    optional_of_get? (by simp [write, get?_object, lookup_field_append, lookup_field])
      fun _ _ => faithful_string _
  have clusterName : optional string? m.write "clusterName" = some m.clusterName :=
    optional_of_get? (by simp [write, get?_object, lookup_field_append, lookup_field])
      fun _ _ => faithful_string _
  have labels : optional (mapOf string?) m.write "labels" = some m.labels :=
    optional_of_get? (by simp [write, get?_object, lookup_field_append, lookup_field])
      fun _ _ => faithful_labels _
  have annotations : optional (mapOf string?) m.write "annotations" = some m.annotations :=
    optional_of_get? (by simp [write, get?_object, lookup_field_append, lookup_field])
      fun _ _ => faithful_labels _
  have finalizers : optional (listOf string?) m.write "finalizers" = some m.finalizers :=
    optional_of_get? (by simp [write, get?_object, lookup_field_append, lookup_field])
      fun _ _ => faithful_strings _
  have generation : optional int64? m.write "generation" = some m.generation :=
    optional_of_get? (by simp [write, get?_object, lookup_field_append, lookup_field])
      fun _ _ => faithful_int64 _
  have period : optional int64? m.write "deletionGracePeriodSeconds" = some m.deletionGracePeriodSeconds :=
    optional_of_get? (by simp [write, get?_object, lookup_field_append, lookup_field])
      fun _ _ => faithful_int64 _
  have created : optional Timestamp.ofJson? m.write "creationTimestamp" = some m.creationTimestamp :=
    optional_of_get? (by simp [write, get?_object, lookup_field_append, lookup_field])
      fun _ _ => faithful_time _
  have deleted : optional Timestamp.ofJson? m.write "deletionTimestamp" = some m.deletionTimestamp :=
    optional_of_get? (by simp [write, get?_object, lookup_field_append, lookup_field])
      fun _ _ => faithful_time _
  have owners : optional (listOf OwnerReference.read) m.write "ownerReferences" =
      some m.ownerReferences :=
    optional_of_get? (by simp [write, get?_object, lookup_field_append, lookup_field])
      fun _ _ => faithful_list fun owner _ => owner.read_write
  have managers : optional (listOf ManagedFields.read) m.write "managedFields" =
      some m.managedFields :=
    optional_of_get? (by simp [write, get?_object, lookup_field_append, lookup_field])
      fun all h => faithful_list fun managed hm => ManagedFields.read_write (plain all h managed hm)
  rw [read, name, scope, uid, resourceVersion, generateName, selfLink, clusterName, labels,
    annotations, finalizers, generation, period, created, deleted, owners, managers]
  rfl

namespace Typed

variable {resource : Resource} {m : Metadata} {fields : List (String × Json)} {α : Type}
  {read : Json → Option α} {write : α → Json} {name : String} {value : Option α}

theorem readMetadata_write (plain : m.Plain) :
    readMetadata resource (Typed.write resource m fields) = some m := by
  have own : isOwn (Typed.write resource m fields) "apiVersion" resource.apiVersion = true ∧
      isOwn (Typed.write resource m fields) "kind" resource.kind.name = true := by
    simp [isOwn, Typed.write, get?_object, lookup_cons_name]
  have written : (Typed.write resource m fields).get? "metadata" = some m.write := by
    simp [Typed.write, get?_object, lookup_cons_name]
  have metadata : required Metadata.read (Typed.write resource m fields) "metadata" = some m := by
    rw [required, written, Option.bind_eq_bind, Option.bind_some, Metadata.read_write plain]
  rw [readMetadata, own.left, own.right, metadata]
  rfl

-- A field of a type, next to the type metadata and the metadata.
theorem optional_write (own : ["apiVersion", "kind", "metadata"].contains name = false)
    (written : fields.lookup name = value.map write)
    (faithful : ∀ a, value = some a → Faithful read write a) :
    optional read (Typed.write resource m fields) name = some value := by
  simp only [List.contains_cons, List.contains_nil, Bool.or_eq_false_iff, beq_eq_false_iff_ne] at own
  refine optional_of_get? ?_ faithful
  simp [Typed.write, get?_object, lookup_cons_name, own, written]

end Typed

theorem ConfigMap.read_write {object : ConfigMap} (plain : object.metadata.Plain) :
    read object.write = some object := by
  have data : optional (mapOf string?) object.write "data" = some object.data :=
    Typed.optional_write (by decide) (by simp [lookup_field_append, lookup_field])
      fun _ _ => faithful_labels _
  have binaryData : optional (mapOf Typed.bytes?) object.write "binaryData" =
      some object.binaryData :=
    Typed.optional_write (by decide) (by simp [lookup_field_append, lookup_field])
      fun _ _ => faithful_bytes _
  have immutable : optional bool? object.write "immutable" = some object.immutable :=
    Typed.optional_write (by decide) (by simp [lookup_field_append, lookup_field])
      fun _ _ => faithful_bool _
  have metadata : Typed.readMetadata resource object.write = some object.metadata :=
    Typed.readMetadata_write plain
  rw [read, metadata, data, binaryData, immutable]
  rfl

theorem Secret.read_write {object : Secret} (plain : object.metadata.Plain) :
    read object.write = some object := by
  have data : optional (mapOf Typed.bytes?) object.write "data" = some object.data :=
    Typed.optional_write (by decide) (by simp [lookup_field_append, lookup_field])
      fun _ _ => faithful_bytes _
  have stringData : optional (mapOf string?) object.write "stringData" = some object.stringData :=
    Typed.optional_write (by decide) (by simp [lookup_field_append, lookup_field])
      fun _ _ => faithful_labels _
  have immutable : optional bool? object.write "immutable" = some object.immutable :=
    Typed.optional_write (by decide) (by simp [lookup_field_append, lookup_field])
      fun _ _ => faithful_bool _
  have type : optional string? object.write "type" = some object.type :=
    Typed.optional_write (by decide) (by simp [lookup_field_append, lookup_field])
      fun _ _ => faithful_string _
  have metadata : Typed.readMetadata resource object.write = some object.metadata :=
    Typed.readMetadata_write plain
  rw [read, metadata, data, stringData, immutable, type]
  rfl

theorem NamespaceCondition.read_write (condition : NamespaceCondition) :
    read condition.write = some condition := by
  have time : optional Timestamp.ofJson? condition.write "lastTransitionTime" =
      some condition.lastTransitionTime :=
    optional_of_get? (by simp [write, get?_object, lookup_field_append, lookup_cons_name])
      fun _ _ => faithful_time _
  have message : optional string? condition.write "message" = some condition.message :=
    optional_of_get? (by simp [write, get?_object, lookup_field_append, lookup_cons_name])
      fun _ _ => faithful_string _
  have reason : optional string? condition.write "reason" = some condition.reason :=
    optional_of_get? (by simp [write, get?_object, lookup_field_append, lookup_cons_name])
      fun _ _ => faithful_string _
  have status : condition.write.get? "status" = some (.string condition.status) := by
    simp [write, get?_object, lookup_field_append]
  have type : condition.write.get? "type" = some (.string condition.type) := by
    simp [write, get?_object, lookup_field_append, lookup_cons_name]
  rw [read, time, message, reason, required, status, required, type]
  rfl

theorem NamespaceSpec.faithful (spec : NamespaceSpec) : Faithful read write spec := by
  have finalizers : optional (listOf string?) spec.write "finalizers" = some spec.finalizers :=
    optional_of_get? (by simp [write, get?_object, lookup_field]) fun _ _ => faithful_strings _
  refine ⟨?_, nofun⟩
  rw [read, finalizers]
  rfl

theorem NamespaceStatus.faithful (status : NamespaceStatus) : Faithful read write status := by
  have phase : optional string? status.write "phase" = some status.phase :=
    optional_of_get? (by simp [write, get?_object, lookup_field_append, lookup_field])
      fun _ _ => faithful_string _
  have conditions : optional (listOf NamespaceCondition.read) status.write "conditions" =
      some status.conditions :=
    optional_of_get? (by simp [write, get?_object, lookup_field_append, lookup_field])
      fun _ _ => faithful_list fun condition _ => condition.read_write
  refine ⟨?_, nofun⟩
  rw [read, phase, conditions]
  rfl

theorem Namespace.read_write {object : Namespace} (plain : object.metadata.Plain) :
    read object.write = some object := by
  have spec : optional NamespaceSpec.read object.write "spec" = some object.spec :=
    Typed.optional_write (by decide) (by simp [lookup_field_append, lookup_field])
      fun spec _ => spec.faithful
  have status : optional NamespaceStatus.read object.write "status" = some object.status :=
    Typed.optional_write (by decide) (by simp [lookup_field_append, lookup_field])
      fun status _ => status.faithful
  have metadata : Typed.readMetadata resource object.write = some object.metadata :=
    Typed.readMetadata_write plain
  rw [read, metadata, spec, status]
  rfl

namespace Unstructured

variable {object : Unstructured} {types : TypeMeta}

theorem takeTypes_absent {fields : List (String × Json)} (apiVersion kind : Option String)
    (absent : "apiVersion" ∉ fields.map Prod.fst ∧ "kind" ∉ fields.map Prod.fst) :
    (takeTypes apiVersion kind fields).2 = fields := by
  fun_induction takeTypes apiVersion kind fields
  case case1 | case2 => rfl
  case case3 | case4 => exact absurd List.mem_cons_self absent.left
  case case5 | case6 => exact absurd List.mem_cons_self absent.right
  case case7 he ih =>
    simp only [List.map_cons, List.mem_cons, not_or] at absent
    rw [he] at ih
    exact congrArg (_ :: ·) (ih ⟨absent.left.right, absent.right.right⟩)

theorem ofFields_eq {fields : List (String × Json)}
    (h : taken fields = (object.types, object.fields)) : ofFields object.metadata fields = object := by
  have ⟨nodup, _⟩ := nodup_iff.mp object.distinct
  simp only [ofFields, h, distinct_of_nodup nodup]

-- An object that has type metadata is read as what it was.
theorem read_write (typed : object.types = some types) (plain : object.metadata.Plain) :
    read object.write = some object := by
  have ⟨nodup, own, parts⟩ := nodup_iff.mp object.distinct
  have absent := parts (typed ▸ rfl)
  have kept : object.fields.filter (·.1 ≠ "metadata") = object.fields :=
    List.filter_eq_self.mpr fun field hf =>
      decide_eq_true fun he => own (he ▸ List.mem_map_of_mem hf)
  have found : takeTypes (some types.apiVersion) (some types.kind) object.fields =
      (object.types, object.fields) := by
    refine Prod.ext ?_ (takeTypes_absent _ _ absent)
    rw [typed]
    exact (takeTypes_eq_some_iff nodup (fun _ => absent.left) fun _ => absent.right).mpr ⟨rfl, rfl⟩
  have others : taken (writeTypes object.types ++
      ("metadata", object.metadata.write) :: object.fields) =
        takeTypes (some types.apiVersion) (some types.kind)
          (object.fields.filter (·.1 ≠ "metadata")) := by
    rw [typed]
    rfl
  rw [kept, found] at others
  have metadata : (writeTypes object.types ++
      ("metadata", object.metadata.write) :: object.fields).lookup "metadata" =
        some object.metadata.write := by
    rw [typed]
    rfl
  simp only [read, write, fields?, Option.bind_eq_bind, Option.bind_some, metadata,
    Metadata.read_write plain, ofFields_eq others, Option.pure_def]

end Unstructured

-- Whether an object passes through the form of an object of any kind with nothing lost or added.
structure Carried {K : Type} [Object K] (object : K) : Prop where
  carried : ∃ form : Unstructured, Unstructured.ofObject object = .ok form ∧
    form.write = Object.write object ∧ form.toObject K = .ok object

-- Types whose objects are written with their type metadata in front of their other fields, and are
-- read as what they were.
class Restores (K : Type) [Object K] : Prop where
  read_write {object : K} : (Object.metadata object).Plain →
    Object.read (Object.write object) = some object
  form (object : K) : ∃ form : Unstructured, ∃ types, form.write = Object.write object ∧
    form.types = some types ∧ form.metadata = Object.metadata object

namespace Restores

theorem carried {K : Type} [Object K] [Restores K] {object : K}
    (plain : (Object.metadata object).Plain) : Carried object := by
  obtain ⟨form, types, written, typed, metadata⟩ := form object
  refine ⟨form, ?_, written, ?_⟩
  case refine_1 =>
    rw [Unstructured.ofObject, Object.decode_eq_ok_iff, ← written]
    exact Unstructured.read_write typed (metadata ▸ plain)
  case refine_2 =>
    rw [Unstructured.toObject, Object.decode_eq_ok_iff, written]
    exact read_write plain

theorem form_of_distinct {resource : Resource} {m : Metadata} {fields : List (String × Json)}
    (distinct : (Typed.write resource m fields).Distinct) :
    ∃ form : Unstructured, ∃ types, form.write = Typed.write resource m fields ∧
      form.types = some types ∧ form.metadata = m :=
  ⟨⟨some ⟨resource.apiVersion, resource.kind.name⟩, m, fields, distinct⟩, _, rfl, rfl, rfl⟩

instance : Restores ConfigMap where
  read_write := ConfigMap.read_write
  form object := form_of_distinct (WritesMetadata.distinct object)

instance : Restores Secret where
  read_write := Secret.read_write
  form object := form_of_distinct (WritesMetadata.distinct object)

instance : Restores Namespace where
  read_write := Namespace.read_write
  form object := form_of_distinct (WritesMetadata.distinct object)

end Restores

-- An object of any kind that is read with type metadata.
theorem Unstructured.carried {json : Json} {object : Unstructured} {types : TypeMeta}
    (distinct : json.Distinct) (read : Unstructured.read json = some object)
    (typed : object.types = some types) : Carried object := by
  have ⟨_, _, _, metadata, _⟩ := parts_of_read distinct read
  obtain ⟨_, _, metadata⟩ := Option.bind_eq_some_iff.mp metadata
  have again := read_write typed (Metadata.plain_of_read metadata)
  have decoded : Object.decode Unstructured (Object.write object) = .ok object :=
    Object.decode_eq_ok_iff.mpr again
  exact ⟨object, decoded, rfl, decoded⟩

end ReadYourWrites
