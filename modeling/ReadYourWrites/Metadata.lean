import ReadYourWrites.Json.Field
import ReadYourWrites.Json.Shape
import ReadYourWrites.Key
import ReadYourWrites.Time.Timestamp

-- The metadata that every object carries. Each field may be missing. Unknown fields are dropped on
-- reading.

namespace ReadYourWrites

namespace Timestamp

def ofJson? (json : Json) : Option Timestamp := do
  read (← json.string?)

def toJson (t : Timestamp) : Json :=
  .string t.text

def shape : Json.Shape :=
  .scalar fun json => (ofJson? json).isSome

end Timestamp

structure OwnerReference where
  apiVersion : String
  kind : String
  name : String
  uid : String
  controller : Option Bool
  blockOwnerDeletion : Option Bool
deriving DecidableEq, Repr

namespace OwnerReference

open Json

def read (json : Json) : Option OwnerReference := do
  let _ ← json.fields?
  return {
    apiVersion := ← required string? json "apiVersion"
    kind := ← required string? json "kind"
    name := ← required string? json "name"
    uid := ← required string? json "uid"
    controller := ← optional bool? json "controller"
    blockOwnerDeletion := ← optional bool? json "blockOwnerDeletion" }

def write (owner : OwnerReference) : Json :=
  .object ([("apiVersion", .string owner.apiVersion), ("kind", .string owner.kind),
    ("name", .string owner.name), ("uid", .string owner.uid)] ++
    field "controller" .bool owner.controller ++
    field "blockOwnerDeletion" .bool owner.blockOwnerDeletion)

def shape : Shape :=
  .record .loose [("apiVersion", .required, .string), ("kind", .required, .string),
    ("name", .required, .string), ("uid", .required, .string),
    ("controller", .optional, .bool), ("blockOwnerDeletion", .optional, .bool)]

end OwnerReference

-- Which fields of an object one manager has set.
structure ManagedFields where
  apiVersion : Option String
  fieldsType : Option String
  fields : Option Json
  manager : Option String
  operation : Option String
  subresource : Option String
  time : Option Timestamp
deriving DecidableEq, Repr

namespace ManagedFields

open Json

def read (json : Json) : Option ManagedFields := do
  let _ ← json.fields?
  return {
    apiVersion := ← optional string? json "apiVersion"
    fieldsType := ← optional string? json "fieldsType"
    fields := ← optional some json "fieldsV1"
    manager := ← optional string? json "manager"
    operation := ← optional string? json "operation"
    subresource := ← optional string? json "subresource"
    time := ← optional Timestamp.ofJson? json "time" }

def write (managed : ManagedFields) : Json :=
  .object (field "apiVersion" .string managed.apiVersion ++
    field "fieldsType" .string managed.fieldsType ++ field "fieldsV1" id managed.fields ++
    field "manager" .string managed.manager ++ field "operation" .string managed.operation ++
    field "subresource" .string managed.subresource ++
    field "time" Timestamp.toJson managed.time)

def shape : Shape :=
  .record .loose [("apiVersion", .optional, .string), ("fieldsType", .optional, .string),
    ("fieldsV1", .optional, .any), ("manager", .optional, .string),
    ("operation", .optional, .string), ("subresource", .optional, .string),
    ("time", .optional, Timestamp.shape)]

end ManagedFields

structure Metadata where
  name : Option String
  scope : Option String
  uid : Option String
  resourceVersion : Option String
  generateName : Option String
  selfLink : Option String
  clusterName : Option String
  labels : Option (List (String × String))
  annotations : Option (List (String × String))
  finalizers : Option (List String)
  generation : Option Int64
  deletionGracePeriodSeconds : Option Int64
  creationTimestamp : Option Timestamp
  deletionTimestamp : Option Timestamp
  ownerReferences : Option (List OwnerReference)
  managedFields : Option (List ManagedFields)
deriving DecidableEq, Repr

namespace Metadata

open Json

def empty : Metadata :=
  ⟨none, none, none, none, none, none, none, none, none, none, none, none, none, none, none, none⟩

instance : Inhabited Metadata :=
  ⟨empty⟩

def read (json : Json) : Option Metadata := do
  let _ ← json.fields?
  return {
    name := ← optional string? json "name"
    scope := ← optional string? json "namespace"
    uid := ← optional string? json "uid"
    resourceVersion := ← optional string? json "resourceVersion"
    generateName := ← optional string? json "generateName"
    selfLink := ← optional string? json "selfLink"
    clusterName := ← optional string? json "clusterName"
    labels := ← optional (mapOf string?) json "labels"
    annotations := ← optional (mapOf string?) json "annotations"
    finalizers := ← optional (listOf string?) json "finalizers"
    generation := ← optional int64? json "generation"
    deletionGracePeriodSeconds := ← optional int64? json "deletionGracePeriodSeconds"
    creationTimestamp := ← optional Timestamp.ofJson? json "creationTimestamp"
    deletionTimestamp := ← optional Timestamp.ofJson? json "deletionTimestamp"
    ownerReferences := ← optional (listOf OwnerReference.read) json "ownerReferences"
    managedFields := ← optional (listOf ManagedFields.read) json "managedFields" }

def write (m : Metadata) : Json :=
  .object (field "name" .string m.name ++ field "namespace" .string m.scope ++
    field "uid" .string m.uid ++ field "resourceVersion" .string m.resourceVersion ++
    field "generateName" .string m.generateName ++ field "selfLink" .string m.selfLink ++
    field "clusterName" .string m.clusterName ++ field "labels" (ofMap .string) m.labels ++
    field "annotations" (ofMap .string) m.annotations ++
    field "finalizers" (ofList .string) m.finalizers ++
    field "generation" ofInt64 m.generation ++
    field "deletionGracePeriodSeconds" ofInt64 m.deletionGracePeriodSeconds ++
    field "creationTimestamp" Timestamp.toJson m.creationTimestamp ++
    field "deletionTimestamp" Timestamp.toJson m.deletionTimestamp ++
    field "ownerReferences" (ofList OwnerReference.write) m.ownerReferences ++
    field "managedFields" (ofList ManagedFields.write) m.managedFields)

def shape : Shape :=
  .record .loose [("name", .optional, .string), ("namespace", .optional, .string),
    ("uid", .optional, .string), ("resourceVersion", .optional, .string),
    ("generateName", .optional, .string), ("selfLink", .optional, .string),
    ("clusterName", .optional, .string), ("labels", .optional, .map .string),
    ("annotations", .optional, .map .string), ("finalizers", .optional, .list .string),
    ("generation", .optional, .int64), ("deletionGracePeriodSeconds", .optional, .int64),
    ("creationTimestamp", .optional, Timestamp.shape),
    ("deletionTimestamp", .optional, Timestamp.shape),
    ("ownerReferences", .optional, .list OwnerReference.shape),
    ("managedFields", .optional, .list ManagedFields.shape)]

-- The key that the metadata names. There is none without a name.
def key? (m : Metadata) : Option Key :=
  m.name.map fun name => ⟨m.scope, name⟩

end Metadata

end ReadYourWrites
