import ReadYourWrites.Object.Typed

namespace ReadYourWrites

-- A condition in the status of a namespace.
structure NamespaceCondition where
  lastTransitionTime : Option Timestamp
  message : Option String
  reason : Option String
  status : String
  type : String
deriving DecidableEq, Repr

namespace NamespaceCondition

open Json

def read (json : Json) : Option NamespaceCondition := do
  let _ ← json.fields?
  return {
    lastTransitionTime := ← optional Timestamp.ofJson? json "lastTransitionTime"
    message := ← optional string? json "message"
    reason := ← optional string? json "reason"
    status := ← required string? json "status"
    type := ← required string? json "type" }

def write (condition : NamespaceCondition) : Json :=
  .object (field "lastTransitionTime" Timestamp.toJson condition.lastTransitionTime ++
    field "message" .string condition.message ++ field "reason" .string condition.reason ++
    [("status", .string condition.status), ("type", .string condition.type)])

end NamespaceCondition

structure NamespaceSpec where
  finalizers : Option (List String)
deriving DecidableEq, Repr

namespace NamespaceSpec

open Json

def read (json : Json) : Option NamespaceSpec := do
  let _ ← json.fields?
  return { finalizers := ← optional (listOf string?) json "finalizers" }

def write (spec : NamespaceSpec) : Json :=
  .object (field "finalizers" (ofList .string) spec.finalizers)

end NamespaceSpec

structure NamespaceStatus where
  phase : Option String
  conditions : Option (List NamespaceCondition)
deriving DecidableEq, Repr

namespace NamespaceStatus

open Json

def read (json : Json) : Option NamespaceStatus := do
  let _ ← json.fields?
  return {
    phase := ← optional string? json "phase"
    conditions := ← optional (listOf NamespaceCondition.read) json "conditions" }

def write (status : NamespaceStatus) : Json :=
  .object (field "phase" .string status.phase ++
    field "conditions" (ofList NamespaceCondition.write) status.conditions)

end NamespaceStatus

structure Namespace where
  metadata : Metadata
  spec : Option NamespaceSpec
  status : Option NamespaceStatus
deriving DecidableEq, Repr

namespace Namespace

open Json

def resource : Resource :=
  .core "Namespace" "namespaces"

def read (json : Json) : Option Namespace := do
  return {
    metadata := ← Typed.readMetadata resource json
    spec := ← optional NamespaceSpec.read json "spec"
    status := ← optional NamespaceStatus.read json "status" }

def write (object : Namespace) : Json :=
  Typed.write resource object.metadata
    (field "spec" NamespaceSpec.write object.spec ++
      field "status" NamespaceStatus.write object.status)

instance : Object Namespace where
  read := read
  write := write
  metadata := metadata
  isUnstructured := false

end Namespace

end ReadYourWrites
