import ReadYourWrites.Object.Typed

namespace ReadYourWrites

structure ConfigMap where
  metadata : Metadata
  data : Option (List (String × String))
  binaryData : Option (List (String × List UInt8))
  immutable : Option Bool
deriving DecidableEq, Repr

namespace ConfigMap

open Json

def resource : Resource :=
  .core "ConfigMap" "configmaps"

def read (json : Json) : Option ConfigMap := do
  return {
    metadata := ← Typed.readMetadata resource json
    data := ← optional (mapOf string?) json "data"
    binaryData := ← optional (mapOf Typed.bytes?) json "binaryData"
    immutable := ← optional bool? json "immutable" }

def write (object : ConfigMap) : Json :=
  Typed.write resource object.metadata
    (field "data" (ofMap .string) object.data ++
      field "binaryData" (ofMap Typed.ofBytes) object.binaryData ++
      field "immutable" .bool object.immutable)

instance : Object ConfigMap where
  read := read
  write := write
  metadata := metadata
  isUnstructured := false

end ConfigMap

end ReadYourWrites
