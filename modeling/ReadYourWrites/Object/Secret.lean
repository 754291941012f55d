import ReadYourWrites.Object.Typed

namespace ReadYourWrites

structure Secret where
  metadata : Metadata
  data : Option (List (String × List UInt8))
  stringData : Option (List (String × String))
  immutable : Option Bool
  type : Option String
deriving DecidableEq, Repr

namespace Secret

open Json

def resource : Resource :=
  .core "Secret" "secrets"

def read (json : Json) : Option Secret := do
  return {
    metadata := ← Typed.readMetadata resource json
    data := ← optional (mapOf Typed.bytes?) json "data"
    stringData := ← optional (mapOf string?) json "stringData"
    immutable := ← optional bool? json "immutable"
    type := ← optional string? json "type" }

def write (object : Secret) : Json :=
  Typed.write resource object.metadata
    (field "data" (ofMap Typed.ofBytes) object.data ++
      field "stringData" (ofMap .string) object.stringData ++
      field "immutable" .bool object.immutable ++ field "type" .string object.type)

instance : Object Secret where
  read := read
  write := write
  metadata := metadata
  isUnstructured := false

end Secret

end ReadYourWrites
