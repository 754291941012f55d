import ReadYourWrites.Object.ConfigMap
import ReadYourWrites.Object.Namespace
import ReadYourWrites.Object.Secret

-- Types whose objects all have one kind. An object of such a type tells its kind whatever else it
-- holds, so any two of them ask a cache or a scheme for the same kind.

namespace ReadYourWrites

class Typed (K : Type) [Object K] where
  kind : Kind
  not_unstructured : Object.isUnstructured K = false
  writtenKind? (object : K) : Object.writtenKind? (Object.write object) = some kind

namespace Typed

theorem kind_eq {K : Type} [Object K] [Typed K] (object : K) :
    Object.kind object = .ok (kind K) := by
  simp only [Object.kind, writtenKind? object]

-- What the shared part of the written form says about the kind.
theorem writtenKind?_write {resource : Resource} {m : Metadata} {fields : List (String × Json)}
    (hv : resource.apiVersion ≠ "") (hn : resource.kind.name ≠ "") :
    Object.writtenKind? (write resource m fields) =
      some (.ofApiVersion resource.apiVersion resource.kind.name) := by
  simp [Object.writtenKind?, write, Json.get?, Json.fields?, Json.string?, List.lookup_cons, hv, hn]

end Typed

instance : Typed ConfigMap where
  kind := ConfigMap.resource.kind
  not_unstructured := rfl
  writtenKind? _ := Typed.writtenKind?_write (by decide) (by decide)

instance : Typed Secret where
  kind := Secret.resource.kind
  not_unstructured := rfl
  writtenKind? _ := Typed.writtenKind?_write (by decide) (by decide)

instance : Typed Namespace where
  kind := Namespace.resource.kind
  not_unstructured := rfl
  writtenKind? _ := Typed.writtenKind?_write (by decide) (by decide)

end ReadYourWrites
