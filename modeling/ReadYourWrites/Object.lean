import ReadYourWrites.Error
import ReadYourWrites.Metadata

-- Types of objects that clients read and write. An object is read from JSON, which can fail, and is
-- written to JSON, which cannot; its kind is what it has written in `apiVersion` and `kind`.

namespace ReadYourWrites

class Object (K : Type) where
  read : Json → Option K
  write : K → Json
  metadata : K → Metadata
  -- Whether the type takes objects of every kind.
  isUnstructured : Bool

namespace Object

-- The kind written in an object, if both parts of it are non-empty texts.
def writtenKind? (json : Json) : Option Kind := do
  let apiVersion ← (← json.get? "apiVersion").string?
  let name ← (← json.get? "kind").string?
  if apiVersion = "" ∨ name = "" then none else some (.ofApiVersion apiVersion name)

variable {K : Type} [Object K]

def kind (object : K) : Except Error Kind :=
  match writtenKind? (write object) with
  | some kind => .ok kind
  | none => .error .missingKind

def key (object : K) : Except Error Key :=
  match (metadata object).key? with
  | some key => .ok key
  | none => .error .missingName

-- Reads an object where text of another form is an error.
def decode (K : Type) [Object K] (json : Json) : Except Error K :=
  match read json with
  | some object => .ok object
  | none => .error .unreadable

-- Objects of one kind in the order of their keys.
def sorted (objects : List K) : List K :=
  objects.mergeSort fun a b => (compareKeys (metadata a) (metadata b)).isLE
where
  compareKeys (a b : Metadata) : Ordering :=
    (Text.compareOptional a.scope b.scope).then (Text.compareOptional a.name b.name)

end Object

-- An object of any type, by what it writes and by its metadata.
structure Written where
  json : Json
  metadata : Metadata
deriving DecidableEq, Repr

namespace Written

def ofObject {K : Type} [Object K] (object : K) : Written :=
  ⟨Object.write object, Object.metadata object⟩

end Written

end ReadYourWrites
