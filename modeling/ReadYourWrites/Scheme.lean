import ReadYourWrites.Error
import ReadYourWrites.Json.Basic
import ReadYourWrites.Resource
import ReadYourWrites.Table

-- Schemes: the kinds that a client knows, each with its resource and with a template, the object
-- that reads from the cache start from.

namespace ReadYourWrites

structure Registration where
  resource : Resource
  template : Json

abbrev Scheme :=
  Table Kind Registration

namespace Scheme

-- Registers a resource under its own kind. A later registration replaces an earlier one.
def register (scheme : Scheme) (resource : Resource) (template : Json) : Scheme :=
  scheme.insert resource.kind ⟨resource, template⟩

-- The template of a kind that has nothing but its type metadata.
def bareTemplate (resource : Resource) : Json :=
  .object [("apiVersion", .string resource.apiVersion), ("kind", .string resource.kind.name),
    ("metadata", .object [])]

def isRegistered (scheme : Scheme) (kind : Kind) : Bool :=
  scheme.contains kind

def resource? (scheme : Scheme) (kind : Kind) : Option Resource :=
  (scheme.get? kind).map (·.resource)

def template (scheme : Scheme) (kind : Kind) : Except Error Json :=
  match scheme.get? kind with
  | some registration => .ok registration.template
  | none => .error (.notRegistered kind)

-- The registered resource of a kind, or the one that its name suggests.
def resourceOf (scheme : Scheme) (kind : Kind) : Resource :=
  (scheme.resource? kind).getD (.ofKind kind)

end Scheme

end ReadYourWrites
