import ReadYourWrites.Object
import ReadYourWrites.Resource
import ReadYourWrites.Text.Base64

-- What the types of one kind of objects have in common. Their kind need not be written, but where
-- it is it has to be their own.

namespace ReadYourWrites.Typed

open Json

-- Whether a part of the type metadata is missing or is the given text.
def isOwn (json : Json) (name text : String) : Bool :=
  match json.get? name with
  | none => true
  | some value => value == .string text

-- The metadata of an object whose type metadata does not say that it is of another kind.
def readMetadata (resource : Resource) (json : Json) : Option Metadata := do
  guard (isOwn json "apiVersion" resource.apiVersion && isOwn json "kind" resource.kind.name)
  required Metadata.read json "metadata"

-- An object with its type metadata, its metadata and some further fields.
def write (resource : Resource) (metadata : Metadata) (fields : List (String × Json)) : Json :=
  .object (("apiVersion", .string resource.apiVersion) :: ("kind", .string resource.kind.name) ::
    ("metadata", metadata.write) :: fields)

def bytes? (json : Json) : Option (List UInt8) := do
  Text.Base64.decode (← json.string?).toList

def ofBytes (bytes : List UInt8) : Json :=
  .string (.ofList (Text.Base64.encode bytes))

end ReadYourWrites.Typed
