import ReadYourWrites.Text.Split

-- Kinds of objects: a group, a version and a name. Objects and paths give group and version as one
-- text, the API version: the group, a slash and the version, or the version alone in the empty
-- group.

namespace ReadYourWrites

structure Kind where
  group : String
  version : String
  name : String
deriving DecidableEq, Repr

namespace Kind

def apiVersion (kind : Kind) : String :=
  if kind.group = "" then kind.version else kind.group ++ "/" ++ kind.version

-- The first slash ends the group. Without a slash the group is empty.
def ofApiVersion (apiVersion name : String) : Kind :=
  match Text.splitFirst ['/'] apiVersion.toList with
  | some (group, version) => ⟨.ofList group, .ofList version, name⟩
  | none => ⟨"", apiVersion, name⟩

end Kind

end ReadYourWrites
