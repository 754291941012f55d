import ReadYourWrites.Json.Field

-- What a caller may ask of the server beyond the object itself.

namespace ReadYourWrites

structure ListOptions where
  labels : Option String
  fields : Option String
  limit : Option Nat
  continueToken : Option String
  -- Seconds after which the server ends a watch.
  timeout : Option Nat
  bookmarks : Bool
deriving DecidableEq, Repr

namespace ListOptions

def default : ListOptions :=
  ⟨none, none, none, none, none, true⟩

instance : Inhabited ListOptions :=
  ⟨default⟩

-- The two selectors as query parameters.
def selectors (options : ListOptions) : List (String × String) :=
  (options.fields.map ("fieldSelector", ·)).toList ++
    (options.labels.map ("labelSelector", ·)).toList

end ListOptions

structure PostOptions where
  dryRun : Bool
  fieldManager : Option String
deriving DecidableEq, Repr

inductive PatchKind where
  | apply
  | json
  | merge
  | strategic
deriving DecidableEq, Repr

namespace PatchKind

def contentType : PatchKind → String
  | .apply => "application/apply-patch+yaml"
  | .json => "application/json-patch+json"
  | .merge => "application/merge-patch+json"
  | .strategic => "application/strategic-merge-patch+json"

end PatchKind

structure Patch where
  kind : PatchKind
  body : Json
deriving DecidableEq, Repr

structure PatchOptions where
  dryRun : Bool
  -- Take over fields that others manage.
  force : Bool
  fieldManager : Option String
deriving DecidableEq, Repr

-- The name of a field manager may have 128 bytes.
def isFieldManager (name : String) : Bool :=
  name.utf8ByteSize ≤ 128

namespace PostOptions

def isValid (options : PostOptions) : Bool :=
  options.fieldManager.all isFieldManager

def parameters (dryRun : Bool) : List (String × String) :=
  if dryRun then [("dryRun", "All")] else []

end PostOptions

namespace PatchOptions

-- Only an applied patch can be forced.
def isValid (options : PatchOptions) (kind : PatchKind) : Bool :=
  options.fieldManager.all isFieldManager && (!options.force || kind == .apply)

def parameters (options : PatchOptions) : List (String × String) :=
  PostOptions.parameters options.dryRun ++ (if options.force then [("force", "true")] else []) ++
    (options.fieldManager.map ("fieldManager", ·)).toList

end PatchOptions

inductive Propagation where
  | orphan
  | background
  | foreground
deriving DecidableEq, Repr

namespace Propagation

def text : Propagation → String
  | .orphan => "Orphan"
  | .background => "Background"
  | .foreground => "Foreground"

end Propagation

-- What the object has to be for its deletion to go ahead.
structure Preconditions where
  uid : Option String
  resourceVersion : Option String
deriving DecidableEq, Repr

structure DeleteOptions where
  dryRun : Bool
  gracePeriodSeconds : Option Nat
  propagation : Option Propagation
  preconditions : Option Preconditions
deriving DecidableEq, Repr

namespace DeleteOptions

open Json

def writePreconditions (p : Preconditions) : Json :=
  .object (field "resourceVersion" .string p.resourceVersion ++ field "uid" .string p.uid)

def write (options : DeleteOptions) : Json :=
  .object (field "dryRun" (ofList .string) (if options.dryRun then some ["All"] else none) ++
    field "gracePeriodSeconds" (fun n : Nat => .integer n) options.gracePeriodSeconds ++
    field "propagationPolicy" (fun p => .string p.text) options.propagation ++
    field "preconditions" writePreconditions options.preconditions)

end DeleteOptions

end ReadYourWrites
