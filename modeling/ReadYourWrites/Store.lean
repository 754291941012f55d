import ReadYourWrites.Api.Options
import ReadYourWrites.Object.Unstructured
import ReadYourWrites.Selector
import ReadYourWrites.Table

-- The store of the cache: for each kind that it tracks the objects by key, and whether the kind has
-- been listed. Reads of a kind that is not tracked or not yet listed fail.

namespace ReadYourWrites

-- The objects of one kind, in written form.
structure Collection where
  objects : Table Key Json
  synced : Bool

structure Store where
  kinds : Table Kind Collection

namespace Store

def empty : Store :=
  ⟨.empty⟩

instance : Inhabited Store :=
  ⟨empty⟩

def isTracked (store : Store) (kind : Kind) : Bool :=
  store.kinds.contains kind

def hasSynced (store : Store) (kind : Kind) : Bool :=
  (store.kinds.get? kind).any (·.synced)

def set (store : Store) (kind : Kind) (collection : Collection) : Store :=
  ⟨store.kinds.insert kind collection⟩

-- Tracks a kind, which stays as it is if it is tracked already.
def track (store : Store) (kind : Kind) : Store :=
  if store.isTracked kind then store else store.set kind ⟨.empty, false⟩

-- Puts an object under its key. A kind that is met here for the first time counts as listed.
def put (store : Store) (kind : Kind) (key : Key) (value : Json) : Store :=
  match store.kinds.get? kind with
  | some c => store.set kind { c with objects := c.objects.insert key value }
  | none => store.set kind ⟨Table.empty.insert key value, true⟩

-- Puts an object of any type under its own kind.
def insertWritten (store : Store) (object : Written) : Except Error Store :=
  match Object.writtenKind? object.json, object.metadata.key? with
  | some kind, some key => .ok (store.put kind key object.json)
  | none, _ => .error .missingKind
  | some _, none => .error .missingName

def insert {K : Type} [Object K] (store : Store) (object : K) : Except Error Store :=
  store.insertWritten (.ofObject object)

-- Puts an object under the given kind, whatever kind the object itself has. Only a missing name stops
-- it: every unstructured object can be written.
def insertAs (store : Store) (kind : Kind) (object : Unstructured) : Except Error Store :=
  match object.metadata.key? with
  | some key => .ok (store.put kind key object.write)
  | none => .error .missingName

def delete (store : Store) (kind : Kind) (key : Key) : Store :=
  match store.kinds.get? kind with
  | some c => store.set kind { c with objects := c.objects.erase key }
  | none => store

def keyed (object : Unstructured) : Option (Key × Json) :=
  object.metadata.key?.map (·, object.write)

-- Takes in a whole listing of a kind. Objects without a name are left out and returned. All others can
-- be written, so that no object stops the listing.
def replace (store : Store) (kind : Kind) (objects : List Unstructured) :
    Store × List Unstructured :=
  (store.set kind ⟨.ofList (objects.filterMap keyed), true⟩,
    objects.filter fun object => object.metadata.key?.isNone)

-- Drops all objects of a kind until it is listed again.
def reset (store : Store) (kind : Kind) : Store :=
  store.set kind ⟨.empty, false⟩

-- The objects of a kind that can be read.
def readable (store : Store) (kind : Kind) : Except Error (Table Key Json) :=
  match store.kinds.get? kind with
  | none => .error (.notRegistered kind)
  | some c => if c.synced then .ok c.objects else .error (.notSynced kind)

-- The stored form of the object that has the given key and the kind of `held`.
def find (store : Store) (held : Json) (key : Key) : Except Error Json := do
  match Object.writtenKind? held with
  | none => throw .missingKind
  | some kind =>
    match (← store.readable kind).get? key with
    | some value => return value
    | none => throw (.notFound kind.name key)

-- Reads an object of the same kind as `held`.
def get {K : Type} [Object K] (store : Store) (key : Key) (held : K) : Except Error K := do
  Object.decode K (← store.find (Object.write held) key)

-- The value of a label of a stored object.
def label (value : Json) (name : String) : Option String := do
  (← (← value.at? ["metadata", "labels"]).get? name).string?

def selector (options : ListOptions) : Except Error Selector :=
  if options.fields.isSome then
    .error (.invalidSelector "field selectors are not supported by the cache")
  else match options.labels with
    | none => .ok []
    | some text =>
      match Selector.parse text with
      | .ok selector => .ok selector
      | .error text => .error (.invalidSelector text)

-- Whether a stored object is in the given namespace, or in any if none is given, and has the labels
-- asked for.
def admits (scope : Option String) (selector : Selector) (entry : Key × Json) : Bool :=
  (scope.isNone || entry.1.scope == scope) && selector.admits (label entry.2)

-- The stored forms of the objects of a kind that the options select.
def select (store : Store) (kind : Kind) (scope : Option String) (options : ListOptions) :
    Except Error (List Json) := do
  let selector ← selector options
  let objects ← store.readable kind
  return (objects.entries.filter (admits scope selector)).map Prod.snd

def list (K : Type) [Object K] (store : Store) (kind : Kind) (scope : Option String)
    (options : ListOptions) : Except Error (List K) := do
  (← store.select kind scope options).mapM (Object.decode K)

end Store

end ReadYourWrites
