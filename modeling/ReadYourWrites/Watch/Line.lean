import ReadYourWrites.Api.Response
import ReadYourWrites.Watch.Event

-- Lines in the stream of a watch. Each line is a JSON record of a type and an object and tells of
-- one change. The type says what form the object has.

namespace ReadYourWrites

inductive Line where
  -- A change, and the resource version of the object in it.
  | change (event : Event) (resourceVersion : Option String)
  | bookmark (resourceVersion : String)
  | refused (refusal : Refusal)
  -- The line has been cut off.
  | incomplete
  | malformed
  -- The line is no text.
  | garbled
deriving DecidableEq, Repr

namespace Line

open Json

-- The type of a line.
inductive Topic where
  | added
  | modified
  | deleted
  | bookmark
  | refusal
deriving DecidableEq, Repr

namespace Topic

def ofName? (name : String) : Option Topic :=
  if name = "ADDED" then some .added
  else if name = "MODIFIED" then some .modified
  else if name = "DELETED" then some .deleted
  else if name = "BOOKMARK" then some .bookmark
  else if name = "ERROR" then some .refusal
  else none

def ofQuotation (name : Quotation) : Except Fault Topic := do
  match ofName? (← name.decode) with
  | some topic => return topic
  | none => throw .malformed

-- A type is written as its name, or as an object with one field of that name, which is null.
def ofTerm : Term → Except Fault Topic
  | .scalar (.string name) => ofQuotation name
  | .scalar (.nothing fault) | .object _ (.broken fault) => .error fault
  | .object _ (.field name value rest) => do
    let topic ← ofQuotation name
    let _ ← value.check .null
    match rest with
    | .closed => return topic
    | .broken fault => throw fault
    | .field _ _ _ => throw .malformed
  | _ => .error .malformed

-- The resource version that a bookmark holds.
def readBookmark (json : Json) : Option String := do
  let fields ← json.fields?
  let _ ← (Unstructured.takeTypes none none fields).1
  required string? (← json.get? "metadata") "resourceVersion"

def bookmarkForm : Form String where
  shape := .record .extensible
    [("metadata", .required, .record .plain [("resourceVersion", .required, .string)])]
  read := readBookmark

def changeForm (event : Unstructured → Event) : Form Line :=
  Unstructured.form.map fun object => .change (event object) object.metadata.resourceVersion

-- The form of the object of a line.
def form : Topic → Form Line
  | .added | .modified => changeForm .applied
  | .deleted => changeForm .deleted
  | .bookmark => bookmarkForm.map .bookmark
  | .refusal => Refusal.form.map .refused

end Topic

inductive Part where
  | type
  | object

def Part.ofName? (name : String) : Option Part :=
  if name = "type" then some .type else if name = "object" then some .object else none

-- The next part of a line in the form of an object, and the fields behind it. Other fields are
-- skipped.
def nextPart : Fields → Except Fault (Option (Part × Term × Fields))
  | .closed => .ok none
  | .broken fault => .error fault
  | .field name value rest => do
    match Part.ofName? (← name.decode) with
    | some part => return some (part, value, rest)
    | none =>
      value.skip
      nextPart rest

-- The line, if no part follows.
def last (line : Line) (rest : Fields) : Except Fault Line := do
  match ← nextPart rest with
  | some _ => throw .malformed
  | none => return line

-- An object that comes before its type is read twice: first by itself.
def ofFields (fields : Fields) : Except Fault Line := do
  match ← nextPart fields with
  | some (.type, type, rest) =>
    let topic ← Topic.ofTerm type
    match ← nextPart rest with
    | some (.object, value, rest) => (← topic.form.ofTerm value).last rest
    | _ => throw .malformed
  | some (.object, value, rest) =>
    let _ ← value.value
    match ← nextPart rest with
    | some (.type, type, rest) =>
      let topic ← Topic.ofTerm type
      (← topic.form.ofTerm value).last rest
    | _ => throw .malformed
  | none => throw .malformed

-- A line in the form of a list: the name of its type, and the object.
def ofItems : Items → Except Fault Line
  | .closed => .error .malformed
  | .broken fault => .error fault
  | .item type rest => do
    let _ ← type.check .string
    let topic ← Topic.ofTerm type
    match rest with
    | .closed => throw .malformed
    | .broken fault => throw fault
    | .item value rest =>
      let line ← topic.form.ofTerm value
      match rest with
      | .closed => return line
      | .broken fault => throw fault
      | .item _ _ => throw .malformed

def ofTerm : Term → Except Fault Line
  | .object _ fields => ofFields fields
  | .array _ items => ofItems items
  | .scalar s => do
    let _ ← s.value
    throw .malformed

def ofDocument (document : Document) : Except Fault Line := do
  let line ← ofTerm document.value
  Fault.check document.ending
  return line

def ofText (text : String) : Line :=
  match ofDocument (.ofText text) with
  | .ok line => line
  | .error .incomplete => .incomplete
  | .error .malformed => .malformed

def ofBytes (bytes : List UInt8) : Line :=
  match String.fromUTF8? ⟨bytes.toArray⟩ with
  | some text => ofText text
  | none => .garbled

end Line

end ReadYourWrites
