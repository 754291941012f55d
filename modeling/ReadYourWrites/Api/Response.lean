import ReadYourWrites.Api.Status
import ReadYourWrites.Json.Reread
import ReadYourWrites.Object.Unstructured

-- Answers of the server: whether one is an error, and how its body reads as what was asked for.

namespace ReadYourWrites

-- The body of an answer: a JSON value, a text that may or may not be one, or bytes.
inductive Body where
  | json (value : Json)
  | text (text : String)
  | bytes (bytes : List UInt8)
deriving DecidableEq, Repr

structure Response where
  status : Nat
  body : Body
deriving DecidableEq, Repr

namespace Refusal

open Json

def read (json : Json) : Option Refusal := do
  let json ← record ["status", "message", "reason", "code"] json
  return {
    status := ← required string? json "status"
    message := ← withDefault "" string? json "message"
    reason := ← withDefault "" string? json "reason"
    code := ← required nat16? json "code" }

def form : Form Refusal where
  shape := .record .plain [("status", .required, .string), ("message", .defaulted, .string),
    ("reason", .defaulted, .string), ("code", .required, .nat16)]
  read := read

-- The account of an error whose body does not give one.
def ofUnreadable (status : Nat) (body : String) : Refusal where
  status := Status.text status
  message := Text.quote body
  reason := "Failed to parse error data"
  code := status

end Refusal

-- What the server says of a deletion that it has done at once.
structure StatusReport where
  status : String
  code : Nat
deriving DecidableEq, Repr

namespace StatusReport

open Json

def readCause (json : Json) : Option Unit := do
  let json ← record ["reason", "message", "field"] json
  let _ ← withDefault "" string? json "reason"
  let _ ← withDefault "" string? json "message"
  let _ ← withDefault "" string? json "field"

def causeShape : Shape :=
  .record .plain [("reason", .defaulted, .string), ("message", .defaulted, .string),
    ("field", .defaulted, .string)]

def readDetails (json : Json) : Option Unit := do
  let json ← record ["name", "group", "kind", "uid", "causes", "retryAfterSeconds"] json
  let _ ← withDefault "" string? json "name"
  let _ ← withDefault "" string? json "group"
  let _ ← withDefault "" string? json "kind"
  let _ ← withDefault "" string? json "uid"
  let _ ← withDefault [] (listOf readCause) json "causes"
  let _ ← withDefault 0 nat32? json "retryAfterSeconds"

def detailsShape : Shape :=
  .record .plain [("name", .defaulted, .string), ("group", .defaulted, .string),
    ("kind", .defaulted, .string), ("uid", .defaulted, .string),
    ("causes", .defaulted, .list causeShape), ("retryAfterSeconds", .defaulted, .nat32)]

def read (json : Json) : Option StatusReport := do
  let _ ← json.fields?
  let code ← withDefault 0 nat16? json "code"
  let status ← withDefault "" string? json "status"
  let _ ← withDefault "" string? json "message"
  let _ ← withDefault "" string? json "reason"
  let _ ← optional readDetails json "details"
  return { status, code }

def form : Form StatusReport where
  shape := .record .plain [("status", .defaulted, .string), ("code", .defaulted, .nat16),
    ("message", .defaulted, .string), ("reason", .defaulted, .string),
    ("details", .optional, detailsShape)]
  read := read

end StatusReport

-- A list of objects as the server gives it.
structure Listing where
  resourceVersion : Option String
  items : List Unstructured
deriving DecidableEq, Repr

namespace Listing

open Json

def readMetadata (json : Json) : Option (Option String) := do
  let _ ← json.fields?
  let _ ← optional string? json "continue"
  let _ ← optional int64? json "remainingItemCount"
  let _ ← optional string? json "selfLink"
  optional string? json "resourceVersion"

def metadataShape : Shape :=
  .record .loose [("continue", .optional, .string), ("remainingItemCount", .optional, .int64),
    ("selfLink", .optional, .string), ("resourceVersion", .optional, .string)]

def read (json : Json) : Option Listing := do
  let json ← record ["metadata", "items"] json
  return {
    resourceVersion := ← required readMetadata json "metadata"
    items := ← required (listOf Unstructured.read) json "items" }

def form : Form Listing where
  shape := .record .plain [("metadata", .required, metadataShape),
    ("items", .required, .list Unstructured.form.shape)]
  read := read

end Listing

namespace Body

open Json

-- The body in which a value is sent.
def ofJson (value : Json) : Body :=
  if value.isStable then .json value else .text value.compact

def text? : Body → Option String
  | .json value => some value.compact
  | .text s => some s
  | .bytes bs => String.fromUTF8? ⟨bs.toArray⟩

-- The value of a given form that a body stands for.
def read? {α : Type} (form : Form α) : Body → Option α
  | .json value => form.read value
  | body => do (form.ofDocument (.ofText (← body.text?))).toOption

-- The kind that a body names, unless it is no JSON text.
def kind? (body : Body) : Option (Option Json) := do
  return (← body.read? .json).get? "kind"

end Body

namespace Response

-- The answer's body, unless the answer is an error or no text.
def content (response : Response) : Except Failure Body :=
  match response.body.text? with
  | none => .error .notUtf8
  | some text =>
    if Status.isError response.status then
      match response.body.read? Refusal.form with
      | some refusal => .error (.refused refusal)
      | none => .error (.refused (.ofUnreadable response.status text))
    else .ok response.body

-- What `read` makes of the answer's body.
def decode {α : Type} (read : Body → Option α) (response : Response) : Except Failure α := do
  match read (← response.content) with
  | some value => return value
  | none => throw .unexpectedAnswer

def object (response : Response) : Except Failure Unstructured :=
  response.decode (·.read? Unstructured.form)

def listing (response : Response) : Except Failure Listing :=
  response.decode (·.read? Listing.form)

-- An answer to a deletion: a status report, or else a value of a given form.
def deletion {α : Type} (form : Json.Form α) (response : Response) : Except Failure Unit :=
  response.decode fun body => do
    if (← body.kind?) = some (.string "Status") then
      (body.read? StatusReport.form).map fun _ => ()
    else (body.read? form).map fun _ => ()

end Response

end ReadYourWrites
