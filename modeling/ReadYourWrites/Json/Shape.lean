import ReadYourWrites.Json.Document
import ReadYourWrites.Json.Field

-- Shapes of JSON texts: what kind of value has to stand where. A text is checked against a shape in
-- the order in which it is written, and the first thing that is wrong with it is reported.

namespace ReadYourWrites.Json

-- What may stand in the place of a part of a record.
inductive Need where
  | required
  -- The part may be missing or null.
  | optional
  -- The part may be missing, and may not be null.
  | defaulted
deriving DecidableEq, Repr

-- How the parts of a record are written.
inductive Style where
  -- In an object, each part once at most, or as a list of the parts in their order, of which the
  -- last ones may be missing. Other fields are skipped.
  | plain
  -- In an object. Of several fields for one part the last counts. Other fields are skipped.
  | loose
  -- In an object, each part once at most. Other fields are kept, all of them and in order.
  | extensible
deriving DecidableEq, Repr

inductive Shape where
  | any
  | scalar (accepts : Json → Bool)
  | list (item : Shape)
  -- An object whose values are all of one shape.
  | map (value : Shape)
  | record (style : Style) (parts : List (String × Need × Shape))

namespace Shape

def null : Shape :=
  .scalar (· == .null)

def string : Shape :=
  .scalar (·.string?.isSome)

def bool : Shape :=
  .scalar (·.bool?.isSome)

def int64 : Shape :=
  .scalar fun json => (int64? json).isSome

def nat16 : Shape :=
  .scalar fun json => (nat16? json).isSome

def nat32 : Shape :=
  .scalar fun json => (nat32? json).isSome

abbrev Parts :=
  List (String × Need × Shape)

-- Whether nothing is missing if there are no parts but the named ones.
def Parts.isComplete (parts : Parts) (names : List String) : Bool :=
  parts.all fun (name, need, _) => need != .required || names.contains name

end Shape

open Shape (Parts)

-- Whether the value of a part may be left open by writing null.
def Need.isNull (need : Need) : Term → Bool
  | .scalar (.word .null none) => need == .optional
  | _ => false

mutual

-- The value of a term of a given shape. A scalar is read to its end before it is refused, an array
-- or object is refused where it begins.
def Term.check : Term → Shape → Except Fault Json
  | .scalar s, shape => do
    let value ← s.value
    match shape with
    | .any => return value
    | .scalar accepts => if accepts value then return value else throw .malformed
    | _ => throw .malformed
  | .array level items, shape => do
    checkLevel level
    match shape with
    | .any => return .array (← items.values)
    | .list item => return .array (← items.checkList item)
    | .record .plain parts => return .object (← items.checkParts parts)
    | _ => throw .malformed
  | .object level fields, shape => do
    checkLevel level
    match shape with
    | .any => return .object (distinct (← fields.values))
    | .map value => return .object (distinct (← fields.checkMap value))
    | .record .extensible parts => return .object (← fields.checkParts .extensible parts [])
    | .record style parts => return .object (distinct (← fields.checkParts style parts []))
    | _ => throw .malformed

def Items.checkList : Items → Shape → Except Fault (List Json)
  | .closed, _ => .ok []
  | .broken fault, _ => .error fault
  | .item value rest, shape => do
    let value ← value.check shape
    return value :: (← rest.checkList shape)

-- The parts of a record in their order.
def Items.checkParts : Items → Parts → Except Fault (List (String × Json))
  | .closed, parts => if parts.isComplete [] then .ok [] else .error .malformed
  | .broken fault, _ => .error fault
  | .item _ _, [] => .error .malformed
  | .item value rest, (name, need, shape) :: parts => do
    let value ← if need.isNull value then pure .null else value.check shape
    return (name, value) :: (← rest.checkParts parts)

def Fields.checkMap : Fields → Shape → Except Fault (List (String × Json))
  | .closed, _ => .ok []
  | .broken fault, _ => .error fault
  | .field name value rest, shape => do
    let name ← name.decode
    let value ← value.check shape
    return (name, value) :: (← rest.checkMap shape)

-- The parts of a record by their names, after those that have been `seen`.
def Fields.checkParts : Fields → Style → Parts → (seen : List String) →
    Except Fault (List (String × Json))
  | .closed, _, parts, seen => if parts.isComplete seen then .ok [] else .error .malformed
  | .broken fault, _, _, _ => .error fault
  | .field name value rest, style, parts, seen => do
    let name ← name.decode
    match parts.lookup name with
    | some (need, shape) =>
      if style != .loose && seen.contains name then throw .malformed
      let value ← if need.isNull value then pure .null else value.check shape
      return (name, value) :: (← rest.checkParts style parts (name :: seen))
    | none =>
      if style == .extensible then
        let value ← value.value
        return (name, value) :: (← rest.checkParts style parts seen)
      else
        value.skip
        rest.checkParts style parts seen

end

-- What the values of a type look like as JSON texts, and how they are read from such a text.
structure Form (α : Type) where
  shape : Shape
  read : Json → Option α

namespace Form

variable {α β : Type}

def map (f : α → β) (form : Form α) : Form β where
  shape := form.shape
  read json := (form.read json).map f

-- Any value.
def json : Form Json where
  shape := .any
  read := some

def ofTerm (form : Form α) (term : Term) : Except Fault α := do
  match form.read (← term.check form.shape) with
  | some value => return value
  | none => throw .malformed

def ofDocument (form : Form α) (document : Document) : Except Fault α := do
  let value ← form.ofTerm document.value
  Fault.check document.ending
  return value

end Form

end ReadYourWrites.Json
