import ReadYourWrites.Json.Basic

-- Reading and writing the fields of objects. A field that may be missing counts as missing when it
-- is null, and is left out when it has no value.

namespace ReadYourWrites.Json

variable {α : Type}

-- A record is an object, or else the list of the values of its fields in order, of which the last
-- ones may be missing.
def record (names : List String) : Json → Option Json
  | .object fields => some (.object fields)
  | .array items =>
    if items.length ≤ names.length then some (.object (names.zip items)) else none
  | _ => none

def listOf (read : Json → Option α) (json : Json) : Option (List α) := do
  (← json.items?).mapM read

-- The fields of an object whose values are all of one kind.
def mapOf (read : Json → Option α) (json : Json) : Option (List (String × α)) := do
  (← json.fields?).mapM fun (name, value) => (read value).map (name, ·)

def required (read : Json → Option α) (json : Json) (name : String) : Option α := do
  read (← json.get? name)

def optional (read : Json → Option α) (json : Json) (name : String) : Option (Option α) :=
  match json.get? name with
  | none | some .null => some none
  | some value => (read value).map some

-- A field that has the value `default` when it is missing, and may not be null.
def withDefault (default : α) (read : Json → Option α) (json : Json) (name : String) : Option α :=
  match json.get? name with
  | none => some default
  | some value => read value

-- A field as written: nothing without a value.
def field (name : String) (write : α → Json) : Option α → List (String × Json)
  | none => []
  | some value => [(name, write value)]

def ofList (write : α → Json) (items : List α) : Json :=
  .array (items.map write)

def ofMap (write : α → Json) (fields : List (String × α)) : Json :=
  .object (fields.map fun (name, value) => (name, write value))

-- Integers of 64 bits with a sign.
def int64? (json : Json) : Option Int64 :=
  (json.integer? Int64.minValue.toInt Int64.maxValue.toInt).map .ofInt

def ofInt64 (n : Int64) : Json :=
  .integer n.toInt

-- Naturals of 16 bits.
def nat16? (json : Json) : Option Nat :=
  (json.integer? 0 65_535).map Int.toNat

-- Naturals of 32 bits.
def nat32? (json : Json) : Option Nat :=
  (json.integer? 0 4_294_967_295).map Int.toNat

end ReadYourWrites.Json
