import ReadYourWrites.Json.Shape

-- Reading the structure of JSON texts, one character at a time. `Reader.step` takes one character
-- and refuses it as soon as no JSON text can go on like this. What has been read until then, or
-- until the end of the text, is closed with a fault.

namespace ReadYourWrites.Json.Reader

open Text (isDigit)

-- An array or object that is still open. What it holds already is in reverse order.
inductive Frame where
  | array (items : List Term)
  | object (fields : List (Quotation × Term))
  -- An object in which the field `name` still waits for its value.
  | field (fields : List (Quotation × Term)) (name : Quotation)

-- How far a number has been read.
inductive Part where
  | sign | zero | digits | point | fraction | exponent | exponentSign | exponentDigits

-- How far an escaped character has been read. A number takes four bytes, whatever they are, and is
-- missing if one of them is no digit.
inductive Escape where
  | none
  | letter
  | hex (value : Option Nat) (missing : Nat)

inductive Mode where
  | value
  | itemOrEnd
  | nameOrEnd
  | name
  | colon
  | done
  | word (rest : List Char) (meaning : Json)
  | number (part : Part) (read : List Char)
  | string (escape : Escape) (read : List Glyph)

structure State where
  frames : List Frame
  mode : Mode
  result : Option Term

def start : State :=
  ⟨[], .value, none⟩

def isSpace (c : Char) : Bool :=
  c == ' ' || c == '\n' || c == '\t' || c == '\r'

-- The items of an array, given in reverse order, and its end.
def itemsOf (reversed : List Term) (ending : Items) : Items :=
  reversed.foldl (fun rest value => .item value rest) ending

def fieldsOf (reversed : List (Quotation × Term)) (ending : Fields) : Fields :=
  reversed.foldl (fun rest (name, value) => .field name value rest) ending

namespace State

-- A value has been read to its end.
def finish (s : State) (value : Term) : State :=
  match s.frames with
  | [] => { s with mode := .done, result := some value }
  | .array items :: rest => { s with frames := .array (value :: items) :: rest, mode := .done }
  | .field fields name :: rest =>
    { s with frames := .object ((name, value) :: fields) :: rest, mode := .done }
  | .object _ :: _ => s

def finishScalar (s : State) (value : Scalar) : State :=
  s.finish (.scalar value)

-- A string has been read to its end: the name of a field or a value.
def finishString (s : State) (quotation : Quotation) : State :=
  match s.frames with
  | .object fields :: rest => { s with frames := .field fields quotation :: rest, mode := .colon }
  | _ => s.finishScalar (.string quotation)

def push (s : State) (frame : Frame) (mode : Mode) : State :=
  { s with frames := frame :: s.frames, mode }

-- Ends the innermost array or object.
def pop (s : State) : Option State :=
  match s.frames with
  | .array items :: rest =>
    some ({ s with frames := rest }.finish (.array s.frames.length (itemsOf items .closed)))
  | .object fields :: rest =>
    some ({ s with frames := rest }.finish (.object s.frames.length (fieldsOf fields .closed)))
  | _ => none

def within (s : State) (mode : Mode) : State :=
  { s with mode }

end State

def stepValue (s : State) (c : Char) : Option State :=
  if isSpace c then some s
  else if c = '\x7b' then some (s.push (.object []) .nameOrEnd)
  else if c = '[' then some (s.push (.array []) .itemOrEnd)
  else if c = '"' then some (s.within (.string .none []))
  else if c = '-' then some (s.within (.number .sign [c]))
  else if c = '0' then some (s.within (.number .zero [c]))
  else if isDigit c then some (s.within (.number .digits [c]))
  else if c = 'n' then some (s.within (.word ['u', 'l', 'l'] .null))
  else if c = 't' then some (s.within (.word ['r', 'u', 'e'] (.bool true)))
  else if c = 'f' then some (s.within (.word ['a', 'l', 's', 'e'] (.bool false)))
  else none

def stepDone (s : State) (c : Char) : Option State :=
  if isSpace c then some s
  else match s.frames with
    | .array _ :: _ =>
      if c = ',' then some (s.within .value) else if c = ']' then s.pop else none
    | .object _ :: _ =>
      if c = ',' then some (s.within .name) else if c = '\x7d' then s.pop else none
    | _ => none

-- The part of a number that one more character leads to.
def Part.next (c : Char) : Part → Option Part
  | .sign => if c = '0' then some .zero else if isDigit c then some .digits else none
  | .zero => pointOrExponent c
  | .digits => if isDigit c then some .digits else pointOrExponent c
  | .point => if isDigit c then some .fraction else none
  | .fraction =>
    if isDigit c then some .fraction
    else if c = 'e' || c = 'E' then some .exponent else none
  | .exponent =>
    if isDigit c then some .exponentDigits
    else if c = '+' || c = '-' then some .exponentSign else none
  | .exponentSign => if isDigit c then some .exponentDigits else none
  | .exponentDigits => if isDigit c then some .exponentDigits else none
where
  pointOrExponent (c : Char) : Option Part :=
    if c = '.' then some .point else if c = 'e' || c = 'E' then some .exponent else none

-- Whether a number may end here.
def Part.isComplete : Part → Bool
  | .zero | .digits | .fraction | .exponentDigits => true
  | _ => false

def stepNumber (s : State) (part : Part) (read : List Char) (c : Char) : Option State :=
  match part, part.next c with
  | _, some part => some (s.within (.number part (c :: read)))
  | .zero, none => if isDigit c then none else stepDone (finished s read) c
  | part, none => if part.isComplete then stepDone (finished s read) c else none
where
  finished (s : State) (read : List Char) : State :=
    s.finishScalar (.number read.reverse none)

def hexValue? (c : Char) : Option Nat :=
  if isDigit c then some (c.toNat - '0'.toNat)
  else if 'a' ≤ c ∧ c ≤ 'f' then some (c.toNat - 'a'.toNat + 10)
  else if 'A' ≤ c ∧ c ≤ 'F' then some (c.toNat - 'A'.toNat + 10)
  else none

def letterMeaning? (c : Char) : Option Char :=
  if c = '"' || c = '\\' || c = '/' then some c
  else if c = 'b' then some '\x08'
  else if c = 'f' then some '\x0c'
  else if c = 'n' then some '\n'
  else if c = 'r' then some '\r'
  else if c = 't' then some '\t'
  else none

def stepString (s : State) (escape : Escape) (read : List Glyph) (c : Char) : Option State :=
  match escape with
  | .none =>
    if c = '"' then some (s.finishString ⟨read.reverse, none⟩)
    else if c = '\\' then some (s.within (.string .letter read))
    else if c.toNat < 0x20 then none
    else some (s.within (.string .none (.plain c :: read)))
  | .letter =>
    if c = 'u' then some (s.within (.string (.hex (some 0) 4) read))
    else (letterMeaning? c).map fun c => s.within (.string .none (.plain c :: read))
  | .hex value missing =>
    let value := do return 16 * (← value) + (← hexValue? c)
    if c.utf8Size < missing then some (s.within (.string (.hex value (missing - c.utf8Size)) read))
    else value.map fun n => s.within (.string .none (.unit n :: read))

-- The state after one more character, unless no text can go on with it.
def step (s : State) (c : Char) : Option State :=
  match s.mode with
  | .value => stepValue s c
  | .itemOrEnd => if c = ']' then s.pop else stepValue s c
  | .nameOrEnd => if c = '\x7d' then s.pop else stepName s c
  | .name => stepName s c
  | .colon => if isSpace c then some s else if c = ':' then some (s.within .value) else none
  | .done => stepDone s c
  | .word (w :: rest) meaning =>
    if c ≠ w then none
    else if rest = [] then some (s.finishScalar (.word meaning none))
    else some (s.within (.word rest meaning))
  | .word [] _ => none
  | .number part read => stepNumber s part read c
  | .string escape read => stepString s escape read c
where
  stepName (s : State) (c : Char) : Option State :=
    if isSpace c then some s else if c = '"' then some (s.within (.string .none [])) else none

-- Closes the arrays and objects that are open around a value.
def wrap (fault : Fault) (value : Option Term) : List Frame → Option Term
  | [] => value
  | .array items :: rest =>
    let items := value.toList ++ items
    wrap fault (some (.array (rest.length + 1) (itemsOf items (.broken fault)))) rest
  | .object fields :: rest =>
    wrap fault (some (.object (rest.length + 1) (fieldsOf fields (.broken fault)))) rest
  | .field fields name :: rest =>
    let fields := (name, value.getD (.scalar (.nothing fault))) :: fields
    wrap fault (some (.object (rest.length + 1) (fieldsOf fields (.broken fault)))) rest

namespace State

-- What has been read of the value at hand, if one has been begun or is due.
def begun (s : State) (fault : Fault) : Option Scalar :=
  match s.mode with
  | .value => some (.nothing fault)
  | .word _ meaning => some (.word meaning (some fault))
  | .number part read => some (.number read.reverse (if part.isComplete then none else some fault))
  | .string _ read => some (.string ⟨read.reverse, some fault⟩)
  | _ => none

-- The state in which a name that has been begun or is due stands in its object.
def withName (s : State) (fault : Fault) : State :=
  match s.mode, s.frames with
  | .string _ read, .object fields :: rest =>
    { s with frames := .field fields ⟨read.reverse, some fault⟩ :: rest, mode := .colon }
  | .name, .object fields :: rest =>
    { s with frames := .field fields ⟨[], some fault⟩ :: rest, mode := .colon }
  | _, _ => s

-- The text up to a fault.
def close (s : State) (fault : Fault) : Term :=
  let s := s.withName fault
  let value := match s.begun fault with
    | some scalar => some (.scalar scalar)
    | none => s.result
  (wrap fault value s.frames).getD (.scalar (.nothing fault))

end State

-- Reads on from a state. The end of the text is no fault if the value has ended.
def read (s : State) : List Char → Document
  | [] => ⟨s.close .incomplete, none⟩
  | c :: cs =>
    match step s c with
    | some s => read s cs
    | none => ⟨s.close .malformed, some .malformed⟩

end Reader

def Document.ofText (text : String) : Document :=
  Reader.read Reader.start text.toList

-- The value that a text stands for.
def parse (text : String) : Except Fault Json :=
  Form.json.ofDocument (.ofText text)

end ReadYourWrites.Json
