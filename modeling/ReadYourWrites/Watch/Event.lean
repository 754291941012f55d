import ReadYourWrites.Store

-- Events of a watch, and what each of them does to the store. Objects without a name are left out.

namespace ReadYourWrites

inductive Event where
  | applied (object : Unstructured)
  | deleted (object : Unstructured)
  -- A new listing, which replaces all that is known of the kind.
  | restarted (objects : List Unstructured)
deriving DecidableEq, Repr

-- What a watch hands over: an event or a fault in between.
inductive Delivery where
  | event (event : Event)
  | fault
deriving DecidableEq, Repr

-- A line in the log of a cache.
inductive LogEntry where
  | starting
  | handling (event : Event)
  | fault
  | nameless (kind : String)
  | namelessMany (kind : String) (count : Nat)
deriving DecidableEq, Repr

namespace Event

def optionalText : Option String → String
  | some text => "Some(" ++ Text.quote text ++ ")"
  | none => "None"

def objectText (name : String) (m : Metadata) : String :=
  name ++ " \x7b name: " ++ optionalText m.name ++ ", namespace: " ++ optionalText m.scope ++
    " \x7d"

-- The event in short.
def text : Event → String
  | .applied object => objectText "Applied" object.metadata
  | .deleted object => objectText "Deleted" object.metadata
  | .restarted objects => "Restarted \x7b count: " ++ toString objects.length ++ " \x7d"

-- What the log says of an event, besides that it is handled.
def warnings (kind : Kind) : Event → List LogEntry
  | .applied object | .deleted object =>
    if object.metadata.name.isNone then [.nameless kind.name] else []
  | .restarted objects =>
    match objects.countP (·.metadata.name.isNone) with
    | 0 => []
    | count => [.namelessMany kind.name count]

end Event

namespace Store

def handle (store : Store) (kind : Kind) : Event → Store
  | .applied object =>
    match store.insertAs kind object with
    | .ok store => store
    | .error _ => store
  | .deleted object =>
    match object.metadata.key? with
    | some key => store.delete kind key
    | none => store
  | .restarted objects => (store.replace kind objects).1

-- A fault changes nothing.
def deliver (store : Store) (kind : Kind) : Delivery → Store
  | .event e => store.handle kind e
  | .fault => store

end Store

namespace Delivery

def log (kind : Kind) : Delivery → List LogEntry
  | .event e => .handling e :: e.warnings kind
  | .fault => [.fault]

end Delivery

end ReadYourWrites
