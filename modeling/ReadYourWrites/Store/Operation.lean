import ReadYourWrites.Store

-- Changes of a store as data, and the store after a sequence of them.

namespace ReadYourWrites

inductive Operation where
  | track (kind : Kind)
  | insert (object : Written)
  | insertAs (kind : Kind) (object : Unstructured)
  | delete (kind : Kind) (key : Key)
  | replace (kind : Kind) (objects : List Unstructured)
  | reset (kind : Kind)
deriving DecidableEq, Repr

namespace Operation

-- The store after an operation, and the objects of a listing that have no name. An operation that
-- fails leaves the store as it is.
def run (store : Store) : Operation → Store × Except Error (List Unstructured)
  | .track kind => (store.track kind, .ok [])
  | .insert object =>
    match store.insertWritten object with
    | .ok store => (store, .ok [])
    | .error e => (store, .error e)
  | .insertAs kind object =>
    match store.insertAs kind object with
    | .ok store => (store, .ok [])
    | .error e => (store, .error e)
  | .delete kind key => (store.delete kind key, .ok [])
  | .replace kind objects =>
    let (store, nameless) := store.replace kind objects
    (store, .ok nameless)
  | .reset kind => (store.reset kind, .ok [])

end Operation

namespace Store

def apply (store : Store) (operation : Operation) : Store :=
  (operation.run store).1

def applyAll (store : Store) (operations : List Operation) : Store :=
  operations.foldl apply store

end Store

end ReadYourWrites
