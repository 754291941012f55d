import ReadYourWrites.Text.Order

-- Keys of objects of one kind: a name, and the namespace if the object lies in one. No namespace
-- differs from the namespace with the empty name.

namespace ReadYourWrites

structure Key where
  scope : Option String
  name : String
deriving DecidableEq, Repr

namespace Key

def text (key : Key) : String :=
  match key.scope with
  | some scope => scope ++ "/" ++ key.name
  | none => key.name

-- Orders by namespace first, where none comes first, and by name then.
def compare (a b : Key) : Ordering :=
  (Text.compareOptional a.scope b.scope).then (Text.compareTexts a.name b.name)

end Key

end ReadYourWrites
