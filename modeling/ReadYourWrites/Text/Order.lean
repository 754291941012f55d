-- The order of texts by their UTF-8 bytes.

namespace ReadYourWrites.Text

def bytes (text : String) : List UInt8 :=
  text.toByteArray.data.toList

-- Orders by the first byte that differs. A text comes before its continuations.
def compareBytes : List UInt8 → List UInt8 → Ordering
  | [], [] => .eq
  | [], _ :: _ => .lt
  | _ :: _, [] => .gt
  | a :: as, b :: bs => (compare a b).then (compareBytes as bs)

def compareTexts (a b : String) : Ordering :=
  compareBytes (bytes a) (bytes b)

-- Orders the absent text before all others.
def compareOptional : Option String → Option String → Ordering
  | none, none => .eq
  | none, some _ => .lt
  | some _, none => .gt
  | some a, some b => compareTexts a b

end ReadYourWrites.Text
