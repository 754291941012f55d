import ReadYourWrites.Text.Blank
import ReadYourWrites.Text.Quoted
import ReadYourWrites.Text.Split

-- Label selectors: requirements on the labels of an object, joined by commas. Only requirements on
-- a single value are understood.

namespace ReadYourWrites

inductive Requirement where
  | equals (key value : String)
  -- The label is missing or has another value.
  | notEquals (key value : String)
  | exist (key : String)
  | missing (key : String)
deriving DecidableEq, Repr

namespace Requirement

-- Whether the requirement holds where `label` gives the values of the labels.
def holds (label : String → Option String) : Requirement → Bool
  | .equals key value => label key == some value
  | .notEquals key value => label key != some value
  | .exist key => (label key).isSome
  | .missing key => (label key).isNone

def ofParts (make : String → String → Requirement) (parts : List Char × List Char) : Requirement :=
  make (.ofList (Text.trim parts.1)) (.ofList (Text.trim parts.2))

-- Whether a term asks for a set of values.
def isSetBased (term : List Char) : Bool :=
  Text.occurs " in ".toList term || Text.occurs " notin ".toList term || term.contains '('

-- The requirement that a term without white space at its ends stands for.
def ofTerm (term : List Char) : Except String Requirement :=
  if isSetBased term then
    .error ("set-based requirement " ++ Text.quote (.ofList term) ++
      " is not supported by the cache")
  else if let some parts := Text.splitFirst "!=".toList term then .ok (ofParts .notEquals parts)
  else if let some parts := Text.splitFirst "==".toList term then .ok (ofParts .equals parts)
  else if let some parts := Text.splitFirst "=".toList term then .ok (ofParts .equals parts)
  else match term with
    | '!' :: key => .ok (.missing (.ofList (Text.trim key)))
    | _ => .ok (.exist (.ofList term))

end Requirement

abbrev Selector :=
  List Requirement

namespace Selector

-- The non-empty terms of a selector.
def terms (text : List Char) : List (List Char) :=
  ((Text.splitAll ',' text).map Text.trim).filter (· ≠ [])

-- Reads a selector. The first term that is not understood is reported.
def parse (text : String) : Except String Selector :=
  (terms text.toList).mapM Requirement.ofTerm

def admits (selector : Selector) (label : String → Option String) : Bool :=
  selector.all (·.holds label)

end Selector

end ReadYourWrites
