import ReadYourWrites.Error
import ReadYourWrites.Metadata

-- Receipts: what the server reported about an object in answer to a write.

namespace ReadYourWrites

structure Receipt where
  uid : Option String
  resourceVersion : Option String
  key : Key
deriving DecidableEq, Repr

namespace Receipt

def ofMetadata (m : Metadata) : Except Error Receipt :=
  match m.key? with
  | some key => .ok ⟨m.uid, m.resourceVersion, key⟩
  | none => .error .missingName

-- Whether the metadata belongs to another object that has taken the same key. A missing uid counts
-- as the empty one.
def isOther (receipt : Receipt) (m : Metadata) : Bool :=
  receipt.uid.getD "" != m.uid.getD ""

end Receipt

end ReadYourWrites
