import ReadYourWrites.Receipt
import ReadYourWrites.Version

-- What the cache has to show before a write counts as visible.

namespace ReadYourWrites

inductive Goal where
  -- The object is there.
  | present
  -- The object has reached the written version, or another one has its key, or it is gone.
  | updatedOrGone
  -- The object is marked for deletion, or another one has its key, or it is gone.
  | markedOrGone
deriving DecidableEq, Repr

namespace Goal

-- Whether an observed version is not older than the written one. Any is, if none was written.
def hasReached (observed written : Option String) : Bool :=
  match observed, written with
  | _, none => true
  | none, some _ => false
  | some observed, some written => Version.compare observed written != .lt

def isMetBy (goal : Goal) (receipt : Receipt) (m : Metadata) : Bool :=
  match goal with
  | .present => true
  | .updatedOrGone => receipt.isOther m || hasReached m.resourceVersion receipt.resourceVersion
  | .markedOrGone => receipt.isOther m || m.deletionTimestamp.isSome

-- Whether one answer of the cache ends the wait. A cache that does not hold the kind has nothing to
-- wait for, one that still loads it has; any other error ends the wait with it.
def judge (goal : Goal) (receipt : Receipt) : Except Error Metadata → Except Error Bool
  | .ok m => .ok (goal.isMetBy receipt m)
  | .error e =>
    if e.isNotFound then .ok (goal != .present)
    else if e.isNotRegistered then .ok true
    else if e.isNotSynced then .ok false
    else .error e

end Goal

end ReadYourWrites
