import ReadYourWrites.Store.Operation

-- A store that changes with time: changes are scheduled ahead and take place when their time has
-- come.

namespace ReadYourWrites

structure Replica where
  store : Store
  -- The changes to come, in the order in which they were scheduled.
  pending : List (Nat × Operation)

namespace Replica

def ofStore (store : Store) : Replica :=
  ⟨store, []⟩

def schedule (r : Replica) (changes : List (Nat × Operation)) : Replica :=
  { r with pending := r.pending ++ changes }

-- The changes whose time has come, in the order of their times.
def due (r : Replica) (time : Nat) : List Operation :=
  ((r.pending.filter (·.1 ≤ time)).mergeSort (·.1 ≤ ·.1)).map Prod.snd

-- The store as it is at a time.
def storeAt (r : Replica) (time : Nat) : Store :=
  r.store.applyAll (r.due time)

-- Lets time pass.
def advance (r : Replica) (time : Nat) : Replica :=
  ⟨r.storeAt time, r.pending.filter (time < ·.1)⟩

end Replica

end ReadYourWrites
