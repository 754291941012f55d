import ReadYourWrites.Store
import ReadYourWrites.World

-- Caches as a client sees them: what a read answers may depend on how many reads came before it and
-- on the time. Objects come in written form.

namespace ReadYourWrites

structure Cache where
  -- The answer to a read at a time: so many reads before it, and the object held by the caller.
  find : (reads time : Nat) → (held : Json) → Key → Except Error Json
  select : (reads time : Nat) → Kind → Option String → ListOptions → Except Error (List Json)

namespace Cache

variable {K : Type} [Object K]

-- A cache that is a store, which may be another one at each time.
def ofStore (store : Nat → Store) : Cache where
  find _ time held key := (store time).find held key
  select _ time kind scope options := (store time).select kind scope options

-- Reads one object and counts the read.
def get (cache : Cache) (object : K) (key : Key) (w : World) : Except Error K × World :=
  let answer := cache.find w.reads w.now (Object.write object) key
  (answer.bind (Object.decode K), { w with reads := w.reads + 1 })

-- Reads the objects of a kind and counts the read.
def list (K : Type) [Object K] (cache : Cache) (kind : Kind) (scope : Option String)
    (options : ListOptions) (w : World) : Except Error (List K) × World :=
  let answer := cache.select w.reads w.now kind scope options
  (answer.bind (·.mapM (Object.decode K)), { w with reads := w.reads + 1 })

@[simp]
theorem get_now (cache : Cache) (object : K) (key : Key) (w : World) :
    (cache.get object key w).2.now = w.now :=
  rfl

@[simp]
theorem get_requests (cache : Cache) (object : K) (key : Key) (w : World) :
    (cache.get object key w).2.requests = w.requests :=
  rfl

end Cache

end ReadYourWrites
