import ReadYourWrites.Client
import ReadYourWrites.Proofs.Store.Reading
import ReadYourWrites.Proofs.Wait.Rounds

-- Reads of single objects through the client, in terms of what the store of its cache answers.

namespace ReadYourWrites

variable {K : Type} [Object K] [Typed K]

namespace Cache

-- A cache that is a store, which may be another one at each read.
def ofReads (store : Nat → Store) : Cache where
  find reads _ held key := (store reads).find held key
  select reads _ kind scope options := (store reads).select kind scope options

theorem get_ofStore (store : Nat → Store) (held : K) (key : Key) (w : World) :
    ((ofStore store).get held key w).1 = (store w.now).answer K key :=
  Store.find_bind_decode (store w.now) held key

theorem get_ofReads (store : Nat → Store) (held : K) (key : Key) (w : World) :
    ((ofReads store).get held key w).1 = (store w.reads).answer K key :=
  Store.find_bind_decode (store w.reads) held key

end Cache

namespace Client

-- The cache is read once, and the server is asked only if the cache defers to it.
theorem get_of_structured {K : Type} [Object K] (structured : Object.isUnstructured K = false)
    (client : Client) (token : Token) (held : K) (key : Key) (w : World) :
    client.get token held key w =
      match (client.cache.get held key w).1 with
      | .ok found => (⟨found, .ok ()⟩, w.counted)
      | .error e => if defers e then Direct.get client.scheme token held key w.counted
        else (⟨held, .error e⟩, w.counted) := by
  have hg : client.cache.get held key w = ((client.cache.get held key w).1, w.counted) := rfl
  rw [get, structured, hg]
  cases (client.cache.get held key w).1 <;> rfl

theorem get_eq (client : Client) (token : Token) (held : K) (key : Key) (w : World) :
    client.get token held key w =
      match (client.cache.get held key w).1 with
      | .ok found => (⟨found, .ok ()⟩, w.counted)
      | .error e => if defers e then Direct.get client.scheme token held key w.counted
        else (⟨held, .error e⟩, w.counted) :=
  get_of_structured Typed.not_unstructured client token held key w

end Client

end ReadYourWrites
