import ReadYourWrites.Wait

-- The client that lets its callers read their own writes. It writes directly and waits until the
-- cache shows the write, and it reads from the cache. Where the cache does not hold a kind, and for
-- unstructured objects, it reads directly.

namespace ReadYourWrites

structure Client where
  scheme : Scheme
  cache : Cache
  config : Config

namespace Client

variable {K : Type} [Object K]

-- Whether the cache leaves the question to the server.
def defers (e : Error) : Bool :=
  e.isNotRegistered || e.isNotSynced

def get (client : Client) (token : Token) (object : K) (key : Key) (w : World) :
    Outcome K × World :=
  if Object.isUnstructured K then Direct.get client.scheme token object key w
  else match client.cache.get object key w with
    | (.ok found, w) => (⟨found, .ok ()⟩, w)
    | (.error e, w) =>
      if defers e then Direct.get client.scheme token object key w else (⟨object, .error e⟩, w)

def list (K : Type) [Object K] (client : Client) (token : Token) (kind : Kind)
    (scope : Option String) (options : ListOptions) (w : World) :
    Except Error (List K) × World :=
  if Object.isUnstructured K then Direct.list K client.scheme token kind scope options w
  else match client.cache.list K kind scope options w with
    | (.ok found, w) => (.ok found, w)
    | (.error e, w) =>
      if defers e then Direct.list K client.scheme token kind scope options w else (.error e, w)

-- Waits after a direct call that has succeeded until the cache meets the goal. The caller's object
-- stays what the call has made it.
def afterwards (client : Client) (token : Token) (goal : Goal) (call : Outcome K × World) :
    Outcome K × World :=
  match call with
  | (⟨object, .ok ()⟩, w) =>
    let (result, w) :=
      Wait.run client.cache client.scheme client.config token goal object w
    (⟨object, result⟩, w)
  | (⟨object, .error e⟩, w) => (⟨object, .error e⟩, w)

def create (client : Client) (token : Token) (object : K) (options : PostOptions) (w : World) :
    Outcome K × World :=
  client.afterwards token .present (Direct.create client.scheme token object options w)

def update (client : Client) (token : Token) (object : K) (options : PostOptions) (w : World) :
    Outcome K × World :=
  client.afterwards token .updatedOrGone (Direct.update client.scheme token object options w)

def patch (client : Client) (token : Token) (object : K) (patch : Patch) (options : PatchOptions)
    (w : World) : Outcome K × World :=
  client.afterwards token .updatedOrGone (Direct.patch client.scheme token object patch options w)

def updateStatus (client : Client) (token : Token) (object : K) (options : PostOptions)
    (w : World) : Outcome K × World :=
  client.afterwards token .updatedOrGone (Direct.updateStatus client.scheme token object options w)

def patchStatus (client : Client) (token : Token) (object : K) (patch : Patch)
    (options : PatchOptions) (w : World) : Outcome K × World :=
  client.afterwards token .updatedOrGone
    (Direct.patchStatus client.scheme token object patch options w)

-- What the cache shows is compared with the object as the caller gave it.
def delete (client : Client) (token : Token) (object : K) (options : DeleteOptions) (w : World) :
    Outcome K × World :=
  client.afterwards token .markedOrGone (Direct.delete client.scheme token object options w)

-- There is no single object to wait for, so this is the direct call.
def deleteAll (client : Client) (token : Token) (kind : Kind) (scope : Option String)
    (selection : ListOptions) (options : DeleteOptions) (w : World) : Except Error Unit × World :=
  Direct.deleteAll client.scheme token kind scope selection options w

end Client

end ReadYourWrites
