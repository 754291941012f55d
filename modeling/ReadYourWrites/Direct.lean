import ReadYourWrites.Scheme
import ReadYourWrites.World

-- The direct client. Each of its calls is made ready first, a request and a way to take in the
-- answer, and then exchanged with the server. A call that fails leaves the caller's object as it
-- was.

namespace ReadYourWrites

-- How a call ends: what the caller's object holds then, and the call's result.
structure Outcome (K : Type) where
  object : K
  result : Except Error Unit

namespace Outcome

variable {K : Type}

-- The object is replaced if there is a new one.
def ofResult (old : K) : Except Error K → Outcome K
  | .ok new => ⟨new, .ok ()⟩
  | .error e => ⟨old, .error e⟩

end Outcome

-- A call that is ready to be sent.
structure Prepared (α : Type) where
  request : Except RequestFault Request
  finish : Response → Except Error α

namespace Prepared

variable {α : Type}

-- Sends a call, if it could be made ready.
def send (token : Token) (call : Except Error (Prepared α)) (w : World) : Except Error α × World :=
  match call with
  | .error e => (.error e, w)
  | .ok call =>
    let (answer, w) := w.exchange token call.request
    (answer.bind call.finish, w)

end Prepared

namespace Direct

variable {K : Type} [Object K]

def lift {α : Type} : Except Failure α → Except Error α :=
  Except.mapError .failed

-- The answer read as one object and turned into the caller's type.
def finishObject (K : Type) [Object K] (response : Response) : Except Error K := do
  (← lift response.object).toObject K

def path (scheme : Scheme) (kind : Kind) (scope : Option String) : String :=
  (scheme.resourceOf kind).path scope

-- The path of the collection that an object belongs to, and the object's name.
def locate (scheme : Scheme) (object : K) : Except Error (String × String) := do
  let kind ← Object.kind object
  let key ← Object.key object
  return (path scheme kind key.scope, key.name)

def prepareGet (scheme : Scheme) (object : K) (key : Key) : Except Error (Prepared K) := do
  let kind ← Object.kind object
  return ⟨Request.get (path scheme kind key.scope) key.name, finishObject K⟩

def prepareList (K : Type) [Object K] (scheme : Scheme) (kind : Kind) (scope : Option String)
    (options : ListOptions) : Prepared (List K) where
  request := Request.list (path scheme kind scope) options
  finish response := do (← lift response.listing).items.mapM (·.toObject K)

-- A new object need not have a name.
def prepareCreate (scheme : Scheme) (object : K) (options : PostOptions) :
    Except Error (Prepared K) := do
  let kind ← Object.kind object
  let body ← Unstructured.ofObject object
  return ⟨Request.create (path scheme kind (Object.metadata object).scope) options body.write,
    finishObject K⟩

def prepareUpdate (scheme : Scheme) (object : K) (options : PostOptions) :
    Except Error (Prepared K) := do
  let (path, name) ← locate scheme object
  let body ← Unstructured.ofObject object
  return ⟨Request.replace path name "" options body.write, finishObject K⟩

def preparePatch (scheme : Scheme) (object : K) (patch : Patch) (options : PatchOptions) :
    Except Error (Prepared K) := do
  let (path, name) ← locate scheme object
  return ⟨Request.patch path name "" options patch, finishObject K⟩

def prepareUpdateStatus (scheme : Scheme) (object : K) (options : PostOptions) :
    Except Error (Prepared K) := do
  let (path, name) ← locate scheme object
  return ⟨Request.replace path name "/status" options (Object.write object), finishObject K⟩

def preparePatchStatus (scheme : Scheme) (object : K) (patch : Patch) (options : PatchOptions) :
    Except Error (Prepared K) := do
  let (path, name) ← locate scheme object
  return ⟨Request.patch path name "/status" options patch, finishObject K⟩

def prepareDelete (scheme : Scheme) (object : K) (options : DeleteOptions) :
    Except Error (Prepared Unit) := do
  let (path, name) ← locate scheme object
  return ⟨Request.delete path name options,
    fun response => lift (response.deletion Unstructured.form)⟩

def prepareDeleteAll (scheme : Scheme) (kind : Kind) (scope : Option String)
    (selection : ListOptions) (options : DeleteOptions) : Prepared Unit where
  request := Request.deleteAll (path scheme kind scope) selection options
  finish response := lift (response.deletion Listing.form)

-- Sends a call whose answer goes into the caller's object.
def sendFor (token : Token) (object : K) (call : Except Error (Prepared K)) (w : World) :
    Outcome K × World :=
  let (result, w) := Prepared.send token call w
  (.ofResult object result, w)

def get (scheme : Scheme) (token : Token) (object : K) (key : Key) (w : World) :
    Outcome K × World :=
  sendFor token object (prepareGet scheme object key) w

def list (K : Type) [Object K] (scheme : Scheme) (token : Token) (kind : Kind)
    (scope : Option String) (options : ListOptions) (w : World) :
    Except Error (List K) × World :=
  Prepared.send token (.ok (prepareList K scheme kind scope options)) w

def create (scheme : Scheme) (token : Token) (object : K) (options : PostOptions) (w : World) :
    Outcome K × World :=
  sendFor token object (prepareCreate scheme object options) w

def update (scheme : Scheme) (token : Token) (object : K) (options : PostOptions) (w : World) :
    Outcome K × World :=
  sendFor token object (prepareUpdate scheme object options) w

def patch (scheme : Scheme) (token : Token) (object : K) (patch : Patch) (options : PatchOptions)
    (w : World) : Outcome K × World :=
  sendFor token object (preparePatch scheme object patch options) w

def updateStatus (scheme : Scheme) (token : Token) (object : K) (options : PostOptions)
    (w : World) : Outcome K × World :=
  sendFor token object (prepareUpdateStatus scheme object options) w

def patchStatus (scheme : Scheme) (token : Token) (object : K) (patch : Patch)
    (options : PatchOptions) (w : World) : Outcome K × World :=
  sendFor token object (preparePatchStatus scheme object patch options) w

-- The caller's object is not changed by its deletion.
def delete (scheme : Scheme) (token : Token) (object : K) (options : DeleteOptions) (w : World) :
    Outcome K × World :=
  let (result, w) := Prepared.send token (prepareDelete scheme object options) w
  (⟨object, result⟩, w)

def deleteAll (scheme : Scheme) (token : Token) (kind : Kind) (scope : Option String)
    (selection : ListOptions) (options : DeleteOptions) (w : World) : Except Error Unit × World :=
  Prepared.send token (.ok (prepareDeleteAll scheme kind scope selection options)) w

end Direct

end ReadYourWrites
