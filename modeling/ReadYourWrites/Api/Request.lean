import ReadYourWrites.Api.Options
import ReadYourWrites.Error
import ReadYourWrites.Resource
import ReadYourWrites.Text.FormEncoded

-- Requests to the server: the path of a collection or of one object in it, the query, and the body.
-- Names go into paths as they are.

namespace ReadYourWrites

namespace Resource

-- The path of the objects of a resource, in one namespace or in all.
def path (resource : Resource) (scope : Option String) : String :=
  (if resource.kind.group = "" then "/api/" else "/apis/") ++ resource.apiVersion ++
    (match scope with
      | some scope => "/namespaces/" ++ scope
      | none => "") ++
    "/" ++ resource.plural

end Resource

inductive Method where
  | get
  | post
  | put
  | patch
  | delete
deriving DecidableEq, Repr

namespace Method

def text : Method → String
  | .get => "GET"
  | .post => "POST"
  | .put => "PUT"
  | .patch => "PATCH"
  | .delete => "DELETE"

end Method

structure Request where
  method : Method
  uri : String
  contentType : Option String
  accept : Option String
  body : Option Json
deriving DecidableEq, Repr

namespace Request

-- The characters that a path may hold.
def isPathChar (c : Char) : Bool :=
  let n := c.toNat
  n == 0x21 || n == 0x22 || (0x24 ≤ n && n ≤ 0x3B) || n == 0x3D || (0x40 ≤ n && n ≤ 0x5F) ||
    (0x61 ≤ n && n ≤ 0x7E)

-- The characters that a query may hold.
def isQueryChar (c : Char) : Bool :=
  let n := c.toNat
  n == 0x21 || (0x24 ≤ n && n ≤ 0x3B) || n == 0x3D || (0x3F ≤ n && n ≤ 0x7E)

-- The URI that a text stands for: what follows a number sign is dropped, and the first question
-- mark begins the query.
def uri? (text : String) : Option String :=
  let cs := text.toList.takeWhile (· ≠ '#')
  let path := cs.takeWhile (· ≠ '?')
  let query := (cs.dropWhile (· ≠ '?')).drop 1
  if path.all isPathChar && query.all isQueryChar then some (.ofList cs) else none

-- The part of the URI in front of the query.
def target (request : Request) : String :=
  .ofList (request.uri.toList.takeWhile (· ≠ '?'))

-- A request with what it needs for its method, if its text makes a URI.
def make (method : Method) (text : String) (contentType accept : Option String)
    (body : Option Json) : Except RequestFault Request :=
  match uri? text with
  | some uri => .ok { method, uri, contentType, accept, body }
  | none => .error .invalidUri

def json : String :=
  "application/json"

def withQuery (path : String) (parameters : List (String × String)) : String :=
  path ++ "?" ++ Text.FormEncoded.query parameters

def get (path name : String) : Except RequestFault Request :=
  make .get (path ++ "/" ++ name) none none none

def listParameters (options : ListOptions) : List (String × String) :=
  options.selectors ++ (options.limit.map fun n => ("limit", toString n)).toList ++
    (options.continueToken.map ("continue", ·)).toList

def list (path : String) (options : ListOptions) : Except RequestFault Request :=
  make .get (withQuery path (listParameters options)) none none none

-- Seconds of a watch for which none are asked.
def watchSeconds : Nat :=
  290

def watchParameters (options : ListOptions) (resourceVersion : String) : List (String × String) :=
  [("watch", "true"), ("resourceVersion", resourceVersion),
    ("timeoutSeconds", toString (options.timeout.getD watchSeconds))] ++ options.selectors ++
    (if options.bookmarks then [("allowWatchBookmarks", "true")] else [])

def watch (path : String) (options : ListOptions) (resourceVersion : String) :
    Except RequestFault Request :=
  make .get (withQuery path (watchParameters options resourceVersion)) none none none

def create (path : String) (options : PostOptions) (body : Json) : Except RequestFault Request :=
  if options.isValid then
    make .post (withQuery path (PostOptions.parameters options.dryRun)) (some json) none (some body)
  else .error .invalidOptions

-- Writes an object anew, or the part of it that `suffix` names.
def replace (path name suffix : String) (options : PostOptions) (body : Json) :
    Except RequestFault Request :=
  make .put (withQuery (path ++ "/" ++ name ++ suffix) (PostOptions.parameters options.dryRun))
    (some json) none (some body)

def patch (path name suffix : String) (options : PatchOptions) (patch : Patch) :
    Except RequestFault Request :=
  if options.isValid patch.kind then
    make .patch (withQuery (path ++ "/" ++ name ++ suffix) options.parameters)
      (some patch.kind.contentType) (some json) (some patch.body)
  else .error .invalidOptions

def delete (path name : String) (options : DeleteOptions) : Except RequestFault Request :=
  make .delete (withQuery (path ++ "/" ++ name) []) (some json) none (some options.write)

def deleteAll (path : String) (selection : ListOptions) (options : DeleteOptions) :
    Except RequestFault Request :=
  make .delete (withQuery path selection.selectors) (some json) none (some options.write)

end Request

end ReadYourWrites
