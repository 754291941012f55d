import ReadYourWrites.Key
import ReadYourWrites.Kind
import ReadYourWrites.Text.Quoted
import ReadYourWrites.Time.Span

-- What can go wrong in a call, and how it is worded.

namespace ReadYourWrites

-- The server's own account of why it refuses a request.
structure Refusal where
  status : String
  message : String
  reason : String
  code : Nat
deriving DecidableEq, Repr

-- Why a request cannot be built.
inductive RequestFault where
  | invalidOptions
  | invalidUri
deriving DecidableEq, Repr

-- What goes wrong between a client and the server.
inductive Failure where
  | refused (refusal : Refusal)
  | unreachable (text : String)
  -- The answer is not of the form that the request asks for.
  | unexpectedAnswer
  | invalidRequest (fault : RequestFault)
  | lineTooLong
  | notUtf8
deriving DecidableEq, Repr

inductive Error where
  | failed (failure : Failure)
  | notFound (kind : String) (key : Key)
  | notRegistered (kind : Kind)
  -- The kind is tracked, and its first listing has not arrived.
  | notSynced (kind : Kind)
  | timeout (kind : String) (key : Key) (after : Span)
  | cancelled
  | missingKind
  | missingName
  | invalidSelector (text : String)
  -- A value does not read as an object of the type asked for.
  | unreadable
deriving DecidableEq, Repr

namespace Refusal

def text (r : Refusal) : String :=
  r.message ++ ": " ++ r.reason ++ " (ErrorResponse \x7b status: " ++ Text.quote r.status ++
    ", message: " ++ Text.quote r.message ++ ", reason: " ++ Text.quote r.reason ++
    ", code: " ++ toString r.code ++ " \x7d)"

end Refusal

namespace RequestFault

def text : RequestFault → String
  | .invalidOptions => "failed to validate request"
  | .invalidUri => "failed to build request: invalid uri character"

end RequestFault

namespace Failure

def message : Failure → String
  | .refused r => "ApiError: " ++ r.text
  | .unreachable text => "ServiceError: " ++ text
  | .unexpectedAnswer => "Error deserializing response"
  | .invalidRequest fault => "Failed to build request: " ++ fault.text
  | .lineTooLong => "Error finding newline character"
  | .notUtf8 => "UTF-8 Error"

end Failure

namespace Error

def message : Error → String
  | .failed failure => failure.message
  | .notFound kind key => kind ++ " " ++ key.text ++ " not found in cache"
  | .notRegistered kind =>
    "no kind " ++ kind.name ++ " is registered for version " ++ kind.apiVersion
  | .notSynced kind =>
    "cache for kind " ++ kind.name ++ " in version " ++ kind.apiVersion ++ " has not synced"
  | .timeout kind key after =>
    "timed out after " ++ after.text ++ " waiting for the cache to observe " ++ kind ++ " " ++
      key.text
  | .cancelled => "operation cancelled"
  | .missingKind => "object has no apiVersion or kind"
  | .missingName => "object has no name"
  | .invalidSelector text => "invalid selector: " ++ text
  | .unreadable => "could not convert object"

-- The object is not there, be it that the cache or that the server says so.
def isNotFound : Error → Bool
  | .notFound _ _ => true
  | .failed (.refused r) => r.code == 404
  | _ => false

def isNotRegistered : Error → Bool
  | .notRegistered _ => true
  | _ => false

def isNotSynced : Error → Bool
  | .notSynced _ => true
  | _ => false

def isTimeout : Error → Bool
  | .timeout _ _ _ => true
  | _ => false

def isCancelled : Error → Bool
  | .cancelled => true
  | _ => false

end Error

end ReadYourWrites
