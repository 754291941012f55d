import ReadYourWrites.Client
import ReadYourWrites.Replica

-- Sessions: calls one after another on one client, while the clock goes on. The cache is either a
-- store that changes at set times or a list of answers to be given in turn.

namespace ReadYourWrites

-- An answer of a cache that is set in advance. It is given whatever the read asks for. A single
-- object is no answer to a listing, and a listing none to a question for a single object.
inductive Reply where
  | failed (e : Error)
  | found (object : Json)
  | items (objects : List Json)

namespace Reply

def find : Reply → Except Error Json
  | .failed e => .error e
  | .found object => .ok object
  | .items _ => .error .unreadable

def select : Reply → Except Error (List Json)
  | .failed e => .error e
  | .found _ => .ok []
  | .items objects => .ok objects

end Reply

inductive Source where
  -- Each read takes the next answer. The last answer repeats.
  | script (replies : List Reply)
  | replica (replica : Replica)

namespace Source

def reply (replies : List Reply) (reads : Nat) : Reply :=
  (replies[reads]?.or replies.getLast?).getD (.failed .unreadable)

def cache : Source → Cache
  | .script replies => ⟨fun reads _ _ _ => (reply replies reads).find,
      fun reads _ _ _ _ => (reply replies reads).select⟩
  | .replica r => .ofStore r.storeAt

-- The source after so many reads, when the clock shows `time`.
def advance (reads time : Nat) : Source → Source
  | .script replies => .script (replies.drop (min reads (replies.length - 1)))
  | .replica r => .replica (r.advance time)

-- Replaces the answers set in advance.
def withReplies (replies : Option (List Reply)) (source : Source) : Source :=
  match replies with
  | some replies => .script replies
  | none => source

def schedule (changes : List (Nat × Operation)) : Source → Source
  | .script replies => .script replies
  | .replica r => .replica (r.schedule changes)

end Source

structure Session where
  scheme : Scheme
  config : Config
  source : Source
  now : Nat

-- What surrounds one call. Times count from the beginning of the call.
structure Setting where
  arrivals : List Arrival
  replies : Option (List Reply)
  changes : List (Nat × Operation)
  token : Token

-- What one call has brought about.
structure Trace (α : Type) where
  value : α
  elapsed : Nat
  reads : Nat
  requests : List Request

namespace Session

def client (s : Session) : Client :=
  ⟨s.scheme, s.source.cache, s.config⟩

-- The changes and the moment of cancellation by the clock of the session.
def fromStart (s : Session) (setting : Setting) : Setting :=
  { setting with
    changes := setting.changes.map fun (time, change) => (s.now + time, change)
    token := match setting.token with
      | .atTime time => .atTime (s.now + time)
      | token => token }

-- Makes one call.
def perform {α : Type} (s : Session) (setting : Setting)
    (call : Client → Token → World → α × World) : Trace α × Session :=
  let setting := s.fromStart setting
  let s := { s with source := (s.source.withReplies setting.replies).schedule setting.changes }
  let (value, w) := call s.client setting.token ⟨s.now, setting.arrivals, [], 0⟩
  (⟨value, w.now - s.now, w.reads, w.requests⟩,
    { s with now := w.now, source := s.source.advance w.reads w.now })

def sleep (s : Session) (time : Nat) : Session :=
  { s with now := s.now + time }

-- Works on the store of the cache as it is now, if the cache is a store.
def withStore {α : Type} (s : Session) (work : Store → α × Store) : Option (α × Session) :=
  match s.source with
  | .script _ => none
  | .replica r =>
    let r := r.advance s.now
    let (value, store) := work r.store
    some (value, { s with source := .replica { r with store } })

end Session

end ReadYourWrites
