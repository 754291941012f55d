import ReadYourWrites.Watch.Follower

-- A cache at work: several watches are followed at once and fill one store. The server gives its
-- answers at set times, those to one path in order. The watches take turns, each going on until it
-- has to wait.

namespace ReadYourWrites

-- A piece of a body, and how long after the piece before it it comes.
structure Chunk where
  delay : Nat
  body : Body

-- An answer of the server in the course of a watch.
inductive Transmission where
  | failed (text : String)
  -- The body comes in pieces. A held stream does not end after the last of them.
  | body (status : Nat) (chunks : List Chunk) (held : Bool)

structure Dispatch where
  delay : Nat
  content : Transmission

def total (counts : List Nat) : Nat :=
  counts.foldr (· + ·) 0

namespace Chunk

def bytes (chunk : Chunk) : List UInt8 :=
  match chunk.body with
  | .bytes bs => bs
  | other => Text.bytes (other.text?.getD "")

end Chunk

namespace Transmission

-- The whole of a body that came in pieces.
def join : List Chunk → Body
  | [chunk] => chunk.body
  | chunks => .bytes (chunks.flatMap (·.bytes))

-- How long the whole body takes, unless it never ends.
def duration : Transmission → Option Nat
  | .failed _ => some 0
  | .body _ chunks held => if held then none else some (total (chunks.map (·.delay)))

def whole : Transmission → Except Failure Response
  | .failed text => .error (.unreachable text)
  | .body status chunks _ => .ok ⟨status, join chunks⟩

end Transmission

-- What a watch waits for.
inductive Waiting where
  -- For an answer that is complete at a time.
  | answer (due : Nat) (content : Transmission)
  -- For the next piece of a stream, or for its end if there is none.
  | chunk (due : Nat) (rest : List Chunk) (held : Bool) (unfinished : List UInt8)
  | nothing

namespace Waiting

def due? : Waiting → Option Nat
  | .answer due _ => some due
  | .chunk due rest held _ => if rest.isEmpty && held then none else some due
  | .nothing => none

def isDue (time : Nat) (waiting : Waiting) : Bool :=
  waiting.due?.any (· ≤ time)

-- Waits for the first of some pieces from a time on.
def stream (time : Nat) (chunks : List Chunk) (held : Bool) (unfinished : List UInt8) : Waiting :=
  .chunk (time + ((chunks.head?.map (·.delay)).getD 0)) chunks held unfinished

end Waiting

structure Follower where
  watch : Watch
  position : Position
  waiting : Waiting

structure Feed where
  now : Nat
  store : Store
  -- The answers to come, by path.
  answers : Table String (List Dispatch)
  -- The requests that have reached the server, by path, in order.
  requests : Table String (List String)
  log : List LogEntry

namespace Feed

def deliver (feed : Feed) (kind : Kind) (deliveries : List Delivery) : Feed :=
  { feed with
    store := deliveries.foldl (·.deliver kind) feed.store
    log := feed.log ++ deliveries.flatMap (·.log kind) }

-- Notes a request and takes the answer to it out of those to come.
def record (feed : Feed) (request : Request) : Option Dispatch × Feed :=
  let path := request.target
  let uris := (feed.requests.get? path).getD [] ++ [request.uri]
  let feed := { feed with requests := feed.requests.insert path uris }
  match feed.answers.get? path with
  | some (answer :: rest) => (some answer, { feed with answers := feed.answers.insert path rest })
  | _ => (none, feed)

-- When an answer can be taken in: a listing as a whole, a stream from its beginning.
def completion (position : Position) (time : Nat) (answer : Dispatch) : Option Nat :=
  match position with
  | .unlisted => answer.content.duration.map (time + answer.delay + ·)
  | _ => some (time + answer.delay)

end Feed

namespace Follower

-- Sends the request that the position asks for, and waits for the answer.
def ask (feed : Feed) (watch : Watch) (position : Position) : Follower × Feed :=
  match position.request watch with
  | some (.ok request) =>
    let (answer, feed) := feed.record request
    let waiting := answer.bind fun answer =>
      (Feed.completion position feed.now answer).map fun due => .answer due answer.content
    (⟨watch, position, waiting.getD .nothing⟩, feed)
  | _ => (⟨watch, position, .nothing⟩, feed)

-- Hands over lines. The next request follows at once if they end the stream.
def takeLines (feed : Feed) (watch : Watch) (position : Position) (lines : List (List UInt8))
    (next : Feed → Position → Follower × Feed) : Follower × Feed :=
  let (position, deliveries) := position.takeLines lines
  let feed := feed.deliver watch.kind deliveries
  match position with
  | .streaming _ => next feed position
  | _ => ask feed watch position

-- Takes in a stream as far as it has come.
def takeStream (watch : Watch) (held : Bool) :
    List Chunk → (due : Nat) → (unfinished : List UInt8) → Feed → Position → Follower × Feed
  | [], due, unfinished, feed, position =>
    if held then (⟨watch, position, .chunk due [] held unfinished⟩, feed)
    else takeLines feed watch position (Line.ofRest unfinished) fun feed position =>
      ask feed watch (.listed position.version)
  | chunk :: rest, due, unfinished, feed, position =>
    if feed.now < due then (⟨watch, position, .chunk due (chunk :: rest) held unfinished⟩, feed)
    else
      let (lines, unfinished) := Line.split (unfinished ++ chunk.bytes)
      takeLines feed watch position lines fun feed position =>
        takeStream watch held rest (due + ((rest.head?.map (·.delay)).getD 0)) unfinished feed
          position

-- Takes in what the watch has waited for.
def turn (feed : Feed) (follower : Follower) : Follower × Feed :=
  let watch := follower.watch
  match follower.waiting, follower.position with
  | .nothing, _ => (follower, feed)
  | .chunk due rest held unfinished, position =>
    takeStream watch held rest due unfinished feed position
  | .answer _ content, .unlisted =>
    let (position, delivery) := Position.takeListing content.whole
    ask (feed.deliver watch.kind [delivery]) watch position
  | .answer _ (.failed _), position =>
    ask (feed.deliver watch.kind [.fault]) watch position
  | .answer due (.body _ chunks held), position =>
    takeStream watch held chunks (due + ((chunks.head?.map (·.delay)).getD 0)) [] feed
      (.streaming position.version)

end Follower

-- The watches of a cache and what they have brought about.
structure Engine where
  followers : List Follower
  feed : Feed

namespace Engine

-- Gives each watch of a list its turn, in order.
def turns (turn : Follower → Feed → Follower × Feed) :
    List Follower → Feed → List Follower × Feed
  | [], feed => ([], feed)
  | follower :: rest, feed =>
    let (follower, feed) := turn follower feed
    let (rest, feed) := turns turn rest feed
    (follower :: rest, feed)

-- Starts the watches: all kinds are tracked before the first request is sent.
def start (watches : List Watch) (answers : Table String (List Dispatch)) : Engine :=
  let store := watches.foldl (fun store watch => store.track watch.kind) .empty
  let (followers, feed) := turns launch (watches.map fun watch => ⟨watch, .unlisted, .nothing⟩)
    { now := 0, store, answers, requests := .empty, log := [] }
  ⟨followers, feed⟩
where
  launch (follower : Follower) (feed : Feed) : Follower × Feed :=
    Follower.ask { feed with log := feed.log ++ [.starting] } follower.watch follower.position

-- The earliest time, `limit` at the latest, at which a watch has something to take in.
def nextDue (engine : Engine) (limit : Nat) : Option Nat :=
  ((engine.followers.filterMap (·.waiting.due?)).filter (· ≤ limit)).min?

-- Lets all watches take in what is due at a time.
def round (engine : Engine) (time : Nat) : Engine :=
  let (followers, feed) := turns go engine.followers
    { engine.feed with now := max engine.feed.now time }
  ⟨followers, feed⟩
where
  go (follower : Follower) (feed : Feed) : Follower × Feed :=
    if follower.waiting.isDue feed.now then follower.turn feed else (follower, feed)

-- How many rounds can be of use: one for each answer and each piece that is still to come.
def rounds (engine : Engine) : Nat :=
  engine.followers.length * 2 +
    total (engine.feed.answers.values.flatten.map fun answer =>
      match answer.content with
      | .failed _ => 2
      | .body _ chunks _ => chunks.length + 3) +
    total (engine.followers.map fun follower =>
      match follower.waiting with
      | .answer _ (.body _ chunks _) => chunks.length + 2
      | .chunk _ rest _ _ => rest.length + 2
      | _ => 1)

-- Lets time pass up to `limit`, in so many rounds at most.
def pass (limit : Nat) : Nat → Engine → Engine
  | 0, engine => engine
  | n + 1, engine =>
    match engine.nextDue limit with
    | some time => pass limit n (engine.round time)
    | none => engine

-- The cache when the clock shows `time`.
def advance (engine : Engine) (time : Nat) : Engine :=
  let engine := engine.pass time engine.rounds
  { engine with feed := { engine.feed with now := max engine.feed.now time } }

-- A cache ends only if it has nothing to follow.
def isFinished (engine : Engine) : Bool :=
  engine.followers.isEmpty

end Engine

end ReadYourWrites
