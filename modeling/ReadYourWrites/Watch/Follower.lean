import ReadYourWrites.Watch
import ReadYourWrites.Watch.Lines

-- Following a watch: list the objects, stream their changes from there, and stream again from the
-- last version seen when a stream ends. When the server no longer knows that version, list again.

namespace ReadYourWrites

-- How far a watch has been followed.
inductive Position where
  | unlisted
  | listed (resourceVersion : String)
  | streaming (resourceVersion : String)
deriving DecidableEq, Repr

namespace Position

-- The request that comes next, unless a stream is open.
def request (watch : Watch) : Position → Option (Except RequestFault Request)
  | .unlisted => some (Request.list watch.path watch.options)
  | .listed resourceVersion => some (Request.watch watch.path watch.options resourceVersion)
  | .streaming _ => none

-- Takes in the answer to the request for a listing.
def takeListing (answer : Except Failure Response) : Position × Delivery :=
  match answer.bind Response.listing with
  | .ok listing => (.listed (listing.resourceVersion.getD ""), .event (.restarted listing.items))
  | .error _ => (.unlisted, .fault)

-- The version that a watch goes on from.
def version : Position → String
  | .unlisted => ""
  | .listed resourceVersion => resourceVersion
  | .streaming resourceVersion => resourceVersion

-- The status by which the server says that it no longer knows a version.
def gone : Nat :=
  410

-- Takes in one line of an open stream.
def takeLine (position : Position) : Line → Position × Option Delivery
  | .change event resourceVersion =>
    (.streaming (resourceVersion.getD position.version), some (.event event))
  | .bookmark resourceVersion => (.streaming resourceVersion, none)
  | .refused refusal => (if refusal.code = gone then .unlisted else position, some .fault)
  | .incomplete => (position, none)
  | .malformed => (position, some .fault)
  | .garbled => (.listed position.version, some .fault)

-- Takes in lines while the stream is open.
def takeLines (position : Position) : List (List UInt8) → Position × List Delivery
  | [] => (position, [])
  | bytes :: rest =>
    match position.takeLine (.ofBytes bytes) with
    | (.streaming resourceVersion, delivery) =>
      let (position, deliveries) := takeLines (.streaming resourceVersion) rest
      (position, delivery.toList ++ deliveries)
    | (position, delivery) => (position, delivery.toList)

end Position

end ReadYourWrites
