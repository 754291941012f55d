import ReadYourWrites.Api.Request
import ReadYourWrites.Api.Response

-- The world around a call: a clock in milliseconds, the answers that the server is going to give,
-- what it has answered so far, and how often the cache has been read. Time passes only while a call
-- waits.

namespace ReadYourWrites

-- One answer of the server, or the text of a failure to reach it, and how long it takes.
structure Arrival where
  delay : Nat
  outcome : Except String Response

structure World where
  now : Nat
  -- The server's answers to the next requests, in order.
  arrivals : List Arrival
  -- The requests that have been answered, in order.
  requests : List Request
  -- How many reads of the cache the call has made.
  reads : Nat

-- When a call is cancelled.
inductive Token where
  | never
  | beforehand
  | atTime (time : Nat)
  -- In the course of the read of the cache with this number, counted from one.
  | duringRead (number : Nat)
deriving DecidableEq, Repr

namespace Token

def isCancelled (token : Token) (w : World) : Bool :=
  match token with
  | .never => false
  | .beforehand => true
  | .atTime time => time ≤ w.now
  | .duringRead number => 1 ≤ number && number ≤ w.reads

-- Whether the clock reaches the moment of cancellation before it shows `time`.
def strikesBefore (token : Token) (time : Nat) : Option Nat :=
  match token with
  | .atTime t => if t < time then some t else none
  | _ => none

-- Whether the clock reaches the moment of cancellation by the time it shows `time`.
def strikesBy (token : Token) (time : Nat) : Option Nat :=
  token.strikesBefore (time + 1)

-- The time to which a wait without end goes on.
def endOfWait (token : Token) (now : Nat) : Nat :=
  match token with
  | .atTime time => max now time
  | _ => now

end Token

namespace World

-- Sends a request and waits for its answer. A cancelled call sends nothing; one that is cancelled
-- while it waits does not see the answer. Where no answer comes at all, nothing but cancellation
-- ends the wait.
-- The cancellation and the exchange run side by side, with neither of them preferred. So if the call
-- has been cancelled beforehand the request may still go out, and if it is cancelled at the instant of
-- the answer either of the two may win. Here one order is fixed: what is cancelled beforehand is not
-- sent, and at the same instant the answer wins.
def exchange (token : Token) (request : Except RequestFault Request) (w : World) :
    Except Error Response × World :=
  if token.isCancelled w then (.error .cancelled, w)
  else match request, w.arrivals with
    | .error fault, _ => (.error (.failed (.invalidRequest fault)), w)
    | .ok _, [] => (.error .cancelled, { w with now := token.endOfWait w.now })
    | .ok request, arrival :: rest =>
      let due := w.now + arrival.delay
      match token.strikesBefore due with
      | some time => (.error .cancelled, { w with now := time, arrivals := rest })
      | none =>
        let w := { w with now := due, arrivals := rest, requests := w.requests ++ [request] }
        match arrival.outcome with
        | .ok response => (.ok response, w)
        | .error text => (.error (.failed (.unreachable text)), w)

end World

end ReadYourWrites
