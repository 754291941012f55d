import ReadYourWrites.Cache
import ReadYourWrites.Config
import ReadYourWrites.Direct
import ReadYourWrites.Goal

-- Waiting for the cache after a write. The cache is read at once and then after every pause, until
-- an answer ends the wait, the call is cancelled or the time is up. A read that is due when the
-- time is up is still made. Objects read on the way go into a scratch object made from the scheme's
-- template.

namespace ReadYourWrites.Wait

variable {K : Type} [Object K]

-- What a wait is for, and how long it may take.
structure Plan (K : Type) where
  goal : Goal
  receipt : Receipt
  -- The object that reads start from.
  scratch : K
  pause : Nat
  pause_pos : 0 < pause
  deadline : Nat
  -- The error in which the wait ends when the time is up.
  late : Error

-- Reads the cache until the wait ends.
def poll (cache : Cache) (token : Token) (plan : Plan K) (w : World) : Except Error Unit × World :=
  let (answer, after) := cache.get plan.scratch plan.receipt.key w
  match plan.goal.judge plan.receipt (answer.map Object.metadata) with
  | .error e => (.error e, after)
  | .ok true => (.ok (), after)
  | .ok false =>
    let next := w.now + plan.pause
    if plan.deadline ≤ w.now then (.error plan.late, after)
    else if token.isCancelled after then (.error .cancelled, after)
    else match token.strikesBy (min next plan.deadline) with
      | some time => (.error .cancelled, { after with now := time })
      | none =>
        if next ≤ plan.deadline then poll cache token plan { after with now := next }
        else (.error plan.late, { after with now := plan.deadline })
termination_by plan.deadline - w.now
decreasing_by
  have := plan.pause_pos
  omega

-- What there is to wait for after a write of an object: its kind, its receipt and the template of
-- the kind. There is nothing if the object is unstructured or the scheme does not know its kind.
def subject (scheme : Scheme) (object : K) : Except Error (Option (Kind × Receipt × Json)) :=
  if Object.isUnstructured K then .ok none
  else do
    let receipt ← Receipt.ofMetadata (Object.metadata object)
    let kind ← Object.kind object
    return (scheme.get? kind).map fun registration => (kind, receipt, registration.template)

def plan (config : Config) (goal : Goal) (kind : Kind) (receipt : Receipt) (scratch : K)
    (now : Nat) : Plan K where
  goal := goal
  receipt := receipt
  scratch := scratch
  pause := config.pause
  pause_pos := config.pause_pos
  deadline := now + config.patience
  late := .timeout kind.name receipt.key config.timeout

-- Waits until the cache shows the written object as the goal demands.
def run (cache : Cache) (scheme : Scheme) (config : Config) (token : Token) (goal : Goal)
    (object : K) (w : World) : Except Error Unit × World :=
  match subject scheme object with
  | .error e => (.error e, w)
  | .ok none => (.ok (), w)
  | .ok (some (kind, receipt, template)) =>
    if token.isCancelled w then (.error .cancelled, w)
    else match Object.decode K template with
      | .error e => (.error e, w)
      | .ok scratch => poll cache token (plan config goal kind receipt scratch w.now) w

end ReadYourWrites.Wait
