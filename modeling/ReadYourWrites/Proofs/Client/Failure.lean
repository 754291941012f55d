import ReadYourWrites.Proofs.Client.Prepared
import ReadYourWrites.Proofs.Client.Read
import ReadYourWrites.Proofs.Store.Answers
import ReadYourWrites.Proofs.Store.Changes

-- Calls that fail. The caller's object is set once, at the very end of a call and only if the call
-- succeeds. A store is set only by a change that succeeds.

namespace ReadYourWrites

-- A call that works on the caller's object: a read of a store, by the direct client or by the client
-- that has a cache, or a write by the direct client.
inductive Attempt where
  | ofStore (store : Store) (key : Key)
  | direct (scheme : Scheme) (token : Token) (key : Key)
  | cached (client : Client) (token : Token) (key : Key)
  | write (write : Write) (scheme : Scheme) (token : Token)

namespace Attempt

variable {K : Type} [Object K]

def perform (object : K) (w : World) : Attempt → Outcome K × World
  | .ofStore store key => (.ofResult object (store.get key object), w)
  | .direct scheme token key => Direct.get scheme token object key w
  | .cached client token key => client.get token object key w
  | .write change scheme token => change.direct scheme token object w

end Attempt

namespace Outcome

variable {K : Type} [Object K]

-- How a call may leave the caller's object: as it was, or as an object that has been read as a whole
-- by a call that succeeds.
inductive Settled (object : K) : Outcome K → Prop
  | failed {e : Error} : Settled object ⟨object, .error e⟩
  | kept : Settled object ⟨object, .ok ()⟩
  | filled {json : Json} {new : K} : Object.read json = some new → Settled object ⟨new, .ok ()⟩

theorem Settled.of_error {object : K} {outcome : Outcome K} {e : Error} (h : outcome.Settled object)
    (failed : outcome.result = .error e) : outcome.object = object := by
  cases h with
  | failed | kept => rfl
  | filled => cases failed

theorem Settled.of_changed {object : K} {outcome : Outcome K} (h : outcome.Settled object)
    (changed : outcome.object ≠ object) :
    outcome.result = .ok () ∧ ∃ json, Object.read json = some outcome.object := by
  cases h with
  | failed | kept => exact absurd rfl changed
  | filled read => exact ⟨rfl, _, read⟩

theorem Settled.of_result {object : K} {result : Except Error K}
    (h : ∀ new, result = .ok new → new = object ∨ ∃ json, Object.read json = some new) :
    (ofResult object result).Settled object := by
  cases result with
  | error => exact .failed
  | ok new =>
    obtain rfl | ⟨json, read⟩ := h new rfl
    case inl => exact .kept
    case inr => exact .filled read

end Outcome

namespace Direct

variable {K : Type} [Object K] {object : K}

-- Whether a call that is ready ends, if it does, with an object that has been read from JSON, or with
-- the caller's object as it was.
def Fills (object : K) (call : Prepared K) : Prop :=
  ∀ response new, call.finish response = .ok new →
    new = object ∨ ∃ json, Object.read json = some new

theorem fills_of_finishObject (request : Except RequestFault Request) :
    Fills object ⟨request, finishObject K⟩ := by
  intro response new h
  have ⟨found, _, read⟩ := exists_of_bind h
  exact .inr ⟨found.write, Object.decode_eq_ok_iff.mp read⟩

theorem sendFor_settled {call : Except Error (Prepared K)}
    (h : ∀ ready, call = .ok ready → Fills object ready) (token : Token) (w : World) :
    (sendFor token object call w).1.Settled object := by
  refine .of_result fun new found => ?_
  cases call with
  | error => cases found
  | ok ready =>
    have ⟨response, _, finished⟩ := exists_of_bind found
    exact h ready rfl response new finished

end Direct

theorem Write.fills_of_prepared {K : Type} [Object K] {write : Write} {scheme : Scheme} {object : K}
    {call : Prepared K} (h : write.prepared scheme object = .ok call) : Direct.Fills object call := by
  cases write with
  | create =>
    have ⟨_, _, h⟩ := exists_of_bind h
    have ⟨_, _, h⟩ := exists_of_bind h
    exact Except.ok.inj h ▸ Direct.fills_of_finishObject _
  | update =>
    have ⟨_, _, h⟩ := exists_of_bind h
    have ⟨_, _, h⟩ := exists_of_bind h
    exact Except.ok.inj h ▸ Direct.fills_of_finishObject _
  | patch | updateStatus | patchStatus =>
    have ⟨_, _, h⟩ := exists_of_bind h
    exact Except.ok.inj h ▸ Direct.fills_of_finishObject _
  | delete options =>
    rw [prepared] at h
    cases hp : Direct.prepareDelete scheme object options
    case error => rw [hp] at h; cases h
    case ok deletion =>
      rw [hp] at h
      obtain rfl := Except.ok.inj h
      intro response new finished
      dsimp only at finished
      cases hf : deletion.finish response
      case error => rw [hf] at finished; cases finished
      case ok =>
        rw [hf] at finished
        exact .inl (Except.ok.inj finished).symm

namespace Attempt

variable {K : Type} [Object K]

theorem settled (attempt : Attempt) (object : K) (w : World) :
    (attempt.perform object w).1.Settled object := by
  have direct (scheme : Scheme) (token : Token) (key : Key) (w : World) :
      (Direct.get scheme token object key w).1.Settled object := by
    refine Direct.sendFor_settled (fun ready h => ?_) token w
    obtain ⟨_, _, h⟩ := exists_of_bind h
    exact Except.ok.inj h ▸ Direct.fills_of_finishObject _
  cases attempt with
  | ofStore store key =>
    refine .of_result fun new h => ?_
    obtain ⟨value, _, read⟩ := exists_of_bind h
    exact .inr ⟨value, Object.decode_eq_ok_iff.mp read⟩
  | direct scheme token key => exact direct scheme token key w
  | cached client token key =>
    cases hu : Object.isUnstructured K
    case true =>
      rw [perform, Client.get, hu]
      exact direct client.scheme token key w
    case false =>
      rw [perform, Client.get_of_structured hu]
      cases ha : (client.cache.get object key w).1
      case ok found =>
        obtain ⟨value, _, read⟩ := exists_of_bind ha
        exact .filled (Object.decode_eq_ok_iff.mp read)
      case error e =>
        dsimp only
        split
        case isTrue => exact direct client.scheme token key w.counted
        case isFalse => exact .failed
  | write change scheme token =>
    rw [perform, Write.direct_eq]
    exact Direct.sendFor_settled (fun _ => Write.fills_of_prepared) token w

end Attempt

namespace Store

-- What some calls are answered, one after another.
def answers (store : Store) : List Call → List (Except Error (List Json))
  | [] => []
  | call :: calls => (call.run store).2 :: answers (call.run store).1 calls

theorem answers_append (store : Store) (calls later : List Call) :
    store.answers (calls ++ later) = store.answers calls ++ (store.after calls).answers later := by
  induction calls generalizing store with
  | nil => rfl
  | cons call calls ih => exact congrArg (_ :: ·) (ih _)

-- A call that fails adds its own answer to those of the calls around it, and changes no other.
theorem answers_of_error {store : Store} {before : List Call} {call : Call} {e : Error}
    (failed : (call.run (store.after before)).2 = .error e) (later : List Call) :
    store.answers (before ++ call :: later) =
      store.answers before ++ .error e :: (store.after before).answers later := by
  rw [answers_append, answers, failed, Call.run_of_error failed]

end Store

-- A call that fails leaves the caller's object as it was, whatever it fails for and however far it has
-- come. Only a call that succeeds changes the object, and it sets it as a whole. A call that fails on a
-- store leaves the store as it was, so what is called later is answered as if it had not been made.
theorem unchanged_by_failure {K : Type} [Object K] (attempt : Attempt) (object : K) (w : World)
    (store : Store) (before later : List Store.Call) (call : Store.Call) :
    let outcome := (attempt.perform object w).1
    let reached := store.after before
    (∀ e, outcome.result = .error e → outcome.object = object) ∧
    (outcome.object ≠ object →
      outcome.result = .ok () ∧ ∃ json, Object.read json = some outcome.object) ∧
    ∀ e, (call.run reached).2 = .error e →
      (call.run reached).1 = reached ∧
      store.answers (before ++ call :: later) =
        store.answers before ++ .error e :: reached.answers later ∧
      store.answers (before ++ later) = store.answers before ++ reached.answers later := by
  intro outcome reached
  have settled : outcome.Settled object := attempt.settled object w
  refine ⟨fun _ => settled.of_error, settled.of_changed, fun e failed => ?_⟩
  exact ⟨Store.Call.run_of_error failed, Store.answers_of_error failed later,
    store.answers_append before later⟩

namespace Sample

def secret : Json :=
  .object [("apiVersion", .string "v1"), ("kind", .string "Secret"),
    ("metadata", .object [("name", .string "settings")])]

end Sample

-- A read that neither the cache nor the server answers with a config map, and an insertion of an object
-- without a name between two reads.
theorem unchanged_by_failure_unreadable :
    let held := Sample.configMap "u" "1"
    let read : Attempt := .cached (Sample.client (.ofStore fun _ => .empty)) .never ⟨none, "settings"⟩
    let w := Sample.world [Sample.secret]
    let nameless : Store.Call := .change (.insert (.ofObject (Sample.entry none "1")))
    let before : List Store.Call := [.change (.insertAs Sample.maps (Sample.entry (some "a") "2"))]
    let later : List Store.Call := [.get Unstructured ⟨none, "a"⟩ (Sample.entry none "0")]
    let given : Except Error (List Json) := .ok [(Sample.entry (some "a") "2").write]
    (read.perform held w).1.result = .error .unreadable ∧ (read.perform held w).1.object = held ∧
      Store.empty.answers (before ++ nameless :: later) = [.ok [], .error .missingName, given] ∧
      Store.empty.answers (before ++ later) = [.ok [], given] := by
  intro held read w nameless before later given
  have ⟨kept, _, unchanged⟩ := unchanged_by_failure read held w .empty before later nameless
  have failed : (read.perform held w).1.result = .error .unreadable := by decide +kernel
  have refused : (nameless.run (Store.empty.after before)).2 = .error .missingName := by decide +kernel
  have ⟨_, withCall, without⟩ := unchanged _ refused
  have first : Store.empty.answers before = [.ok []] := by decide +kernel
  have last : (Store.empty.after before).answers later = [given] := by decide +kernel
  rw [first, last] at withCall without
  exact ⟨failed, kept _ failed, withCall, without⟩

end ReadYourWrites
