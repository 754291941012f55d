import ReadYourWrites.Proofs.Client.Write

-- The writes of single objects as calls that are made ready first and then sent. What a write does to
-- the server and to the caller's object is decided by its request and by what it makes of the answer.

namespace ReadYourWrites

namespace Write

variable {K : Type} [Object K]

-- The write as it is made ready. A deletion leaves the caller's object as it is.
def prepared (write : Write) (scheme : Scheme) (object : K) : Except Error (Prepared K) :=
  match write with
  | .create options => Direct.prepareCreate scheme object options
  | .update options => Direct.prepareUpdate scheme object options
  | .patch body options => Direct.preparePatch scheme object body options
  | .updateStatus options => Direct.prepareUpdateStatus scheme object options
  | .patchStatus body options => Direct.preparePatchStatus scheme object body options
  | .delete options => (Direct.prepareDelete scheme object options).map fun call =>
    ⟨call.request, fun response => (call.finish response).map fun _ => object⟩

theorem direct_eq (write : Write) (scheme : Scheme) (token : Token) (object : K) (w : World) :
    write.direct scheme token object w =
      Direct.sendFor token object (write.prepared scheme object) w := by
  cases write
  case delete options =>
    simp only [direct, prepared, Direct.delete, Direct.sendFor]
    cases Direct.prepareDelete scheme object options
    case error => rfl
    case ok call =>
      simp only [Except.map, Prepared.send]
      cases (w.exchange token call.request).1
      case error => rfl
      case ok response =>
        simp only [Except.bind]
        cases call.finish response <;> rfl
  all_goals rfl

end Write

namespace World

-- What cannot be sent changes nothing.
theorem exchange_fault (token : Token) (fault : RequestFault) (w : World) :
    ∃ e, w.exchange token (.error fault) = (.error e, w) := by
  rw [exchange]
  split
  case isTrue => exact ⟨_, rfl⟩
  case isFalse => exact ⟨_, rfl⟩

-- A request is sent once at most, and it is noted if it is answered.
theorem exchange_requests (token : Token) (request : Request) (w : World) :
    (w.exchange token (.ok request)).2.requests = w.requests ∨
      (w.exchange token (.ok request)).2.requests = w.requests ++ [request] := by
  generalize hr : (Except.ok request : Except RequestFault Request) = ready
  fun_cases exchange token ready w <;> cases hr
  case case5 => exact .inr rfl
  case case6 => exact .inr rfl
  all_goals exact .inl rfl

end World

namespace Direct

-- A call that comes to nothing before it is sent.
theorem sendFor_fault {K : Type} {call : Prepared K} {fault : RequestFault}
    (h : call.request = .error fault) (token : Token) (object : K) (w : World) :
    ∃ e, sendFor token object (.ok call) w = (⟨object, .error e⟩, w) := by
  have ⟨e, he⟩ := w.exchange_fault token fault
  exact ⟨e, by simp only [sendFor, Prepared.send, h, he, Except.bind, Outcome.ofResult]⟩

variable {K : Type} [Object K] {scheme : Scheme} {object : K}

-- A call that needs to know where its object is goes on with the path and the name of the key.
theorem located {α : Type} {next : String × String → Except Error α} {a : α}
    (h : (locate scheme object).bind next = .ok a) :
    ∃ kind key, Object.kind object = .ok kind ∧ Object.key object = .ok key ∧
      next (path scheme kind key.scope, key.name) = .ok a := by
  rw [locate] at h
  cases hk : Object.kind object
  case error => rw [hk] at h; cases h
  case ok kind =>
    cases hn : Object.key object
    case error => rw [hk, hn] at h; cases h
    case ok key =>
      rw [hk, hn] at h
      exact ⟨kind, key, rfl, rfl, h⟩

end Direct

end ReadYourWrites
