import ReadYourWrites.Proofs.Client.Prepared
import ReadYourWrites.Proofs.Client.Routes
import ReadYourWrites.Proofs.Json.Rereading
import ReadYourWrites.Proofs.Object.Codec
import ReadYourWrites.Proofs.Store.Kinds

-- The bodies of the writes that send a whole object. Two of them send the object by way of the form of
-- an object of any kind and one sends it as it is, and all of them send what the object is written as.

namespace ReadYourWrites

-- Whether a write sends the whole object.
def Write.isWhole : Write → Bool
  | .create _ | .update _ | .updateStatus _ => true
  | .patch _ _ | .patchStatus _ _ | .delete _ => false

namespace Request

variable {method : Method} {text path name suffix : String} {contentType accept : Option String}
  {body : Option Json} {json : Json} {options : PostOptions} {request : Request}

theorem body_of_make (h : make method text contentType accept body = .ok request) :
    request.body = body := by
  rw [make] at h
  split at h
  case h_1 => exact Except.ok.inj h ▸ rfl
  case h_2 => cases h

theorem body_of_create (h : create path options json = .ok request) : request.body = some json := by
  rw [create] at h
  split at h
  case isTrue => exact body_of_make h
  case isFalse => cases h

end Request

namespace Write

variable {K : Type} [Object K] {object : K} {write : Write} {scheme : Scheme}

-- A write of a whole object that is ready sends what the object is written as, and takes in the answer
-- as an object.
theorem whole_of_prepared (carried : Carried object) (whole : write.isWhole = true)
    {call : Prepared K} (h : write.prepared scheme object = .ok call) :
    call.finish = Direct.finishObject K ∧
      ∀ request, call.request = .ok request → request.body = some (Object.write object) := by
  obtain ⟨form, passed, written, _⟩ := carried
  cases write with
  | create =>
    have ⟨_, _, h⟩ := exists_of_bind h
    have ⟨sent, hs, h⟩ := exists_of_bind h
    obtain rfl := Except.ok.inj (passed.symm.trans hs)
    obtain rfl := Except.ok.inj h
    exact ⟨rfl, fun request hr => written ▸ Request.body_of_create hr⟩
  | update =>
    have ⟨_, _, h⟩ := exists_of_bind h
    have ⟨sent, hs, h⟩ := exists_of_bind h
    obtain rfl := Except.ok.inj (passed.symm.trans hs)
    obtain rfl := Except.ok.inj h
    exact ⟨rfl, fun request hr => written ▸ Request.body_of_make hr⟩
  | updateStatus =>
    have ⟨_, _, h⟩ := exists_of_bind h
    obtain rfl := Except.ok.inj h
    exact ⟨rfl, fun request hr => Request.body_of_make hr⟩
  | patch | patchStatus | delete => cases whole

-- A write of a whole object gets ready if the object tells its kind and, where it has to exist already,
-- its name.
theorem exists_prepared (carried : Carried object) {kind : Kind} (own : Object.kind object = .ok kind)
    (whole : write.isWhole = true) (scheme : Scheme)
    (named : write.goal = .present ∨ ∃ key, Object.key object = .ok key) :
    ∃ call, write.prepared scheme object = .ok call := by
  obtain ⟨form, passed, _⟩ := carried
  cases write with
  | create => exact ⟨_, by simp only [prepared, Direct.prepareCreate, own, passed]; rfl⟩
  | update =>
    obtain ⟨key, hk⟩ : ∃ key, Object.key object = .ok key := named.resolve_left (by simp [goal])
    exact ⟨_, by simp only [prepared, Direct.prepareUpdate, Direct.locate, own, hk, passed]; rfl⟩
  | updateStatus =>
    obtain ⟨key, hk⟩ : ∃ key, Object.key object = .ok key := named.resolve_left (by simp [goal])
    exact ⟨_, by simp only [prepared, Direct.prepareUpdateStatus, Direct.locate, own, hk]; rfl⟩
  | patch | patchStatus | delete => cases whole

end Write

-- Whether the writes of a whole object get ready, send what the object is written as, and leave the
-- object as it is if that is what comes back.
structure Mirrored {K : Type} [Object K] (object : K) : Prop where
  ready (write : Write) (scheme : Scheme) : write.isWhole = true →
    (write.goal = .present ∨ ∃ key, Object.key object = .ok key) →
    ∃ call, write.prepared scheme object = .ok call
  body (write : Write) (scheme : Scheme) (call : Prepared K) (request : Request) :
    write.isWhole = true → write.prepared scheme object = .ok call → call.request = .ok request →
    request.body = some (Object.write object)
  echo (write : Write) (scheme : Scheme) (call : Prepared K) (request : Request) (token : Token)
    (w : World) (status : Nat) (body : Json) :
    write.isWhole = true → write.prepared scheme object = .ok call → call.request = .ok request →
    request.body = some body → Status.isError status = false → body.isStable = true →
    (w.exchange token (.ok request)).1 = .ok ⟨status, .ofJson body⟩ →
    (write.direct scheme token object w).1 = ⟨object, .ok ()⟩

theorem Direct.finishObject_of_echo {K : Type} [Object K] {object : K} (carried : Carried object)
    {status : Nat} (calm : Status.isError status = false)
    (stable : (Object.write object).isStable = true) :
    finishObject K ⟨status, .ofJson (Object.write object)⟩ = .ok object := by
  obtain ⟨form, passed, _, back⟩ := carried
  have read : Unstructured.form.read (Object.write object) = some form :=
    Object.decode_eq_ok_iff.mp passed
  have answer : (⟨status, .ofJson (Object.write object)⟩ : Response).object = .ok form := by
    rw [Body.ofJson, if_pos stable]
    exact Response.decode_of_json calm read
  rw [finishObject, answer]
  exact back

theorem Carried.mirrored {K : Type} [Object K] {object : K} (carried : Carried object) {kind : Kind}
    (own : Object.kind object = .ok kind) : Mirrored object where
  ready write scheme whole := Write.exists_prepared carried own whole scheme
  body write scheme call request whole h := (Write.whole_of_prepared carried whole h).right request
  echo write scheme call request token w status body whole h hr sent calm stable answered := by
    have ⟨finish, same⟩ := Write.whole_of_prepared carried whole h
    obtain rfl := Option.some.inj ((same request hr).symm.trans sent)
    rw [Write.direct_eq, h, Direct.sendFor_ok, hr, answered, finish]
    simp only [Except.bind, Direct.finishObject_of_echo carried calm stable]
    rfl

-- An object that does not tell its kind is not written at all.
theorem Write.direct_of_missing {K : Type} [Object K] {object : K}
    (missing : Object.kind object = .error .missingKind) (write : Write) (scheme : Scheme)
    (token : Token) (w : World) :
    write.direct scheme token object w = (⟨object, .error .missingKind⟩, w) := by
  have unprepared : write.prepared scheme object = .error .missingKind := by
    cases write with
    | create => rw [prepared, Direct.prepareCreate, missing]; rfl
    | update => rw [prepared, Direct.prepareUpdate, Direct.locate, missing]; rfl
    | patch => rw [prepared, Direct.preparePatch, Direct.locate, missing]; rfl
    | updateStatus => rw [prepared, Direct.prepareUpdateStatus, Direct.locate, missing]; rfl
    | patchStatus => rw [prepared, Direct.preparePatchStatus, Direct.locate, missing]; rfl
    | delete => rw [prepared, Direct.prepareDelete, Direct.locate, missing]; rfl
  rw [direct_eq, unprepared]
  rfl

-- Creations, updates and updates of the status send what an object is written as, whether it has a type
-- with one kind or has been read from JSON with its kind. If the server sends the body back, and the
-- text of the body is read as the body, the object stays what it was. So it is read if it is not too
-- deep and all its numbers are read as themselves. An object that has been read without a kind is not
-- sent.
theorem bodies_carry_object :
    (∀ (K : Type) [Object K] [Typed K] [Restores K] (object : K),
      (Object.metadata object).Plain → Mirrored object) ∧
    (∀ (json : Json) (object : Unstructured), json.Distinct → Object.read json = some object →
      (∀ kind, Object.writtenKind? json = some kind → Mirrored object) ∧
      (Object.writtenKind? json = none →
        ∀ (write : Write) (scheme : Scheme) (token : Token) (w : World),
          write.direct scheme token object w = (⟨object, .error .missingKind⟩, w))) ∧
    ∀ body : Json, Json.Legible 0 body → body.isStable = true := by
  refine ⟨fun K _ _ _ object plain => ?typed, fun json object distinct read => ⟨?kept, ?missing⟩,
    fun _ => Json.isStable_of_legible⟩
  case typed => exact (Restores.carried plain).mirrored (Typed.kind_eq object)
  case kept =>
    intro kind hk
    have own := (Unstructured.writtenKind?_of_read distinct read).trans hk
    obtain ⟨fields, rfl, types, _⟩ := Unstructured.parts_of_read distinct read
    rw [Unstructured.writtenKind?_object, ← types] at hk
    have ⟨_, typed, _⟩ := Option.bind_eq_some_iff.mp hk
    exact (Unstructured.carried distinct read typed).mirrored (Object.kind_eq_ok_iff.mpr own)
  case missing =>
    intro none write scheme token w
    refine write.direct_of_missing ?_ scheme token w
    have written := (Unstructured.writtenKind?_of_read distinct read).trans none
    rw [Object.kind, show Object.writtenKind? (Object.write object) = .none from written]

namespace Sample

def plainPost : PostOptions :=
  ⟨false, none⟩

-- The request that a write of an object sends.
def request? {K : Type} [Object K] (write : Write) (object : K) : Option Request := do
  let call ← (write.prepared scheme object).toOption
  call.request.toOption

-- A server that answers with the given body.
def answering (body : Json) : World :=
  ⟨0, [⟨0, .ok ⟨200, .ofJson body⟩⟩], [], 0⟩

def meter (reading : Json) : Json :=
  .object [("kind", .string "Meter"), ("metadata", .object [("name", .string "a")]),
    ("reading", reading), ("apiVersion", .string "example.org/v1")]

def metered (reading : Json) : Unstructured where
  types := some ⟨"example.org/v1", "Meter"⟩
  metadata := { Metadata.empty with name := some "a" }
  fields := [("reading", reading)]
  distinct := of_decide_eq_true rfl

-- A config map in which a manager of fields has set null.
def nulled : ConfigMap where
  metadata := { Metadata.empty with
    name := some "a", managedFields := some [⟨none, none, some .null, none, none, none, none⟩] }
  data := none
  binaryData := none
  immutable := none

variable {K : Type} [Object K] {write : Write} {object : K}

theorem exists_of_request? {request : Request} (h : request? write object = some request) :
    ∃ call, write.prepared scheme object = .ok call ∧ call.request = .ok request := by
  obtain ⟨call, hc, hr⟩ := Option.bind_eq_some_iff.mp h
  exact ⟨call, eq_ok_of_toOption hc, eq_ok_of_toOption hr⟩

theorem body_of_mirrored (mirrored : Mirrored object) (whole : write.isWhole = true)
    (sent : (request? write object).isSome = true) :
    (request? write object).bind (·.body) = some (Object.write object) := by
  obtain ⟨request, sent⟩ := Option.isSome_iff_exists.mp sent
  obtain ⟨call, ready, made⟩ := exists_of_request? sent
  rw [sent]
  exact mirrored.body write _ call request whole ready made

theorem direct_of_mirrored (mirrored : Mirrored object) (whole : write.isWhole = true)
    (sent : (request? write object).isSome = true) (stable : (Object.write object).isStable = true) :
    (write.direct scheme .never object (answering (Object.write object))).1 = ⟨object, .ok ()⟩ := by
  obtain ⟨request, sent⟩ := Option.isSome_iff_exists.mp sent
  obtain ⟨call, ready, made⟩ := exists_of_request? sent
  have body := mirrored.body write _ call request whole ready made
  exact mirrored.echo write _ call request .never _ 200 _ whole ready made body rfl stable rfl

end Sample

-- A config map and an object of a kind without a type are updated, and a kindless object is not.
theorem bodies_carry_object_updated :
    let update : Write := .update Sample.plainPost
    let held := Sample.configMap "u" "1"
    let meter := Sample.metered (.decimal "0.5")
    (update.direct Sample.scheme .never held (Sample.answering (Object.write held))).1 =
        ⟨held, .ok ()⟩ ∧
      (update.direct Sample.scheme .never meter (Sample.answering meter.write)).1 = ⟨meter, .ok ()⟩ ∧
      (Sample.request? (.updateStatus Sample.plainPost) meter).bind (·.body) = some meter.write ∧
      (update.direct Sample.scheme .never Sample.untyped (Sample.answering .null)).1 =
        ⟨Sample.untyped, .error .missingKind⟩ := by
  intro update held meter
  obtain ⟨typed, unstructured, legible⟩ := bodies_carry_object
  have config := typed ConfigMap held fun _ none => by cases none
  obtain ⟨kept, _⟩ := unstructured (Sample.meter (.decimal "0.5")) meter (by decide) (by decide +kernel)
  have mirrored := kept ⟨"example.org", "v1", "Meter"⟩ (by decide +kernel)
  obtain ⟨_, missing⟩ :=
    unstructured Sample.untyped.write Sample.untyped (by decide) (by decide +kernel)
  have stable : meter.write.isStable = true := by
    have written : meter.write = .object [("apiVersion", .string "example.org/v1"),
        ("kind", .string "Meter"), ("metadata", .object [("name", .string "a")]),
        ("reading", .decimal "0.5")] := by decide +kernel
    have reading : Json.Legible 1 (.decimal "0.5") := .decimal (by decide) (by decide +kernel)
    have name : Json.Legible 1 (.object [("name", .string "a")]) :=
      .object (by decide) (by decide) (by simpa using .string)
    rw [written]
    exact legible _ (.object (by decide) (by decide) (by simp [Json.Legible.string, name, reading]))
  refine ⟨?config, ?meter, ?status, ?kindless⟩
  case config => exact Sample.direct_of_mirrored config rfl (by decide +kernel) (by decide +kernel)
  case meter => exact Sample.direct_of_mirrored mirrored rfl (by decide +kernel) stable
  case status => exact Sample.body_of_mirrored mirrored rfl (by decide +kernel)
  case kindless => exact congrArg Prod.fst (missing (by decide +kernel) update _ .never _)

-- The body of an update may be read as a neighbour of the number that is sent. What a manager of fields
-- has set to null is sent by an update of the status, and not by an update.
theorem bodies_not_lossless :
    let update : Write := .update Sample.plainPost
    let meter := Sample.metered (.decimal "1e-24")
    let outcome := (update.direct Sample.scheme .never meter (Sample.answering meter.write)).1
    (Sample.request? update meter).bind (·.body) = some meter.write ∧ outcome.result = .ok () ∧
      outcome.object = Sample.metered (.decimal "1.0000000000000001e-24") ∧
      (Sample.request? update Sample.nulled).bind (·.body) ≠ some Sample.nulled.write ∧
      (Sample.request? (.updateStatus Sample.plainPost) Sample.nulled).bind (·.body) =
        some Sample.nulled.write := by
  refine ⟨by decide +kernel, by decide +kernel, by decide +kernel, by decide +kernel,
    by decide +kernel⟩

end ReadYourWrites
