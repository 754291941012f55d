import Mathlib.Data.List.TakeWhile
import ReadYourWrites.Proofs.Client.Prepared

-- What the calls on one object ask the server for. The name goes into the path as it is, so the path
-- names the object just if its name can be a segment of a path. Before that only a missing name is
-- refused, and neither an empty one nor one with marks that mean something in a URI.

namespace ReadYourWrites

namespace Request

-- Whether a character ends the path of a URI.
def endsPath (c : Char) : Bool :=
  c == '?' || c == '#'

-- Whether a request is for the named object of a collection, or for the part of it that `suffix`
-- names: one further segment follows the path of the collection, and it is the name.
structure Addresses (request : Request) (collection name suffix : String) : Prop where
  target_eq : request.target = collection ++ "/" ++ name ++ suffix
  nonempty : name ≠ ""
  whole : '/' ∉ name.toList

-- Whether a request is for what a text of a path says, up to the first mark that ends a path.
def Leads (request : Request) (path : String) : Prop :=
  request.target.toList = path.toList.takeWhile (!endsPath ·)

variable {method : Method} {text : String} {contentType accept : Option String}
  {body : Option Json} {request : Request} {path name suffix : String}

theorem leads_of_make (h : make method text contentType accept body = .ok request) :
    request.Leads text := by
  rw [make] at h
  split at h
  case h_2 => cases h
  case h_1 uri hu =>
    cases h
    rw [uri?] at hu
    have ⟨_, he⟩ := Option.ite_none_right_eq_some.mp hu
    cases he
    have hp (c : Char) : (!endsPath c) = decide (c ≠ '?' ∧ c ≠ '#') := by
      by_cases hq : c = '?' <;> by_cases hn : c = '#' <;> simp [endsPath, hq, hn]
    simp only [Leads, target, String.toList_ofList, List.takeWhile_takeWhile, decide_eq_true_eq, hp]

-- The query does not belong to the path.
theorem takeWhile_withQuery (path : String) (parameters : List (String × String)) :
    (withQuery path parameters).toList.takeWhile (!endsPath ·) =
      path.toList.takeWhile (!endsPath ·) := by
  simp only [withQuery, String.toList_append, List.append_assoc]
  generalize path.toList = cs
  induction cs with
  | nil => rfl
  | cons c cs ih => simp only [List.cons_append, List.takeWhile_cons, ih]

theorem leads_of_query {parameters : List (String × String)}
    (h : make method (withQuery path parameters) contentType accept body = .ok request) :
    request.Leads path :=
  (leads_of_make h).trans (takeWhile_withQuery path parameters)

theorem leads_get (h : get path name = .ok request) : request.Leads (path ++ "/" ++ name) :=
  leads_of_make h

theorem leads_replace {options : PostOptions} {json : Json}
    (h : replace path name suffix options json = .ok request) :
    request.Leads (path ++ "/" ++ name ++ suffix) :=
  leads_of_query h

theorem leads_patch {options : PatchOptions} {change : Patch}
    (h : patch path name suffix options change = .ok request) :
    request.Leads (path ++ "/" ++ name ++ suffix) := by
  rw [patch] at h
  split at h
  case isTrue => exact leads_of_query h
  case isFalse => cases h

theorem leads_delete {options : DeleteOptions} (h : delete path name options = .ok request) :
    request.Leads (path ++ "/" ++ name) :=
  leads_of_query h

-- Nothing is escaped, so a mark in the name or in the path of the collection is the only thing that
-- can lead the request elsewhere.
theorem Leads.addresses_iff {collection : String}
    (clean : suffix.toList.all (!endsPath ·) = true)
    (h : request.Leads (collection ++ "/" ++ name ++ suffix)) :
    request.Addresses collection name suffix ↔
      (name ≠ "" ∧ ∀ c ∈ name.toList, c ≠ '/' ∧ endsPath c = false) ∧
        ∀ c ∈ collection.toList, endsPath c = false := by
  have target_eq_iff : request.target = collection ++ "/" ++ name ++ suffix ↔
      ∀ c ∈ (collection ++ "/" ++ name ++ suffix).toList, endsPath c = false := by
    rw [← String.toList_inj, h, List.takeWhile_eq_self_iff]
    simp only [Bool.not_eq_true']
  have slash : endsPath '/' = false := rfl
  constructor
  case mp =>
    rintro ⟨target, nonempty, whole⟩
    have plain := target_eq_iff.mp target
    simp only [String.toList_append, List.mem_append] at plain
    refine ⟨⟨nonempty, fun c hc => ⟨fun he => whole (he ▸ hc), plain c ?_⟩⟩, fun c hc => plain c ?_⟩
    case refine_1 => exact .inl (.inr hc)
    case refine_2 => exact .inl (.inl (.inl hc))
  case mpr =>
    rintro ⟨⟨nonempty, plain⟩, within⟩
    refine ⟨target_eq_iff.mpr fun c hc => ?_, nonempty, fun hc => (plain _ hc).left rfl⟩
    simp only [String.toList_append, List.mem_append] at hc
    obtain ((hc | hc) | hc) | hc := hc
    case inl.inl.inl => exact within c hc
    case inl.inl.inr => exact List.mem_singleton.mp hc ▸ slash
    case inl.inr => exact (plain c hc).right
    case inr => simpa only [Bool.not_eq_true'] using List.all_eq_true.mp clean c hc

end Request

-- The part of an object that a write is for. A creation is for a whole collection.
def Write.part? : Write → Option String
  | .create _ => none
  | .update _ | .patch _ _ | .delete _ => some ""
  | .updateStatus _ | .patchStatus _ _ => some "/status"

-- A call on one object: a read, or a write of an object that exists already.
inductive Visit where
  | get (key : Key)
  | change (write : Write) (single : write.part?.isSome = true)

namespace Visit

def suffix : Visit → String
  | .get _ => ""
  | .change write single => write.part?.get single

theorem suffix_clean (visit : Visit) :
    visit.suffix.toList.all (!Request.endsPath ·) = true := by
  have status_clean : "/status".toList.all (!Request.endsPath ·) = true := by decide
  cases visit with
  | get => rfl
  | change write single =>
    cases write with
    | create => cases single
    | update | patch | delete => rfl
    | updateStatus | patchStatus => exact status_clean

variable {K : Type} [Object K]

-- The key that the call is about. Writes take it from the object.
def key (visit : Visit) (object : K) : Except Error Key :=
  match visit with
  | .get key => .ok key
  | .change _ _ => Object.key object

-- The call by the direct client.
def perform (visit : Visit) (scheme : Scheme) (token : Token) (object : K) (w : World) :
    Outcome K × World :=
  match visit with
  | .get key => Direct.get scheme token object key w
  | .change write _ => write.direct scheme token object w

def prepared (visit : Visit) (scheme : Scheme) (object : K) : Except Error (Prepared K) :=
  match visit with
  | .get key => Direct.prepareGet scheme object key
  | .change write _ => write.prepared scheme object

theorem perform_eq (visit : Visit) (scheme : Scheme) (token : Token) (object : K) (w : World) :
    visit.perform scheme token object w =
      Direct.sendFor token object (visit.prepared scheme object) w := by
  cases visit with
  | get => rfl
  | change write => exact write.direct_eq scheme token object w

end Visit

-- The request of a write that is ready is for what the path of the object's kind and key says.
theorem Write.leads_of_prepared {K : Type} [Object K] {write : Write} {suffix : String}
    (part : write.part? = some suffix) {scheme : Scheme} {object : K} {call : Prepared K}
    {request : Request} (h : write.prepared scheme object = .ok call)
    (hr : call.request = .ok request) :
    ∃ kind key, Object.kind object = .ok kind ∧ Object.key object = .ok key ∧
      request.Leads (Direct.path scheme kind key.scope ++ "/" ++ key.name ++ suffix) := by
  cases write with
  | create => cases part
  | update options =>
    cases part
    obtain ⟨kind, key, hk, hn, ready⟩ := Direct.located h
    simp only at ready
    cases hb : Unstructured.ofObject object
    case error => rw [hb] at ready; cases ready
    case ok body =>
      rw [hb] at ready
      obtain rfl := Except.ok.inj ready
      dsimp only at hr
      exact ⟨kind, key, hk, hn, Request.leads_replace hr⟩
  | patch body options =>
    cases part
    obtain ⟨kind, key, hk, hn, ready⟩ := Direct.located h
    obtain rfl := Except.ok.inj ready
    dsimp only at hr
    exact ⟨kind, key, hk, hn, Request.leads_patch hr⟩
  | updateStatus options =>
    cases part
    obtain ⟨kind, key, hk, hn, ready⟩ := Direct.located h
    obtain rfl := Except.ok.inj ready
    dsimp only at hr
    exact ⟨kind, key, hk, hn, Request.leads_replace hr⟩
  | patchStatus body options =>
    cases part
    obtain ⟨kind, key, hk, hn, ready⟩ := Direct.located h
    obtain rfl := Except.ok.inj ready
    dsimp only at hr
    exact ⟨kind, key, hk, hn, Request.leads_patch hr⟩
  | delete options =>
    cases part
    rw [prepared] at h
    cases hp : Direct.prepareDelete scheme object options
    case error => rw [hp] at h; cases h
    case ok ready =>
      rw [hp] at h
      obtain rfl := Except.ok.inj h
      obtain ⟨kind, key, hk, hn, ready⟩ := Direct.located hp
      obtain rfl := Except.ok.inj ready
      refine ⟨kind, key, hk, hn, ?_⟩
      rw [String.append_empty]
      dsimp only at hr
      exact Request.leads_delete hr

namespace Visit

variable {K : Type} [Object K] {visit : Visit} {scheme : Scheme} {object : K}

theorem leads_of_prepared {call : Prepared K} {request : Request}
    (h : visit.prepared scheme object = .ok call) (hr : call.request = .ok request) :
    ∃ kind key, Object.kind object = .ok kind ∧ visit.key object = .ok key ∧
      request.Leads (Direct.path scheme kind key.scope ++ "/" ++ key.name ++ visit.suffix) := by
  cases visit with
  | get key =>
    rw [prepared, Direct.prepareGet] at h
    cases hk : Object.kind object
    case error => rw [hk] at h; cases h
    case ok kind =>
      rw [hk] at h
      obtain rfl := Except.ok.inj h
      refine ⟨kind, key, rfl, rfl, ?_⟩
      rw [suffix, String.append_empty]
      dsimp only at hr
      exact Request.leads_get hr
  | change write single => exact write.leads_of_prepared (Option.some_get single).symm h hr

-- A call on one object fails before anything is sent, or it sends one request and once. Whatever the
-- object and its key hold, that request is for what stands in front of the first mark that ends a path.
-- It addresses the object just if the name is not empty and has no mark of a URI, and if the path of
-- the collection has none that ends a path.
theorem addresses_named_iff (visit : Visit) (scheme : Scheme) (token : Token) (object : K)
    (w : World) :
    let call := visit.perform scheme token object w
    (∃ e, call = (⟨object, .error e⟩, w)) ∨
      ∃ kind key request, Object.kind object = .ok kind ∧ visit.key object = .ok key ∧
        call.2 = (w.exchange token (.ok request)).2 ∧
        (call.2.requests = w.requests ∨ call.2.requests = w.requests ++ [request]) ∧
        let collection := Direct.path scheme kind key.scope
        request.Leads (collection ++ "/" ++ key.name ++ visit.suffix) ∧
        (request.Addresses collection key.name visit.suffix ↔
          (key.name ≠ "" ∧ ∀ c ∈ key.name.toList, c ≠ '/' ∧ Request.endsPath c = false) ∧
            ∀ c ∈ collection.toList, Request.endsPath c = false) := by
  intro call
  have he : call = Direct.sendFor token object (visit.prepared scheme object) w :=
    visit.perform_eq scheme token object w
  cases hp : visit.prepared scheme object
  case error e =>
    rw [hp] at he
    exact .inl ⟨e, he⟩
  case ok ready =>
    rw [hp] at he
    cases hr : ready.request
    case error fault =>
      have ⟨e, hs⟩ := Direct.sendFor_fault hr token object w
      exact .inl ⟨e, he.trans hs⟩
    case ok request =>
      have ⟨kind, key, hk, hn, leads⟩ := leads_of_prepared hp hr
      have sent : call.2 = (w.exchange token (.ok request)).2 := by rw [he, ← hr]; rfl
      refine .inr ⟨kind, key, request, hk, hn, sent, ?_, leads, leads.addresses_iff visit.suffix_clean⟩
      rw [sent]
      exact w.exchange_requests token request

end Visit

namespace Sample

def mapNamed (name : String) : ConfigMap :=
  ⟨{ Metadata.empty with name := some name, scope := some "kiosk" }, none, none, none⟩

-- The server's word that a deletion has been done.
def success : Json :=
  .object [("kind", .string "Status"), ("status", .string "Success")]

end Sample

-- A deletion of an object with the empty name is one of the whole collection, and with some other
-- names it is one of an object that has another name, or of a part of one.
theorem Visit.addresses_another :
    let deletion := Visit.change (.delete ⟨false, none, none, none⟩) rfl
    let call (name : String) := deletion.perform Sample.scheme .never (Sample.mapNamed name)
      (Sample.world [Sample.success])
    let collection := "/api/v1/namespaces/kiosk/configmaps"
    let targets (name : String) := (call name).2.requests.map (·.target)
    ((call "").1.result = .ok () ∧ targets "" = [collection ++ "/"]) ∧
      targets "a?b" = [collection ++ "/a"] ∧ targets "a#b" = [collection ++ "/a"] ∧
      targets "a/b" = [collection ++ "/a/b"] ∧
      ∃ request, (call "").2.requests = [request] ∧ ¬request.Addresses collection "" "" := by
  intro deletion call collection targets
  refine ⟨by decide +kernel, by decide +kernel, by decide +kernel, by decide +kernel, ?_⟩
  have sent : ∃ request, (call "").2.requests = [request] :=
    List.length_eq_one_iff.mp (by decide +kernel)
  have ⟨request, hr⟩ := sent
  exact ⟨request, hr, fun h => h.nonempty rfl⟩

end ReadYourWrites
