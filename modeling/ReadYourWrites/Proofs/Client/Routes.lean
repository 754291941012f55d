import Mathlib.Data.List.Nodup
import ReadYourWrites.Proofs.Client.Read
import ReadYourWrites.Proofs.Client.Write
import ReadYourWrites.Proofs.Store.Contents
import ReadYourWrites.Watch.Event

-- The two routes of a read. The server gives an object as JSON, which is read as an unstructured
-- object, and a store holds what an unstructured object writes. Both routes end with the same
-- conversion to the type of the caller, so it does not matter which of them a read takes.

namespace ReadYourWrites

namespace Response

theorem decode_of_json {α : Type} {form : Json.Form α} {j : Json} {a : α} {status : Nat}
    (calm : Status.isError status = false) (h : form.read j = some a) :
    (⟨status, .json j⟩ : Response).decode (·.read? form) = .ok a := by
  have hc : (⟨status, .json j⟩ : Response).content = .ok (.json j) := by
    simp [content, Body.text?, calm]
  rw [decode, hc]
  simp only [bind, Except.bind, Body.read?, h]
  rfl

end Response

namespace World

-- Whether the server answers a request, with an answer that is read as the given value.
def Gives {α : Type} (w : World) (token : Token) (request : Except RequestFault Request)
    (read : Response → Except Failure α) (a : α) : Prop :=
  ∃ response, (w.exchange token request).1 = .ok response ∧ read response = .ok a

variable {α : Type} {w : World} {token : Token} {request : Except RequestFault Request}
  {read : Response → Except Failure α} {a : α}

-- Such a request has been sent.
theorem Gives.requests_eq (h : w.Gives token request read a) :
    ∃ sent, (w.exchange token request).2.requests = w.requests ++ [sent] := by
  obtain ⟨response, answered, -⟩ := h
  revert answered
  fun_cases exchange token request w <;> intro answered
  case case5 => exact ⟨_, rfl⟩
  all_goals cases answered

theorem Gives.requests_ne (h : w.Gives token request read a) :
    (w.exchange token request).2.requests ≠ w.requests := by
  have ⟨sent, hs⟩ := h.requests_eq
  simp [hs]

end World

variable {K : Type} [Object K]

namespace Direct

variable {scheme : Scheme} {token : Token} {w : World}

-- What comes of a call that is ready.
theorem sendFor_ok {K : Type} (token : Token) (held : K) (call : Prepared K) (w : World) :
    sendFor token held (.ok call) w =
      (.ofResult held ((w.exchange token call.request).1.bind call.finish),
        (w.exchange token call.request).2) :=
  rfl

theorem get_eq [Typed K] (scheme : Scheme) (token : Token) (held : K) (key : Key) (w : World) :
    get scheme token held key w =
      let request := Request.get (path scheme (Typed.kind K) key.scope) key.name
      (.ofResult held ((w.exchange token request).1.bind (finishObject K)),
        (w.exchange token request).2) := by
  have prepared : prepareGet scheme held key =
      .ok ⟨Request.get (path scheme (Typed.kind K) key.scope) key.name, finishObject K⟩ := by
    rw [prepareGet, Typed.kind_eq]
    rfl
  rw [get, prepared, sendFor_ok]

theorem get_of_gives [Typed K] {held : K} {key : Key} {object : Unstructured}
    (h : w.Gives token (Request.get (path scheme (Typed.kind K) key.scope) key.name)
      Response.object object) :
    (get scheme token held key w).1 = .ofResult held (object.toObject K) := by
  obtain ⟨response, answered, hr⟩ := h
  simp only [get_eq, answered, Except.bind, finishObject, hr]
  rfl

theorem list_of_gives {kind : Kind} {scope : Option String} {options : ListOptions}
    {listing : Listing}
    (h : w.Gives token (Request.list (path scheme kind scope) options) Response.listing listing) :
    (list K scheme token kind scope options w).1 = listing.items.mapM (·.toObject K) := by
  obtain ⟨response, answered, hr⟩ := h
  simp only [list, Prepared.send, prepareList, answered, Except.bind, hr]
  rfl

end Direct

namespace Store

-- The ways in which an object comes into a store: put there, in a listing, or with an event of a watch.
-- In a listing no object behind it has the same key.
inductive Takes (kind : Kind) (object : Unstructured) (before : Store) : Store → Prop
  | inserted {after} : before.insertAs kind object = .ok after → Takes kind object before after
  | listed {front back} :
      (∀ other ∈ back, other.metadata.key? ≠ object.metadata.key?) →
      Takes kind object before (before.replace kind (front ++ object :: back)).1
  | applied : Takes kind object before (before.handle kind (.applied object))
  | restarted {front back} :
      (∀ other ∈ back, other.metadata.key? ≠ object.metadata.key?) →
      Takes kind object before (before.handle kind (.restarted (front ++ object :: back)))

variable {kind : Kind} {object : Unstructured} {key : Key} {before after : Store}

-- Of the objects of a listing that have one key, the last is held.
theorem held_replace {front back : List Unstructured} (named : object.metadata.key? = some key)
    (last : ∀ other ∈ back, other.metadata.key? ≠ object.metadata.key?) (store : Store) :
    (store.replace kind (front ++ object :: back)).1.held kind key = some object.write := by
  have none_behind : back.filter (·.metadata.key? = some key) = [] := by
    simpa [List.filter_eq_nil_iff, named] using last
  rw [held, replace, get?_set_self, Option.bind_some]
  refine (Collection.get?_listing _ key).trans ?_
  simp [Unstructured.last?, named, none_behind]

theorem insertAs_of_named (named : object.metadata.key? = some key) (store : Store) :
    store.insertAs kind object = .ok (store.put kind key object.write) := by
  simp only [insertAs, named]

-- Whichever way an object comes in, the store holds what it writes.
theorem Takes.held_eq (h : Takes kind object before after)
    (named : object.metadata.key? = some key) : after.held kind key = some object.write := by
  cases h with
  | inserted hi =>
    cases (insertAs_of_named named before).symm.trans hi
    exact held_put ..
  | listed last => exact held_replace named last before
  | applied =>
    simp only [handle, insertAs_of_named named]
    exact held_put ..
  | restarted last => exact held_replace named last before

theorem get_of_held [Typed K] (synced : after.hasSynced (Typed.kind K) = true)
    (h : after.held (Typed.kind K) key = some object.write) (given : K) :
    after.get key given = object.toObject K :=
  (get_eq_answer after key given).trans (answer_of_held synced h)

theorem map_keyed {items : List Unstructured} (named : ∀ item ∈ items, item.metadata.key? ≠ none) :
    (items.filterMap keyed).map (some ∘ Prod.fst) = items.map (·.metadata.key?) ∧
      (items.filterMap keyed).map Prod.snd = items.map Unstructured.write := by
  induction items with
  | nil => exact ⟨rfl, rfl⟩
  | cons item items ih =>
    rw [List.forall_mem_cons] at named
    have ⟨keys, values⟩ := ih named.right
    have ⟨key, hk⟩ := Option.ne_none_iff_exists'.mp named.left
    simp [keyed, hk, keys, values]

-- Without selectors a store lists all objects that it has taken in, if no two of them have the same key.
theorem list_replace {items : List Unstructured} {options : ListOptions}
    (named : ∀ item ∈ items, item.metadata.key? ≠ none)
    (distinct : (items.map (·.metadata.key?)).Nodup) (labels : options.labels = none)
    (fields : options.fields = none) :
    (before.replace kind items).1.list K kind none options = items.mapM (·.toObject K) := by
  have ⟨keys, values⟩ := map_keyed named
  have nodup : ((items.filterMap keyed).map Prod.fst).Nodup := by
    rw [← keys, ← List.map_map] at distinct
    exact List.Nodup.of_map some distinct
  have accepted : selector options = .ok [] := by simp [selector, labels, fields]
  have readable : (before.replace kind items).1.readable kind =
      .ok (.ofList (items.filterMap keyed)) := by
    simp only [Store.readable, replace, get?_set_self, if_true]
  have all : (items.filterMap keyed).filter (admits none []) = items.filterMap keyed :=
    List.filter_eq_self.mpr fun _ _ => rfl
  rw [list_eq accepted, readable]
  simp only [Except.bind, Table.entries_ofList nodup, all, values]
  exact List.mapM_map

end Store

namespace Client

-- A client asks its store alone about kinds that the store tracks and has listed, and about all other
-- kinds the server.
theorem get_by_route [Typed K] (scheme : Scheme) (contents : Nat → Store) (config : Config)
    (token : Token) (held : K) (key : Key) (w : World) :
    let store := contents w.now
    let call := (Client.mk scheme (.ofStore contents) config).get token held key w
    (store.isTracked (Typed.kind K) = true ∧ store.hasSynced (Typed.kind K) = true →
      call = (.ofResult held (store.get key held), w.counted)) ∧
    (¬(store.isTracked (Typed.kind K) = true ∧ store.hasSynced (Typed.kind K) = true) →
      call = Direct.get scheme token held key w.counted) := by
  intro store call
  have tells : store.Tells (Typed.kind K) (store.get key held) :=
    Store.tells_get (Typed.writtenKind? held) key
  have hc : call = _ := get_of_structured Typed.not_unstructured ..
  have asked : ((Cache.ofStore contents).get held key w).1 = store.get key held := rfl
  rw [asked] at hc
  constructor
  case left =>
    rintro ⟨_, synced⟩
    rw [hc]
    cases hg : store.get key held
    case ok => rfl
    case error e =>
      have ⟨hr, hs⟩ := tells.neither synced e hg
      simp only [defers, hr, hs, Bool.or_self, Bool.false_eq_true, if_false, Outcome.ofResult]
  case right =>
    intro hn
    rw [hc]
    cases tracked : store.isTracked (Typed.kind K)
    case false =>
      rw [tells.notRegistered.mpr tracked]
      rfl
    case true =>
      have unsynced : store.hasSynced (Typed.kind K) = false :=
        Bool.eq_false_iff.mpr fun hs => hn ⟨tracked, hs⟩
      rw [tells.notSynced.mpr ⟨tracked, unsynced⟩]
      rfl

-- An object that the server gives and the store holds is read alike by either route: it is converted to
-- the type of the caller, or the read fails and leaves the caller's object as it was. The same goes for
-- a listing by the server and one by a store that has taken in its items. A client takes the route
-- through its store just if the store tracks the kind and has listed it, and then sends no request.
theorem get_by_either_route {K : Type} [Object K] [Typed K] (scheme : Scheme) (config : Config)
    (token : Token) (held : K) :
    let kind := Typed.kind K
    let request (key : Key) := Request.get (Direct.path scheme kind key.scope) key.name
    (∀ (j : Json) (status : Nat), Status.isError status = false →
      (∀ object, Unstructured.read j = some object →
        (⟨status, .json j⟩ : Response).object = .ok object) ∧
      (∀ listing, Listing.read j = some listing →
        (⟨status, .json j⟩ : Response).listing = .ok listing)) ∧
    (∀ (object : Unstructured) (key : Key), object.metadata.key? = some key →
      let found : Except Error K := object.toObject K
      (found = .error .unreadable ∨ ∃ k, found = .ok k) ∧
      (∀ w : World, w.Gives token (request key) Response.object object →
        (Direct.get scheme token held key w).1 = .ofResult held found) ∧
      (∀ before after : Store, before.Takes kind object after → after.hasSynced kind = true →
        after.get key held = found) ∧
      (∀ (contents : Nat → Store) (w : World),
        ((contents w.now).hasSynced kind = true →
          (contents w.now).held kind key = some object.write) →
        ((contents w.now).hasSynced kind = false →
          w.counted.Gives token (request key) Response.object object) →
        ((Client.mk scheme (.ofStore contents) config).get token held key w).1 =
          .ofResult held found)) ∧
    (∀ (listing : Listing) (scope : Option String) (options own : ListOptions) (w : World)
      (before : Store), (∀ item ∈ listing.items, item.metadata.key? ≠ none) →
      (listing.items.map (·.metadata.key?)).Nodup → own.labels = none → own.fields = none →
      w.Gives token (Request.list (Direct.path scheme kind scope) options) Response.listing listing →
      let direct := (Direct.list K scheme token kind scope options w).1
      let stored := (before.replace kind listing.items).1.list K kind none own
      (direct = .error .unreadable ∧ stored = .error .unreadable) ∨
        ∃ found kept, direct = .ok found ∧ stored = .ok kept ∧ found.Perm kept) ∧
    (∀ (contents : Nat → Store) (key : Key) (w : World),
      let store := contents w.now
      let call := (Client.mk scheme (.ofStore contents) config).get token held key w
      (store.isTracked kind = true ∧ store.hasSynced kind = true →
        call = (.ofResult held (store.get key held), w.counted)) ∧
      (¬(store.isTracked kind = true ∧ store.hasSynced kind = true) →
        call = Direct.get scheme token held key w.counted) ∧
      ∀ object, w.counted.Gives token (request key) Response.object object →
        (call.2.requests = w.requests ↔
          store.isTracked kind = true ∧ store.hasSynced kind = true)) := by
  intro kind request
  refine ⟨?_, ?_, ?_, ?_⟩
  case refine_1 =>
    intro j status calm
    exact ⟨fun _ h => Response.decode_of_json calm h, fun _ h => Response.decode_of_json calm h⟩
  case refine_2 =>
    intro object key named found
    refine ⟨?_, fun w => Direct.get_of_gives, ?_, ?_⟩
    case refine_1 =>
      cases hf : found
      case error e => exact .inl (congrArg _ (Object.decode_eq_error hf))
      case ok k => exact .inr ⟨k, rfl⟩
    case refine_2 =>
      intro before after taken synced
      exact Store.get_of_held synced (taken.held_eq named) held
    case refine_3 =>
      intro contents w holds gives
      have ⟨cached, asked⟩ := get_by_route scheme contents config token held key w
      cases hs : (contents w.now).hasSynced kind
      case true =>
        rw [cached ⟨Store.isTracked_of_synced hs, hs⟩, Store.get_of_held hs (holds hs) held]
      case false =>
        rw [asked fun h => Bool.false_ne_true (hs.symm.trans h.right), Direct.get_of_gives (gives hs)]
  case refine_3 =>
    intro listing scope options own w before named distinct labels fields gives direct stored
    have hd : direct = listing.items.mapM (·.toObject K) := Direct.list_of_gives gives
    have hs : stored = listing.items.mapM (·.toObject K) :=
      Store.list_replace named distinct labels fields
    cases hm : listing.items.mapM (·.toObject K)
    case error e =>
      have ⟨_, _, he⟩ := mapM_eq_error hm
      cases Object.decode_eq_error he
      exact .inl ⟨hd.trans hm, hs.trans hm⟩
    case ok found => exact .inr ⟨found, found, hd.trans hm, hs.trans hm, .refl found⟩
  case refine_4 =>
    intro contents key w store call
    have ⟨cached, asked⟩ := get_by_route scheme contents config token held key w
    refine ⟨cached, asked, fun object gives => ?_⟩
    by_cases h : store.isTracked kind = true ∧ store.hasSynced kind = true
    case pos =>
      have hc : call = _ := cached h
      simp [hc, h]
    case neg =>
      have hc : call = _ := asked h
      have sent := gives.requests_ne
      rw [hc, Direct.get_eq]
      exact iff_of_false sent h

end Client

namespace Sample

-- A config map whose type metadata is in part not a text, and how it is read.
def mistyped : Json :=
  .object [("apiVersion", .integer 1), ("kind", .string "ConfigMap"),
    ("metadata", .object [("name", .string "settings")])]

def halfTyped : Unstructured where
  types := none
  metadata := { Metadata.empty with name := some "settings" }
  fields := [("kind", .string "ConfigMap")]
  distinct := by decide

end Sample

-- As a config map the JSON itself cannot be read.
theorem Client.get_by_either_route_mistyped :
    let held := Sample.configMap "u" "1"
    let key : Key := ⟨none, "settings"⟩
    let found : ConfigMap := ⟨Sample.halfTyped.metadata, none, none, none⟩
    let w := Sample.world [Sample.mistyped]
    let before := Store.empty.track Sample.maps
    let after := before.handle Sample.maps (.restarted [Sample.halfTyped])
    let call (store : Store) := (Sample.client (.ofStore fun _ => store)).get .never held key w
    ConfigMap.read Sample.mistyped = none ∧
      (Direct.get Sample.scheme .never held key w).1 = ⟨found, .ok ()⟩ ∧
      after.get key held = .ok found ∧
      ((call before).1 = ⟨found, .ok ()⟩ ∧ (call before).2.requests ≠ []) ∧
      (call after).1 = ⟨found, .ok ()⟩ ∧ (call after).2.requests = [] := by
  intro held key found w before after call
  have ⟨read, single, _, route⟩ :=
    get_by_either_route (K := ConfigMap) Sample.scheme Sample.config .never held
  have ⟨asObject, _⟩ := read Sample.mistyped 200 rfl
  have object := asObject Sample.halfTyped (by decide +kernel)
  have gives {v : World} (answered : (v.exchange .never
      (Request.get (Direct.path Sample.scheme (Typed.kind ConfigMap) key.scope) key.name)).1 =
        .ok ⟨200, .json Sample.mistyped⟩) :
      v.Gives .never (Request.get (Direct.path Sample.scheme (Typed.kind ConfigMap) key.scope) key.name)
        Response.object Sample.halfTyped := ⟨_, answered, object⟩
  have given := gives (v := w) (by decide +kernel)
  have givenLater := gives (v := w.counted) (by decide +kernel)
  have ⟨_, direct, stored, either⟩ := single Sample.halfTyped key rfl
  have converted : Sample.halfTyped.toObject ConfigMap = .ok found := by decide +kernel
  rw [converted] at direct stored either
  have taken : before.Takes Sample.maps Sample.halfTyped after :=
    @Store.Takes.restarted Sample.maps Sample.halfTyped before [] [] (by simp)
  have unsynced : before.hasSynced Sample.maps = false := by decide +kernel
  have synced : after.hasSynced Sample.maps = true := by decide +kernel
  have asked : (call before).1 = ⟨found, .ok ()⟩ :=
    either (fun _ => before) w (fun h => absurd (unsynced.symm.trans h) Bool.false_ne_true)
      fun _ => givenLater
  have spared : (call after).1 = ⟨found, .ok ()⟩ :=
    either (fun _ => after) w (fun _ => taken.held_eq rfl)
      fun h => absurd (h.symm.trans synced) Bool.false_ne_true
  have routes (store : Store) : (call store).2.requests = w.requests ↔
      store.isTracked Sample.maps = true ∧ store.hasSynced Sample.maps = true :=
    (route (fun _ => store) key w).right.right _ givenLater
  have sent : (call before).2.requests ≠ w.requests := by
    rw [ne_eq, routes, unsynced]
    simp
  have unsent : (call after).2.requests = w.requests :=
    (routes after).mpr ⟨Store.isTracked_of_synced synced, synced⟩
  have unreadable : ConfigMap.read Sample.mistyped = none := by decide +kernel
  exact ⟨unreadable, direct w given, stored before after taken synced, ⟨asked, sent⟩, spared, unsent⟩

end ReadYourWrites
