import ReadYourWrites.Proofs.Client.Read
import ReadYourWrites.Proofs.Client.Write
import ReadYourWrites.Proofs.Store.Contents
import ReadYourWrites.Proofs.Watch.Engine

-- A cache as the replay of its watches. As long as no two watches are of one kind, the store holds of
-- each kind what the deliveries of its watch have made of nothing, whatever the other watches deliver
-- in between. Reads of the kind wait for the first listing.

namespace ReadYourWrites

namespace Delivery

-- What a delivery makes of the contents of a kind.
def replay (contents : Key → Option Json) : Delivery → Key → Option Json
  | .event (.applied object), key =>
    if object.metadata.key? = some key then some object.write else contents key
  | .event (.deleted object), key =>
    if object.metadata.key? = some key then none else contents key
  | .event (.restarted objects), key => Unstructured.last? objects key
  | .fault, key => contents key

end Delivery

namespace Collection

theorem get?_deliver_eq_replay (c : Collection) (d : Delivery) :
    (c.deliver d).objects.get? = Delivery.replay c.objects.get? d := by
  funext key
  cases d
  case fault => rfl
  case event e =>
    cases e
    case restarted objects => exact get?_listing objects key
    all_goals exact get?_deliver (by rintro ⟨_, h⟩; cases h) c key

theorem get?_foldl_deliver (deliveries : List Delivery) (c : Collection) :
    (deliveries.foldl deliver c).objects.get? = deliveries.foldl Delivery.replay c.objects.get? := by
  induction deliveries generalizing c with
  | nil => rfl
  | cons d deliveries ih =>
    rw [List.foldl_cons, List.foldl_cons, ih, get?_deliver_eq_replay]

theorem synced_deliver_iff (c : Collection) (d : Delivery) :
    (c.deliver d).synced = true ↔ c.synced = true ∨ d.IsListing := by
  by_cases hl : d.IsListing
  case pos =>
    obtain ⟨objects, rfl⟩ := hl
    exact ⟨fun _ => .inr ⟨objects, rfl⟩, fun _ => rfl⟩
  case neg => rw [synced_deliver hl, or_iff_left hl]

theorem synced_foldl_deliver (deliveries : List Delivery) (c : Collection) :
    (deliveries.foldl deliver c).synced = true ↔
      c.synced = true ∨ ∃ d ∈ deliveries, d.IsListing := by
  induction deliveries generalizing c with
  | nil => simp
  | cons d deliveries ih => simp [ih, synced_deliver_iff, or_assoc]

end Collection

namespace Traffic

-- What one watch hands over, in order.
def stream (traffic : Traffic) (watch : Watch) : List Delivery :=
  (traffic.of watch).map Prod.snd

theorem ofKind_eq_stream {watches : List Watch} {traffic : Traffic} {watch : Watch}
    (distinct : (watches.map Watch.kind).Nodup) (member : watch ∈ watches)
    (known : ∀ x ∈ traffic, x.1 ∈ watches) :
    traffic.ofKind watch.kind = traffic.stream watch := by
  have hf : traffic.filter (·.1.kind = watch.kind) = traffic.of watch := by
    refine List.filter_congr fun x hx => decide_eq_decide.mpr ⟨fun hk => ?_, congrArg Watch.kind⟩
    exact List.inj_on_of_nodup_map distinct (known x hx) member hk
  rw [ofKind, stream, hf]

end Traffic

namespace Store

-- An answer to a read of a kind that puts the reader off until the first listing in a stream, and no
-- longer leaves the question to the server from then on.
structure Awaits (stream : List Delivery) (kind : Kind) {α : Type} (answer : Except Error α) :
    Prop where
  before : (∀ d ∈ stream, ¬d.IsListing) → answer = .error (.notSynced kind)
  after : (∃ d ∈ stream, d.IsListing) → ∀ e, answer = .error e → Client.defers e = false

variable {store : Store} {stream : List Delivery} {kind : Kind}

theorem Tells.awaits {α : Type} {answer : Except Error α} (h : store.Tells kind answer)
    (tracked : store.isTracked kind = true)
    (synced : store.hasSynced kind = true ↔ ∃ d ∈ stream, d.IsListing) :
    Awaits stream kind answer where
  before hn := by
    refine h.notSynced.mpr ⟨tracked, Bool.eq_false_iff.mpr fun hs => ?_⟩
    have ⟨d, hd, hl⟩ := synced.mp hs
    exact hn d hd hl
  after hl e he := by
    have ⟨hr, hs⟩ := h.neither (synced.mpr hl) e he
    rw [Client.defers, hr, hs]
    rfl

end Store

-- Over a store that puts readers off until the first listing, the client asks the server until then.
-- From then on it asks the store alone.
theorem Client.get_of_awaits {K : Type} [Object K] {client : Client} {contents : Nat → Store}
    {stream : List Delivery} {kind : Kind} {held : K} {key : Key} {w : World}
    (structured : Object.isUnstructured K = false) (cached : client.cache = .ofStore contents)
    (h : Store.Awaits stream kind ((contents w.now).get key held)) (token : Token) :
    ((∀ d ∈ stream, ¬d.IsListing) →
      client.get token held key w = Direct.get client.scheme token held key w.counted) ∧
    ((∃ d ∈ stream, d.IsListing) →
      client.get token held key w = (.ofResult held ((contents w.now).get key held), w.counted)) := by
  have ha : (client.cache.get held key w).1 = (contents w.now).get key held := by rw [cached]; rfl
  rw [get_of_structured structured, ha]
  constructor
  case left =>
    intro hn
    rw [h.before hn]
    rfl
  case right =>
    intro hl
    cases hg : (contents w.now).get key held
    case ok => rfl
    case error e => simp only [h.after hl e hg, Bool.false_eq_true, if_false, Outcome.ofResult]

namespace Store

variable {watches : List Watch} {traffic : Traffic} {watch : Watch}

-- A cache starts with all kinds tracked and then takes in what its watches deliver. Whatever that is,
-- and in whatever order it comes, the store holds of the kind of each watch what replaying the
-- deliveries of that watch gives. Reads of the kind say that it is not listed until the first listing,
-- and from then on they never leave the question to the server. So the client asks the server before
-- that, and the store after it. But reads into unstructured objects go to the server all along, and a
-- listing whose selectors are refused fails for that, whether the kind is listed or not.
theorem replay_of_watch (distinct : (watches.map Watch.kind).Nodup) (member : watch ∈ watches)
    (known : ∀ x ∈ traffic, x.1 ∈ watches) :
    let store := (started watches).feed traffic
    let stream := traffic.stream watch
    (∀ answers, (Engine.start watches answers).feed.store = started watches ∧
      ∀ time, (started watches).Becomes watches
        ((Engine.start watches answers).advance time).feed.store) ∧
    (∀ key, store.held watch.kind key = stream.foldl Delivery.replay (fun _ => none) key) ∧
    (∀ (K : Type) [Object K] (held : K) (key : Key),
      Object.writtenKind? (Object.write held) = some watch.kind →
      Awaits stream watch.kind (store.get key held) ∧
      ∀ (client : Client) (contents : Nat → Store) (token : Token) (w : World),
        client.cache = .ofStore contents → contents w.now = store →
        (Object.isUnstructured K = true →
          client.get token held key w = Direct.get client.scheme token held key w) ∧
        (Object.isUnstructured K = false →
          ((∀ d ∈ stream, ¬d.IsListing) →
            client.get token held key w = Direct.get client.scheme token held key w.counted) ∧
          ((∃ d ∈ stream, d.IsListing) →
            client.get token held key w = (.ofResult held (store.get key held), w.counted)))) ∧
    (∀ (K : Type) [Object K] (scope : Option String) (options : ListOptions),
      (∀ selector, Store.selector options = .ok selector →
        Awaits stream watch.kind (store.list K watch.kind scope options)) ∧
      (∀ e, Store.selector options = .error e →
        store.list K watch.kind scope options = .error e)) := by
  intro store stream
  have hc : store.kinds.get? watch.kind = some (stream.foldl Collection.deliver .unlisted) := by
    have hf := get?_feed (get?_started member) traffic
    rwa [Traffic.ofKind_eq_stream distinct member known] at hf
  have tracked : store.isTracked watch.kind = true := by simp [isTracked, Table.contains, hc]
  have synced : store.hasSynced watch.kind = true ↔ ∃ d ∈ stream, d.IsListing := by
    rw [hasSynced, hc, Option.any_some, Collection.synced_foldl_deliver]
    simp [Collection.unlisted]
  refine ⟨fun answers => ⟨Engine.start_store watches answers, fun time => ?_⟩, ?_, ?_, ?_⟩
  case refine_1 => exact (Engine.advance_serves watches answers time).delivers
  case refine_2 =>
    intro key
    rw [held, hc, Option.bind_some, Collection.get?_foldl_deliver]
    rfl
  case refine_3 =>
    intro K _ held key hk
    have hw : Awaits stream watch.kind (store.get key held) :=
      (tells_get hk key).awaits tracked synced
    refine ⟨hw, fun client contents token w cached current => ⟨fun hu => ?_, fun hs => ?_⟩⟩
    case refine_1 => rw [Client.get, if_pos hu]
    case refine_2 =>
      rw [← current] at hw ⊢
      exact Client.get_of_awaits hs cached hw token
  case refine_4 =>
    intro K _ scope options
    refine ⟨fun selector hs => ?_, fun e he => list_of_rejected he⟩
    exact (tells_list hs).awaits tracked synced

end Store

namespace Sample

def watching (resource : Resource) : Watch :=
  ⟨resource, none, .default⟩

def watched : List Watch :=
  [watching Secret.resource, watching ConfigMap.resource]

def handed (event : Event) : Watch × Delivery :=
  (watching ConfigMap.resource, .event event)

-- Config maps come before their first listing, and secrets are listed in between.
def early : Traffic :=
  [handed (.applied (entry (some "a") "1")), (watching ConfigMap.resource, .fault),
    (watching Secret.resource, .event (.restarted []))]

def full : Traffic :=
  early ++ [handed (.restarted [entry (some "a") "2", entry none "2", entry (some "a") "3"]),
    (watching Secret.resource, .event (.restarted [])), handed (.applied (entry (some "b") "4")),
    handed (.deleted (entry none "5")), handed (.deleted (entry (some "b") "6"))]

-- A client without a scheme, over a store that does not change.
def clientOver (store : Store) : Client :=
  ⟨.empty, .ofStore fun _ => store, config⟩

end Sample

-- The later object of the listing is held, and the store answers for it. Before the listing it does not.
theorem Store.replay_of_watch_interleaved :
    let store := (started Sample.watched).feed Sample.full
    (store.held Sample.maps ⟨none, "a"⟩ = some (Sample.entry (some "a") "3").write ∧
        store.held Sample.maps ⟨none, "b"⟩ = none) ∧
      ((started Sample.watched).feed Sample.early).get ⟨none, "a"⟩ (Sample.configMap "u" "0") =
        .error (.notSynced Sample.maps) ∧
      ∀ w : World, ((Sample.clientOver store).get .never (Sample.configMap "u" "0") ⟨none, "a"⟩ w).2 =
        w.counted := by
  intro store
  have distinct : (Sample.watched.map Watch.kind).Nodup := by decide
  have member : Sample.watching ConfigMap.resource ∈ Sample.watched := by decide
  have known : ∀ x ∈ Sample.full, x.1 ∈ Sample.watched := by decide
  have knownEarly : ∀ x ∈ Sample.early, x.1 ∈ Sample.watched := by decide
  have ⟨_, held, reads, _⟩ := replay_of_watch distinct member known
  have ⟨_, _, early, _⟩ := replay_of_watch distinct member knownEarly
  refine ⟨⟨?_, ?_⟩, ?_, fun w => ?_⟩
  case refine_1 => exact (held _).trans (by decide +kernel)
  case refine_2 => exact (held _).trans (by decide +kernel)
  case refine_3 =>
    have ⟨awaits, _⟩ := early ConfigMap (Sample.configMap "u" "0") ⟨none, "a"⟩ rfl
    have unlisted : Sample.early.stream (Sample.watching ConfigMap.resource) =
        [.event (.applied (Sample.entry (some "a") "1")), .fault] := by decide
    exact awaits.before (by simp [unlisted, Delivery.IsListing])
  case refine_4 =>
    have ⟨_, client⟩ := reads ConfigMap (Sample.configMap "u" "0") ⟨none, "a"⟩ rfl
    have ⟨_, structured⟩ := client (Sample.clientOver store) _ .never w rfl rfl
    have listed : .event (.restarted [Sample.entry (some "a") "2", Sample.entry none "2",
        Sample.entry (some "a") "3"]) ∈ Sample.full.stream (Sample.watching ConfigMap.resource) := by
      decide
    rw [(structured rfl).right ⟨_, listed, _, rfl⟩]

-- A listing whose selectors are refused does not say that the kind is not listed. When the kind is
-- listed, an unstructured object of the kind is still read from the server, past what the store holds.
theorem Store.replay_of_watch_unstructured :
    let unlisted := (started Sample.watched).feed Sample.early
    let store := (started Sample.watched).feed Sample.full
    let call := (Sample.clientOver store).get .never (Sample.entry none "0") ⟨none, "a"⟩
      (Sample.world [(Sample.entry (some "a") "9").write])
    unlisted.list ConfigMap Sample.maps none { ListOptions.default with fields := some "type=a" } =
        .error (.invalidSelector "field selectors are not supported by the cache") ∧
      store.get ⟨none, "a"⟩ (Sample.entry none "0") = .ok (Sample.entry (some "a") "3") ∧
      call.1 = ⟨Sample.entry (some "a") "9", .ok ()⟩ ∧ call.2.reads = 0 ∧ call.2.requests.length = 1 := by
  exact ⟨rfl, by decide +kernel, by decide +kernel, rfl, rfl⟩

end ReadYourWrites
