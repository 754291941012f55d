import ReadYourWrites.Watch.Event

-- The collections of a store, kind by kind. An event changes the collection of its own kind only, and
-- how it does so depends on that collection alone.

namespace ReadYourWrites

namespace Delivery

-- The objects that are handed over.
def objects : Delivery → List Unstructured
  | .event (.applied object) | .event (.deleted object) => [object]
  | .event (.restarted objects) => objects
  | .fault => []

def IsListing (d : Delivery) : Prop :=
  ∃ objects, d = .event (.restarted objects)

-- The key that a single object is handed over for.
def key? : Delivery → Option Key
  | .event (.applied object) | .event (.deleted object) => object.metadata.key?
  | _ => none

-- What is held under that key from then on.
def value? : Delivery → Option Json
  | .event (.applied object) => some object.write
  | _ => none

-- A key has the namespace of its object.
theorem scope_of_key? {d : Delivery} {key : Key} (h : d.key? = some key) :
    ∃ object ∈ d.objects, object.metadata.scope = key.scope := by
  cases d
  case fault => cases h
  case event e =>
    cases e
    case restarted => cases h
    all_goals
      obtain ⟨_, -, rfl⟩ := Option.map_eq_some_iff.mp h
      exact ⟨_, List.mem_cons_self, rfl⟩

end Delivery

namespace Collection

-- The collection after an event, if its kind is tracked.
def handle (c : Collection) : Event → Collection
  | .applied object =>
    match object.metadata.key? with
    | some key => { c with objects := c.objects.insert key object.write }
    | none => c
  | .deleted object =>
    match object.metadata.key? with
    | some key => { c with objects := c.objects.erase key }
    | none => c
  | .restarted objects => ⟨.ofList (objects.filterMap Store.keyed), true⟩

def deliver (c : Collection) : Delivery → Collection
  | .event e => c.handle e
  | .fault => c

-- A collection of which no listing has arrived.
def unlisted : Collection :=
  ⟨.empty, false⟩

variable {d : Delivery}

theorem synced_deliver (h : ¬d.IsListing) (c : Collection) : (c.deliver d).synced = c.synced := by
  cases d
  case fault => rfl
  case event e =>
    cases e
    case restarted objects => exact absurd ⟨objects, rfl⟩ h
    all_goals
      simp only [deliver, handle]
      split <;> rfl

-- Short of a listing, a delivery changes what is held under one key at most.
theorem get?_deliver (h : ¬d.IsListing) (c : Collection) (key : Key) :
    (c.deliver d).objects.get? key =
      if d.key? = some key then d.value? else c.objects.get? key := by
  cases d
  case fault => rfl
  case event e =>
    cases e
    case restarted objects => exact absurd ⟨objects, rfl⟩ h
    case applied object =>
      simp only [deliver, handle, Delivery.key?, Delivery.value?]
      split
      case h_1 k hk => simp only [hk, Table.get?_insert, Option.some.injEq, eq_comm]
      case h_2 hk => simp only [hk, reduceCtorEq, if_false]
    case deleted object =>
      simp only [deliver, handle, Delivery.key?, Delivery.value?]
      split
      case h_1 k hk => simp only [hk, Table.get?_erase, Option.some.injEq, eq_comm]
      case h_2 hk => simp only [hk, reduceCtorEq, if_false]

end Collection

namespace Store

variable {store : Store} {kind other : Kind} {c : Collection}

theorem get?_set (store : Store) (kind other : Kind) (c : Collection) :
    (store.set kind c).kinds.get? other = if other = kind then some c else store.kinds.get? other :=
  store.kinds.get?_insert kind other c

theorem get?_set_self (store : Store) (kind : Kind) (c : Collection) :
    (store.set kind c).kinds.get? kind = some c := by
  simp [get?_set]

theorem get?_set_other (h : other ≠ kind) :
    (store.set kind c).kinds.get? other = store.kinds.get? other := by
  simp [get?_set, h]

-- A kind that was tracked before keeps its collection.
theorem get?_track (store : Store) (kind other : Kind) :
    (store.track kind).kinds.get? other =
      (store.kinds.get? other).or (if other = kind then some .unlisted else none) := by
  rw [track]
  split
  case isTrue ht =>
    have ⟨c, hc⟩ := Option.isSome_iff_exists.mp ht
    split
    case isTrue he => simp [he, show store.kinds.get? kind = some c from hc]
    case isFalse => rw [Option.or_none]
  case isFalse ht =>
    have hn : store.kinds.get? kind = none := by
      simpa [isTracked, Table.contains] using ht
    rw [get?_set]
    split
    case isTrue he => simp [he, hn, Collection.unlisted]
    case isFalse => rw [Option.or_none]

theorem get?_handle (h : store.kinds.get? kind = some c) (e : Event) :
    (store.handle kind e).kinds.get? kind = some (c.handle e) := by
  cases e
  case applied object =>
    simp only [handle, insertAs, Collection.handle]
    cases object.metadata.key?
    case none => exact h
    case some key =>
      simp only [put, h]
      exact get?_set_self ..
  case deleted object =>
    simp only [handle, Collection.handle]
    cases object.metadata.key?
    case none => exact h
    case some key =>
      simp only [delete, h]
      exact get?_set_self ..
  case restarted => exact get?_set_self ..

theorem get?_handle_other (h : other ≠ kind) (store : Store) (e : Event) :
    (store.handle kind e).kinds.get? other = store.kinds.get? other := by
  cases e
  case applied object =>
    simp only [handle, insertAs]
    cases object.metadata.key?
    case none => rfl
    case some key =>
      simp only [put]
      split <;> exact get?_set_other h
  case deleted object =>
    simp only [handle]
    cases object.metadata.key?
    case none => rfl
    case some key =>
      simp only [delete]
      split
      case h_1 => exact get?_set_other h
      case h_2 => rfl
  case restarted => exact get?_set_other h

theorem get?_deliver (h : store.kinds.get? kind = some c) (d : Delivery) :
    (store.deliver kind d).kinds.get? kind = some (c.deliver d) := by
  cases d
  case event e => exact get?_handle h e
  case fault => exact h

theorem get?_deliver_other (h : other ≠ kind) (store : Store) (d : Delivery) :
    (store.deliver kind d).kinds.get? other = store.kinds.get? other := by
  cases d
  case event e => exact get?_handle_other h store e
  case fault => rfl

-- A read of one object asks its collection only.
theorem find_eq {held : Json} (hk : Object.writtenKind? held = some kind)
    (h : store.kinds.get? kind = some c) (key : Key) :
    store.find held key =
      if c.synced then
        match c.objects.get? key with
        | some value => .ok value
        | none => .error (.notFound kind.name key)
      else .error (.notSynced kind) := by
  simp only [find, hk, readable, h]
  cases c.synced
  case false => rfl
  case true => cases hv : c.objects.get? key <;> simp [bind, Except.bind, hv] <;> rfl

end Store

end ReadYourWrites
