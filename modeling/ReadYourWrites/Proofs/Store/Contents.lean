import ReadYourWrites.Proofs.Object.Metadata
import ReadYourWrites.Proofs.Store.Changes
import ReadYourWrites.Proofs.Store.Reading

-- What a store holds, in terms of the calls that it has gone through: under each key the value that
-- the last change about this key has given.

namespace ReadYourWrites

namespace Unstructured

-- The last object of a listing that has the given key, in written form.
def last? (objects : List Unstructured) (key : Key) : Option Json :=
  (objects.filter (·.metadata.key? = some key)).getLast?.map write

variable {objects : List Unstructured} {key : Key}

theorem exists_of_last? {value : Json} (h : last? objects key = some value) :
    ∃ object ∈ objects, object.metadata.key? = some key ∧ value = object.write := by
  obtain ⟨object, hl, rfl⟩ := Option.map_eq_some_iff.mp h
  have ⟨hm, hk⟩ := List.mem_filter.mp (List.mem_of_getLast? hl)
  exact ⟨object, hm, of_decide_eq_true hk, rfl⟩

end Unstructured

namespace Operation

-- What a change gives for a key of a kind, if it is about that key: the value that is held from then
-- on, or none if there is no value any more.
def gives? (kind : Kind) (key : Key) : Operation → Option (Option Json)
  | .track _ => none
  | .insert object =>
    if Object.writtenKind? object.json = some kind ∧ object.metadata.key? = some key
    then some (some object.json) else none
  | .insertAs own object =>
    if own = kind ∧ object.metadata.key? = some key then some (some object.write) else none
  | .delete own other => if own = kind ∧ other = key then some none else none
  | .replace own objects => if own = kind then some (Unstructured.last? objects key) else none
  | .reset own => if own = kind then some none else none

variable {o : Operation} {kind : Kind} {key other : Key} {value : Json}

theorem gives?_of_other (h : o.kind? ≠ some kind) : o.gives? kind key = none := by
  cases o <;> simp_all [gives?, kind?]

theorem Inserts.gives?_eq (h : o.Inserts kind other value) :
    o.gives? kind key = if key = other then some (some value) else none := by
  cases h with
  | typed hk hm => simp [gives?, hk, hm, eq_comm]
  | any hm => simp [gives?, hm, eq_comm]

-- A value that a change gives is the written form of an object that has the key.
theorem object_of_gives? (h : o.gives? kind key = some (some value)) :
    (∃ object, o = .insert object ∧ object.metadata.key? = some key ∧ value = object.json) ∨
      ∃ object : Unstructured, object.metadata.key? = some key ∧ value = object.write := by
  cases o with
  | insert object =>
    simp only [gives?, Option.ite_none_right_eq_some, Option.some.injEq] at h
    exact .inl ⟨object, rfl, h.left.right, h.right.symm⟩
  | insertAs _ object =>
    simp only [gives?, Option.ite_none_right_eq_some, Option.some.injEq] at h
    exact .inr ⟨object, h.left.right, h.right.symm⟩
  | replace _ objects =>
    simp only [gives?, Option.ite_none_right_eq_some, Option.some.injEq] at h
    have ⟨object, _, hk⟩ := Unstructured.exists_of_last? h.right
    exact .inr ⟨object, hk⟩
  | track | delete | reset => simp [gives?] at h

end Operation

namespace Table

variable {α β : Type} [DecidableEq α]

theorem ofList_concat (entries : List (α × β)) (a : α) (b : β) :
    ofList (entries ++ [(a, b)]) = (ofList entries).insert a b := by
  simp [ofList]

-- Entries in which no key comes twice are kept as they are.
theorem entries_ofList {entries : List (α × β)} (h : (entries.map Prod.fst).Nodup) :
    (ofList entries).entries = entries := by
  induction entries using List.reverseRecOn with
  | nil => rfl
  | append_singleton entries entry ih =>
    have ⟨a, b⟩ := entry
    rw [List.map_append, List.nodup_append] at h
    have ⟨hn, _, apart⟩ := h
    have fresh : ∀ e ∈ entries, e.1 ≠ a := fun e he => apart _ (List.mem_map_of_mem he) a (by simp)
    have kept : entries.filter (·.1 ≠ a) = entries :=
      List.filter_eq_self.mpr fun e he => decide_eq_true (fresh e he)
    simp only [ofList_concat, insert, erase, ih hn, kept]

end Table

namespace Collection

-- A listing gives for each key the last of its objects that have this key.
theorem get?_listing (objects : List Unstructured) (key : Key) :
    (listing objects).objects.get? key = Unstructured.last? objects key := by
  induction objects using List.reverseRecOn with
  | nil => rfl
  | append_singleton objects object ih =>
    cases hk : object.metadata.key?
    case none =>
      have hl : listing (objects ++ [object]) = listing objects := by simp [listing, Store.keyed, hk]
      rw [hl, ih]
      simp [Unstructured.last?, hk]
    case some own =>
      have hl : (listing (objects ++ [object])).objects =
          (listing objects).objects.insert own object.write := by
        simp [listing, Store.keyed, hk, Table.ofList_concat]
      rw [hl, Table.get?_insert, ih]
      by_cases he : key = own
      case pos => simp [Unstructured.last?, hk, he]
      case neg => simp [Unstructured.last?, hk, he, Ne.symm he]

end Collection

namespace Store

-- The value that a store holds under a key of a kind.
def held (store : Store) (kind : Kind) (key : Key) : Option Json :=
  (store.kinds.get? kind).bind (·.objects.get? key)

theorem held_put (store : Store) (kind : Kind) (key : Key) (value : Json) :
    (store.put kind key value).held kind key = some value := by
  rw [held, get?_put, if_pos rfl, Option.bind_some, Collection.get?_put, if_pos rfl]

theorem held_of_readable {store : Store} {kind : Kind} {objects : Table Key Json}
    (h : store.readable kind = .ok objects) (key : Key) :
    store.held kind key = objects.get? key := by
  rw [readable] at h
  split at h
  case h_1 => cases h
  case h_2 c hc =>
    split at h
    case isTrue =>
      cases h
      rw [held, hc, Option.bind_some]
    case isFalse => cases h

-- A read finds the value that is held under the key.
theorem answer_of_held {K : Type} [Object K] [Typed K] {store : Store} {key : Key} {value : Json}
    (synced : store.hasSynced (Typed.kind K) = true)
    (h : store.held (Typed.kind K) key = some value) :
    store.answer K key = Object.decode K value := by
  have ⟨objects, readable⟩ := readable_of_synced synced
  have hv : objects.get? key = some value := (held_of_readable readable key).symm.trans h
  simp [answer, readable, hv, bind, Except.bind]

theorem Step.held_eq {kind : Kind} {o : Operation} {c d : Option Collection} (h : Step kind o c d)
    (key : Key) :
    d.bind (·.objects.get? key) = (o.gives? kind key).getD (c.bind (·.objects.get? key)) := by
  cases h with
  | other hk => rw [Operation.gives?_of_other hk, Option.getD_none]
  | track => cases c <;> rfl
  | insert hi =>
    rw [hi.gives?_eq, Option.bind_some, Collection.get?_put]
    split <;> rfl
  | @delete other _ =>
    by_cases he : other = key
    case pos => cases c <;> simp [Operation.gives?, Collection.erase, he]
    case neg => cases c <;> simp [Operation.gives?, Collection.erase, he, Ne.symm he]
  | replace => simp [Operation.gives?, Collection.get?_listing]
  | reset => simp [Operation.gives?, Collection.unlisted]

theorem held_after (calls : List Call) (kind : Kind) (key : Key) :
    (after .empty calls).held kind key =
      ((changes .empty calls).filterMap (·.gives? kind key)).getLast?.join := by
  refine after_induction (P := fun os store =>
    store.held kind key = (os.filterMap (·.gives? kind key)).getLast?.join) rfl ?step calls
  case step =>
    intro os o store next ih step
    rw [held, (step kind).held_eq, ← held, ih, List.filterMap_append]
    cases hs : o.gives? kind key <;> simp [hs]

-- Whether the objects that some calls have put under their own kinds have types that write their
-- metadata. Unstructured objects always do.
def Lawful (calls : List Call) : Prop :=
  ∀ object, .insert object ∈ changes .empty calls →
    ∃ (K : Type) (_ : Object K) (_ : WritesMetadata K) (given : K), object = .ofObject given

-- A value that is held has been given by a change.
theorem exists_of_held {calls : List Call} {kind : Kind} {key : Key} {value : Json}
    (h : (after .empty calls).held kind key = some value) :
    ∃ o ∈ changes .empty calls, o.gives? kind key = some (some value) := by
  rw [held_after] at h
  have last := List.mem_of_getLast? (Option.join_eq_some_iff.mp h)
  exact List.mem_filterMap.mp last

-- A value that is held is the written form of an object that has the key.
theorem written_of_held {calls : List Call} (lawful : Lawful calls) {kind : Kind} {key : Key}
    {value : Json} (h : (after .empty calls).held kind key = some value) :
    ∃ (K : Type) (_ : Object K) (_ : WritesMetadata K) (object : K),
      (Object.metadata object).key? = some key ∧ value = Object.write object := by
  obtain ⟨o, ho, hg⟩ := exists_of_held h
  obtain ⟨object, rfl, hk, rfl⟩ | ⟨object, hk, rfl⟩ := Operation.object_of_gives? hg
  case inl =>
    obtain ⟨K, _, _, given, rfl⟩ := lawful object ho
    exact ⟨K, _, inferInstance, given, hk, rfl⟩
  case inr => exact ⟨Unstructured, _, inferInstance, object, hk, rfl⟩

-- It names this key.
theorem at?_of_held {calls : List Call} (lawful : Lawful calls) {kind : Kind} {key : Key}
    {value : Json} (h : (after .empty calls).held kind key = some value) :
    value.at? ["metadata", "name"] = some (.string key.name) ∧
      value.at? ["metadata", "namespace"] = key.scope.map .string := by
  obtain ⟨_, _, _, object, hk, rfl⟩ := written_of_held lawful h
  exact WritesMetadata.at?_key object hk

-- So it is read as an object with this key.
theorem key?_of_held {K : Type} [Object K] [ReadsMetadata K] {calls : List Call}
    (lawful : Lawful calls) {kind : Kind} {key : Key} {value : Json} {object : K}
    (h : (after .empty calls).held kind key = some value) (read : Object.read value = some object) :
    (Object.metadata object).key? = some key :=
  have ⟨name, scope⟩ := at?_of_held lawful h
  ReadsMetadata.key?_eq read name scope

end Store

namespace Sample

end Sample

end ReadYourWrites
