import ReadYourWrites.Proofs.Object.Fields
import ReadYourWrites.Proofs.Store.Contents

-- The kinds of the objects that a store hands out. A store keeps the written form that an object has
-- been put with, so an object that it hands out carries the kind that is written there. Where none is
-- written, an object of a type with one kind still carries the kind of its type, and any other object
-- carries none.

namespace ReadYourWrites

theorem Object.kind_eq_ok_iff {K : Type} [Object K] {object : K} {own : Kind} :
    kind object = .ok own ↔ writtenKind? (write object) = some own := by
  rw [kind]
  cases writtenKind? (write object) <;> simp

namespace Store

-- An object that a read of a kind hands out, and the key that it stands for: the key that is asked
-- for, or the key that an object of a listing names.
inductive HandsOut (store : Store) (kind : Kind) {K : Type} [Object K] (key : Key) (object : K) : Prop
  | got {held : K} : Object.kind held = .ok kind → store.get key held = .ok object →
      HandsOut store kind key object
  | listed {scope : Option String} {options : ListOptions} {objects : List K} :
      store.list K kind scope options = .ok objects → object ∈ objects →
      (Object.metadata object).key? = some key → HandsOut store kind key object

variable {store : Store} {kind : Kind} {key : Key} {calls : List Call}

theorem hasSynced_of_readable {objects : Table Key Json} (h : store.readable kind = .ok objects) :
    store.hasSynced kind = true := by
  cases ht : store.isTracked kind
  case false =>
    rw [readable_of_untracked ht] at h
    cases h
  case true =>
    cases hs : store.hasSynced kind
    case false =>
      rw [readable_of_unsynced ht hs] at h
      cases h
    case true => rfl

-- A read of one object is a read of what is held under the key.
theorem get_eq_ok_iff {K : Type} [Object K] {held object : K} (asked : Object.kind held = .ok kind) :
    store.get key held = .ok object ↔
      store.hasSynced kind = true ∧
        ∃ value, store.held kind key = some value ∧ Object.read value = some object := by
  rw [get_eq (Object.kind_eq_ok_iff.mp asked)]
  constructor
  case mp =>
    intro h
    cases hr : store.readable kind
    case error => rw [hr] at h; cases h
    case ok objects =>
      refine ⟨hasSynced_of_readable hr, ?_⟩
      rw [hr, Except.bind, lookUp] at h
      rw [held_of_readable hr]
      split at h
      case h_1 value hv => exact ⟨value, hv, Object.decode_eq_ok_iff.mp h⟩
      case h_2 => cases h
  case mpr =>
    rintro ⟨synced, value, hv, read⟩
    obtain ⟨objects, hr⟩ := readable_of_synced synced
    rw [held_of_readable hr] at hv
    rw [hr, Except.bind, lookUp, hv]
    exact Object.decode_eq_ok_iff.mpr read

theorem get_of_missing {K : Type} [Object K] {held : K}
    (h : Object.writtenKind? (Object.write held) = none) (key : Key) :
    store.get key held = .error .missingKind := by
  simp only [get, find, h]
  rfl

-- Each object of a listing has been read from what is held under some key.
theorem held_of_list {K : Type} [Object K] {scope : Option String} {options : ListOptions}
    {objects : List K} (h : store.list K kind scope options = .ok objects) {object : K}
    (member : object ∈ objects) :
    store.hasSynced kind = true ∧
      ∃ key value, store.held kind key = some value ∧ Object.read value = some object := by
  cases hs : selector options
  case error => rw [list_of_rejected hs] at h; cases h
  case ok selector =>
    rw [list_eq hs] at h
    cases hr : store.readable kind
    case error => rw [hr] at h; cases h
    case ok table =>
      refine ⟨hasSynced_of_readable hr, ?_⟩
      rw [hr] at h
      have ⟨value, hv, read⟩ := exists_of_forall₂ (mapM_eq_ok_iff.mp h).flip member
      obtain ⟨⟨key, _⟩, he, rfl⟩ := List.mem_map.mp hv
      have entry := (Table.mem_entries_iff ..).mp (List.mem_filter.mp he).left
      exact ⟨key, _, (held_of_readable hr key).trans entry, Object.decode_eq_ok_iff.mp read⟩

section

variable {K : Type} [Object K] [ReadsMetadata K] {object : K}

theorem held_of_handsOut (lawful : Lawful calls) (h : (after .empty calls).HandsOut kind key object) :
    (after .empty calls).hasSynced kind = true ∧
      ∃ value, (after .empty calls).held kind key = some value ∧ Object.read value = some object := by
  cases h with
  | got asked found => exact (get_eq_ok_iff asked).mp found
  | listed found member own =>
    have ⟨synced, other, value, hv, read⟩ := held_of_list found member
    obtain rfl := Option.some.inj ((key?_of_held lawful hv read).symm.trans own)
    exact ⟨synced, value, hv, read⟩

theorem read_of_handsOut (lawful : Lawful calls) (h : (after .empty calls).HandsOut kind key object)
    {value : Json} (hv : (after .empty calls).held kind key = some value) :
    Object.read value = some object := by
  have ⟨_, _, ho, read⟩ := held_of_handsOut lawful h
  obtain rfl := Option.some.inj (ho.symm.trans hv)
  exact read

end

-- What is held under a key has been given by a change. An insertion gives only what has the kind
-- written that it is held under.
theorem given_of_held {value : Json} (h : (after .empty calls).held kind key = some value) :
    ∃ o ∈ changes .empty calls, o.gives? kind key = some (some value) ∧
      ((∃ object, o = .insert object) → Object.writtenKind? value = some kind) := by
  obtain ⟨o, ho, given⟩ := exists_of_held h
  refine ⟨o, ho, given, ?_⟩
  rintro ⟨object, rfl⟩
  simp only [Operation.gives?, Option.ite_none_right_eq_some, Option.some.injEq] at given
  exact given.right ▸ given.left.left

-- No two fields of what is held have one name.
theorem distinct_of_held (lawful : Lawful calls) {value : Json}
    (h : (after .empty calls).held kind key = some value) : value.Distinct := by
  obtain ⟨_, _, _, object, _, rfl⟩ := written_of_held lawful h
  exact WritesMetadata.distinct object

-- An object that a store hands out carries the kind that is written in what the store holds, and a
-- second read into it finds it again if that is the kind it is held under. An object of a type with one
-- kind carries this kind anyway, and is never read from what has another kind written. An object of
-- any other type carries no kind if none is written, and cannot be read into then. Only changes that
-- are told under which kind to put an object can put one that has not this kind written.
theorem kind_of_handed_out (calls : List Call) (kind : Kind) :
    let store := after .empty calls
    (Lawful calls →
      (∀ (K : Type) [Object K] [ReadsMetadata K] (scope : Option String) (options : ListOptions)
        (objects : List K), store.list K kind scope options = .ok objects →
        ∀ object ∈ objects, ∃ key, store.HandsOut kind key object) ∧
      (∀ (K : Type) [Object K] [ReadsMetadata K] [KeepsKind K] (key : Key) (object : K),
        store.HandsOut kind key object →
        ∃ value, store.held kind key = some value ∧ Object.read value = some object ∧
          (∀ own, Object.writtenKind? value = some own → Object.kind object = .ok own) ∧
          (Object.kind object = .ok kind → store.get key object = .ok object)) ∧
      (∀ (K : Type) [Object K] [ReadsMetadata K] [KeepsKind K] [Typed K] (key : Key) (object : K),
        store.HandsOut kind key object →
        Object.kind object = .ok (Typed.kind K) ∧
          ∀ value own, store.held kind key = some value → Object.writtenKind? value = some own →
            own = Typed.kind K) ∧
      (∀ (key : Key) (object : Unstructured), store.HandsOut kind key object →
        ∀ value, store.held kind key = some value →
          (∀ own, Object.kind object = .ok own ↔ Object.writtenKind? value = some own) ∧
          (Object.writtenKind? value = none → store.get key object = .error .missingKind))) ∧
    (∀ (K : Type) [Object K] [Typed K] (key : Key) (held object : K), Object.kind held = .ok kind →
      store.get key held = .ok object →
      Object.kind object = .ok kind ∧ store.get key object = .ok object) ∧
    ∀ key value, store.held kind key = some value →
      ∃ o ∈ changes .empty calls, o.gives? kind key = some (some value) ∧
        ((∃ object, o = .insert object) → Object.writtenKind? value = some kind) := by
  intro store
  refine ⟨fun lawful => ⟨?listed, ?handed, ?typed, ?unstructured⟩, ?got, fun _ _ => given_of_held⟩
  case listed =>
    intro K _ _ scope options objects found object member
    have ⟨_, key, value, hv, read⟩ := held_of_list found member
    exact ⟨key, .listed found member (key?_of_held lawful hv read)⟩
  case handed =>
    intro K _ _ _ key object out
    have ⟨synced, value, hv, read⟩ := held_of_handsOut lawful out
    refine ⟨value, hv, read, fun own hk => ?_, fun hk => ?_⟩
    case refine_1 =>
      exact Object.kind_eq_ok_iff.mpr
        (KeepsKind.writtenKind?_of_read (distinct_of_held lawful hv) read hk)
    case refine_2 => exact (get_eq_ok_iff hk).mpr ⟨synced, value, hv, read⟩
  case typed =>
    intro K _ _ _ _ key object out
    refine ⟨Typed.kind_eq object, fun value own hv hk => ?_⟩
    have read := read_of_handsOut lawful out hv
    have kept := KeepsKind.writtenKind?_of_read (distinct_of_held lawful hv) read hk
    exact Option.some.inj (kept.symm.trans (Typed.writtenKind? object))
  case unstructured =>
    intro key object out value hv
    have read := read_of_handsOut lawful out hv
    have kept := Unstructured.writtenKind?_of_read (distinct_of_held lawful hv) read
    refine ⟨fun own => ?_, fun none => ?_⟩
    case refine_1 =>
      rw [Object.kind_eq_ok_iff, ← kept]
      rfl
    case refine_2 => exact get_of_missing (kept.trans none) key
  case got =>
    intro K _ _ key held object asked found
    have own : Object.kind object = .ok kind := by rw [Typed.kind_eq, ← asked, Typed.kind_eq]
    exact ⟨own, (get_eq_ok_iff own).mpr ((get_eq_ok_iff asked).mp found)⟩

end Store

namespace Sample

-- A config map without type metadata, as the items of a listing are written.
def untyped : Unstructured :=
  .bare none (entry (some "a") "1").metadata

def mixedCalls : List Store.Call :=
  [.change (.replace maps [untyped, entry (some "b") "2"]),
    .change (.insert (.ofObject (entry (some "c") "3")))]

end Sample

-- Of two objects of one listing, the one that has its kind written is found again by a read into it.
theorem Store.kind_of_handed_out_listing :
    let store := after .empty Sample.mixedCalls
    let object := Sample.entry (some "b") "2"
    Object.kind object = .ok Sample.maps ∧ store.get ⟨none, "b"⟩ object = .ok object ∧
      store.get ⟨none, "a"⟩ Sample.untyped = .error .missingKind := by
  have made : changes .empty Sample.mixedCalls =
      [.replace Sample.maps [Sample.untyped, Sample.entry (some "b") "2"],
        .insert (.ofObject (Sample.entry (some "c") "3"))] := by decide +kernel
  have lawful : Lawful Sample.mixedCalls := by
    intro object ho
    rw [made] at ho
    exact ⟨Unstructured, _, inferInstance, Sample.entry (some "c") "3", by simpa using ho⟩
  obtain ⟨given, _⟩ := kind_of_handed_out Sample.mixedCalls Sample.maps
  obtain ⟨_, handed, _, unstructured⟩ := given lawful
  have asked : Object.kind (Sample.entry none "0") = .ok Sample.maps := by decide +kernel
  obtain ⟨value, hv, _, kept, again⟩ := handed Unstructured ⟨none, "b"⟩ (Sample.entry (some "b") "2")
    (.got asked (by decide +kernel))
  obtain ⟨_, missing⟩ := unstructured ⟨none, "a"⟩ Sample.untyped (.got asked (by decide +kernel))
    Sample.untyped.write (by decide +kernel)
  have written : (after .empty Sample.mixedCalls).held Sample.maps ⟨none, "b"⟩ =
      some (Sample.entry (some "b") "2").write := by decide +kernel
  obtain rfl := Option.some.inj (hv.symm.trans written)
  have own := kept Sample.maps (by decide +kernel)
  exact ⟨own, again own, missing (by decide +kernel)⟩

-- What a listing holds without a kind is handed out without one, so that a second read fails, and is
-- read as an object of another kind just as well.
theorem Store.handed_out_without_kind :
    let store := after .empty [.change (.replace Sample.maps [Sample.untyped])]
    store.get ⟨none, "a"⟩ (Sample.entry none "0") = .ok Sample.untyped ∧
      Object.kind Sample.untyped = .error .missingKind ∧
      store.get ⟨none, "a"⟩ Sample.untyped = .error .missingKind ∧
      ∃ secret : Secret, store.list Secret Sample.maps none .default = .ok [secret] ∧
        Object.kind secret = .ok Secret.resource.kind ∧ Secret.resource.kind ≠ Sample.maps := by
  refine ⟨by decide +kernel, by decide +kernel, by decide +kernel, ?_⟩
  exact ⟨⟨Sample.untyped.metadata, none, none, none, none⟩, by decide +kernel, by decide +kernel,
    by decide +kernel⟩

end ReadYourWrites
