import Mathlib.Data.List.Basic
import Mathlib.Data.List.Induction
import ReadYourWrites.Object.ConfigMap
import ReadYourWrites.Proofs.Store.Collections
import ReadYourWrites.Store.Operation

-- Calls on a store, one after another. A call either leaves the store as it is, because it reads or
-- because it fails, or it makes a change. What a change does to the collection of each kind is said
-- here once, in `Step`. `after_induction` carries that over to all stores that calls can lead to.

namespace ReadYourWrites

namespace Operation

-- The kind that a change is about. An insertion is about the kind that the object has written.
def kind? : Operation → Option Kind
  | .track kind | .insertAs kind _ | .delete kind _ | .replace kind _ | .reset kind => some kind
  | .insert object => Object.writtenKind? object.json

-- Whether a change makes a kind tracked, if it succeeds.
inductive Tracks (kind : Kind) : Operation → Prop
  | track : Tracks kind (.track kind)
  | insert {object} : Object.writtenKind? object.json = some kind → Tracks kind (.insert object)
  | insertAs {object} : Tracks kind (.insertAs kind object)
  | replace {objects} : Tracks kind (.replace kind objects)
  | reset : Tracks kind (.reset kind)

-- Whether a change puts a single object under its key.
inductive Inserts (kind : Kind) : Key → Json → Operation → Prop
  | typed {object : Written} {key} : Object.writtenKind? object.json = some kind →
      object.metadata.key? = some key → Inserts kind key object.json (.insert object)
  | any {object : Unstructured} {key} : object.metadata.key? = some key →
      Inserts kind key object.write (.insertAs kind object)

variable {o : Operation} {kind : Kind}

theorem Tracks.kind?_eq (h : o.Tracks kind) : o.kind? = some kind := by
  cases h with
  | insert hk => exact hk
  | _ => rfl

theorem Inserts.tracks {key : Key} {value : Json} (h : o.Inserts kind key value) :
    o.Tracks kind := by
  cases h with
  | typed hk _ => exact .insert hk
  | any => exact .insertAs

end Operation

namespace Collection

-- A collection with an object more. A kind that is met for the first time counts as listed.
def put (c : Option Collection) (key : Key) (value : Json) : Collection :=
  match c with
  | some c => { c with objects := c.objects.insert key value }
  | none => ⟨Table.empty.insert key value, true⟩

def erase (c : Collection) (key : Key) : Collection :=
  { c with objects := c.objects.erase key }

-- A collection of which a listing has just arrived.
def listing (objects : List Unstructured) : Collection :=
  ⟨.ofList (objects.filterMap Store.keyed), true⟩

theorem get?_put (c : Option Collection) (key other : Key) (value : Json) :
    (put c key value).objects.get? other =
      if other = key then some value else c.bind (·.objects.get? other) := by
  cases c <;> simp [put]

end Collection

namespace Store

-- What a change that succeeds does to the collection of one kind.
inductive Step (kind : Kind) : Operation → Option Collection → Option Collection → Prop
  | other {o c} : o.kind? ≠ some kind → Step kind o c c
  | track {c} : Step kind (.track kind) c (c.or (some .unlisted))
  | insert {o key value c} : o.Inserts kind key value →
      Step kind o c (some (Collection.put c key value))
  | delete {key c} : Step kind (.delete kind key) c (c.map (·.erase key))
  | replace {objects c} : Step kind (.replace kind objects) c (some (.listing objects))
  | reset {c} : Step kind (.reset kind) c (some .unlisted)

theorem get?_put (store : Store) (kind other : Kind) (key : Key) (value : Json) :
    (store.put kind key value).kinds.get? other =
      if other = kind then some (Collection.put (store.kinds.get? kind) key value)
      else store.kinds.get? other := by
  rw [put]
  cases store.kinds.get? kind <;> exact get?_set ..

theorem get?_delete (store : Store) (kind other : Kind) (key : Key) :
    (store.delete kind key).kinds.get? other =
      if other = kind then (store.kinds.get? kind).map (·.erase key)
      else store.kinds.get? other := by
  rw [delete]
  cases hc : store.kinds.get? kind
  case some c => exact get?_set ..
  case none =>
    by_cases he : other = kind
    case pos => rw [if_pos he, he, hc, Option.map_none]
    case neg => rw [if_neg he]

-- A step that puts an object leaves all other kinds alone.
theorem step_put {o : Operation} {kind : Kind} {key : Key} {value : Json} (store : Store)
    (h : o.Inserts kind key value) (other : Kind) :
    Step other o (store.kinds.get? other) ((store.put kind key value).kinds.get? other) := by
  rw [get?_put]
  split
  case isTrue he =>
    subst he
    exact .insert h
  case isFalse hn =>
    refine .other fun hk => hn ?_
    exact (Option.some.inj (h.tracks.kind?_eq.symm.trans hk)).symm

-- A change fails and leaves the store as it is, or it makes a step in each kind.
theorem run_step (store : Store) (o : Operation) :
    (∃ e, o.run store = (store, .error e)) ∨ ∃ nameless, (o.run store).2 = .ok nameless ∧
      ∀ kind, Step kind o (store.kinds.get? kind) ((o.run store).1.kinds.get? kind) := by
  cases o with
  | track own =>
    refine .inr ⟨_, rfl, fun kind => ?_⟩
    simp only [Operation.run, get?_track]
    split
    case isTrue he => exact he ▸ .track
    case isFalse hn =>
      rw [Option.or_none]
      exact .other (by simpa [Operation.kind?] using Ne.symm hn)
  | insert object =>
    simp only [Operation.run, insertWritten]
    cases hk : Object.writtenKind? object.json
    case none => exact .inl ⟨_, rfl⟩
    case some own =>
      cases hm : object.metadata.key?
      case none => exact .inl ⟨_, rfl⟩
      case some key => exact .inr ⟨_, rfl, step_put store (.typed hk hm)⟩
  | insertAs own object =>
    simp only [Operation.run, insertAs]
    cases hm : object.metadata.key?
    case none => exact .inl ⟨_, rfl⟩
    case some key => exact .inr ⟨_, rfl, step_put store (.any hm)⟩
  | delete own key =>
    refine .inr ⟨_, rfl, fun kind => ?_⟩
    simp only [Operation.run, get?_delete]
    split
    case isTrue he => exact he ▸ .delete
    case isFalse hn => exact .other (by simpa [Operation.kind?] using Ne.symm hn)
  | replace own objects =>
    refine .inr ⟨_, rfl, fun kind => ?_⟩
    simp only [Operation.run, replace, get?_set]
    split
    case isTrue he => exact he ▸ .replace
    case isFalse hn => exact .other (by simpa [Operation.kind?] using Ne.symm hn)
  | reset own =>
    refine .inr ⟨_, rfl, fun kind => ?_⟩
    simp only [Operation.run, reset, get?_set]
    split
    case isTrue he => exact he ▸ .reset
    case isFalse hn => exact .other (by simpa [Operation.kind?] using Ne.symm hn)

-- A change that is about another kind leaves the collection as it is, whether it succeeds or not.
theorem run_other {o : Operation} {kind : Kind} (h : o.kind? ≠ some kind) (store : Store) :
    (o.run store).1.kinds.get? kind = store.kinds.get? kind := by
  obtain ⟨e, he⟩ | ⟨_, _, hs⟩ := run_step store o
  case inl => rw [he]
  case inr =>
    replace hs := hs kind
    generalize (o.run store).1.kinds.get? kind = c at hs
    cases hs with
    | other => rfl
    | insert hi => exact absurd hi.tracks.kind?_eq h
    | _ => exact absurd rfl h

-- A call on a store: a change of it, or a read of objects of some type.
inductive Call : Type 1 where
  | change (o : Operation)
  | get (K : Type) [Object K] (key : Key) (held : K)
  | list (K : Type) [Object K] (kind : Kind) (scope : Option String) (options : ListOptions)

namespace Call

-- The store after a call, and the objects that the call hands back, in written form.
def run (store : Store) : Call → Store × Except Error (List Json)
  | .change o => ((o.run store).1, (o.run store).2.map (·.map Unstructured.write))
  | @get _ _ key held => (store, (store.get key held).map fun found => [Object.write found])
  | @list K _ kind scope options =>
    (store, (store.list K kind scope options).map (·.map Object.write))

-- The change that a call makes, if it succeeds in one.
def change? (store : Store) : Call → Option Operation
  | .change o => (o.run store).2.toOption.map fun _ => o
  | @get .. | @list .. => none

theorem run_of_error {store : Store} {call : Call} {e : Error}
    (h : (call.run store).2 = .error e) : (call.run store).1 = store := by
  cases call with
  | change o =>
    obtain ⟨_, he⟩ | ⟨_, hr, _⟩ := run_step store o
    case inl => simp only [run, he]
    case inr => simp [run, hr, Except.map] at h
  | get | list => rfl

-- A call leaves the store as it is or makes a change that succeeds.
theorem run_change (store : Store) (call : Call) :
    (call.change? store = none ∧ (call.run store).1 = store) ∨ ∃ o, call.change? store = some o ∧
      ∀ kind, Step kind o (store.kinds.get? kind) ((call.run store).1.kinds.get? kind) := by
  cases call with
  | change o =>
    obtain ⟨_, he⟩ | ⟨_, hr, hs⟩ := run_step store o
    case inl => exact .inl ⟨by simp [change?, he, Except.toOption], by simp [run, he]⟩
    case inr => exact .inr ⟨o, by simp [change?, hr, Except.toOption], hs⟩
  | get | list => exact .inl ⟨rfl, rfl⟩

end Call

-- The store after some calls.
def after (store : Store) (calls : List Call) : Store :=
  calls.foldl (fun store call => (call.run store).1) store

-- The changes that some calls have made with success, in order.
def changes (store : Store) : List Call → List Operation
  | [] => []
  | call :: calls => (call.change? store).toList ++ changes (call.run store).1 calls

theorem after_concat (store : Store) (calls : List Call) (call : Call) :
    store.after (calls ++ [call]) = (call.run (store.after calls)).1 :=
  List.foldl_concat ..

theorem changes_concat (store : Store) (calls : List Call) (call : Call) :
    changes store (calls ++ [call]) =
      changes store calls ++ (call.change? (store.after calls)).toList := by
  induction calls generalizing store with
  | nil => simp [changes, after]
  | cons first calls ih => simp [changes, after, ih]

-- What holds of a new store, and goes on to hold with each change that succeeds, holds after any
-- calls of the changes that they have made.
theorem after_induction {P : List Operation → Store → Prop} (new : P [] .empty)
    (step : ∀ {os o store next}, P os store →
      (∀ kind, Step kind o (store.kinds.get? kind) (next.kinds.get? kind)) → P (os ++ [o]) next)
    (calls : List Call) : P (changes .empty calls) (after .empty calls) := by
  induction calls using List.reverseRecOn with
  | nil => exact new
  | append_singleton calls call ih =>
    rw [changes_concat, after_concat]
    obtain ⟨hn, hs⟩ | ⟨o, ho, hs⟩ := call.run_change (after .empty calls)
    case inl => rwa [hn, hs, Option.toList_none, List.append_nil]
    case inr =>
      rw [ho, Option.toList_some]
      exact step ih hs

end Store

namespace Sample

def maps : Kind :=
  ConfigMap.resource.kind

-- A config map, with or without a name.
def entry (name : Option String) (version : String) : Unstructured :=
  .bare (some ⟨"v1", "ConfigMap"⟩)
    { Metadata.empty with name, resourceVersion := some version }

end Sample

end ReadYourWrites
