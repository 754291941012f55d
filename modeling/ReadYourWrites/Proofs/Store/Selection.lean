import ReadYourWrites.Proofs.Selector.Spelling
import ReadYourWrites.Proofs.Store.Contents

-- What a store lists. A listing selects keys, by their namespace and by the labels of what is held
-- under them, and then reads each of these keys as a read of a single object does. Requirements that
-- are spelled right are kept, but there are also terms that spell none and are not refused.

namespace ReadYourWrites

namespace Store

-- Whether a listing selects a key: something is held under it, it is in the namespace asked for, and
-- the labels of what is held are as required.
def Selects (store : Store) (kind : Kind) (scope : Option String)
    (requirements : List Requirement) (key : Key) : Prop :=
  ∃ value, store.held kind key = some value ∧ (∀ name, scope = some name → key.scope = some name) ∧
    ∀ requirement ∈ requirements, requirement.AskedOf (label value)

theorem admits_iff {scope : Option String} {selector : Selector} {key : Key} {value : Json} :
    admits scope selector (key, value) = true ↔
      (∀ name, scope = some name → key.scope = some name) ∧
        ∀ requirement ∈ selector, requirement.AskedOf (label value) := by
  rw [admits, Bool.and_eq_true, Selector.admits, List.all_eq_true]
  simp only [Requirement.holds_iff]
  cases scope <;> simp

-- The labels that a listing looks at are those that an object is read with.
theorem label_of_read {K : Type} [Object K] [ReadsMetadata K] {value : Json} {object : K}
    (h : Object.read value = some object) : label value = (Object.metadata object).label := by
  have ⟨written, hw, hr⟩ := ReadsMetadata.get?_metadata h
  funext name
  rw [Metadata.label_of_read hr name]
  cases hl : written.get? "labels" <;> simp [label, Json.at?, hw, hl, bind, Option.bind]

-- Whether an answer is made of the keys that some requirements select, each of them read once, as a
-- read of this key does.
structure Follows (store : Store) (K : Type) [Object K] [Typed K] (scope : Option String)
    (requirements : List Requirement) (keys : List Key) (answer : Except Error (List K)) : Prop where
  nodup : keys.Nodup
  mem_iff (key : Key) : key ∈ keys ↔ store.Selects (Typed.kind K) scope requirements key
  walk : answer = keys.mapM (store.answer K)

variable {K : Type} [Object K] [Typed K] {store : Store} {scope : Option String}
  {options : ListOptions} {requirements : List Requirement} {keys : List Key} {key : Key}
  {value : Json}

theorem exists_follows (synced : store.hasSynced (Typed.kind K) = true)
    (accepted : Store.selector options = .ok requirements) :
    ∃ keys, store.Follows K scope requirements keys (store.list K (Typed.kind K) scope options) := by
  have ⟨objects, readable⟩ := readable_of_synced synced
  have hheld := held_of_readable readable
  refine ⟨(objects.entries.filter (admits scope requirements)).map Prod.fst, ?_, ?_, ?_⟩
  case refine_1 => exact objects.nodup.sublist (List.filter_sublist.map _)
  case refine_2 =>
    intro key
    simp only [List.mem_map, List.mem_filter, Prod.exists, exists_and_right, exists_eq_right,
      Table.mem_entries_iff, admits_iff, Selects, hheld]
  case refine_3 =>
    rw [list_eq accepted, readable]
    refine (mapM_map_congr ?_).symm
    rintro ⟨key, value⟩ member
    have hv := (Table.mem_entries_iff ..).mp (List.mem_filter.mp member).left
    exact answer_of_held synced ((hheld key).trans hv)

namespace Follows

-- Of an answer of any kind.
section

variable {answer : Except Error (List K)} (follows : store.Follows K scope requirements keys answer)
  (synced : store.hasSynced (Typed.kind K) = true)
include follows synced

-- A key that is selected is read, or what is held under it is not of the type asked for.
theorem answer_eq (member : key ∈ keys) :
    ∃ value, store.held (Typed.kind K) key = some value ∧
      (∀ requirement ∈ requirements, requirement.AskedOf (label value)) ∧
      store.answer K key = Object.decode K value := by
  have ⟨value, hv, _, asked⟩ := (follows.mem_iff key).mp member
  exact ⟨value, hv, asked, answer_of_held synced hv⟩

theorem error_eq {e : Error} (h : answer = .error e) : e = .unreadable := by
  have ⟨key, member, he⟩ := mapM_eq_error (follows.walk.symm.trans h)
  have ⟨value, _, _, hd⟩ := follows.answer_eq synced member
  exact Object.decode_eq_error (hd.symm.trans he)

end

variable {objects : List K}

-- A listing that does not fail gives for each of its keys the object that is held under it.
theorem stored (follows : store.Follows K scope requirements keys (.ok objects))
    (synced : store.hasSynced (Typed.kind K) = true) :
    List.Forall₂ (fun key object => ∃ value, store.held (Typed.kind K) key = some value ∧
      (∀ requirement ∈ requirements, requirement.AskedOf (label value)) ∧
      store.answer K key = .ok object ∧ Object.read value = some object) keys objects := by
  have steps := mapM_eq_ok_iff.mp follows.walk.symm
  refine ((List.forall₂_and_left keys objects).mpr ⟨fun _ => id, steps⟩).imp ?_
  rintro key object ⟨member, found⟩
  have ⟨value, hv, asked, decoded⟩ := follows.answer_eq synced member
  exact ⟨value, hv, asked, found, Object.decode_eq_ok_iff.mp (decoded.symm.trans found)⟩

-- Each of these objects has the labels asked for, and it is the one that a read of the key gives.
theorem reads [ReadsMetadata K] (follows : store.Follows K scope requirements keys (.ok objects))
    (synced : store.hasSynced (Typed.kind K) = true) :
    List.Forall₂ (fun key object =>
      (∀ requirement ∈ requirements, requirement.AskedOf (Object.metadata object).label) ∧
      ∀ held : K, store.get key held = .ok object) keys objects := by
  refine (follows.stored synced).imp ?_
  rintro key object ⟨value, _, asked, found, hr⟩
  refine ⟨?_, fun held => (get_eq_answer store key held).trans found⟩
  rwa [← label_of_read hr]

-- Each of them has its key, so no two have the same.
theorem keyed [ReadsMetadata K] {calls : List Call}
    (follows : (after .empty calls).Follows K scope requirements keys (.ok objects))
    (synced : (after .empty calls).hasSynced (Typed.kind K) = true) (lawful : Lawful calls) :
    (objects.map fun object => (Object.metadata object).key?) = keys.map some := by
  have named : List.Forall₂ (fun key object => some key = (Object.metadata object).key?)
      keys objects := by
    refine (follows.stored synced).imp ?_
    rintro key object ⟨value, hv, _, _, hr⟩
    exact (key?_of_held lawful hv hr).symm
  have same := List.forall₂_map_right_iff.mpr (List.forall₂_map_left_iff.mpr named)
  rw [List.forall₂_eq_eq_eq] at same
  exact same.symm

end Follows

theorem selector_of_spelling {text : String} (fields : options.fields = none)
    (labels : options.labels = some text)
    (spelled : List.Forall₂ Requirement.Spelling (Selector.terms text.toList) requirements) :
    Store.selector options = .ok requirements := by
  simp [Store.selector, fields, labels, Selector.parse_of_spelling spelled]

theorem fields_of_accepted (accepted : Store.selector options = .ok requirements) :
    options.fields = none := by
  cases h : options.fields
  case none => rfl
  case some => simp [Store.selector, h] at accepted

end Store

namespace Sample

def labelledAs (kind name k : String) : Unstructured :=
  .bare (some ⟨"v1", kind⟩)
    { Metadata.empty with name := some name, labels := some [("k", k)] }

def stocked (objects : List Unstructured) : List Store.Call :=
  [.change (.replace maps objects)]

def selecting (labels : String) : ListOptions :=
  { ListOptions.default with labels := some labels }

end Sample

namespace Store

-- Whether a listing does as a selector says: it refuses the selector, or all terms of the selector spell
-- requirements and the listing follows them.
inductive Honours (store : Store) (K : Type) [Object K] [Typed K] (scope : Option String)
    (options : ListOptions) (text : String) : Prop
  | refused {reason} : store.list K (Typed.kind K) scope options = .error (.invalidSelector reason) →
      Honours store K scope options text
  | followed {requirements keys} :
      List.Forall₂ Requirement.Spelling (Selector.terms text.toList) requirements →
      store.Follows K scope requirements keys (store.list K (Typed.kind K) scope options) →
      Honours store K scope options text

theorem selector_fails_iff {options : ListOptions} {text : String}
    (labels : options.labels = some text) :
    (∃ e, Store.selector options = .error e) ↔ options.fields.isSome = true ∨
      ∃ term ∈ Selector.terms text.toList, Requirement.isSetBased term = true := by
  rw [← Selector.parse_fails_iff]
  cases hf : options.fields <;> cases hp : Selector.parse text <;> simp [Store.selector, hf, labels, hp]

-- A listing does as its selector says just if there is a selector of fields, or a term asks for a set of
-- values, or all terms spell requirements. So a term that spells none is kept nevertheless, unless it
-- asks for a set of values or stands beside a term that does.
theorem selector_honoured_iff {K : Type} [Object K] [Typed K] {store : Store}
    {options : ListOptions} {text : String} (synced : store.hasSynced (Typed.kind K) = true)
    (labels : options.labels = some text) (scope : Option String) :
    store.Honours K scope options text ↔ options.fields.isSome = true ∨
      (∃ term ∈ Selector.terms text.toList, Requirement.isSetBased term = true) ∨
      ∀ term ∈ Selector.terms text.toList, ∃ requirement, Requirement.Spelling term requirement := by
  rw [← exists_forall₂_iff, ← or_assoc, ← selector_fails_iff labels]
  constructor
  case mp =>
    intro h
    cases h with
    | refused refusal =>
      cases hs : Store.selector options
      case error e => exact .inl ⟨e, rfl⟩
      case ok requirements =>
        obtain ⟨_, follows⟩ : ∃ keys, store.Follows K scope requirements keys
            (store.list K (Typed.kind K) scope options) := exists_follows synced hs
        cases follows.error_eq synced refusal
    | followed spelled _ => exact .inr ⟨_, spelled⟩
  case mpr =>
    intro h
    cases hs : Store.selector options
    case error e =>
      obtain ⟨reason, rfl⟩ := selector_error hs
      exact .refused (list_of_rejected hs)
    case ok kept =>
      have accepted : ¬∃ e, Store.selector options = .error e := by simp [hs]
      have ⟨requirements, spelled⟩ := h.resolve_left accepted
      obtain ⟨_, follows⟩ : ∃ keys, store.Follows K scope requirements keys
          (store.list K (Typed.kind K) scope options) :=
        exists_follows synced (selector_of_spelling (fields_of_accepted hs) labels spelled)
      exact .followed spelled follows

end Store

-- White space around the parts of a term, and an empty term.
theorem Store.selector_honoured_spaced :
    let map := Sample.labelledAs "ConfigMap" "a" "2"
    let store := after .empty (Sample.stocked [map])
    store.Honours ConfigMap none (Sample.selecting " k == 2, ,! z") " k == 2, ,! z" ∧
      store.list ConfigMap Sample.maps none (Sample.selecting " k == 2, ,! z") =
        .ok [⟨map.metadata, none, none, none⟩] := by
  intro map store
  have synced : store.hasSynced (Typed.kind ConfigMap) = true := by decide +kernel
  have blank : ∀ c ∈ " ".toList, Text.isBlank c = true := List.forall_mem_singleton.mpr rfl
  have plain (c : Char) (h : Requirement.Plain c) : ∀ d ∈ [c], Requirement.Plain d :=
    List.forall_mem_singleton.mpr h
  have sides : Requirement.Sides "k".toList " ".toList " ".toList "2".toList :=
    ⟨by decide, plain 'k' (by decide), blank, blank, plain '2' (by decide)⟩
  have pair : Requirement.Spelling "k == 2".toList (.equals "k" "2") := .equalsTwice sides
  have absent : Requirement.Spelling "! z".toList (.missing "z") :=
    @Requirement.Spelling.missing " ".toList "z".toList blank (by decide) (plain 'z' (by decide))
  refine ⟨(selector_honoured_iff synced rfl none).mpr (.inr (.inr ?_)), by decide +kernel⟩
  have terms : Selector.terms " k == 2, ,! z".toList = ["k == 2".toList, "! z".toList] := by
    decide +kernel
  rw [terms, List.forall_mem_cons, List.forall_mem_singleton]
  exact ⟨⟨_, pair⟩, ⟨_, absent⟩⟩

-- None of these terms spells a requirement, and each of them is kept. One is taken for the name of a
-- label, the others are cut at the first mark that is looked for, which leaves marks in the name of the
-- label or no name at all.
theorem Store.selector_misread :
    let map := Sample.labelledAs "ConfigMap" "a" "2"
    let store := after .empty (Sample.stocked [map])
    let list (labels : String) :=
      store.list ConfigMap Sample.maps none (Sample.selecting labels)
    (list "k>1" = .ok [] ∧ Selector.parse "k>1" = .ok [.exist "k>1"]) ∧
      (list "k=a!=b" = .ok [⟨map.metadata, none, none, none⟩] ∧
        Selector.parse "k=a!=b" = .ok [.notEquals "k=a" "b"]) ∧
      (list "!k=v" = .ok [] ∧ Selector.parse "!k=v" = .ok [.equals "!k" "v"]) ∧
      (list "=v" = .ok [] ∧ Selector.parse "=v" = .ok [.equals "" "v"]) ∧
      ¬store.Honours ConfigMap none (Sample.selecting "k>1") "k>1" := by
  intro map store list
  refine ⟨by decide +kernel, by decide +kernel, by decide +kernel, by decide +kernel, ?_⟩
  have kept : list "k>1" = .ok [] := by decide +kernel
  intro h
  cases h with
  | refused refusal => cases refusal.symm.trans kept
  | followed spelled _ =>
    have member : "k>1".toList ∈ Selector.terms "k>1".toList := by decide +kernel
    have ⟨_, _, spelling⟩ := exists_of_forall₂ spelled member
    exact spelling.not_mem (c := '>') (by decide) (by decide)

end ReadYourWrites
