import ReadYourWrites.Proofs.Selector.Joining
import ReadYourWrites.Proofs.Store.Selection

-- What a store lists by two selectors that are joined by a comma. Its terms are those of the two, so it
-- is refused just if one of the two is, and otherwise lists what both of them list.

namespace ReadYourWrites

namespace Store

variable {K : Type} [Object K] {store : Store} {kind : Kind} {scope : Option String}
  {options : ListOptions} {requirements : Selector}

theorem selector_join (options : ListOptions) (s t : String) :
    selector { options with labels := some (s ++ "," ++ t) } = do
      return (← selector { options with labels := some s }) ++
        (← selector { options with labels := some t }) := by
  simp only [selector, Selector.parse_join]
  cases options.fields
  case some => rfl
  case none =>
    cases Selector.parse s
    case error => rfl
    case ok => cases Selector.parse t <;> rfl

-- A stored object meets the joined requirements if it meets both.
theorem admits_append (scope : Option String) (a b : Selector) :
    admits scope (a ++ b) = fun entry => admits scope a entry && admits scope b entry := by
  funext entry
  simp only [admits, Selector.admits, List.all_append]
  cases scope.isNone || entry.1.scope == scope <;> simp

theorem mapM_decode {values : List Json}
    (h : ∀ value ∈ values, ∃ object : K, Object.read value = some object) :
    values.mapM (Object.decode K) = .ok (values.filterMap Object.read) := by
  rw [mapM_eq_ok_iff]
  induction values with
  | nil => exact .nil
  | cons value values ih =>
    rw [List.forall_mem_cons] at h
    have ⟨object, hr⟩ := h.left
    rw [List.filterMap_cons_some hr]
    exact .cons (Object.decode_eq_ok_iff.mpr hr) (ih h.right)

-- The objects of a listing in the order of the store.
def picked (K : Type) [Object K] (objects : Table Key Json) (scope : Option String)
    (requirements : Selector) : List K :=
  ((objects.entries.filter (admits scope requirements)).map Prod.snd).filterMap Object.read

theorem mem_picked {objects : Table Key Json} {object : K} :
    object ∈ picked K objects scope requirements ↔
      ∃ key value, objects.get? key = some value ∧ admits scope requirements (key, value) = true ∧
        Object.read value = some object := by
  simp [picked, Table.mem_entries_iff, and_assoc]

theorem list_of_legible {objects : Table Key Json} (readable : store.readable kind = .ok objects)
    (legible : ∀ key value, store.held kind key = some value →
      ∃ object : K, Object.read value = some object)
    (accepted : selector options = .ok requirements) (scope : Option String) :
    store.list K kind scope options = .ok (picked K objects scope requirements) := by
  rw [list_eq accepted, readable]
  refine mapM_decode fun value member => ?_
  obtain ⟨⟨key, _⟩, he, rfl⟩ := List.mem_map.mp member
  have found := (Table.mem_entries_iff ..).mp (List.mem_filter.mp he).left
  exact legible key _ ((held_of_readable readable key).trans found)

-- Stored objects that are read as one have the same labels. So it does not matter under which key an
-- object is picked.
theorem mem_picked_of_admits [ReadsMetadata K] {objects : Table Key Json} {a b : Selector} {key : Key}
    {value : Json} {object : K} (found : objects.get? key = some value)
    (admitted : admits scope a (key, value) = true) (hr : Object.read value = some object) :
    object ∈ picked K objects scope b ↔ admits scope b (key, value) = true := by
  rw [mem_picked]
  constructor
  case mp =>
    rintro ⟨other, twin, _, met, ht⟩
    have labels : label twin = label value := (label_of_read ht).trans (label_of_read hr).symm
    have asked := (admits_iff.mp met).right
    rw [labels] at asked
    exact admits_iff.mpr ⟨(admits_iff.mp admitted).left, asked⟩
  case mpr =>
    intro met
    exact ⟨key, value, found, met, hr⟩

theorem picked_append [ReadsMetadata K] [DecidableEq K] (objects : Table Key Json)
    (scope : Option String) (a b : Selector) :
    picked K objects scope (a ++ b) =
      (picked K objects scope a).filter (· ∈ picked K objects scope b) := by
  generalize hk : picked K objects scope b = others
  rw [picked, picked, admits_append]
  simp only [List.filterMap_map, List.filterMap_filter, List.filter_filterMap]
  refine List.filterMap_congr fun ⟨key, value⟩ member => ?_
  have found := (Table.mem_entries_iff ..).mp member
  cases ha : admits scope a (key, value)
  case false => simp
  case true =>
    cases hr : (Object.read value : Option K)
    case none => simp [hr]
    case some object =>
      have same := mem_picked_of_admits (b := b) found ha hr
      rw [hk] at same
      cases hb : admits scope b (key, value) <;> simp [Option.filter, hr, same, hb]

-- Which selector stands first does not matter for what is picked.
theorem picked_append_comm (objects : Table Key Json) (scope : Option String) (a b : Selector) :
    picked K objects scope (a ++ b) = picked K objects scope (b ++ a) := by
  simp only [picked, admits_append, Bool.and_comm]

-- If all objects can be read, a listing by two selectors that are joined by a comma fails just if one of
-- the selectors is refused, as the first of them that is refused does alone. Otherwise it gives the
-- objects that both selectors give, in the order in which each of the two gives them.
theorem list_joined {K : Type} [Object K] [ReadsMetadata K] [DecidableEq K] {store : Store}
    {kind : Kind} (synced : store.hasSynced kind = true)
    (legible : ∀ key value, store.held kind key = some value →
      ∃ object : K, Object.read value = some object)
    (scope : Option String) (options : ListOptions) (s t : String) :
    let list (text : String) := store.list K kind scope { options with labels := some text }
    (∀ text e, list text = .error e → ∃ reason, e = .invalidSelector reason) ∧
    (list (s ++ "," ++ t) = do
      let left ← list s
      let right ← list t
      return left.filter (· ∈ right)) ∧
    (list (s ++ "," ++ t) = do
      let left ← list s
      let right ← list t
      return right.filter (· ∈ left)) := by
  intro list
  have ⟨objects, readable⟩ := readable_of_synced synced
  have accepted {text : String} {requirements : Selector}
      (h : selector { options with labels := some text } = .ok requirements) :
      list text = .ok (picked K objects scope requirements) :=
    list_of_legible readable legible h scope
  have rejected {text : String} {e : Error}
      (h : selector { options with labels := some text } = .error e) : list text = .error e :=
    list_of_rejected h
  have joined := selector_join options s t
  refine ⟨?_, ?_⟩
  case refine_1 =>
    intro text e failed
    cases hs : selector { options with labels := some text }
    case ok => cases (accepted hs).symm.trans failed
    case error d =>
      cases (rejected hs).symm.trans failed
      exact selector_error hs
  case refine_2 =>
    cases hs : selector { options with labels := some s }
    case error =>
      rw [hs] at joined
      rw [rejected joined, rejected hs]
      exact ⟨rfl, rfl⟩
    case ok a =>
      cases ht : selector { options with labels := some t }
      case error =>
        rw [hs, ht] at joined
        rw [rejected joined, accepted hs, rejected ht]
        exact ⟨rfl, rfl⟩
      case ok b =>
        rw [hs, ht] at joined
        rw [accepted joined, accepted hs, accepted ht]
        exact ⟨congrArg _ (picked_append objects scope a b),
          congrArg _ ((picked_append_comm objects scope a b).trans (picked_append objects scope b a))⟩

end Store

-- Selectors with white space and empty terms, and one that asks for a set of values.
theorem Store.list_joined_spaced :
    let a := Sample.labelledAs "ConfigMap" "a" "2"
    let b := Sample.labelledAs "ConfigMap" "b" "3"
    let store := after .empty (Sample.stocked [a, b])
    let list (text : String) := store.list ConfigMap Sample.maps none (Sample.selecting text)
    list " k,,!z" = .ok [⟨a.metadata, none, none, none⟩, ⟨b.metadata, none, none, none⟩] ∧
      list "k != 3 ," = .ok [⟨a.metadata, none, none, none⟩] ∧
      list (" k,,!z" ++ "," ++ "k != 3 ,") = .ok [⟨a.metadata, none, none, none⟩] ∧
      list ("k in (2)" ++ "," ++ "k != 3 ,") = .error
        (.invalidSelector "set-based requirement \"k in (2)\" is not supported by the cache") := by
  intro a b store list
  have synced : store.hasSynced Sample.maps = true := by decide +kernel
  have ⟨objects, readable⟩ := readable_of_synced synced
  have legible (key : Key) (value : Json) (h : store.held Sample.maps key = some value) :
      ∃ object : ConfigMap, Object.read value = some object := by
    have all : (objects.entries.map Prod.snd).all
        (fun value => (Object.read value : Option ConfigMap).isSome) = true := by
      cases readable
      decide +kernel
    have member := (Table.mem_entries_iff ..).mpr ((held_of_readable readable key).symm.trans h)
    exact Option.isSome_iff_exists.mp (List.all_eq_true.mp all _ (List.mem_map_of_mem member))
  have left : list " k,,!z" =
      .ok [⟨a.metadata, none, none, none⟩, ⟨b.metadata, none, none, none⟩] := by decide +kernel
  have right : list "k != 3 ," = .ok [⟨a.metadata, none, none, none⟩] := by decide +kernel
  have joined (s t : String) : list (s ++ "," ++ t) = do
      let left ← list s
      let right ← list t
      return left.filter (· ∈ right) :=
    (list_joined (K := ConfigMap) synced legible none .default s t).right.left
  refine ⟨left, right, ?_, ?_⟩
  case refine_1 =>
    rw [joined, left, right]
    decide +kernel
  case refine_2 =>
    have refused : list "k in (2)" = .error
        (.invalidSelector "set-based requirement \"k in (2)\" is not supported by the cache") := by
      decide +kernel
    rw [joined, refused]
    rfl

end ReadYourWrites
