import Mathlib.Data.List.Basic
import Mathlib.Data.List.Induction
import ReadYourWrites.Proofs.Object.Metadata
import ReadYourWrites.Proofs.Object.Typed
import ReadYourWrites.Table

-- The kind in the written form of an object, and what is left of it when an object is read from that
-- form. No JSON object has two fields of one name, so it does not matter in which order the parts of
-- the type metadata stand there.

namespace ReadYourWrites

namespace Json

theorem lookup_of_notMem {fields : List (String × Json)} {name : String}
    (h : name ∉ fields.map Prod.fst) : fields.lookup name = none := by
  induction fields with
  | nil => rfl
  | cons field fields ih =>
    have ⟨own, value⟩ := field
    rw [List.map_cons, List.mem_cons, not_or] at h
    rw [List.lookup_cons, beq_false_of_ne h.left, ih h.right]

theorem distinct_of_nodup {fields : List (String × Json)} (h : (fields.map Prod.fst).Nodup) :
    distinct fields = fields := by
  induction fields using List.reverseRecOn with
  | nil => rfl
  | append_singleton fields field ih =>
    rw [List.map_append, List.nodup_append] at h
    have ⟨nodup, _, apart⟩ := h
    have fresh : fields.any (·.1 == field.1) = false := by
      rw [List.any_eq_false]
      intro old ho he
      exact apart _ (List.mem_map_of_mem ho) field.1 (by simp) (eq_of_beq he)
    have step : distinct (fields ++ [field]) = distinct.put (distinct fields) field :=
      List.foldl_concat ..
    rw [step, ih nodup, distinct.put, fresh]
    rfl

end Json

-- The kind that type metadata names, if neither of its parts is empty.
def TypeMeta.kind? (types : TypeMeta) : Option Kind :=
  if types.apiVersion = "" ∨ types.kind = "" then none
  else some (.ofApiVersion types.apiVersion types.kind)

namespace Unstructured

-- The text in a field of the given name.
def text? (fields : List (String × Json)) (name : String) : Option String :=
  (fields.lookup name).bind Json.string?

-- The type metadata in some fields, if both of its parts are texts.
def types? (fields : List (String × Json)) : Option TypeMeta := do
  let apiVersion ← text? fields "apiVersion"
  let kind ← text? fields "kind"
  return ⟨apiVersion, kind⟩

theorem text?_cons (own name : String) (value : Json) (fields : List (String × Json)) :
    text? ((own, value) :: fields) name = if name = own then value.string? else text? fields name := by
  by_cases h : name = own
  case pos => simp [text?, h]
  case neg => simp [text?, List.lookup_cons, beq_false_of_ne h, h]

theorem text?_of_notMem {fields : List (String × Json)} {name : String}
    (h : name ∉ fields.map Prod.fst) : text? fields name = none := by
  rw [text?, Json.lookup_of_notMem h, Option.bind_none]

theorem types?_eq_some_iff {fields : List (String × Json)} {types : TypeMeta} :
    types? fields = some types ↔
      text? fields "apiVersion" = some types.apiVersion ∧ text? fields "kind" = some types.kind := by
  obtain ⟨apiVersion, kind⟩ := types
  cases ha : text? fields "apiVersion" <;> cases hk : text? fields "kind" <;> simp [types?, ha, hk]

theorem writtenKind?_object (fields : List (String × Json)) :
    Object.writtenKind? (.object fields) = (types? fields).bind TypeMeta.kind? := by
  simp only [Object.writtenKind?, types?, text?, Json.get?, Json.fields?, Option.bind_eq_bind,
    Option.bind_some, Option.bind_assoc, Option.pure_def, TypeMeta.kind?]

-- If no name comes twice, the search finds the type metadata wherever its parts stand. A part that
-- has been found already is not met again.
theorem takeTypes_eq_some_iff {fields : List (String × Json)} (nodup : (fields.map Prod.fst).Nodup)
    {apiVersion kind : Option String} (ha : apiVersion.isSome → "apiVersion" ∉ fields.map Prod.fst)
    (hk : kind.isSome → "kind" ∉ fields.map Prod.fst) {types : TypeMeta} :
    (takeTypes apiVersion kind fields).1 = some types ↔
      apiVersion.or (text? fields "apiVersion") = some types.apiVersion ∧
        kind.or (text? fields "kind") = some types.kind := by
  fun_induction takeTypes apiVersion kind fields
  case case1 =>
    cases types
    simp [text?]
  case case2 apiVersion kind missing =>
    refine iff_of_false (fun h => by cases h) ?_
    rintro ⟨hv, hn⟩
    rw [text?, List.lookup_nil, Option.bind_none, Option.or_none] at hv hn
    exact missing types.apiVersion types.kind hv hn
  case case3 apiVersion rest text ih =>
    simp only [List.map_cons, List.nodup_cons, List.mem_cons, not_or] at nodup hk
    rw [ih nodup.right (fun _ => nodup.left) fun h => (hk h).right]
    simp [text?_cons, Json.string?]
  case case4 apiVersion kind value rest stop =>
    cases apiVersion
    case none =>
      cases value
      case string text => exact absurd rfl (stop text rfl)
      all_goals simp [text?_cons, Json.string?]
    case some => simp at ha
  case case5 apiVersion rest text _ ih =>
    simp only [List.map_cons, List.nodup_cons, List.mem_cons, not_or] at nodup ha
    rw [ih nodup.right (fun h => (ha h).right) fun _ => nodup.left]
    simp [text?_cons, Json.string?]
  case case6 apiVersion kind value rest stop _ =>
    cases kind
    case none =>
      cases value
      case string text => exact absurd rfl (stop text rfl)
      all_goals simp [text?_cons, Json.string?]
    case some => simp at hk
  case case7 apiVersion kind name value rest hn hk' types' rest' he ih =>
    simp only [List.map_cons, List.nodup_cons, List.mem_cons, not_or] at nodup ha hk
    rw [text?_cons, if_neg (Ne.symm hn), text?_cons, if_neg (Ne.symm hk'),
      ← ih nodup.right (fun h => (ha h).right) fun h => (hk h).right, he]

-- If no name comes twice, at most one part of the type metadata stays among the fields.
theorem takeTypes_untyped {fields : List (String × Json)} (nodup : (fields.map Prod.fst).Nodup)
    (apiVersion kind : Option String) :
    "apiVersion" ∉ (takeTypes apiVersion kind fields).2.map Prod.fst ∨
      "kind" ∉ (takeTypes apiVersion kind fields).2.map Prod.fst := by
  fun_induction takeTypes apiVersion kind fields
  case case1 | case2 => simp
  case case3 ih | case5 ih => exact ih (List.nodup_cons.mp nodup).right
  case case4 => exact .inl (List.nodup_cons.mp nodup).left
  case case6 => exact .inr (List.nodup_cons.mp nodup).left
  case case7 ha hk _ _ he ih =>
    rw [he] at ih
    have one := ih (List.nodup_cons.mp nodup).right
    simpa only [List.map_cons, List.mem_cons, Ne.symm ha, Ne.symm hk, false_or] using one

theorem takeTypes_none {fields : List (String × Json)} (nodup : (fields.map Prod.fst).Nodup) :
    (takeTypes none none fields).1 = types? fields := by
  refine Option.ext fun types => ?_
  rw [takeTypes_eq_some_iff nodup (by simp) (by simp), types?_eq_some_iff, Option.none_or,
    Option.none_or]

theorem types?_filter (fields : List (String × Json)) :
    types? (fields.filter (·.1 ≠ "metadata")) = types? fields := by
  simp only [types?, text?, Table.lookup_filter_ne]
  rfl

variable {json : Json} {object : Unstructured}

-- What is read from a value in which no name comes twice.
theorem parts_of_read (distinct : json.Distinct) (h : read json = some object) :
    ∃ fields, json = .object fields ∧ object.types = types? fields ∧
      (fields.lookup "metadata").bind Metadata.read = some object.metadata ∧
      object.fields = (taken fields).2 := by
  obtain ⟨fields, hf, h⟩ := Option.bind_eq_some_iff.mp h
  obtain ⟨written, hw, h⟩ := Option.bind_eq_some_iff.mp h
  obtain ⟨m, hm, h⟩ := Option.bind_eq_some_iff.mp h
  obtain rfl := Option.some.inj h
  have own : json = .object fields := by
    cases json with
    | object own => exact congrArg Json.object (Option.some.inj hf)
    | _ => cases hf
  subst own
  have nodup : ((fields.filter (·.1 ≠ "metadata")).map Prod.fst).Nodup :=
    List.Nodup.sublist (List.filter_sublist.map _) distinct
  refine ⟨fields, rfl, (takeTypes_none nodup).trans (types?_filter fields), ?_, ?_⟩
  case refine_1 =>
    rw [hw, Option.bind_some, hm]
    rfl
  case refine_2 => exact Json.distinct_of_nodup (nodup.sublist ((taken_sublist fields).map _))

-- At most one part of the type metadata is left among the other fields.
theorem untyped_of_read (distinct : json.Distinct) (h : read json = some object) :
    "apiVersion" ∉ object.fields.map Prod.fst ∨ "kind" ∉ object.fields.map Prod.fst := by
  obtain ⟨fields, rfl, _, _, kept⟩ := parts_of_read distinct h
  rw [kept]
  exact takeTypes_untyped (List.Nodup.sublist (List.filter_sublist.map _) distinct) none none

-- An object writes the type metadata that it has, and no other unless its parts are both among the
-- other fields.
theorem types?_write (untyped : "apiVersion" ∉ object.fields.map Prod.fst ∨
    "kind" ∉ object.fields.map Prod.fst) :
    ∃ fields, object.write = .object fields ∧ types? fields = object.types := by
  refine ⟨_, rfl, ?_⟩
  cases ht : object.types
  case some types =>
    rw [types?_eq_some_iff]
    exact ⟨rfl, rfl⟩
  case none =>
    refine Option.eq_none_iff_forall_ne_some.mpr fun types h => ?_
    have ⟨apiVersion, kind⟩ := types?_eq_some_iff.mp h
    cases untyped
    case inl missing =>
      simp [writeTypes, text?_cons, text?_of_notMem missing] at apiVersion
    case inr missing =>
      simp [writeTypes, text?_cons, text?_of_notMem missing] at kind

-- The kind of an object that has been read is the one that was written there.
theorem writtenKind?_of_read (distinct : json.Distinct) (h : read json = some object) :
    Object.writtenKind? object.write = Object.writtenKind? json := by
  have ⟨_, hw, written⟩ := types?_write (untyped_of_read distinct h)
  obtain ⟨fields, rfl, types, _⟩ := parts_of_read distinct h
  rw [hw, writtenKind?_object, writtenKind?_object, written, types]

end Unstructured

namespace Typed

theorem eq_of_isOwn {json value : Json} {name text : String} (own : isOwn json name text = true)
    (h : json.get? name = some value) : value = .string text := by
  rw [isOwn, h] at own
  exact eq_of_beq own

-- Where a kind is written, an object of a type with one kind is read only if it is that kind.
theorem kind_of_readMetadata {resource : Resource} {json : Json} {m : Metadata} {kind : Kind}
    (h : readMetadata resource json = some m) (hk : Object.writtenKind? json = some kind) :
    kind = .ofApiVersion resource.apiVersion resource.kind.name := by
  obtain ⟨_, own, _⟩ := Option.bind_eq_some_iff.mp h
  rw [guard] at own
  split at own
  case isFalse => cases own
  case isTrue both =>
    have ⟨first, second⟩ := Bool.and_eq_true_iff.mp both
    obtain ⟨value, hv, hk⟩ := Option.bind_eq_some_iff.mp hk
    obtain ⟨apiVersion, ha, hk⟩ := Option.bind_eq_some_iff.mp hk
    obtain ⟨other, ho, hk⟩ := Option.bind_eq_some_iff.mp hk
    obtain ⟨name, hn, hk⟩ := Option.bind_eq_some_iff.mp hk
    obtain rfl := eq_of_isOwn first hv
    obtain rfl := eq_of_isOwn second ho
    cases ha
    cases hn
    split at hk
    case isTrue => cases hk
    case isFalse => exact (Option.some.inj hk).symm

end Typed

-- Types whose objects keep the kind that they are read with.
class KeepsKind (K : Type) [Object K] : Prop where
  writtenKind?_of_read {json : Json} {object : K} {kind : Kind} : json.Distinct →
    Object.read json = some object → Object.writtenKind? json = some kind →
    Object.writtenKind? (Object.write object) = some kind

namespace KeepsKind

theorem of_readMetadata {K : Type} [Object K] [Typed K] {resource : Resource}
    (own : Typed.kind K = .ofApiVersion resource.apiVersion resource.kind.name)
    (h : ∀ {json : Json} {object : K}, Object.read json = some object →
      ∃ m, Typed.readMetadata resource json = some m) : KeepsKind K where
  writtenKind?_of_read {_ object _} _ hr hk := by
    have ⟨_, hm⟩ := h hr
    rw [Typed.kind_of_readMetadata hm hk, ← own]
    exact Typed.writtenKind? object

instance : KeepsKind ConfigMap :=
  of_readMetadata rfl fun h => (Option.bind_eq_some_iff.mp h).imp fun _ => And.left

instance : KeepsKind Secret :=
  of_readMetadata rfl fun h => (Option.bind_eq_some_iff.mp h).imp fun _ => And.left

instance : KeepsKind Namespace :=
  of_readMetadata rfl fun h => (Option.bind_eq_some_iff.mp h).imp fun _ => And.left

instance : KeepsKind Unstructured where
  writtenKind?_of_read distinct h hk := (Unstructured.writtenKind?_of_read distinct h).trans hk

end KeepsKind

end ReadYourWrites
