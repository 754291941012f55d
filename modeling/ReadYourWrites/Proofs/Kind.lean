import ReadYourWrites.Proofs.Store.Kinds
import ReadYourWrites.Proofs.Text.Cutting
import ReadYourWrites.Scheme

-- API versions, split into group and version and joined again. Texts that do not begin with a slash
-- are told apart by this, so their kinds are kept apart in stores and schemes. And a type whose objects
-- write the API version of its resource is found under the kind of this resource.

namespace ReadYourWrites

open Text

namespace Kind

-- A kind that its API version leads back to: a slash would end the group too early, and in the empty
-- group begin a version too late.
structure Proper (kind : Kind) : Prop where
  group : '/' ∉ kind.group.toList
  version : kind.group ≠ "" ∨ '/' ∉ kind.version.toList

theorem apiVersion_ofApiVersion {apiVersion : String} (h : apiVersion.toList.head? ≠ some '/')
    (name : String) : (ofApiVersion apiVersion name).apiVersion = apiVersion := by
  rw [ofApiVersion]
  split
  case h_1 group version hs =>
    have joined : group ++ ['/'] ++ version = apiVersion.toList := append_of_splitFirst hs
    have hg : group ≠ [] := by
      rintro rfl
      exact h (congrArg List.head? joined.symm)
    rw [Kind.apiVersion, if_neg (by simpa using hg), ← String.toList_inj, ← joined]
    simp
  case h_2 => rw [Kind.apiVersion, if_pos rfl]

theorem ofApiVersion_name (apiVersion name : String) : (ofApiVersion apiVersion name).name = name := by
  rw [ofApiVersion]
  split <;> rfl

theorem ofApiVersion_apiVersion {kind : Kind} (h : kind.Proper) :
    ofApiVersion kind.apiVersion kind.name = kind := by
  by_cases hg : kind.group = ""
  case pos =>
    have plain : splitFirst ['/'] kind.version.toList = none :=
      splitFirst_of_not_mem List.mem_cons_self (h.version.resolve_left (absurd hg))
    simp only [ofApiVersion, Kind.apiVersion, hg, if_true, plain]
    rw [← hg]
  case neg =>
    have cut : splitFirst ['/'] (kind.group.toList ++ ['/'] ++ kind.version.toList) =
        some (kind.group.toList, kind.version.toList) := splitFirst_append h.group
    have joined : (kind.group ++ "/" ++ kind.version).toList =
        kind.group.toList ++ ['/'] ++ kind.version.toList := by simp
    simp only [ofApiVersion, Kind.apiVersion, hg, if_false, joined, cut, String.ofList_toList]

theorem ofApiVersion_ne {a b : String} (ha : a.toList.head? ≠ some '/')
    (hb : b.toList.head? ≠ some '/') (h : a ≠ b) (m n : String) :
    ofApiVersion a m ≠ ofApiVersion b n := by
  intro he
  have same := congrArg Kind.apiVersion he
  rw [apiVersion_ofApiVersion ha, apiVersion_ofApiVersion hb] at same
  exact h same

end Kind

namespace Resource

-- A resource that has the API version of its kind.
structure Proper (resource : Resource) : Prop where
  kind : resource.kind.Proper
  apiVersion : resource.apiVersion = resource.kind.apiVersion
  apiVersion_ne : resource.apiVersion ≠ ""
  name_ne : resource.kind.name ≠ ""

-- Whether all objects of a type are written as objects of a resource, whatever else they hold.
structure Types (resource : Resource) (K : Type) [Object K] : Prop where
  apiVersion (object : K) :
    (Object.write object).get? "apiVersion" = some (.string resource.apiVersion)
  name (object : K) : (Object.write object).get? "kind" = some (.string resource.kind.name)

variable {resource : Resource} {K : Type} [Object K]

theorem Types.of_write {metadata : K → Metadata} {fields : K → List (String × Json)}
    (h : ∀ object, Object.write object = Typed.write resource (metadata object) (fields object)) :
    resource.Types K where
  apiVersion object := by simp [h, Typed.write, Json.get?, Json.fields?]
  name object := by simp [h, Typed.write, Json.get?, Json.fields?, List.lookup_cons]

theorem Types.writtenKind?_eq (types : resource.Types K) (proper : resource.Proper) (object : K) :
    Object.writtenKind? (Object.write object) = some resource.kind := by
  have back := Kind.ofApiVersion_apiVersion proper.kind
  rw [← proper.apiVersion] at back
  simp [Object.writtenKind?, types.apiVersion, types.name, Json.string?, proper.apiVersion_ne,
    proper.name_ne, back]

end Resource

namespace Store

variable {K : Type} [Object K] {store : Store} {kind : Kind} {key : Key} {value : Json}

-- What is held under a kind is found by the objects that have this kind written.
theorem get_of_held_written {asking : K}
    (written : Object.writtenKind? (Object.write asking) = some kind)
    (synced : store.hasSynced kind = true) (h : store.held kind key = some value) :
    store.get key asking = Object.decode K value := by
  have ⟨objects, readable⟩ := readable_of_synced synced
  rw [held_of_readable readable] at h
  rw [get_eq written, readable, Except.bind, lookUp, h]

theorem insert_of_written {object : K}
    (written : Object.writtenKind? (Object.write object) = some kind)
    (named : (Object.metadata object).key? = some key) :
    store.insert object = .ok (store.put kind key (Object.write object)) := by
  simp [insert, insertWritten, Written.ofObject, written, named]

end Store

-- A text that does not begin with a slash is the API version of the kind that it is split into, and a
-- kind with no slash too many is what its API version is split into. So kinds of different API versions
-- differ: neither changes of a store nor registrations in a scheme take one for the other. And the
-- objects of a type all have the kind of the resource of their type, so under this kind registrations of
-- the type and stored objects are found.
theorem Kind.ofApiVersion_inverse :
    (∀ apiVersion name : String, apiVersion.toList.head? ≠ some '/' →
      let kind := ofApiVersion apiVersion name
      kind.apiVersion = apiVersion ∧
        (Error.notRegistered kind).message =
          "no kind " ++ name ++ " is registered for version " ++ apiVersion ∧
        (Error.notSynced kind).message =
          "cache for kind " ++ name ++ " in version " ++ apiVersion ++ " has not synced") ∧
    (∀ group version name : String, '/' ∉ group.toList → (group ≠ "" ∨ '/' ∉ version.toList) →
      ofApiVersion (apiVersion ⟨group, version, name⟩) name = ⟨group, version, name⟩) ∧
    (∀ a b m n : String, a.toList.head? ≠ some '/' → b.toList.head? ≠ some '/' → a ≠ b →
      let one := ofApiVersion a m
      let other := ofApiVersion b n
      one ≠ other ∧
        (∀ (store : Store) (o : Operation), o.kind? = some one →
          (o.run store).1.kinds.get? other = store.kinds.get? other) ∧
        ∀ (scheme : Scheme) (resource : Resource) (template : Json), resource.kind = one →
          (scheme.register resource template).get? other = scheme.get? other) ∧
    ∀ (K : Type) [Object K] (resource : Resource), resource.Proper → resource.Types K →
      ∀ object : K, Object.kind object = .ok resource.kind ∧
        (∀ (scheme : Scheme) (template : Json) (own : Kind), Object.kind object = .ok own →
          (scheme.register resource template).get? own = some ⟨resource, template⟩) ∧
        (∀ (store : Store) (key : Key), (Object.metadata object).key? = some key →
          ∃ next, store.insert object = .ok next ∧
            next.held resource.kind key = some (Object.write object)) ∧
        ∀ (store : Store) (key : Key) (value : Json), store.hasSynced resource.kind = true →
          store.held resource.kind key = some value →
          store.get key object = Object.decode K value := by
  refine ⟨?_, ?_, ?_, ?_⟩
  case refine_1 =>
    intro apiVersion name h kind
    have joined : kind.apiVersion = apiVersion := apiVersion_ofApiVersion h name
    have named : kind.name = name := ofApiVersion_name apiVersion name
    clear_value kind
    subst joined named
    exact ⟨rfl, rfl, rfl⟩
  case refine_2 =>
    intro group version name hg hv
    exact ofApiVersion_apiVersion ⟨hg, hv⟩
  case refine_3 =>
    intro a b m n ha hb hne one other
    have apart : one ≠ other := ofApiVersion_ne ha hb hne m n
    refine ⟨apart, ?_, ?_⟩
    case refine_1 =>
      intro store o ho
      have elsewhere : o.kind? ≠ some other := by simpa [ho] using apart
      exact Store.run_other elsewhere store
    case refine_2 =>
      intro scheme resource template hk
      rw [Scheme.register, Table.get?_insert, hk, if_neg apart.symm]
  case refine_4 =>
    intro K _ resource proper types object
    have written := types.writtenKind?_eq proper object
    have own := Object.kind_eq_ok_iff.mpr written
    refine ⟨own, ?_, ?_, ?_⟩
    case refine_1 =>
      intro scheme template kind hk
      cases own.symm.trans hk
      rw [Scheme.register, Table.get?_insert, if_pos rfl]
    case refine_2 =>
      intro store key named
      exact ⟨_, Store.insert_of_written written named, Store.held_put store _ key _⟩
    case refine_3 =>
      intro store key value synced held
      exact Store.get_of_held_written written synced held

-- With several slashes, and with none. A text that begins with a slash is split as the one without it.
theorem Kind.ofApiVersion_inverse_slashes :
    ofApiVersion "apps/v1/x" "Deployment" = ⟨"apps", "v1/x", "Deployment"⟩ ∧
      (ofApiVersion "apps/v1/x" "Deployment").apiVersion = "apps/v1/x" ∧
      ofApiVersion (apiVersion ⟨"apps", "v1/x", "Deployment"⟩) "Deployment" =
        ⟨"apps", "v1/x", "Deployment"⟩ ∧
      ofApiVersion "v1" "ConfigMap" ≠ ofApiVersion "apps/v1" "ConfigMap" ∧
      ofApiVersion "/v1" "ConfigMap" = ofApiVersion "v1" "ConfigMap" ∧
      (∀ object : ConfigMap, Object.kind object = .ok ⟨"", "v1", "ConfigMap"⟩) ∧
      ∀ object : Secret, Object.kind object = .ok ⟨"", "v1", "Secret"⟩ := by
  obtain ⟨back, forth, apart, found⟩ := ofApiVersion_inverse
  have maps : ConfigMap.resource.Proper := ⟨⟨by decide, .inr (by decide)⟩, rfl, by decide, by decide⟩
  have secrets : Secret.resource.Proper := ⟨⟨by decide, .inr (by decide)⟩, rfl, by decide, by decide⟩
  refine ⟨by decide, (back "apps/v1/x" "Deployment" (by decide)).left,
    forth "apps" "v1/x" "Deployment" (by decide) (.inl (by decide)),
    (apart "v1" "apps/v1" _ _ (by decide) (by decide) (by decide)).left, by decide, ?_, ?_⟩
  case refine_1 =>
    intro object
    exact (found ConfigMap ConfigMap.resource maps (.of_write fun _ => rfl) object).left
  case refine_2 =>
    intro object
    exact (found Secret Secret.resource secrets (.of_write fun _ => rfl) object).left

end ReadYourWrites
