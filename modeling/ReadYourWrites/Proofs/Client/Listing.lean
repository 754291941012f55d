import ReadYourWrites.Client
import ReadYourWrites.Proofs.Client.Write
import ReadYourWrites.Proofs.Store.Answers

-- Listings of kinds that the store of the cache does not track or has not listed yet. Such a listing
-- is left to the server, unless the store refuses its selectors: it looks at them first.

namespace ReadYourWrites

namespace Error

-- Whether an error is one that only a cache reports.
def isOfCache : Error → Bool
  | .notFound _ _ | .notRegistered _ | .notSynced _ | .invalidSelector _ => true
  | _ => false

end Error

theorem World.exchange_error {token : Token} {request : Except RequestFault Request} {w : World}
    {e : Error} (h : (w.exchange token request).1 = .error e) : e.isOfCache = false := by
  simp only [exchange] at h
  split at h
  case isTrue => cases h; rfl
  case isFalse =>
    split at h
    case h_1 => cases h; rfl
    case h_2 => cases h; rfl
    case h_3 =>
      split at h
      case h_1 => cases h; rfl
      case h_2 =>
        split at h
        case h_1 => cases h
        case h_2 => cases h; rfl

namespace Direct

variable {K : Type} [Object K]

theorem lift_error {α : Type} {answer : Except Failure α} {e : Error}
    (h : lift answer = .error e) : e.isOfCache = false := by
  cases answer
  case ok => cases h
  case error => cases h; rfl

theorem toObject_error {object : Unstructured} {e : Error} (h : object.toObject K = .error e) :
    e.isOfCache = false := by
  rw [Unstructured.toObject] at h
  cases Object.decode_eq_error h
  rfl

-- No listing by the server ends with an error of the cache.
theorem list_error {scheme : Scheme} {token : Token} {kind : Kind} {scope : Option String}
    {options : ListOptions} {w : World} {e : Error}
    (h : (list K scheme token kind scope options w).1 = .error e) : e.isOfCache = false := by
  simp only [list, Prepared.send] at h
  generalize hx : w.exchange token (prepareList K scheme kind scope options).request = x at h
  have ⟨answer, after⟩ := x
  cases answer
  case error => cases h; exact World.exchange_error (congrArg Prod.fst hx)
  case ok response =>
    simp only [Except.bind, prepareList, bind] at h
    split at h
    case h_1 hl => cases h; exact lift_error hl
    case h_2 =>
      have ⟨_, _, ho⟩ := mapM_eq_error h
      exact toObject_error ho

end Direct

namespace Store

variable {store : Store} {kind : Kind}

theorem readable_of_unheld
    (h : store.isTracked kind = false ∨ store.hasSynced kind = false) :
    ∃ e, store.readable kind = .error e ∧ Client.defers e = true := by
  cases ht : store.isTracked kind
  case false => exact ⟨_, readable_of_untracked ht, rfl⟩
  case true =>
    have hs : store.hasSynced kind = false := by simpa [ht] using h
    exact ⟨_, readable_of_unsynced ht hs, rfl⟩

end Store

namespace Client

variable {K : Type} [Object K] {client : Client} {token : Token} {kind : Kind}
  {scope : Option String} {options : ListOptions} {w : World}

theorem list_of_unstructured (h : Object.isUnstructured K = true) :
    client.list K token kind scope options w =
      Direct.list K client.scheme token kind scope options w := by
  rw [list, if_pos h]

-- An error of the cache is handed on, or it sends the listing to the server.
theorem list_of_error {e : Error} (h : Object.isUnstructured K = false)
    (he : client.cache.select w.reads w.now kind scope options = .error e) :
    client.list K token kind scope options w =
      if defers e then Direct.list K client.scheme token kind scope options w.counted
      else (.error e, w.counted) := by
  have hl : client.cache.list K kind scope options w = (.error e, w.counted) := by
    simp only [Cache.list, he]
    rfl
  rw [list, h, hl]
  rfl

-- A listing of a kind that the store does not hold is that of the direct client, made after the read
-- of the cache, just if there is no such read or the store accepts the selectors. Otherwise the
-- caller gets an error of the cache.
theorem list_unheld_iff (scheme : Scheme) (config : Config) (store : Nat → Store) (token : Token)
    (kind : Kind) (scope : Option String) (options : ListOptions) (w : World)
    (unheld : (store w.now).isTracked kind = false ∨ (store w.now).hasSynced kind = false) :
    let call := (Client.mk scheme (.ofStore store) config).list K token kind scope options w
    let direct := Direct.list K scheme token kind scope options
      (if Object.isUnstructured K then w else w.counted)
    (call = direct ∧ ∀ e, call.1 = .error e → e.isOfCache = false) ↔
      Object.isUnstructured K = true ∨ ∃ selector, Store.selector options = .ok selector := by
  intro call direct
  have ⟨d, hd, hf⟩ := Store.readable_of_unheld unheld
  cases hu : Object.isUnstructured K
  case true =>
    have he : call = direct := by
      simp only [call, direct, hu]
      exact list_of_unstructured hu
    simp only [true_or, iff_true]
    exact ⟨he, fun e h => Direct.list_error (he ▸ h)⟩
  case false =>
    cases hs : Store.selector options
    case ok selector =>
      have he : call = direct := by
        simp only [call, direct, hu]
        rw [list_of_error hu (Store.select_of_unreadable hs hd), hf, if_pos rfl,
          if_neg Bool.false_ne_true]
      simp only [Except.ok.injEq, exists_eq', or_true, iff_true]
      exact ⟨he, fun e h => Direct.list_error (he ▸ h)⟩
    case error e =>
      obtain ⟨text, rfl⟩ := Store.selector_error hs
      have hl : call = _ := list_of_error hu (Store.select_of_rejected hs)
      have hc : call = (.error (.invalidSelector text), w.counted) := hl
      simp only [reduceCtorEq, exists_false, or_false, Bool.false_eq_true, iff_false, not_and]
      intro _ h
      cases h _ (congrArg Prod.fst hc)

end Client

namespace Sample

def noItems : Json :=
  .object [("metadata", .object []), ("items", .array [])]

def labelled (labels : String) : ListOptions :=
  { ListOptions.default with labels := some labels, limit := some 5, continueToken := some "" }

end Sample

-- A kind whose first listing has not arrived, with a selector that the store accepts.
theorem Client.list_unheld_unlisted :
    let call := (Sample.client (.ofStore fun _ => .track .empty ConfigMap.resource.kind)).list
      ConfigMap .never ConfigMap.resource.kind none (Sample.labelled "env = prod,")
      (Sample.world [Sample.noItems])
    call = Direct.list ConfigMap Sample.scheme .never ConfigMap.resource.kind none
        (Sample.labelled "env = prod,") (Sample.world [Sample.noItems]).counted ∧
      call.1 = .ok [] ∧
      call.2.requests.map (·.uri) =
        ["/api/v1/configmaps?&labelSelector=env+%3D+prod%2C&limit=5&continue="] := by
  intro call
  have unheld : (Store.empty.track ConfigMap.resource.kind).isTracked ConfigMap.resource.kind =
        false ∨
      (Store.empty.track ConfigMap.resource.kind).hasSynced ConfigMap.resource.kind = false :=
    .inr rfl
  have h := (list_unheld_iff (K := ConfigMap) Sample.scheme Sample.config
    (fun _ => .track .empty ConfigMap.resource.kind) .never ConfigMap.resource.kind none
    (Sample.labelled "env = prod,") (Sample.world [Sample.noItems]) unheld).mpr
      (.inr ⟨[.equals "env" "prod"], by decide +kernel⟩)
  exact ⟨h.left, by decide +kernel, by decide +kernel⟩

-- The server would list the objects that have a label in a set of values, and those that have a field.
-- A cache that does not even track their kind refuses to ask it.
theorem Client.list_unheld_refused :
    let bySet := Sample.labelled "env in (prod)"
    let byField := { ListOptions.default with fields := some "metadata.name=settings" }
    let call (options : ListOptions) := (Sample.client (.ofStore fun _ => .empty)).list ConfigMap
      .never ConfigMap.resource.kind none options (Sample.world [Sample.noItems])
    let direct (options : ListOptions) := Direct.list ConfigMap Sample.scheme .never
      ConfigMap.resource.kind none options (Sample.world [Sample.noItems])
    ((direct bySet).1 = .ok [] ∧ (call bySet).2.requests = [] ∧
      (call bySet).1 = .error (.invalidSelector
        "set-based requirement \"env in (prod)\" is not supported by the cache")) ∧
    (direct byField).1 = .ok [] ∧ (call byField).2.requests = [] ∧
      (call byField).1 = .error (.invalidSelector
        "field selectors are not supported by the cache") := by
  decide +kernel

end ReadYourWrites
