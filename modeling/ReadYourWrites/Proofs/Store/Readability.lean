import ReadYourWrites.Proofs.Store.Answers
import ReadYourWrites.Proofs.Store.Changes

-- Whether a kind is tracked and listed, in terms of the calls that a store has gone through. The store
-- keeps both as marks, which each change moves in its own way. The history tells the same: a listing
-- since the last reset makes a kind readable, and so does an object that came before anything else.

namespace ReadYourWrites

namespace Store

-- Whether a kind counts as listed after some changes of a new store.
inductive Listed (kind : Kind) : List Operation → Prop
  | replaced {before objects rest} : .reset kind ∉ rest →
      Listed kind (before ++ .replace kind objects :: rest)
  | inserted {before o rest key value} : .reset kind ∉ before ++ o :: rest →
      o.Inserts kind key value → (∀ p ∈ before, ¬p.Tracks kind) →
      Listed kind (before ++ o :: rest)

-- A member of a list that has been made longer by one is the new one or one of the old ones.
theorem concat_eq_split {α : Type} {as before rest : List α} {a b : α}
    (h : as ++ [a] = before ++ b :: rest) :
    (as = before ∧ a = b ∧ rest = []) ∨ ∃ front, as = before ++ b :: front ∧ rest = front ++ [a] := by
  obtain rfl | ⟨front, z, rfl⟩ := List.eq_nil_or_concat rest
  case inl =>
    have ⟨ha, hb⟩ := List.append_inj' h rfl
    exact .inl ⟨ha, List.singleton_inj.mp hb, rfl⟩
  case inr =>
    have hl : as ++ [a] = (before ++ b :: front) ++ [z] := by simpa using h
    have ⟨ha, hz⟩ := List.append_inj' hl rfl
    exact .inr ⟨front, ha, by rw [List.singleton_inj.mp hz, List.concat_eq_append]⟩

theorem listed_concat_iff {kind : Kind} {os : List Operation} {o : Operation} :
    Listed kind (os ++ [o]) ↔ (∃ objects, o = .replace kind objects) ∨
      ((∀ p ∈ os, ¬p.Tracks kind) ∧ ∃ key value, o.Inserts kind key value) ∨
      (o ≠ .reset kind ∧ Listed kind os) := by
  constructor
  case mp =>
    intro h
    generalize hx : os ++ [o] = xs at h
    cases h with
    | replaced hr =>
      obtain ⟨-, rfl, -⟩ | ⟨front, rfl, rfl⟩ := concat_eq_split hx
      case inl => exact .inl ⟨_, rfl⟩
      case inr =>
        refine .inr (.inr ⟨fun he => hr ?_, .replaced fun hm => hr ?_⟩)
        case refine_1 => simp [he]
        case refine_2 => simp [hm]
    | inserted hr hi hn =>
      obtain ⟨rfl, rfl, -⟩ | ⟨front, rfl, rfl⟩ := concat_eq_split hx
      case inl => exact .inr (.inl ⟨hn, _, _, hi⟩)
      case inr =>
        rw [← hx] at hr
        refine .inr (.inr ⟨fun he => hr ?_, .inserted (fun hm => hr ?_) hi hn⟩)
        case refine_1 => simp [he]
        case refine_2 => exact List.mem_append_left _ hm
  case mpr =>
    rintro (⟨objects, rfl⟩ | ⟨hn, key, value, hi⟩ | ⟨hr, h⟩)
    case inl => exact .replaced (by simp)
    case inr.inl =>
      refine .inserted (fun hm => ?_) hi hn
      obtain hm | hm := List.mem_append.mp hm
      case inl => exact hn _ hm .reset
      case inr =>
        cases List.mem_singleton.mp hm
        cases hi
    case inr.inr =>
      cases h with
      | replaced hn =>
        rw [List.append_assoc, List.cons_append]
        exact .replaced (by simp [hn, Ne.symm hr])
      | inserted hn hi hb =>
        rw [List.append_assoc, List.cons_append]
        exact .inserted (by simp_all [Ne.symm hr]) hi hb

namespace Step

variable {kind : Kind} {o : Operation} {c d : Option Collection}

theorem isSome_iff (h : Step kind o c d) :
    d.isSome = true ↔ c.isSome = true ∨ o.Tracks kind := by
  cases h with
  | other hk => exact (or_iff_left fun ht => hk ht.kind?_eq).symm
  | track => simp [Operation.Tracks.track]
  | insert hi => simp [hi.tracks]
  | delete => simpa using nofun
  | replace => simp [Operation.Tracks.replace]
  | reset => simp [Operation.Tracks.reset]

-- A listing sets the mark and a reset takes it away. An object that is put into a kind not tracked so
-- far sets it too. All else leaves it as it is.
theorem synced_iff (h : Step kind o c d) :
    d.any (·.synced) = true ↔ (∃ objects, o = .replace kind objects) ∨
      (c = none ∧ ∃ key value, o.Inserts kind key value) ∨
      (o ≠ .reset kind ∧ c.any (·.synced) = true) := by
  cases h with
  | other hk =>
    have hp : ∀ objects, o ≠ .replace kind objects := fun _ he => hk (he ▸ rfl)
    have hi : ∀ key value, ¬o.Inserts kind key value := fun _ _ hi => hk hi.tracks.kind?_eq
    have hr : o ≠ .reset kind := fun he => hk (he ▸ rfl)
    simp [hp, hi, hr]
  | track =>
    have hi : ∀ key value, ¬(Operation.track kind).Inserts kind key value := by rintro _ _ ⟨⟩
    cases c <;> simp [hi, Collection.unlisted]
  | @insert _ key value _ hi =>
    have hp : ∀ objects, o ≠ .replace kind objects := by cases hi <;> simp
    have hr : o ≠ .reset kind := by cases hi <;> simp
    have he : ∃ key value, o.Inserts kind key value := ⟨key, value, hi⟩
    cases c <;> simp [hp, hr, he, Collection.put]
  | delete =>
    have hi : ∀ key value k, ¬(Operation.delete kind k).Inserts kind key value := by rintro _ _ _ ⟨⟩
    cases c <;> simp [hi, Collection.erase]
  | replace => simp [Collection.listing]
  | reset =>
    have hi : ∀ key value, ¬(Operation.reset kind).Inserts kind key value := by rintro _ _ ⟨⟩
    simp [hi, Collection.unlisted]

end Step

-- After any calls the marks of a kind are what the changes among these calls say.
theorem marks_after (calls : List Call) (kind : Kind) :
    ((after .empty calls).isTracked kind = true ↔ ∃ o ∈ changes .empty calls, o.Tracks kind) ∧
      ((after .empty calls).hasSynced kind = true ↔ Listed kind (changes .empty calls)) := by
  refine after_induction (P := fun os store =>
    (store.isTracked kind = true ↔ ∃ o ∈ os, o.Tracks kind) ∧
      (store.hasSynced kind = true ↔ Listed kind os)) ?new ?step calls
  case new =>
    have hl : ¬Listed kind [] := by
      intro h
      generalize hx : ([] : List Operation) = os at h
      cases h <;> simp at hx
    simp [isTracked, hasSynced, Table.contains, empty, hl]
  case step =>
    rintro os o store next ⟨ht, hs⟩ step
    have hn : store.kinds.get? kind = none ↔ ∀ p ∈ os, ¬p.Tracks kind := by
      simpa [isTracked, Table.contains] using not_congr ht
    constructor
    case left =>
      calc next.isTracked kind = true
        _ ↔ store.isTracked kind = true ∨ o.Tracks kind := (step kind).isSome_iff
        _ ↔ (∃ p ∈ os, p.Tracks kind) ∨ o.Tracks kind := by rw [ht]
        _ ↔ ∃ p ∈ os ++ [o], p.Tracks kind := by simp [or_and_right, exists_or]
    case right =>
      rw [hasSynced, (step kind).synced_iff, hn, listed_concat_iff, ← hs, hasSynced]

-- A kind is tracked or listed just as the calls on a new store have left it, and reads say so. Calls
-- about other kinds do not matter.
theorem readability_by_history (calls : List Call) (kind : Kind) :
    let store := after .empty calls
    (store.isTracked kind = true ↔ ∃ o ∈ changes .empty calls, o.Tracks kind) ∧
    (store.hasSynced kind = true ↔ Listed kind (changes .empty calls)) ∧
    (store.hasSynced kind = true → store.isTracked kind = true) ∧
    (∀ o : Operation, o.kind? ≠ some kind →
      (o.run store).1.isTracked kind = store.isTracked kind ∧
        (o.run store).1.hasSynced kind = store.hasSynced kind) ∧
    (∀ (K : Type) [Object K] (key : Key) (held : K),
      Object.writtenKind? (Object.write held) = some kind →
      store.Tells kind (store.get key held)) ∧
    (∀ (K : Type) [Object K] (scope : Option String) (options : ListOptions) (selector : Selector),
      Store.selector options = .ok selector →
      store.Tells kind (store.list K kind scope options)) := by
  intro store
  have ⟨ht, hs⟩ := marks_after calls kind
  refine ⟨ht, hs, isTracked_of_synced, ?_, ?_, ?_⟩
  case refine_1 =>
    intro o ho
    have he := run_other ho store
    simp only [isTracked, hasSynced, Table.contains, he, and_self]
  case refine_2 => exact fun K _ key held hk => tells_get hk key
  case refine_3 => exact fun K _ scope options selector hs => tells_list hs

end Store

namespace Sample

-- A deletion of nothing, an object that is refused, one that makes the kind readable, and a reset.
def resetCalls : List Store.Call :=
  [.change (.delete maps ⟨none, "a"⟩), .change (.insertAs maps (entry none "1")),
    .change (.insertAs maps (entry (some "a") "2")), .get Unstructured ⟨none, "a"⟩ (entry none "0"),
    .change (.track maps), .change (.reset maps), .change (.insert (.ofObject (entry (some "b") "3")))]

end Sample

-- After a reset an object does not make the kind readable any more, but a listing does.
theorem Store.readability_by_history_reset :
    (after .empty Sample.resetCalls).get ⟨none, "b"⟩ (Sample.entry none "0") =
        .error (.notSynced Sample.maps) ∧
      (after .empty (Sample.resetCalls ++ [.change (.replace Sample.maps [])])).hasSynced
        Sample.maps = true := by
  have ⟨tracked, _, _, _, get, _⟩ := readability_by_history Sample.resetCalls Sample.maps
  have ⟨_, synced, _⟩ := readability_by_history
    (Sample.resetCalls ++ [.change (.replace Sample.maps [])]) Sample.maps
  constructor
  case left =>
    refine (get Unstructured _ (Sample.entry none "0") rfl).notSynced.mpr ⟨tracked.mpr ?_, ?_⟩
    case refine_1 => exact ⟨.reset Sample.maps, by decide +kernel, .reset⟩
    case refine_2 => decide +kernel
  case right =>
    rw [synced, changes_concat]
    exact .replaced (by simp)

end ReadYourWrites
