import ReadYourWrites.Proofs.Object.Typed
import ReadYourWrites.Proofs.Store.Answers

-- Reads of objects of a type with one kind. What a store answers depends on the key only, and it
-- tells whether the kind is tracked and listed.

namespace ReadYourWrites

namespace Store

-- What a store answers to a read of an object of the given type.
def answer (K : Type) [Object K] [Typed K] (store : Store) (key : Key) : Except Error K := do
  match (← store.readable (Typed.kind K)).get? key with
  | some value => Object.decode K value
  | none => .error (.notFound (Typed.kind K).name key)

variable {K : Type} [Object K] [Typed K] {store : Store} {key : Key}

theorem find_bind_decode (store : Store) (held : K) (key : Key) :
    (store.find (Object.write held) key).bind (Object.decode K) = store.answer K key := by
  simp only [find, answer, Typed.writtenKind? held]
  cases store.readable (Typed.kind K)
  case error => rfl
  case ok objects => cases ho : objects.get? key <;> simp [bind, Except.bind, ho] <;> rfl

theorem get_eq_answer (store : Store) (key : Key) (held : K) :
    store.get key held = store.answer K key :=
  find_bind_decode store held key

theorem answer_of_untracked (h : store.isTracked (Typed.kind K) = false) :
    store.answer K key = .error (.notRegistered (Typed.kind K)) := by
  rw [answer, readable_of_untracked h]
  rfl

theorem answer_of_unsynced (ht : store.isTracked (Typed.kind K) = true)
    (hs : store.hasSynced (Typed.kind K) = false) :
    store.answer K key = .error (.notSynced (Typed.kind K)) := by
  rw [answer, readable_of_unsynced ht hs]
  rfl

-- A store that has listed the kind fails to read an object only if it is missing or malformed.
theorem answer_of_synced (key : Key) (h : store.hasSynced (Typed.kind K) = true) :
    (∃ object, store.answer K key = .ok object) ∨
      store.answer K key = .error (.notFound (Typed.kind K).name key) ∨
      store.answer K key = .error .unreadable := by
  have ⟨objects, hr⟩ := readable_of_synced h
  cases ho : objects.get? key
  case none => simp [answer, hr, ho, bind, Except.bind]
  case some value =>
    cases hd : Object.read (K := K) value <;>
      simp [answer, hr, ho, Object.decode, hd, bind, Except.bind]

-- Whether a read of the key finds the given object, or nothing if there is none.
def Shows (store : Store) (key : Key) (state : Option K) : Prop :=
  ∃ objects, store.readable (Typed.kind K) = .ok objects ∧
    (objects.get? key).map Object.read = state.map some

-- What a store answers that shows the given state.
def showing (key : Key) : Option K → Except Error K
  | some object => .ok object
  | none => .error (.notFound (Typed.kind K).name key)

theorem Shows.answer_eq {state : Option K} (h : store.Shows key state) :
    store.answer K key = showing key state := by
  have ⟨objects, ho, hs⟩ := h
  cases state
  case none =>
    have : objects.get? key = none := by simpa using hs
    simp [answer, ho, this, bind, Except.bind, showing]
  case some object =>
    obtain ⟨value, hv, hr⟩ : ∃ value, objects.get? key = some value ∧ Object.read value = some object :=
      Option.map_eq_some_iff.mp hs
    simp [answer, ho, hv, Object.decode, hr, bind, Except.bind, showing]

end Store

end ReadYourWrites
