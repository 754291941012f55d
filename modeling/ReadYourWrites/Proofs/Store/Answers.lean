import ReadYourWrites.Proofs.Walk
import ReadYourWrites.Store

-- What a store answers to reads. A read looks first whether the kind is tracked and listed, and then
-- into the objects of the kind. So its answer tells how it stands with the kind.

namespace ReadYourWrites

theorem Object.decode_eq_error {K : Type} [Object K] {json : Json} {e : Error}
    (h : decode K json = .error e) : e = .unreadable := by
  rw [decode] at h
  split at h
  case h_1 => cases h
  case h_2 => cases h; rfl

theorem Object.decode_eq_ok_iff {K : Type} [Object K] {json : Json} {object : K} :
    decode K json = .ok object ↔ read json = some object := by
  rw [decode]
  cases hr : (read json : Option K) <;> simp

namespace Store

variable {store : Store} {kind : Kind}

theorem get?_of_untracked (h : store.isTracked kind = false) : store.kinds.get? kind = none := by
  simpa [isTracked, Table.contains] using h

theorem hasSynced_of_untracked (h : store.isTracked kind = false) :
    store.hasSynced kind = false := by
  simp [hasSynced, get?_of_untracked h]

theorem readable_of_untracked (h : store.isTracked kind = false) :
    store.readable kind = .error (.notRegistered kind) := by
  simp [readable, get?_of_untracked h]

theorem readable_of_unsynced (ht : store.isTracked kind = true)
    (hs : store.hasSynced kind = false) : store.readable kind = .error (.notSynced kind) := by
  have ⟨c, hc⟩ := Option.isSome_iff_exists.mp ht
  replace hc : store.kinds.get? kind = some c := hc
  have hl : c.synced = false := by simpa [hasSynced, hc] using hs
  simp [readable, hc, hl]

theorem readable_of_synced (h : store.hasSynced kind = true) :
    ∃ objects, store.readable kind = .ok objects := by
  have ⟨c, hc, hs⟩ := (Option.any_eq_true ..).mp h
  exact ⟨c.objects, by simp [readable, hc, hs]⟩

theorem isTracked_of_synced (h : store.hasSynced kind = true) : store.isTracked kind = true := by
  cases ht : store.isTracked kind
  case true => rfl
  case false => rw [hasSynced_of_untracked ht] at h; cases h

theorem selector_error {options : ListOptions} {e : Error} (h : selector options = .error e) :
    ∃ text, e = .invalidSelector text := by
  simp only [selector] at h
  split at h
  case isTrue => cases h; exact ⟨_, rfl⟩
  case isFalse =>
    split at h
    case h_1 => cases h
    case h_2 =>
      split at h
      case h_1 => cases h
      case h_2 => cases h; exact ⟨_, rfl⟩

theorem select_of_rejected {scope : Option String} {options : ListOptions} {e : Error}
    (h : selector options = .error e) : store.select kind scope options = .error e := by
  rw [select, h]
  rfl

theorem select_of_unreadable {scope : Option String} {options : ListOptions} {s : Selector}
    {e : Error} (hs : selector options = .ok s) (hr : store.readable kind = .error e) :
    store.select kind scope options = .error e := by
  rw [select, hs, hr]
  rfl

variable {K : Type} [Object K]

-- What a read of one object answers once the objects of its kind can be read.
def lookUp (K : Type) [Object K] (kind : Kind) (key : Key) (objects : Table Key Json) :
    Except Error K :=
  match objects.get? key with
  | some value => Object.decode K value
  | none => .error (.notFound kind.name key)

theorem get_eq {held : K} (hk : Object.writtenKind? (Object.write held) = some kind) (key : Key) :
    store.get key held = (store.readable kind).bind (lookUp K kind key) := by
  simp only [get, find, hk]
  cases store.readable kind
  case error => rfl
  case ok objects => cases ho : objects.get? key <;> simp [bind, Except.bind, lookUp, ho] <;> rfl

-- A listing whose selectors are accepted.
theorem list_eq {scope : Option String} {options : ListOptions} {s : Selector}
    (hs : selector options = .ok s) :
    store.list K kind scope options = (store.readable kind).bind fun objects =>
      ((objects.entries.filter (admits scope s)).map Prod.snd).mapM (Object.decode K) := by
  simp only [list, select, hs]
  cases store.readable kind <;> rfl

theorem list_of_rejected {scope : Option String} {options : ListOptions} {e : Error}
    (hs : selector options = .error e) : store.list K kind scope options = .error e := by
  simp only [list, select, hs]
  rfl

-- Whether an answer to a read says that the kind is not tracked, or not listed, just if it is not.
structure Tells (store : Store) (kind : Kind) {α : Type} (answer : Except Error α) : Prop where
  notRegistered : answer = .error (.notRegistered kind) ↔ store.isTracked kind = false
  notSynced : answer = .error (.notSynced kind) ↔
    store.isTracked kind = true ∧ store.hasSynced kind = false
  neither : store.hasSynced kind = true → ∀ e, answer = .error e →
    e.isNotRegistered = false ∧ e.isNotSynced = false

-- A read that asks first whether the kind can be read, and has other faults after that.
theorem Tells.of_readable {α : Type} {f : Table Key Json → Except Error α}
    (h : ∀ objects e, f objects = .error e → e.isNotRegistered = false ∧ e.isNotSynced = false) :
    store.Tells kind ((store.readable kind).bind f) := by
  cases ht : store.isTracked kind
  case false =>
    rw [readable_of_untracked ht]
    exact ⟨by simp [Except.bind, ht], by simp [Except.bind, ht], by simp [hasSynced_of_untracked ht]⟩
  case true =>
    cases hs : store.hasSynced kind
    case false =>
      rw [readable_of_unsynced ht hs]
      exact ⟨by simp [Except.bind, ht], by simp [Except.bind, ht, hs], by simp [hs]⟩
    case true =>
      have ⟨objects, ho⟩ := readable_of_synced hs
      rw [ho]
      refine ⟨⟨fun he => ?_, by simp [ht]⟩, ⟨fun he => ?_, by simp [hs]⟩, fun _ => h objects⟩
      case refine_1 => cases (h _ _ he).left
      case refine_2 => cases (h _ _ he).right

theorem tells_get {held : K} (hk : Object.writtenKind? (Object.write held) = some kind) (key : Key) :
    store.Tells kind (store.get key held) := by
  rw [get_eq hk]
  refine .of_readable fun objects e h => ?_
  rw [lookUp] at h
  split at h
  case h_1 => cases Object.decode_eq_error h; exact ⟨rfl, rfl⟩
  case h_2 => cases h; exact ⟨rfl, rfl⟩

theorem tells_list {scope : Option String} {options : ListOptions} {s : Selector}
    (hs : selector options = .ok s) : store.Tells kind (store.list K kind scope options) := by
  rw [list_eq hs]
  refine .of_readable fun objects e h => ?_
  have ⟨_, _, ho⟩ := mapM_eq_error h
  cases Object.decode_eq_error ho
  exact ⟨rfl, rfl⟩

end Store

end ReadYourWrites
