import ReadYourWrites.Goal
import ReadYourWrites.Proofs.Walk

-- What one answer of the cache means for a wait: it leaves the wait open, or it decides it. The
-- open answers are listed one by one, and `judge` is shown to let the wait go on for just these.

namespace ReadYourWrites

theorem Error.isNotSynced_excludes {e : Error} (h : e.isNotSynced = true) :
    e.isNotFound = false ∧ e.isNotRegistered = false := by
  cases e <;> simp [isNotSynced, isNotFound, isNotRegistered] at h ⊢

-- The receipt of an object that has the given key.
def Metadata.receipt (m : Metadata) (key : Key) : Receipt :=
  ⟨m.uid, m.resourceVersion, key⟩

namespace Receipt

-- Whether the metadata belongs to the written object. A missing uid counts as the empty one.
def Matches (receipt : Receipt) (m : Metadata) : Prop :=
  receipt.uid.getD "" = m.uid.getD ""

theorem Matches.of_uid {receipt : Receipt} {m : Metadata} (h : receipt.uid = m.uid) :
    receipt.Matches m := by
  rw [Matches, h]

theorem isOther_eq_false_iff {receipt : Receipt} {m : Metadata} :
    receipt.isOther m = false ↔ receipt.Matches m := by
  simp [isOther, Matches]

end Receipt

namespace Goal

-- The answers that leave a wait open.
inductive Open (goal : Goal) (receipt : Receipt) : Except Error Metadata → Prop
  | notSynced {e} : e.isNotSynced = true → Open goal receipt (.error e)
  | absent {e} : goal = .present → e.isNotFound = true → Open goal receipt (.error e)
  | outdated {m written} : goal = .updatedOrGone → receipt.Matches m →
      receipt.resourceVersion = some written →
      (∀ observed, m.resourceVersion = some observed → Version.compare observed written = .lt) →
      Open goal receipt (.ok m)
  | unmarked {m} : goal = .markedOrGone → receipt.Matches m → m.deletionTimestamp = none →
      Open goal receipt (.ok m)

-- What a wait ends with when the answer decides it.
def verdict : Except Error Metadata → Except Error Unit
  | .ok _ => .ok ()
  | .error e => if e.isNotFound || e.isNotRegistered then .ok () else .error e

variable {goal : Goal} {receipt : Receipt} {answer : Except Error Metadata}

theorem hasReached_eq_false_iff {observed written : Option String} :
    hasReached observed written = false ↔ ∃ v, written = some v ∧
      ∀ u, observed = some u → Version.compare u v = .lt := by
  cases written <;> cases observed <;> simp [hasReached]

-- Of the written object a wait for an update looks at nothing but the version.
theorem isMetBy_of_matches {m : Metadata} (same : receipt.Matches m) :
    Goal.updatedOrGone.isMetBy receipt m = hasReached m.resourceVersion receipt.resourceVersion := by
  rw [isMetBy, Receipt.isOther_eq_false_iff.mpr same, Bool.false_or]

theorem isMetBy_eq_false_iff {m : Metadata} :
    goal.isMetBy receipt m = false ↔ Open goal receipt (.ok m) := by
  constructor
  case mp =>
    intro h
    cases goal <;> simp only [isMetBy, Bool.or_eq_false_iff, reduceCtorEq] at h
    case updatedOrGone =>
      have ⟨written, hw, hm⟩ := hasReached_eq_false_iff.mp h.right
      exact .outdated rfl (Receipt.isOther_eq_false_iff.mp h.left) hw hm
    case markedOrGone =>
      exact .unmarked rfl (Receipt.isOther_eq_false_iff.mp h.left) (by simpa using h.right)
  case mpr =>
    intro h
    cases h with
    | outdated hg hu hw hm =>
      have := hasReached_eq_false_iff.mpr ⟨_, hw, hm⟩
      simp [hg, isMetBy, Receipt.isOther_eq_false_iff.mpr hu, this]
    | unmarked hg hu hm =>
      simp [hg, isMetBy, Receipt.isOther_eq_false_iff.mpr hu, hm]

theorem judge_eq_ok_false_iff : goal.judge receipt answer = .ok false ↔ Open goal receipt answer := by
  cases answer
  case ok m => simp [judge, isMetBy_eq_false_iff]
  case error e =>
    constructor
    case mp =>
      intro h
      simp only [judge] at h
      split at h
      case isTrue hf => exact .absent (by simpa using h) hf
      case isFalse =>
        split at h
        case isTrue => simp at h
        case isFalse =>
          split at h
          case isTrue hs => exact .notSynced hs
          case isFalse => simp at h
    case mpr =>
      intro h
      cases h with
      | notSynced hs => simp [judge, hs, Error.isNotSynced_excludes hs]
      | absent hg hf => simp [judge, hg, hf]

instance : Decidable (Open goal receipt answer) :=
  decidable_of_iff _ judge_eq_ok_false_iff

-- An answer that does not leave the wait open decides it.
theorem judge_eq_verdict (h : ¬Open goal receipt answer) :
    goal.judge receipt answer = (verdict answer).map fun _ => true := by
  cases answer
  case ok m =>
    have : goal.isMetBy receipt m = true := by
      simpa using mt isMetBy_eq_false_iff.mp h
    simp [judge, verdict, this, Except.map]
  case error e =>
    by_cases hf : e.isNotFound = true
    case pos =>
      have : goal ≠ .present := fun hg => h (.absent hg hf)
      simp [judge, verdict, hf, this, Except.map]
    case neg =>
      have hs : ¬e.isNotSynced = true := mt .notSynced h
      cases hr : e.isNotRegistered <;> simp [judge, verdict, hf, hs, hr, Except.map]

end Goal

end ReadYourWrites
