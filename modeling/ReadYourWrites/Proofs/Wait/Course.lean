import ReadYourWrites.Proofs.Object.Typed
import ReadYourWrites.Proofs.Wait.Rounds

-- The course of a wait from its beginning: there is nothing to wait for, or the wait cannot begin,
-- or it goes through its rounds.

namespace ReadYourWrites

theorem Receipt.ofMetadata_eq {m : Metadata} {key : Key} (h : m.key? = some key) :
    Receipt.ofMetadata m = .ok (m.receipt key) := by
  simp only [ofMetadata, h, Metadata.receipt]

theorem Receipt.key_eq {K : Type} [Object K] {object : K} {receipt : Receipt}
    (h : Receipt.ofMetadata (Object.metadata object) = .ok receipt) :
    Object.key object = .ok receipt.key := by
  rw [ofMetadata] at h
  split at h
  case h_1 key hk =>
    cases h
    rw [Object.key, hk]
  case h_2 => cases h

namespace Wait

variable {K : Type} [Object K]

-- The ways in which a wait goes.
inductive Course (cache : Cache) (scheme : Scheme) (config : Config) (token : Token) (goal : Goal)
    (object : K) (w : World) : Except Error Unit × World → Prop
  | skipped : subject scheme object = .ok none →
      Course cache scheme config token goal object w (.ok (), w)
  | unidentified {e} : subject scheme object = .error e →
      Course cache scheme config token goal object w (.error e, w)
  | cancelled {kind receipt template} :
      subject scheme object = .ok (some (kind, receipt, template)) → token.isCancelled w = true →
      Course cache scheme config token goal object w (.error .cancelled, w)
  | unreadable {kind receipt template} :
      subject scheme object = .ok (some (kind, receipt, template)) →
      token.isCancelled w = false → Object.read (K := K) template = none →
      Course cache scheme config token goal object w (.error .unreadable, w)
  | polled {kind receipt template} {scratch : K} {n e} :
      subject scheme object = .ok (some (kind, receipt, template)) →
      token.isCancelled w = false → Object.read template = some scratch →
      (∀ i < n, Passes cache token (plan config goal kind receipt scratch w.now) w i) →
      Ends cache token (plan config goal kind receipt scratch w.now) w n e →
      Course cache scheme config token goal object w e

theorem run_course (cache : Cache) (scheme : Scheme) (config : Config) (token : Token) (goal : Goal)
    (object : K) (w : World) :
    Course cache scheme config token goal object w
      (run cache scheme config token goal object w) := by
  rw [run]
  cases hs : subject scheme object
  case error e => exact .unidentified hs
  case ok s =>
    cases s
    case none => exact .skipped hs
    case some s =>
      have ⟨kind, receipt, template⟩ := s
      simp only
      split
      case isTrue hc => exact .cancelled hs hc
      case isFalse hc =>
        replace hc := Bool.eq_false_iff.mpr hc
        rw [Object.decode]
        cases hr : Object.read (K := K) template
        case none => exact .unreadable hs hc hr
        case some scratch =>
          have hl : w.now ≤ (plan config goal kind receipt scratch w.now).deadline :=
            Nat.le_add_right ..
          have ⟨n, hp, he⟩ := poll_ends cache token hl
          exact .polled hs hc hr hp he

variable {scheme : Scheme} {object : K}

-- An object that cannot be waited for lacks its name or its kind.
theorem subject_eq_error {e : Error} (h : subject scheme object = .error e) :
    (e = .missingName ∧ (Object.metadata object).key? = none) ∨
      (e = .missingKind ∧ Object.writtenKind? (Object.write object) = none) := by
  simp only [subject] at h
  split at h
  case isTrue => cases h
  case isFalse =>
    cases hk : (Object.metadata object).key?
    case none =>
      simp only [Receipt.ofMetadata, hk] at h
      cases h
      exact .inl ⟨rfl, rfl⟩
    case some key =>
      cases hn : Object.writtenKind? (Object.write object)
      case none =>
        simp only [Receipt.ofMetadata, hk, Object.kind, hn] at h
        cases h
        exact .inr ⟨rfl, rfl⟩
      case some kind =>
        simp only [Receipt.ofMetadata, hk, Object.kind, hn] at h
        cases h

-- What there is to wait for is the written object itself, under a kind that the scheme knows.
theorem subject_eq_some {kind : Kind} {receipt : Receipt} {template : Json}
    (h : subject scheme object = .ok (some (kind, receipt, template))) :
    Receipt.ofMetadata (Object.metadata object) = .ok receipt ∧ Object.kind object = .ok kind ∧
      scheme.template kind = .ok template := by
  simp only [subject] at h
  split at h
  case isTrue => cases h
  case isFalse =>
    cases hr : Receipt.ofMetadata (Object.metadata object)
    case error => simp [hr, bind, Except.bind] at h
    case ok r =>
      cases hk : Object.kind object
      case error => simp [hr, hk, bind, Except.bind] at h
      case ok k =>
        simp [hr, hk, bind, Except.bind, pure, Except.pure] at h
        have ⟨registration, hg, hx, hy, hz⟩ := h
        subst hx hy hz
        simp [Scheme.template, hg]

-- There is nothing to wait for if the object is unstructured.
theorem subject_of_unstructured (scheme : Scheme) (object : K)
    (h : Object.isUnstructured K = true) : subject scheme object = .ok none := by
  rw [subject, if_pos h]

-- Any other object has something to wait for as soon as it has a kind that the scheme knows, and a
-- name.
theorem subject_of_structured {kind : Kind} {key : Key} (scheme : Scheme)
    (structured : Object.isUnstructured K = false) (hn : Object.kind object = .ok kind)
    (hk : (Object.metadata object).key? = some key) :
    subject scheme object = .ok ((scheme.get? kind).map fun registration =>
      (kind, (Object.metadata object).receipt key, registration.template)) := by
  simp only [subject, structured, hn, Receipt.ofMetadata_eq hk]
  rfl

theorem subject_eq [Typed K] {key : Key} (scheme : Scheme)
    (h : (Object.metadata object).key? = some key) :
    subject scheme object = .ok ((scheme.get? (Typed.kind K)).map fun registration =>
      (Typed.kind K, (Object.metadata object).receipt key, registration.template)) :=
  subject_of_structured scheme Typed.not_unstructured (Typed.kind_eq object) h

theorem subject_of_nameless [Typed K] (scheme : Scheme) (h : (Object.metadata object).key? = none) :
    subject scheme object = .error .missingName := by
  simp [subject, Typed.not_unstructured, Receipt.ofMetadata, h, bind, Except.bind]

-- A wait for an object of a typed kind that has no name never succeeds.
theorem Course.named [Typed K] {cache : Cache} {config : Config} {token : Token} {goal : Goal}
    {w after : World} (h : Course cache scheme config token goal object w (.ok (), after)) :
    ∃ key, (Object.metadata object).key? = some key := by
  cases hk : (Object.metadata object).key?
  case some key => exact ⟨key, rfl⟩
  case none =>
    have hs := subject_of_nameless scheme hk
    generalize he : ((.ok (), after) : Except Error Unit × World) = e at h
    cases h with
    | skipped hn => cases hs.symm.trans hn
    | unidentified hn => cases he
    | cancelled hn _ => cases hs.symm.trans hn
    | unreadable hn _ _ => cases hs.symm.trans hn
    | polled hn _ _ _ _ => cases hs.symm.trans hn

namespace Course

variable {cache : Cache} {config : Config} {token : Token} {goal : Goal} {w : World}
  {e : Except Error Unit × World}

-- A wait for nothing is over at once, be it cancelled or not.
theorem of_none (h : Course cache scheme config token goal object w e)
    (hs : subject scheme object = .ok none) : e = (.ok (), w) := by
  cases h with
  | skipped => rfl
  | unidentified hn => cases hs.symm.trans hn
  | cancelled hn _ => cases hs.symm.trans hn
  | unreadable hn _ _ => cases hs.symm.trans hn
  | polled hn _ _ _ _ => cases hs.symm.trans hn

-- So is one that cannot tell what it is for.
theorem of_error {fault : Error} (h : Course cache scheme config token goal object w e)
    (hs : subject scheme object = .error fault) : e = (.error fault, w) := by
  cases h with
  | skipped hn => cases hs.symm.trans hn
  | unidentified hn =>
    cases hs.symm.trans hn
    rfl
  | cancelled hn _ => cases hs.symm.trans hn
  | unreadable hn _ _ => cases hs.symm.trans hn
  | polled hn _ _ _ _ => cases hs.symm.trans hn

-- A wait for something goes through its rounds, unless it is cancelled before or lacks a scratch
-- object.
theorem of_some {kind : Kind} {receipt : Receipt} {template : Json}
    (h : Course cache scheme config token goal object w e)
    (hs : subject scheme object = .ok (some (kind, receipt, template))) :
    (token.isCancelled w = true ∧ e = (.error .cancelled, w)) ∨
      token.isCancelled w = false ∧
        ((Object.read (K := K) template = none ∧ e = (.error .unreadable, w)) ∨
          ∃ (scratch : K) (n : Nat), Object.read template = some scratch ∧
            (∀ i < n, Passes cache token (plan config goal kind receipt scratch w.now) w i) ∧
            Ends cache token (plan config goal kind receipt scratch w.now) w n e) := by
  cases h with
  | skipped hn => cases hs.symm.trans hn
  | unidentified hn => cases hs.symm.trans hn
  | cancelled _ hc => exact .inl ⟨hc, rfl⟩
  | unreadable hn hc ht =>
    cases hs.symm.trans hn
    exact .inr ⟨hc, .inl ⟨ht, rfl⟩⟩
  | polled hn hc ht hp he =>
    cases hs.symm.trans hn
    exact .inr ⟨hc, .inr ⟨_, _, ht, hp, he⟩⟩

-- The same for a named object of a registered type.
theorem of_typed [Typed K] {key : Key} {registration : Registration}
    (h : Course cache scheme config token goal object w e)
    (hk : (Object.metadata object).key? = some key)
    (hr : scheme.get? (Typed.kind K) = some registration) :
    (token.isCancelled w = true ∧ e = (.error .cancelled, w)) ∨
      (Object.read (K := K) registration.template = none ∧ e = (.error .unreadable, w)) ∨
      ∃ (scratch : K) (n : Nat), Object.read registration.template = some scratch ∧
        (∀ i < n, Passes cache token (plan config goal (Typed.kind K)
          ((Object.metadata object).receipt key) scratch w.now) w i) ∧
        Ends cache token (plan config goal (Typed.kind K)
          ((Object.metadata object).receipt key) scratch w.now) w n e := by
  have hs := subject_eq scheme hk
  rw [hr, Option.map_some] at hs
  obtain hc | ⟨_, hp⟩ := h.of_some hs
  case inl => exact .inl hc
  case inr => exact .inr hp

end Course

end Wait

end ReadYourWrites
