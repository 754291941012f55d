import Mathlib.Data.List.Forall2

-- Walks through lists in which a step can fail. A walk ends with the fault of its first step that
-- fails, and with the results of all its steps if none does.

namespace ReadYourWrites

instance decidableEqExcept {ε α : Type} [DecidableEq ε] [DecidableEq α] : DecidableEq (Except ε α)
  | .ok a, .ok b => decidable_of_iff (a = b) (by simp)
  | .error d, .error e => decidable_of_iff (d = e) (by simp)
  | .ok _, .error _ => isFalse nofun
  | .error _, .ok _ => isFalse nofun

variable {ε α β γ : Type} {f : α → Except ε β}

-- Of two steps that come to an end the first does, and so does the second one from there.
theorem exists_of_bind {x : Except ε α} {b : β} (h : x.bind f = .ok b) :
    ∃ a, x = .ok a ∧ f a = .ok b := by
  cases x
  case error => cases h
  case ok a => exact ⟨a, rfl, h⟩

theorem eq_ok_of_toOption {x : Except ε α} {a : α} (h : x.toOption = some a) : x = .ok a := by
  cases x
  case error => cases h
  case ok => exact congrArg Except.ok (Option.some.inj h)

-- A fault in a walk through a list is the fault of one of its members.
theorem mapM_eq_error {e : ε} {as : List α} (h : as.mapM f = .error e) : ∃ a ∈ as, f a = .error e := by
  induction as with
  | nil => cases h
  | cons a as ih =>
    rw [List.mapM_cons] at h
    cases ha : f a
    case error d =>
      rw [ha] at h
      cases h
      exact ⟨a, List.mem_cons_self, ha⟩
    case ok b =>
      cases hr : as.mapM f
      case error d =>
        rw [ha, hr] at h
        cases h
        have ⟨c, hc, hf⟩ := ih hr
        exact ⟨c, List.mem_cons_of_mem _ hc, hf⟩
      case ok bs =>
        rw [ha, hr] at h
        cases h

theorem mapM_eq_ok_iff {as : List α} {bs : List β} :
    as.mapM f = .ok bs ↔ List.Forall₂ (fun a b => f a = .ok b) as bs := by
  induction as generalizing bs with
  | nil => cases bs <;> simp [pure, Except.pure]
  | cons a as ih =>
    rw [List.mapM_cons]
    cases ha : f a
    case error e => cases bs <;> simp [bind, Except.bind, ha]
    case ok b =>
      cases hr : as.mapM f
      case error e => cases bs <;> simp [bind, Except.bind, ← ih, hr]
      case ok rest => cases bs <;> simp [bind, Except.bind, pure, Except.pure, ← ih, hr, ha]

theorem exists_of_forall₂ {R : α → β → Prop} {as : List α} {bs : List β} {a : α}
    (h : List.Forall₂ R as bs) (ha : a ∈ as) : ∃ b ∈ bs, R a b := by
  induction h with
  | nil => cases ha
  | @cons c b _ _ hr _ ih =>
    cases ha with
    | head => exact ⟨b, List.mem_cons_self, hr⟩
    | tail _ ht =>
      have ⟨d, hd, hs⟩ := ih ht
      exact ⟨d, List.mem_cons_of_mem _ hd, hs⟩

theorem exists_forall₂_iff {R : α → β → Prop} {as : List α} :
    (∃ bs, List.Forall₂ R as bs) ↔ ∀ a ∈ as, ∃ b, R a b := by
  constructor
  case mp =>
    rintro ⟨bs, h⟩ a ha
    have ⟨b, _, hr⟩ := exists_of_forall₂ h ha
    exact ⟨b, hr⟩
  case mpr =>
    intro h
    induction as with
    | nil => exact ⟨[], .nil⟩
    | cons a as ih =>
      rw [List.forall_mem_cons] at h
      have ⟨b, hr⟩ := h.left
      have ⟨bs, hs⟩ := ih h.right
      exact ⟨b :: bs, .cons hr hs⟩

-- A walk fails just if one of its steps does.
theorem mapM_fails_iff {as : List α} :
    (∃ e, as.mapM f = .error e) ↔ ∃ a ∈ as, ∃ e, f a = .error e := by
  constructor
  case mp =>
    rintro ⟨e, h⟩
    have ⟨a, ha, hf⟩ := mapM_eq_error h
    exact ⟨a, ha, e, hf⟩
  case mpr =>
    rintro ⟨a, ha, e, hf⟩
    cases hw : as.mapM f
    case error d => exact ⟨d, rfl⟩
    case ok bs =>
      have ⟨b, _, hb⟩ := exists_of_forall₂ (mapM_eq_ok_iff.mp hw) ha
      cases hf.symm.trans hb

-- Two walks that take the same steps are one.
theorem mapM_map_congr {g : γ → Except ε β} {δ : Type} {ds : List δ} {l : δ → α} {r : δ → γ}
    (h : ∀ d ∈ ds, f (l d) = g (r d)) : (ds.map l).mapM f = (ds.map r).mapM g := by
  induction ds with
  | nil => rfl
  | cons d ds ih =>
    have hd := h d List.mem_cons_self
    have hs := ih fun c hc => h c (List.mem_cons_of_mem _ hc)
    simp only [List.map_cons, List.mapM_cons, hd, hs]

-- Each result of a walk is the result of one of its steps.
theorem exists_of_mapM {step : α → Option β} {as : List α} {bs : List β} {b : β}
    (h : as.mapM step = some bs) (hb : b ∈ bs) : ∃ a ∈ as, step a = some b := by
  induction as generalizing bs with
  | nil =>
    cases h
    cases hb
  | cons a as ih =>
    rw [List.mapM_cons] at h
    obtain ⟨first, ha, h⟩ := Option.bind_eq_some_iff.mp h
    obtain ⟨rest, hr, h⟩ := Option.bind_eq_some_iff.mp h
    obtain rfl := Option.some.inj h
    cases hb with
    | head => exact ⟨a, List.mem_cons_self, ha⟩
    | tail _ ht =>
      have ⟨c, hc, hs⟩ := ih hr ht
      exact ⟨c, List.mem_cons_of_mem _ hc, hs⟩

-- A walk whose steps undo what has been done to each member ends with what was there before.
theorem mapM_map_eq_some {read : α → Option β} {write : β → α} {bs : List β}
    (h : ∀ b ∈ bs, read (write b) = some b) : (bs.map write).mapM read = some bs := by
  induction bs with
  | nil => rfl
  | cons b bs ih =>
    rw [List.forall_mem_cons] at h
    rw [List.map_cons, List.mapM_cons, h.left, ih h.right]
    rfl

end ReadYourWrites
