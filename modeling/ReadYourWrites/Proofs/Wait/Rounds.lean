import ReadYourWrites.Proofs.Wait.Goal
import ReadYourWrites.Wait

-- A wait as a sequence of rounds. Each round reads the cache once. It passes, and a pause later the
-- next round begins, or it ends the wait. Which of the two it does, and how a wait ends, is said
-- here without the loop. `poll_ends` shows that the loop does just that.

namespace ReadYourWrites

namespace World

-- The world after one more read of the cache.
def counted (w : World) : World :=
  { w with reads := w.reads + 1 }

-- The same world at another time.
def atTime (w : World) (time : Nat) : World :=
  { w with now := time }

@[simp]
theorem counted_now (w : World) : w.counted.now = w.now :=
  rfl

@[simp]
theorem counted_arrivals (w : World) : w.counted.arrivals = w.arrivals :=
  rfl

@[simp]
theorem counted_requests (w : World) : w.counted.requests = w.requests :=
  rfl

@[simp]
theorem counted_reads (w : World) : w.counted.reads = w.reads + 1 :=
  rfl

@[simp]
theorem atTime_now (w : World) (time : Nat) : (w.atTime time).now = time :=
  rfl

@[simp]
theorem atTime_arrivals (w : World) (time : Nat) : (w.atTime time).arrivals = w.arrivals :=
  rfl

@[simp]
theorem atTime_requests (w : World) (time : Nat) : (w.atTime time).requests = w.requests :=
  rfl

@[simp]
theorem atTime_reads (w : World) (time : Nat) : (w.atTime time).reads = w.reads :=
  rfl

@[simp]
theorem counted_atTime_now (w : World) : w.counted.atTime w.now = w.counted :=
  rfl

end World

namespace Token

-- The moment at which a call that waits until `limit` is cancelled, if it is.
def stop? (token : Token) (w : World) (limit : Nat) : Option Nat :=
  if token.isCancelled w then some w.now else token.strikesBy limit

variable {token : Token} {w : World} {limit : Nat}

theorem strikesBy_eq_some {time : Nat} (h : token.strikesBy limit = some time) :
    token = .atTime time ∧ time ≤ limit := by
  cases token
  case atTime =>
    simp only [strikesBy, strikesBefore] at h
    split at h
    case isTrue hl =>
      cases h
      exact ⟨rfl, by omega⟩
    case isFalse => cases h
  all_goals cases h

-- Cancellation is not taken back as time goes on.
theorem isCancelled_mono (h : token.isCancelled w = true) {t : Nat} (ht : w.now ≤ t) :
    token.isCancelled (w.atTime t) = true := by
  cases token
  case atTime => exact decide_eq_true (Nat.le_trans (of_decide_eq_true h) ht)
  all_goals exact h

theorem stop?_eq_some {time : Nat} (h : token.stop? w limit = some time) (hl : w.now ≤ limit) :
    w.now ≤ time ∧ time ≤ limit ∧
      ∀ t, w.now ≤ t → token.isCancelled (w.atTime t) = decide (time ≤ t) := by
  rw [stop?] at h
  split at h
  case isTrue hc =>
    cases h
    refine ⟨Nat.le_refl _, hl, ?_⟩
    intro t ht
    simp [isCancelled_mono hc ht, ht]
  case isFalse hc =>
    have ⟨he, ht⟩ := strikesBy_eq_some h
    subst he
    simp only [isCancelled, decide_eq_true_eq] at hc
    exact ⟨by omega, ht, fun _ _ => rfl⟩

theorem stop?_eq_none (h : token.stop? w limit = none) {t : Nat} (ht : t ≤ limit) :
    token.isCancelled (w.atTime t) = false := by
  rw [stop?] at h
  split at h
  case isTrue => cases h
  case isFalse hc =>
    cases token
    case atTime time =>
      have : ¬time < limit + 1 := by simpa [strikesBy, strikesBefore] using h
      exact decide_eq_false (show ¬time ≤ t by omega)
    all_goals exact Bool.eq_false_iff.mpr hc

end Token

namespace Wait

variable {K : Type} [Object K]

-- The world in which a round begins. Rounds count from zero.
def round (plan : Plan K) (w : World) (n : Nat) : World :=
  { w with now := w.now + n * plan.pause, reads := w.reads + n }

-- What a round gets to see.
def answer (cache : Cache) (plan : Plan K) (w : World) (n : Nat) : Except Error Metadata :=
  (cache.get plan.scratch plan.receipt.key (round plan w n)).1.map Object.metadata

-- A round that is followed by another one.
structure Passes (cache : Cache) (token : Token) (plan : Plan K) (w : World) (n : Nat) : Prop where
  unmet : plan.goal.Open plan.receipt (answer cache plan w n)
  inTime : (round plan w (n + 1)).now ≤ plan.deadline
  calm : token.isCancelled (round plan w (n + 1)) = false

-- The ways in which a round ends the wait: with its answer, by the time running out before the
-- next round, or by cancellation before the next round and the end of the time.
inductive Ends (cache : Cache) (token : Token) (plan : Plan K) (w : World) (n : Nat) :
    Except Error Unit × World → Prop
  | decided : ¬plan.goal.Open plan.receipt (answer cache plan w n) →
      Ends cache token plan w n (Goal.verdict (answer cache plan w n), (round plan w n).counted)
  | late : plan.goal.Open plan.receipt (answer cache plan w n) →
      plan.deadline < (round plan w (n + 1)).now →
      (∀ t, (round plan w n).now < plan.deadline → t ≤ plan.deadline →
        token.isCancelled ((round plan w n).counted.atTime t) = false) →
      Ends cache token plan w n (.error plan.late, (round plan w n).counted.atTime plan.deadline)
  | cancelled {time} : plan.goal.Open plan.receipt (answer cache plan w n) →
      (round plan w n).now < plan.deadline → (round plan w n).now ≤ time →
      time ≤ plan.deadline → time ≤ (round plan w (n + 1)).now →
      (∀ t, (round plan w n).now ≤ t →
        token.isCancelled ((round plan w n).counted.atTime t) = decide (time ≤ t)) →
      Ends cache token plan w n (.error .cancelled, (round plan w n).counted.atTime time)

section

omit [Object K]

variable {plan : Plan K} {w : World}

@[simp]
theorem round_zero : round plan w 0 = w := by
  simp [round]

@[simp]
theorem round_now (n : Nat) : (round plan w n).now = w.now + n * plan.pause :=
  rfl

@[simp]
theorem round_arrivals (n : Nat) : (round plan w n).arrivals = w.arrivals :=
  rfl

@[simp]
theorem round_requests (n : Nat) : (round plan w n).requests = w.requests :=
  rfl

@[simp]
theorem round_reads (n : Nat) : (round plan w n).reads = w.reads + n :=
  rfl

theorem round_now_mono {m n : Nat} (h : m ≤ n) : (round plan w m).now ≤ (round plan w n).now :=
  Nat.add_le_add_left (Nat.mul_le_mul_right _ h) _

theorem round_one : round plan w 1 = w.counted.atTime (w.now + plan.pause) := by
  simp [round, World.counted, World.atTime]

-- The rounds after the first one are those of a wait that begins one pause later.
theorem round_round (n : Nat) : round plan (round plan w 1) n = round plan w (n + 1) := by
  simp only [round, World.mk.injEq, true_and]
  constructor <;> grind

end

variable {cache : Cache} {token : Token} {plan : Plan K} {w : World}

theorem answer_round (n : Nat) :
    answer cache plan (round plan w 1) n = answer cache plan w (n + 1) := by
  simp only [answer, round_round]

theorem Passes.shift {n : Nat} (h : Passes cache token plan (round plan w 1) n) :
    Passes cache token plan w (n + 1) where
  unmet := by
    rw [← answer_round]
    exact h.unmet
  inTime := by
    rw [← round_round]
    exact h.inTime
  calm := by
    rw [← round_round]
    exact h.calm

theorem Ends.shift {n : Nat} {e : Except Error Unit × World}
    (h : Ends cache token plan (round plan w 1) n e) : Ends cache token plan w (n + 1) e := by
  cases h with
  | decided ha =>
    rw [answer_round, round_round] at *
    exact .decided ha
  | late ha hd hc =>
    simp only [answer_round, round_round] at *
    exact .late ha hd hc
  | cancelled ha hn ht hd hp hc =>
    simp only [answer_round, round_round] at *
    exact .cancelled ha hn ht hd hp hc

-- The loop read once, in terms of rounds.
theorem poll_eq : poll cache token plan w =
    match plan.goal.judge plan.receipt (answer cache plan w 0) with
    | .error e => (.error e, w.counted)
    | .ok true => (.ok (), w.counted)
    | .ok false =>
      if plan.deadline ≤ w.now then (.error plan.late, w.counted)
      else match token.stop? w.counted (min (w.now + plan.pause) plan.deadline) with
        | some time => (.error .cancelled, w.counted.atTime time)
        | none =>
          if w.now + plan.pause ≤ plan.deadline then poll cache token plan (round plan w 1)
          else (.error plan.late, w.counted.atTime plan.deadline) := by
  have hw : (cache.get plan.scratch plan.receipt.key w).2 = w.counted := rfl
  rw [poll, answer, round_zero, round_one, Token.stop?]
  simp only [hw]
  cases token.isCancelled w.counted <;> rfl

-- One round passes, or it ends the wait.
theorem poll_step (cache : Cache) (token : Token) (h : w.now ≤ plan.deadline) :
    (Passes cache token plan w 0 ∧
        poll cache token plan w = poll cache token plan (round plan w 1)) ∨
      Ends cache token plan w 0 (poll cache token plan w) := by
  have hp := plan.pause_pos
  rw [poll_eq]
  by_cases ha : plan.goal.Open plan.receipt (answer cache plan w 0)
  case neg =>
    right
    have hd : Ends cache token plan w 0 _ := .decided ha
    rw [Goal.judge_eq_verdict ha]
    cases hv : Goal.verdict (answer cache plan w 0) <;> simpa [hv, Except.map] using hd
  case pos =>
    rw [Goal.judge_eq_ok_false_iff.mpr ha]
    simp only
    split
    case isTrue hd =>
      right
      have he : w.now = plan.deadline := Nat.le_antisymm h hd
      have hl : Ends cache token plan w 0 _ := .late ha (by simp; omega) (by simp; omega)
      simpa [← he] using hl
    case isFalse hd =>
      split
      case h_1 time hs =>
        right
        obtain ⟨hw, ht, hc⟩ := Token.stop?_eq_some hs (by simp; omega)
        have hx : Ends cache token plan w 0 _ := .cancelled ha (by simp; omega) (by simpa using hw)
          (by omega) (by simp; omega) (by simpa using hc)
        simpa using hx
      case h_2 hs =>
        have hc : ∀ t ≤ min (w.now + plan.pause) plan.deadline,
            token.isCancelled (w.counted.atTime t) = false := fun _ => Token.stop?_eq_none hs
        split
        case isTrue hn =>
          left
          exact ⟨⟨ha, by simpa using hn, round_one ▸ hc _ (by omega)⟩, rfl⟩
        case isFalse hn =>
          right
          have hl : Ends cache token plan w 0 _ := .late ha (by simp; omega)
            (fun t _ ht => by simpa using hc t (by omega))
          simpa using hl

-- The loop goes through rounds that pass and then through one that ends the wait.
theorem poll_ends (cache : Cache) (token : Token) {w : World} (h : w.now ≤ plan.deadline) :
    ∃ n, (∀ i < n, Passes cache token plan w i) ∧
      Ends cache token plan w n (poll cache token plan w) := by
  cases poll_step cache token h
  case inr hn => exact ⟨0, by simp, hn⟩
  case inl hn =>
    have ⟨hp, he⟩ := hn
    have ⟨n, hi, hn⟩ := poll_ends cache token hp.inTime
    refine ⟨n + 1, ?_, he ▸ hn.shift⟩
    intro i hin
    cases i
    case zero => exact hp
    case succ i => exact (hi i (by omega)).shift
termination_by plan.deadline - w.now
decreasing_by
  have := plan.pause_pos
  have := hp.inTime
  simp at this ⊢
  omega

namespace Ends

variable {n : Nat} {e : Except Error Unit × World}

-- A wait leaves the server alone and reads the cache once in each round.
theorem frame (h : Ends cache token plan w n e) :
    e.2.arrivals = w.arrivals ∧ e.2.requests = w.requests ∧ e.2.reads = w.reads + n + 1 := by
  cases h <;> simp

-- A wait that succeeds does so on what its last round has seen, and at once.
theorem of_ok {after : World} (h : Ends cache token plan w n (.ok (), after)) :
    ¬plan.goal.Open plan.receipt (answer cache plan w n) ∧
      Goal.verdict (answer cache plan w n) = .ok () ∧ after = (round plan w n).counted := by
  generalize he : ((.ok (), after) : Except Error Unit × World) = e at h
  cases h with
  | decided ha =>
    have ⟨hv, hw⟩ := Prod.mk.inj he
    exact ⟨ha, hv.symm, hw⟩
  | late | cancelled => cases he

-- A wait goes on to each round that comes in time, unless an earlier answer has decided it or
-- cancellation has come before.
theorem reaches {m : Nat} (h : Ends cache token plan w m e)
    (inTime : (round plan w n).now ≤ plan.deadline)
    (unmet : ∀ i < n, plan.goal.Open plan.receipt (answer cache plan w i))
    (calm : ∀ i < n, ∀ t ≤ (round plan w n).now,
      token.isCancelled ((round plan w i).counted.atTime t) = false) : n ≤ m := by
  refine Nat.le_of_not_lt fun hl => ?_
  have hn : (round plan w (m + 1)).now ≤ (round plan w n).now := round_now_mono hl
  cases h with
  | decided ha => exact ha (unmet m hl)
  | late _ hd _ => omega
  | @cancelled time _ _ ht _ hp hc =>
    have hf : false = decide (time ≤ time) :=
      (calm m hl time (Nat.le_trans hp hn)).symm.trans (hc time ht)
    simp at hf

-- The last round of a wait is the first whose answer decides it, if that round is in time.
theorem of_decided {m : Nat} (h : Ends cache token plan w m e)
    (hp : ∀ i < m, Passes cache token plan w i) (inTime : (round plan w n).now ≤ plan.deadline)
    (unmet : ∀ i < n, plan.goal.Open plan.receipt (answer cache plan w i))
    (calm : ∀ i < n, ∀ t ≤ (round plan w n).now,
      token.isCancelled ((round plan w i).counted.atTime t) = false)
    (decided : ¬plan.goal.Open plan.receipt (answer cache plan w n)) :
    e = (Goal.verdict (answer cache plan w n), (round plan w n).counted) := by
  have hn : n ≤ m := h.reaches inTime unmet calm
  have hm : m ≤ n := Nat.le_of_not_lt fun hl => decided (hp n hl).unmet
  cases Nat.le_antisymm hm hn
  cases h with
  | decided => rfl
  | late ha | cancelled ha => exact absurd ha decided

-- A wait whose first answer decides it ends there.
theorem of_first (h : Ends cache token plan w n e) (hp : ∀ i < n, Passes cache token plan w i)
    (hd : ¬plan.goal.Open plan.receipt (answer cache plan w 0)) :
    e = (Goal.verdict (answer cache plan w 0), w.counted) := by
  cases n
  case succ => exact absurd (hp 0 (Nat.succ_pos _)).unmet hd
  case zero =>
    cases h with
    | decided => rw [round_zero]
    | late ha | cancelled ha => exact absurd ha hd

end Ends

end Wait

end ReadYourWrites
