import ReadYourWrites.Proofs.Client.Outcome

-- What cancellation does to a write that the server has accepted. A wait that is for nothing takes no
-- notice of it. Any other wait ends when it is cancelled, or with the read in whose course it is
-- cancelled.

namespace ReadYourWrites

-- A call that is cancelled in the course of a read is cancelled as soon as that read has begun.
theorem Token.isCancelled_duringRead (number : Nat) (w : World) :
    (Token.duringRead (number + 1)).isCancelled w = decide (number < w.reads) := by
  have hn : decide (1 ≤ number + 1) = true := decide_eq_true (Nat.le_add_left ..)
  rw [isCancelled, hn, Bool.true_and]
  rfl

variable {K : Type} [Object K]

namespace Wait

variable {cache : Cache} {plan : Plan K} {w : World} {m n : Nat} {e : Except Error Unit × World}

-- A wait that is cancelled in the course of a read ends with that read: with its answer if that
-- decides the wait, and with cancellation if not, unless the time is up just then.
theorem Ends.of_duringRead {j : Nat}
    (h : Ends cache (.duringRead (w.reads + j + 1)) plan w m e)
    (hp : ∀ i < m, Passes cache (.duringRead (w.reads + j + 1)) plan w i)
    (inTime : (round plan w j).now ≤ plan.deadline)
    (unmet : ∀ i < j, plan.goal.Open plan.receipt (answer cache plan w i)) :
    (¬plan.goal.Open plan.receipt (answer cache plan w j) →
      e = (Goal.verdict (answer cache plan w j), (round plan w j).counted)) ∧
    (plan.goal.Open plan.receipt (answer cache plan w j) →
      ((round plan w j).now < plan.deadline → e = (.error .cancelled, (round plan w j).counted)) ∧
      ((round plan w j).now = plan.deadline → e = (.error plan.late, (round plan w j).counted))) := by
  have hj : j ≤ m := by
    refine h.reaches inTime unmet fun i hi t _ => ?_
    rw [Token.isCancelled_duringRead]
    exact decide_eq_false (show ¬w.reads + j < w.reads + i + 1 by omega)
  have hm : m ≤ j := by
    refine Nat.le_of_not_lt fun hl => ?_
    have hc := (hp j hl).calm
    rw [Token.isCancelled_duringRead] at hc
    exact of_decide_eq_false hc (Nat.lt_succ_self _)
  cases Nat.le_antisymm hm hj
  have struck (t : Nat) : (Token.duringRead (w.reads + m + 1)).isCancelled
      ((round plan w m).counted.atTime t) = true := by
    rw [Token.isCancelled_duringRead]
    exact decide_eq_true (Nat.lt_succ_self _)
  cases h with
  | decided ha => exact ⟨fun _ => rfl, fun ho => absurd ho ha⟩
  | late ha hd hc =>
    refine ⟨fun hn => absurd ha hn, fun _ => ⟨fun hl => ?_, fun he => ?_⟩⟩
    case refine_1 => cases (struck _).symm.trans (hc _ hl (Nat.le_refl _))
    case refine_2 => rw [← he, World.counted_atTime_now]
  | @cancelled time ha hl ht _ _ hc =>
    refine ⟨fun hn => absurd ha hn, fun _ => ⟨fun _ => ?_, fun he => absurd hl (by omega)⟩⟩
    have hs : time ≤ (round plan w m).now :=
      of_decide_eq_true ((hc _ (Nat.le_refl _)).symm.trans (struck _))
    rw [Nat.le_antisymm hs ht, World.counted_atTime_now]

-- A wait that is cancelled between two reads ends at that moment, if no earlier answer decides it.
theorem Ends.of_atTime {time : Nat} (h : Ends cache (.atTime time) plan w m e)
    (hp : ∀ i < m, Passes cache (.atTime time) plan w i) (inTime : time < plan.deadline)
    (after : (round plan w n).now < time) (before : time < (round plan w (n + 1)).now)
    (unmet : ∀ i ≤ n, plan.goal.Open plan.receipt (answer cache plan w i)) :
    e = (.error .cancelled, (round plan w n).counted.atTime time) := by
  have hn : n ≤ m := by
    refine h.reaches (by omega) (fun i hi => unmet i (Nat.le_of_lt hi)) fun i _ t ht => ?_
    exact decide_eq_false (show ¬time ≤ t by omega)
  have hm : m ≤ n := by
    refine Nat.le_of_not_lt fun hl => ?_
    have hc : ¬time ≤ (round plan w (n + 1)).now := of_decide_eq_false (hp n hl).calm
    omega
  cases Nat.le_antisymm hm hn
  cases h with
  | decided ha => exact absurd (unmet m (Nat.le_refl _)) ha
  | late _ _ hc =>
    have hf : ¬time ≤ time := of_decide_eq_false (hc time (by omega) (by omega))
    exact absurd (Nat.le_refl _) hf
  | @cancelled stop _ _ ht _ _ hc =>
    have hs (t : Nat) (h : (round plan w m).now ≤ t) : time ≤ t ↔ stop ≤ t :=
      decide_eq_decide.mp (hc t h)
    have he : time = stop := by
      apply Nat.le_antisymm
      case h₁ => exact (hs stop ht).mpr (Nat.le_refl _)
      case h₂ => exact (hs time (Nat.le_of_lt after)).mp (Nat.le_refl _)
    rw [he]

-- Both in one, for a wait that may last for `patience` from its beginning.
theorem Ends.under_cancellation {token : Token} {patience : Nat} (h : Ends cache token plan w m e)
    (hp : ∀ i < m, Passes cache token plan w i) (hl : plan.deadline = w.now + patience) :
    (∀ j, token = .duringRead (w.reads + j + 1) → j * plan.pause ≤ patience →
      (∀ i < j, plan.goal.Open plan.receipt (answer cache plan w i)) →
      (¬plan.goal.Open plan.receipt (answer cache plan w j) →
        e = (Goal.verdict (answer cache plan w j),
          { w with now := w.now + j * plan.pause, reads := w.reads + j + 1 })) ∧
      (plan.goal.Open plan.receipt (answer cache plan w j) →
        (j * plan.pause < patience → e = (.error .cancelled,
          { w with now := w.now + j * plan.pause, reads := w.reads + j + 1 })) ∧
        (j * plan.pause = patience → e = (.error plan.late,
          { w with now := w.now + j * plan.pause, reads := w.reads + j + 1 })))) ∧
    (∀ c, token = .atTime (w.now + c) → c < patience → (∀ n, c ≠ n * plan.pause) →
      (∀ n, n * plan.pause < c →
        (∀ i < n, plan.goal.Open plan.receipt (answer cache plan w i)) →
        ¬plan.goal.Open plan.receipt (answer cache plan w n) →
        e = (Goal.verdict (answer cache plan w n),
          { w with now := w.now + n * plan.pause, reads := w.reads + n + 1 })) ∧
      ((∀ n, n * plan.pause < c → plan.goal.Open plan.receipt (answer cache plan w n)) →
        e = (.error .cancelled,
          { w with now := w.now + c, reads := w.reads + c / plan.pause + 1 }))) := by
  constructor
  case left =>
    rintro j rfl inTime unmet
    have ⟨hd, ho⟩ := h.of_duringRead hp (by simpa [hl] using inTime) unmet
    refine ⟨hd, fun hn => ⟨fun hb => ?_, fun he => ?_⟩⟩
    case refine_1 => exact (ho hn).left (by simpa [hl] using hb)
    case refine_2 => exact (ho hn).right (by simp [hl, he])
  case right =>
    rintro c rfl inTime apart
    constructor
    case left =>
      intro n hn unmet decided
      refine h.of_decided hp (by simp only [round_now]; omega) unmet (fun i _ t ht => ?_) decided
      simp only [round_now] at ht
      exact decide_eq_false (show ¬w.now + c ≤ t by omega)
    case right =>
      intro unmet
      -- The last read before the cancellation.
      have hb : c / plan.pause * plan.pause ≤ c := Nat.div_mul_le_self ..
      have ha : c < (c / plan.pause + 1) * plan.pause := by
        rw [Nat.mul_comm]
        exact Nat.lt_mul_div_succ c plan.pause_pos
      have hn := apart (c / plan.pause)
      refine h.of_atTime hp (by omega) (by simp only [round_now]; omega)
        (by simp only [round_now]; omega) fun i hi => unmet i ?_
      have := Nat.mul_le_mul_right plan.pause hi
      omega

variable {scheme : Scheme} {object : K} {kind : Kind} {key : Key}

-- There is nothing to wait for if the object is unstructured or the scheme does not know its kind.
theorem subject_of_skipped (named : (Object.metadata object).key? = some key)
    (typed : Object.isUnstructured K = false → Object.kind object = .ok kind)
    (h : Object.isUnstructured K = true ∨ scheme.isRegistered kind = false) :
    subject scheme object = .ok none := by
  cases hu : Object.isUnstructured K
  case true => exact subject_of_unstructured scheme object hu
  case false =>
    have hr : scheme.get? kind = none := by
      simpa [hu, Scheme.isRegistered, Table.contains] using h
    rw [subject_of_structured scheme hu (typed hu) named, hr, Option.map_none]

-- In all other cases there is, with the template of the kind for the reads.
theorem subject_of_awaited (named : (Object.metadata object).key? = some key)
    (typed : Object.isUnstructured K = false → Object.kind object = .ok kind)
    (h : ¬(Object.isUnstructured K = true ∨ scheme.isRegistered kind = false)) :
    ∃ template, scheme.template kind = .ok template ∧ subject scheme object =
      .ok (some (kind, (Object.metadata object).receipt key, template)) := by
  have ⟨hu, hr⟩ := not_or.mp h
  replace hu := Bool.eq_false_iff.mpr hu
  replace hr : (scheme.get? kind).isSome = true := Bool.not_eq_false _ ▸ hr
  have ⟨registration, hg⟩ := Option.isSome_iff_exists.mp hr
  refine ⟨registration.template, by rw [Scheme.template, hg], ?_⟩
  rw [subject_of_structured scheme hu (typed hu) named, hg, Option.map_some]

end Wait

namespace Client

-- A write that the server has accepted leaves in the caller's object what the server has answered,
-- cancelled or not. Just if there is nothing to wait for it succeeds without a read of the cache, and
-- cancellation is of no account. Any other write ends at once if it is cancelled by then, with a read
-- if it is cancelled in the course of that, and at the very moment if it is cancelled between two
-- reads. An answer that decides the wait comes before cancellation, and so does the end of the time
-- if a read falls on it.
theorem cancellation {client : Client} {write : Write} {token : Token} {object written scratch : K}
    {w mid : World} {kind : Kind} {key : Key}
    (accepted : write.direct client.scheme token object w = (⟨written, .ok ()⟩, mid))
    (named : (Object.metadata written).key? = some key)
    (typed : Object.isUnstructured K = false → Object.kind written = .ok kind)
    (readable : ∀ template, client.scheme.template kind = .ok template →
      Object.read template = some scratch) :
    let pause := client.config.pause
    let patience := client.config.patience
    let reply := client.reply scratch key mid
    let Open (n : Nat) := write.goal.Open ((Object.metadata written).receipt key) (reply n)
    let after (n : Nat) : World :=
      { mid with now := mid.now + n * pause, reads := mid.reads + n + 1 }
    let call := write.perform client token object w
    let Skipped := Object.isUnstructured K = true ∨ client.scheme.isRegistered kind = false
    call.1.object = written ∧
    ((call.1.result = .ok () ∧ call.2.reads = mid.reads) ↔ Skipped) ∧
    (Skipped → call = (⟨written, .ok ()⟩, mid)) ∧
    (¬Skipped →
      (token.isCancelled mid = true → call = (⟨written, .error .cancelled⟩, mid)) ∧
      (∀ j, token = .duringRead (mid.reads + j + 1) → j * pause ≤ patience → (∀ i < j, Open i) →
        (¬Open j → call = (⟨written, Goal.verdict (reply j)⟩, after j)) ∧
        (Open j →
          (j * pause < patience → call = (⟨written, .error .cancelled⟩, after j)) ∧
          (j * pause = patience →
            call = (⟨written, .error (.timeout kind.name key client.config.timeout)⟩, after j)))) ∧
      (∀ c, token = .atTime (mid.now + c) → c < patience → (∀ n, c ≠ n * pause) →
        (∀ n, n * pause < c → (∀ i < n, Open i) → ¬Open n →
          call = (⟨written, Goal.verdict (reply n)⟩, after n)) ∧
        ((∀ n, n * pause < c → Open n) → call = (⟨written, .error .cancelled⟩,
          { mid with now := mid.now + c, reads := mid.reads + c / pause + 1 })))) := by
  intro pause patience reply Open after call Skipped
  by_cases hs : Skipped
  case pos =>
    have hc : call = (⟨written, .ok ()⟩, mid) :=
      Write.perform_of_none accepted (Wait.subject_of_skipped named typed hs)
    rw [hc]
    exact ⟨rfl, ⟨fun _ => hs, fun _ => ⟨rfl, rfl⟩⟩, fun _ => rfl, fun hn => absurd hs hn⟩
  case neg =>
    obtain ⟨template, ht, something⟩ := Wait.subject_of_awaited named typed hs
    obtain ⟨hn, hc⟩ | ⟨hn, e, n, hc, hp, he⟩ :=
      Write.perform_of_some accepted something (readable template ht)
    case inl =>
      replace hc : call = _ := hc
      rw [hc]
      refine ⟨rfl, ⟨fun h => ?_, fun h => absurd h hs⟩, fun h => absurd h hs,
        fun _ => ⟨fun _ => rfl, ?_, ?_⟩⟩
      case refine_1 => cases h.left
      case refine_2 =>
        rintro j rfl
        rw [Token.isCancelled_duringRead, decide_eq_true_eq] at hn
        omega
      case refine_3 =>
        rintro c rfl _ apart
        have h0 := apart 0
        replace hn : mid.now + c ≤ mid.now := of_decide_eq_true hn
        omega
    case inr =>
      have settle {result : Except Error Unit} {final : World} (h : e = (result, final)) :
          ((⟨written, e.1⟩, e.2) : Outcome K × World) = (⟨written, result⟩, final) := by rw [h]
      have hf := he.frame.right.right
      obtain ⟨during, between⟩ := he.under_cancellation hp rfl
      simp only [answer_eq] at during between
      simp only [Wait.plan] at during between
      replace hc : call = _ := hc
      rw [hc]
      refine ⟨rfl, ⟨fun h => ?_, fun h => absurd h hs⟩, fun h => absurd h hs,
        fun _ => ⟨fun h => ?_, fun j hj inTime unmet => ?_, fun c hc inTime apart => ?_⟩⟩
      case refine_1 =>
        have hr : e.2.reads = mid.reads := h.right
        omega
      case refine_2 => cases hn.symm.trans h
      case refine_3 =>
        obtain ⟨hd, ho⟩ := during j hj inTime unmet
        exact ⟨fun h => settle (hd h), fun h => ⟨fun hb => settle ((ho h).left hb),
          fun hb => settle ((ho h).right hb)⟩⟩
      case refine_4 =>
        obtain ⟨hd, ho⟩ := between c hc inTime apart
        exact ⟨fun n hb hi hn => settle (hd n hb hi hn), fun h => settle (ho h)⟩

end Client

namespace Sample

-- A cache that never gets its first listing.
def unready : Cache where
  find _ _ _ _ := .error (.notSynced ConfigMap.resource.kind)
  select _ _ _ _ _ := .error (.notSynced ConfigMap.resource.kind)

def written : ConfigMap :=
  configMap "u" "10"

-- An update that waits from 3 to 7 and reads the cache at 3, 5 and 7.
def waiting (token : Token) : Outcome ConfigMap × World :=
  (Write.update ⟨false, none⟩).perform (client unready) token (configMap "u" "7")
    (world [Object.write written])

end Sample

-- The wait is given up between its second and its third read.
theorem Client.cancellation_between_reads :
    (Sample.waiting (.atTime 6)).1 = ⟨Sample.written, .error .cancelled⟩ ∧
      (Sample.waiting (.atTime 6)).2.now = 6 ∧ (Sample.waiting (.atTime 6)).2.reads = 2 := by
  have accepted : (Write.update ⟨false, none⟩).direct (Sample.client Sample.unready).scheme (.atTime 6)
      (Sample.configMap "u" "7") (Sample.world [Object.write Sample.written]) =
        (⟨Sample.written, .ok ()⟩, _) := rfl
  have named : (Object.metadata Sample.written).key? = some ⟨none, "settings"⟩ := rfl
  have readable : ∀ template,
      (Sample.client Sample.unready).scheme.template ConfigMap.resource.kind = .ok template →
        Object.read template = some (⟨.empty, none, none, none⟩ : ConfigMap) := by
    rintro _ ⟨⟩
    rfl
  have ⟨_, _, _, waits⟩ := cancellation accepted named (fun _ => rfl) readable
  have ⟨_, _, between⟩ := waits (by decide)
  have ⟨_, given⟩ := between 3 rfl (by decide) fun n => show 3 ≠ n * 2 by omega
  have h : Sample.waiting (.atTime 6) = _ := given fun _ _ => .notSynced rfl
  rw [h]
  exact ⟨rfl, rfl, rfl⟩

-- In the course of the last read the time is up. So the wait does not end with cancellation, although
-- the answer has left it open.
theorem Client.cancellation_at_deadline :
    (Sample.waiting (.duringRead 3)).1 = ⟨Sample.written,
        .error (.timeout "ConfigMap" ⟨none, "settings"⟩ Sample.config.timeout)⟩ ∧
      (Sample.waiting (.duringRead 3)).2.now = 7 ∧ (Sample.waiting (.duringRead 3)).2.reads = 3 := by
  decide +kernel

end ReadYourWrites
