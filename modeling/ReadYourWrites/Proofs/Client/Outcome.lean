import ReadYourWrites.Proofs.Client.Write

-- The outcome of a write that the server has accepted, to the millisecond and to the read. The first
-- answer that decides the wait decides the outcome, if it comes in time.

namespace ReadYourWrites

variable {K : Type} [Object K]

namespace Wait

variable {cache : Cache} {plan : Plan K} {w : World} {m n : Nat} {e : Except Error Unit × World}

-- Without cancellation a wait ends with its answer or with the time.
theorem Ends.of_never (h : Ends cache .never plan w n e) :
    (¬plan.goal.Open plan.receipt (answer cache plan w n) ∧
        e = (Goal.verdict (answer cache plan w n), (round plan w n).counted)) ∨
      (plan.goal.Open plan.receipt (answer cache plan w n) ∧
        plan.deadline < (round plan w (n + 1)).now ∧
        e = (.error plan.late, (round plan w n).counted.atTime plan.deadline)) := by
  cases h with
  | decided ha => exact .inl ⟨ha, rfl⟩
  | late ha hd _ => exact .inr ⟨ha, hd, rfl⟩
  | @cancelled time _ _ ht _ _ hc =>
    have : false = decide (time ≤ time) := hc time ht
    simp at this

-- The last round of a wait that no answer decides is the last one in time.
theorem Ends.of_open (h : Ends cache .never plan w m e)
    (hp : ∀ i < m, Passes cache .never plan w i) (hl : w.now ≤ plan.deadline)
    (ho : ∀ i, (round plan w i).now ≤ plan.deadline →
      plan.goal.Open plan.receipt (answer cache plan w i)) :
    m = (plan.deadline - w.now) / plan.pause ∧
      e = (.error plan.late, (round plan w m).counted.atTime plan.deadline) := by
  have hm : (round plan w m).now ≤ plan.deadline := by
    cases m
    case zero => simpa using hl
    case succ i => exact (hp i (by omega)).inTime
  cases h.of_never
  case inl ha => exact absurd (ho m hm) ha.left
  case inr ha =>
    refine ⟨?_, ha.right.right⟩
    have hd := ha.right.left
    simp only [round_now] at hm hd
    symm
    rw [Nat.div_eq_iff plan.pause_pos]
    grind

-- Both in one, for a wait that may last for `patience` from its beginning.
theorem Ends.outcome {patience : Nat} (h : Ends cache .never plan w m e)
    (hp : ∀ i < m, Passes cache .never plan w i) (hl : plan.deadline = w.now + patience) :
    (∀ n, n * plan.pause ≤ patience →
      (∀ i < n, plan.goal.Open plan.receipt (answer cache plan w i)) →
      ¬plan.goal.Open plan.receipt (answer cache plan w n) →
      e = (Goal.verdict (answer cache plan w n),
        { w with now := w.now + n * plan.pause, reads := w.reads + n + 1 })) ∧
    ((∀ n, n * plan.pause ≤ patience → plan.goal.Open plan.receipt (answer cache plan w n)) →
      e = (.error plan.late,
        { w with now := w.now + patience, reads := w.reads + patience / plan.pause + 1 })) := by
  constructor
  case left =>
    intro n hn ho hd
    exact h.of_decided hp (by simpa [hl] using hn) ho (fun _ _ _ _ => rfl) hd
  case right =>
    intro ho
    have ⟨hm, he⟩ := h.of_open hp (by omega) fun i hi => ho i (by simpa [hl] using hi)
    rw [hl, Nat.add_sub_cancel_left] at hm
    rw [he, hl, hm]
    rfl

end Wait

namespace Client

-- What a wait that begins in `w` is answered by the read with the given number.
def reply (client : Client) (scratch : K) (key : Key) (w : World) (n : Nat) :
    Except Error Metadata :=
  (client.cache.get scratch key
    { w with now := w.now + n * client.config.pause, reads := w.reads + n }).1.map Object.metadata

theorem answer_eq (client : Client) {goal : Goal} {kind : Kind} {receipt : Receipt} {scratch : K}
    {w : World} (n : Nat) :
    Wait.answer client.cache (Wait.plan client.config goal kind receipt scratch w.now) w n =
      client.reply scratch receipt.key w n := by
  simp only [Wait.answer, Wait.round, Wait.plan, reply]

variable {client : Client} {write : Write} {object written scratch : K} {w after : World} {key : Key}
  {registration : Registration}

-- A write that the server accepts reads the cache right after it and after each pause. The first
-- answer that does not leave the wait open decides the write there and then, be it as late as the
-- end of the time. If there is none until then, the write fails at that very time.
theorem write_outcome [Typed K]
    (accepted : write.direct client.scheme .never object w = (⟨written, .ok ()⟩, after))
    (named : (Object.metadata written).key? = some key)
    (known : client.scheme.get? (Typed.kind K) = some registration)
    (readable : Object.read registration.template = some scratch) :
    let receipt := (Object.metadata written).receipt key
    let pause := client.config.pause
    let patience := client.config.patience
    let reply := client.reply scratch key after
    (∀ n, n * pause ≤ patience → (∀ i < n, write.goal.Open receipt (reply i)) →
      ¬write.goal.Open receipt (reply n) →
      write.perform client .never object w = (⟨written, Goal.verdict (reply n)⟩,
        { after with now := after.now + n * pause, reads := after.reads + n + 1 })) ∧
    ((∀ n, n * pause ≤ patience → write.goal.Open receipt (reply n)) →
      write.perform client .never object w =
        (⟨written, .error (.timeout (Typed.kind K).name key client.config.timeout)⟩,
          { after with
            now := after.now + patience, reads := after.reads + patience / pause + 1 })) := by
  intro receipt pause patience reply
  have ⟨result, final, hp, hc⟩ := Write.perform_of_ok accepted
  obtain ⟨hc, -⟩ | ⟨hc, -⟩ | ⟨_, m, hs, hi, he⟩ := hc.of_typed named known
  case inl => cases hc
  case inr.inl => cases readable.symm.trans hc
  case inr.inr =>
    cases readable.symm.trans hs
    have ⟨hd, hl⟩ := he.outcome hi rfl
    simp only [answer_eq] at hd hl
    simp only [Wait.plan] at hd hl
    rw [hp]
    constructor
    case left =>
      intro n hn ho hn'
      cases hd n hn ho hn'
      rfl
    case right =>
      intro ho
      cases hl ho
      rfl

end Client

-- A cache that is late: the first read finds it unready, the second before an update.
def Sample.late : Cache where
  find reads _ _ _ :=
    if reads = 0 then .error (.notSynced ConfigMap.resource.kind)
    else .ok (Object.write (Sample.configMap "u" (if reads = 1 then "9" else "10")))
  select _ _ _ _ _ := .ok []

-- The last read in time falls on the end of the time, and it sees the update.
set_option maxRecDepth 10000 in
theorem Client.write_outcome_at_deadline :
    let call := (Write.update ⟨false, none⟩).perform (Sample.client Sample.late) .never
      (Sample.configMap "u" "7") (Sample.world [Object.write (Sample.configMap "u" "10")])
    call.1.result = .ok () ∧ call.2.now = 3 + 4 ∧ call.2.reads = 3 := by
  intro call
  have accepted : (Write.update ⟨false, none⟩).direct (Sample.client Sample.late).scheme .never
      (Sample.configMap "u" "7") (Sample.world [Object.write (Sample.configMap "u" "10")]) =
        (⟨Sample.configMap "u" "10", .ok ()⟩, _) := rfl
  have named : (Object.metadata (Sample.configMap "u" "10")).key? = some ⟨none, "settings"⟩ := rfl
  have known : (Sample.client Sample.late).scheme.get? ConfigMap.resource.kind =
      some Sample.registration := rfl
  have readable : Object.read Sample.registration.template =
      some (⟨.empty, none, none, none⟩ : ConfigMap) := rfl
  have h : call = _ := (write_outcome accepted named known readable).left 2 (by decide)
    (by decide +kernel) (by decide +kernel)
  rw [h]
  exact ⟨rfl, rfl, rfl⟩

end ReadYourWrites
