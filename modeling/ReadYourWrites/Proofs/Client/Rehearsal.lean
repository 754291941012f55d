import ReadYourWrites.Proofs.Client.History
import ReadYourWrites.Proofs.Client.Outcome

-- Writes that the server only rehearses. It answers them as it would answer the write and changes
-- nothing, so the cache goes on to show what it has shown before. The client waits after such a write
-- all the same, and while the cache stays as it is, its first answer tells how the wait ends.

namespace ReadYourWrites

namespace Cache

-- Whether a cache answers all reads alike from one moment to another.
def Still (cache : Cache) (first last : Nat) : Prop :=
  ∃ answer, ∀ reads time, first ≤ time → time ≤ last → cache.find reads time = answer

theorem still_ofStore (store : Store) (first last : Nat) : (ofStore fun _ => store).Still first last :=
  ⟨store.find, fun _ _ _ _ => rfl⟩

end Cache

namespace Wait

variable {K : Type} [Object K] {cache : Cache} {plan : Plan K} {w : World} {n : Nat}
  {e : Except Error Unit × World}

theorem answer_of_still (h : cache.Still w.now e.2.now) (inTime : (round plan w n).now ≤ e.2.now) :
    answer cache plan w n = answer cache plan w 0 := by
  have ⟨shown, hs⟩ := h
  have begun : (round plan w 0).now ≤ (round plan w n).now := round_now_mono (Nat.zero_le n)
  have start : w.now ≤ (round plan w n).now := by rwa [round_zero] at begun
  simp only [answer, Cache.get, hs _ _ start inTime, round_zero,
    hs _ _ (Nat.le_refl _) (Nat.le_trans start inTime)]

-- In a still cache all rounds of a wait see the same, so it ends with the first one or with the time.
theorem Ends.of_still {patience : Nat} (h : Ends cache .never plan w n e)
    (hp : ∀ i < n, Passes cache .never plan w i) (hl : plan.deadline = w.now + patience)
    (still : cache.Still w.now e.2.now) :
    (¬plan.goal.Open plan.receipt (answer cache plan w 0) ∧
        e = (Goal.verdict (answer cache plan w 0), w.counted)) ∨
      (plan.goal.Open plan.receipt (answer cache plan w 0) ∧
        e = (.error plan.late,
          { w with now := w.now + patience, reads := w.reads + patience / plan.pause + 1 })) := by
  by_cases ho : plan.goal.Open plan.receipt (answer cache plan w 0)
  case neg => exact .inl ⟨ho, h.of_first hp ho⟩
  case pos =>
    refine .inr ⟨ho, (h.outcome hp hl).right fun i hi => ?_⟩
    have same {i : Nat} (inTime : (round plan w i).now ≤ e.2.now) :
        plan.goal.Open plan.receipt (answer cache plan w i) := by
      rwa [answer_of_still still inTime]
    obtain ⟨decided, rfl⟩ | ⟨_, _, rfl⟩ := h.of_never
    case inl => exact absurd (same (Nat.le_refl _)) decided
    case inr =>
      have inTime : (round plan w i).now ≤ plan.deadline := by simpa [hl] using hi
      exact same inTime

-- The same for the whole course of a wait for a named object of a registered type.
theorem Course.of_still [Typed K] {scheme : Scheme} {config : Config} {goal : Goal} {object scratch : K}
    {key : Key} {registration : Registration}
    (h : Course cache scheme config .never goal object w e)
    (named : (Object.metadata object).key? = some key)
    (known : scheme.get? (Typed.kind K) = some registration)
    (readable : Object.read registration.template = some scratch)
    (still : cache.Still w.now e.2.now) :
    let receipt := (Object.metadata object).receipt key
    let shown := (cache.get scratch key w).1.map Object.metadata
    (¬goal.Open receipt shown ∧ e = (Goal.verdict shown, w.counted)) ∨
      (goal.Open receipt shown ∧
        e = (.error (.timeout (Typed.kind K).name key config.timeout),
          { w with
            now := w.now + config.patience,
            reads := w.reads + config.patience / config.pause + 1 })) := by
  intro receipt shown
  obtain ⟨cancelled, -⟩ | ⟨unreadable, -⟩ | ⟨_, n, found, hi, he⟩ := h.of_typed named known
  case inl => cases cancelled
  case inr.inl => cases unreadable.symm.trans readable
  case inr.inr =>
    cases found.symm.trans readable
    have first : answer cache (plan config goal (Typed.kind K) receipt scratch w.now) w 0 = shown := by
      rw [answer, round_zero]
      rfl
    have ends := he.of_still hi rfl still
    rw [first] at ends
    exact ends

end Wait

namespace Write

-- The same write, which the server is asked to rehearse.
def rehearsal : Write → Write
  | .create options => .create { options with dryRun := true }
  | .update options => .update { options with dryRun := true }
  | .patch body options => .patch body { options with dryRun := true }
  | .updateStatus options => .updateStatus { options with dryRun := true }
  | .patchStatus body options => .patchStatus body { options with dryRun := true }
  | .delete options => .delete { options with dryRun := true }

theorem goal_rehearsal (write : Write) : write.rehearsal.goal = write.goal := by
  cases write <;> rfl

end Write

namespace Client

variable {K : Type} [Object K] [Typed K]

-- A rehearsed write that the server refuses ends as the direct call does. One that it accepts ends with
-- the first answer of the cache, if this answer would end a wait for a real write, although the cache
-- can show no more than what it has shown before. Otherwise it fails when the time is up: such are the
-- rehearsed creation of an object that is not there and the rehearsed deletion of one that is not
-- marked.
theorem rehearsal_outcome {client : Client} {write : Write} {object : K} {w : World}
    {registration : Registration} (known : client.scheme.get? (Typed.kind K) = some registration)
    (still : client.cache.Still (write.rehearsal.direct client.scheme .never object w).2.now
      (write.rehearsal.perform client .never object w).2.now) :
    let direct := write.rehearsal.direct client.scheme .never object w
    let whole := write.rehearsal.perform client .never object w
    let written := direct.1.object
    let after := direct.2
    (∀ e, direct.1.result = .error e → whole = direct) ∧
    (direct.1.result = .ok () →
      ((Object.metadata written).key? = none →
        whole = (⟨written, .error .missingName⟩, after)) ∧
      ∀ key, (Object.metadata written).key? = some key →
        (Object.read (K := K) registration.template = none →
          whole = (⟨written, .error .unreadable⟩, after)) ∧
        ∀ scratch : K, Object.read registration.template = some scratch →
          let receipt := (Object.metadata written).receipt key
          let shown := (client.cache.get scratch key after).1.map Object.metadata
          let pause := client.config.pause
          let patience := client.config.patience
          (¬write.goal.Open receipt shown →
            whole = (⟨written, Goal.verdict shown⟩, after.counted)) ∧
          (write.goal.Open receipt shown →
            whole =
              (⟨written, .error (.timeout (Typed.kind K).name key client.config.timeout)⟩,
                { after with
                  now := after.now + patience, reads := after.reads + patience / pause + 1 }))) := by
  intro direct whole written after
  refine ⟨fun e he => Write.perform_of_error he, fun accepted => ?_⟩
  have split : direct = (⟨written, .ok ()⟩, after) := by rw [← accepted]
  obtain ⟨result, final, hp, course⟩ := Write.perform_of_ok split
  replace hp : whole = (⟨written, result⟩, final) := hp
  replace still : client.cache.Still after.now final.now := by
    have := congrArg (·.2.now) hp
    exact this ▸ still
  rw [hp]
  refine ⟨?_, ?_⟩
  case refine_1 =>
    intro nameless
    cases course.of_error (Wait.subject_of_nameless client.scheme nameless)
    rfl
  case refine_2 =>
    intro key named
    refine ⟨?_, ?_⟩
    case refine_1 =>
      intro unreadable
      obtain ⟨cancelled, -⟩ | ⟨-, ended⟩ | ⟨_, _, readable, -⟩ := course.of_typed named known
      case inl => cases cancelled
      case inr.inl =>
        cases ended
        rfl
      case inr.inr => cases unreadable.symm.trans readable
    case refine_2 =>
      intro scratch readable receipt shown pause patience
      have ends := course.of_still named known readable still
      rw [write.goal_rehearsal] at ends
      obtain ⟨decided, ended⟩ | ⟨unmet, ended⟩ := ends
      case inl =>
        cases ended
        exact ⟨fun _ => rfl, fun unmet => absurd unmet decided⟩
      case inr =>
        cases ended
        exact ⟨fun decided => absurd unmet decided, fun _ => rfl⟩

end Client

namespace Sample

-- A config map as its creator writes it.
def draft : ConfigMap where
  metadata := { Metadata.empty with name := some "settings" }
  data := none
  binaryData := none
  immutable := none

-- A client whose cache goes on to show the given state.
def standing (state : Option ConfigMap) : Client :=
  client (.ofStore fun _ => listing state)

end Sample

-- A rehearsed update in the version that the cache shows ends with the first read.
theorem Client.rehearsal_outcome_update :
    let alive := Sample.configMap "u" "7"
    let call := (Write.update ⟨true, none⟩).perform (Sample.standing (some alive)) .never alive
      (Sample.world [Object.write alive])
    call.1 = ⟨alive, .ok ()⟩ ∧ call.2.now = 3 ∧ call.2.reads = 1 := by
  intro alive call
  have known : (Sample.standing (some alive)).scheme.get? ConfigMap.resource.kind =
      some Sample.registration := rfl
  have readable : Object.read Sample.registration.template =
      some (⟨.empty, none, none, none⟩ : ConfigMap) := rfl
  have still (first last : Nat) : (Sample.standing (some alive)).cache.Still first last :=
    Cache.still_ofStore (Sample.listing (some alive)) first last
  have ⟨_, accepted⟩ := @rehearsal_outcome ConfigMap _ _ (Sample.standing (some alive))
    (.update ⟨false, none⟩) alive (Sample.world [Object.write alive]) _ known (still _ _)
  have ⟨_, named⟩ := accepted (by decide +kernel)
  have ⟨_, found⟩ := named Sample.key (by decide +kernel)
  have h : call = _ := (found _ readable).left (by decide +kernel)
  rw [h]
  exact ⟨by decide +kernel, by decide +kernel, by decide +kernel⟩

-- The server accepts the rehearsed creation of an object that is not there and the rehearsed deletion of
-- one that is. No cache will ever show them.
theorem Client.rehearsal_unseen :
    let alive := Sample.configMap "u" "7"
    let w := Sample.world [Object.write alive]
    let late := Error.timeout "ConfigMap" Sample.key Sample.config.timeout
    let create := Write.create ⟨true, none⟩
    let delete := Write.delete ⟨true, none, none, none⟩
    ((create.direct Sample.scheme .never Sample.draft w).1 = ⟨alive, .ok ()⟩ ∧
      (create.perform (Sample.standing none) .never Sample.draft w).1 = ⟨alive, .error late⟩) ∧
    ((delete.direct Sample.scheme .never alive w).1 = ⟨alive, .ok ()⟩ ∧
      (delete.perform (Sample.standing (some alive)) .never alive w).1 = ⟨alive, .error late⟩) ∧
    ∀ state first last, (Sample.standing state).cache.Still first last := by
  refine ⟨⟨by decide +kernel, by decide +kernel⟩, ⟨by decide +kernel, by decide +kernel⟩, ?_⟩
  exact fun state => Cache.still_ofStore (Sample.listing state)

end ReadYourWrites
