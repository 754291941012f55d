import ReadYourWrites.Proofs.Client.Write

-- The waiting client in the place of the direct one. Both send the same requests and leave the
-- caller with the same object. They part only in what the wait reports after a write that the
-- server has accepted, and these reports are listed.

namespace ReadYourWrites

namespace Wait

variable {K : Type} [Object K]

-- The errors that a wait for an object can report if it lasts from `start` to `stop`.
inductive Fault (client : Client) (token : Token) (object : K) (start stop : World) : Error → Prop
  | nameless : (Object.metadata object).key? = none →
      Fault client token object start stop .missingName
  | kindless : Object.writtenKind? (Object.write object) = none →
      Fault client token object start stop .missingKind
  | template {kind json} : Object.kind object = .ok kind →
      client.scheme.template kind = .ok json → Object.read (K := K) json = none →
      Fault client token object start stop .unreadable
  | cancelled : token.isCancelled stop = true → Fault client token object start stop .cancelled
  | late {kind key} : Object.kind object = .ok kind → Object.key object = .ok key →
      stop.now = start.now + client.config.patience →
      Fault client token object start stop (.timeout kind.name key client.config.timeout)
  -- The last read fails, and not because of what the cache has or lacks.
  | read {held key n e} : stop.reads = n + 1 → start.reads ≤ n →
      (client.cache.find n stop.now held key).bind (Object.decode K) = .error e →
      e.isNotFound = false → e.isNotRegistered = false → e.isNotSynced = false →
      Fault client token object start stop e

variable {client : Client} {token : Token} {goal : Goal} {object : K} {w : World}

theorem Course.frame {e : Except Error Unit × World}
    (h : Course client.cache client.scheme client.config token goal object w e) :
    e.2.arrivals = w.arrivals ∧ e.2.requests = w.requests := by
  cases h with
  | polled _ _ _ _ he => exact ⟨he.frame.left, he.frame.right.left⟩
  | _ => exact ⟨rfl, rfl⟩

-- What an answer that stops a wait with an error says of the read behind it.
theorem read_of_verdict {plan : Plan K} {n : Nat} {e : Error}
    (ha : ¬plan.goal.Open plan.receipt (answer client.cache plan w n))
    (h : Goal.verdict (answer client.cache plan w n) = .error e) :
    (client.cache.find (w.reads + n) (round plan w n).now (Object.write plan.scratch)
        plan.receipt.key).bind (Object.decode K) = .error e ∧
      e.isNotFound = false ∧ e.isNotRegistered = false ∧ e.isNotSynced = false := by
  cases hg : (client.cache.get plan.scratch plan.receipt.key (round plan w n)).1
  case ok => simp [answer, hg, Except.map, Goal.verdict] at h
  case error f =>
    simp only [answer, hg, Except.map, Goal.verdict] at h ha
    split at h
    case isTrue => cases h
    case isFalse hc =>
      cases h
      have hs : ¬e.isNotSynced = true := mt .notSynced ha
      exact ⟨hg, by simp_all⟩

theorem Course.fault {e : Error} {stop : World}
    (h : Course client.cache client.scheme client.config token goal object w (.error e, stop)) :
    Fault client token object w stop e := by
  generalize hx : ((.error e, stop) : Except Error Unit × World) = x at h
  cases h with
  | skipped => cases hx
  | unidentified hs =>
    cases hx
    obtain ⟨rfl, hk⟩ | ⟨rfl, hk⟩ := subject_eq_error hs
    case inl => exact .nameless hk
    case inr => exact .kindless hk
  | cancelled _ hc =>
    cases hx
    exact .cancelled hc
  | unreadable hs _ hr =>
    cases hx
    have ⟨_, hk, ht⟩ := subject_eq_some hs
    exact .template hk ht hr
  | polled hs _ _ _ he =>
    cases he with
    | decided ha =>
      have ⟨hv, hw⟩ := Prod.mk.inj hx
      have ⟨hf, hn, hr, hc⟩ := read_of_verdict ha hv.symm
      subst hw
      exact .read rfl (Nat.le_add_right ..) hf hn hr hc
    | late _ _ _ =>
      cases hx
      have ⟨hr, hk, _⟩ := subject_eq_some hs
      exact .late hk (Receipt.key_eq hr) rfl
    | cancelled _ _ _ _ _ hc =>
      cases hx
      have ht := hc _ (by assumption)
      exact .cancelled (by simpa using ht)

end Wait

variable {K : Type} [Object K]

-- A write through the waiting client does to the server and to the caller's object what the direct
-- write does, whatever the cache shows and however the wait ends. A write that the server refuses
-- never looks into the cache, and neither does the deletion of a whole collection.
theorem Client.write_as_direct (client : Client) (token : Token) (w : World) (write : Write)
    (object : K) (kind : Kind) (scope : Option String) (selection : ListOptions)
    (options : DeleteOptions) :
    let direct := write.direct client.scheme token object w
    let whole := write.perform client token object w
    (whole.1.object = direct.1.object ∧ whole.2.requests = direct.2.requests ∧
      whole.2.arrivals = direct.2.arrivals) ∧
    (∀ e, direct.1.result = .error e → whole = direct ∧ whole.2.reads = w.reads) ∧
    (direct.1.result = .ok () → whole.1.result = .ok () ∨
      ∃ e, whole.1.result = .error e ∧
        Wait.Fault client token direct.1.object direct.2 whole.2 e) ∧
    client.deleteAll token kind scope selection options w =
      Direct.deleteAll client.scheme token kind scope selection options w ∧
    (client.deleteAll token kind scope selection options w).2.reads = w.reads := by
  intro direct whole
  have hd : (client.deleteAll token kind scope selection options w).2.reads = w.reads :=
    Prepared.send_reads token _ w
  cases hr : direct.1.result
  case error e =>
    have he : whole = direct := Write.perform_of_error hr
    refine ⟨by simp [he], fun _ _ => ⟨he, ?_⟩, nofun, rfl, hd⟩
    rw [he]
    exact write.direct_reads client.scheme token object w
  case ok =>
    have hw : direct = (⟨direct.1.object, .ok ()⟩, direct.2) := by rw [← hr]
    obtain ⟨result, final, hp, hc⟩ := Write.perform_of_ok hw
    have he : whole = (⟨direct.1.object, result⟩, final) := hp
    have ⟨ha, hq⟩ := hc.frame
    rw [he]
    refine ⟨⟨rfl, hq, ha⟩, nofun, fun _ => ?_, rfl, hd⟩
    cases result
    case ok => exact .inl rfl
    case error e => exact .inr ⟨e, rfl, hc.fault⟩

end ReadYourWrites
