import ReadYourWrites.Proofs.Client.Read
import ReadYourWrites.Proofs.Client.Write
import ReadYourWrites.Store.Operation

-- What a read answers after a write that has succeeded, as long as the store of the cache has not
-- changed since. The store may have gone through any changes during the write.

namespace ReadYourWrites

-- What a call has found, or why it has found nothing.
def Outcome.found {K : Type} [Object K] (outcome : Outcome K) : Except Error Metadata :=
  outcome.result.map fun _ => Object.metadata outcome.object

namespace Goal

-- The answers of the cache that agree with a write of the object with the given metadata.
inductive Shown (kind : Kind) (key : Key) (written : Metadata) : Goal → Except Error Metadata → Prop
  | present {m} : Shown kind key written .present (.ok m)
  | gone {goal} : goal ≠ .present →
      Shown kind key written goal (.error (.notFound kind.name key))
  | replaced {goal m} : goal ≠ .present → m.uid.getD "" ≠ written.uid.getD "" →
      Shown kind key written goal (.ok m)
  | reached {m} : m.uid.getD "" = written.uid.getD "" →
      (∀ version, written.resourceVersion = some version → ∃ observed,
        m.resourceVersion = some observed ∧ Version.compare observed version ≠ .lt) →
      Shown kind key written .updatedOrGone (.ok m)
  | marked {m} : m.uid.getD "" = written.uid.getD "" → m.deletionTimestamp.isSome = true →
      Shown kind key written .markedOrGone (.ok m)

-- An object that does not leave a wait open agrees with the write.
theorem Shown.of_object {goal : Goal} {kind : Kind} {key : Key} {written m : Metadata}
    (h : ¬goal.Open (written.receipt key) (.ok m)) :
    Shown kind key written goal (.ok m) := by
  by_cases hu : m.uid.getD "" = written.uid.getD ""
  case neg =>
    cases goal
    case present => exact .present
    all_goals exact .replaced nofun hu
  case pos =>
    cases goal
    case present => exact .present
    case updatedOrGone =>
      refine .reached hu fun version hv => ?_
      cases hm : m.resourceVersion
      case none => exact absurd (.outdated rfl hu.symm hv (by simp [hm])) h
      case some observed =>
        refine ⟨observed, rfl, fun hl => h (.outdated rfl hu.symm hv ?_)⟩
        intro _ ho
        cases hm.symm.trans ho
        exact hl
    case markedOrGone =>
      cases hd : m.deletionTimestamp
      case none => exact absurd (.unmarked rfl hu.symm hd) h
      case some => exact .marked hu (by simp [hd])

end Goal

variable {K : Type} [Object K] [Typed K]

-- After a write that has succeeded the kind is not left half loaded. If the store does not track it,
-- a read goes to the server. Otherwise the cache alone answers, in agreement with the write.
theorem Client.get_after_write {scheme : Scheme} {store : Nat → Store} {config : Config}
    {write : Write} {token : Token} {object written : K} {w after : World}
    (known : scheme.isRegistered (Typed.kind K) = true)
    (ok : write.perform ⟨scheme, .ofStore store, config⟩ token object w =
      (⟨written, .ok ()⟩, after))
    (later : World) (unchanged : store later.now = store after.now) (token' : Token) (held : K) :
    ∃ key, (Object.metadata written).key? = some key ∧
      let state := store later.now
      let read := (Client.mk scheme (.ofStore store) config).get token' held key later
      state.isTracked (Typed.kind K) = state.hasSynced (Typed.kind K) ∧
      (state.isTracked (Typed.kind K) = false →
        read = Direct.get scheme token' held key later.counted) ∧
      (state.isTracked (Typed.kind K) = true → read.2 = later.counted ∧
        write.goal.Shown (Typed.kind K) key (Object.metadata written) read.1.found) := by
  have ⟨registration, hr⟩ := Option.isSome_iff_exists.mp known
  have ⟨_, key, scratch, last, hk, _, ha, ho, hv⟩ := Write.settled ok hr
  refine ⟨key, hk, ?_⟩
  intro state read
  have hs : state = store last.now := by rw [ha] at unchanged; exact unchanged
  have hg : read = _ := get_eq _ token' held key later
  simp only [Cache.get_ofStore] at hg ho hv
  rw [← hs] at ho hv
  cases ht : state.isTracked (Typed.kind K)
  case false =>
    have hf : state.hasSynced (Typed.kind K) = false := Store.hasSynced_of_untracked ht
    refine ⟨hf.symm, fun _ => ?_, nofun⟩
    rw [hg, Store.answer_of_untracked ht]
    rfl
  case true =>
    cases hf : state.hasSynced (Typed.kind K)
    case false =>
      rw [Store.answer_of_unsynced ht hf] at ho
      exact absurd (.notSynced rfl) ho
    case true =>
      refine ⟨rfl, nofun, fun _ => ?_⟩
      obtain ⟨found, hx⟩ | hx | hx := Store.answer_of_synced (K := K) key hf
      case inl =>
        rw [hx] at ho
        rw [hg, hx]
        exact ⟨rfl, .of_object ho⟩
      case inr.inl =>
        rw [hx] at ho
        rw [hg, hx]
        exact ⟨rfl, .gone fun hp => ho (.absent hp rfl)⟩
      case inr.inr =>
        rw [hx] at hv
        cases hv

-- A store that changes with each millisecond. At the first read of a wait it has been reset, at the
-- second it is listed again.
def Sample.store (time : Nat) : Store :=
  Store.empty.applyAll <| List.take time
    [.insert (.ofObject (configMap "u" "7")),
      .delete ConfigMap.resource.kind ⟨none, "other"⟩,
      .reset ConfigMap.resource.kind,
      .insert (.ofObject (configMap "u" "9")),
      .replace ConfigMap.resource.kind
        [.bare (some ⟨"v1", "ConfigMap"⟩) (configMap "u" "10").metadata]]

theorem Client.get_after_write_relisted :
    let client := Sample.client (.ofStore Sample.store)
    let call := (Write.update ⟨false, none⟩).perform client .never (Sample.configMap "u" "7")
      (Sample.world [Object.write (Sample.configMap "u" "10")])
    (Sample.store call.2.now).isTracked ConfigMap.resource.kind = true ∧
      (Sample.store call.2.now).hasSynced ConfigMap.resource.kind = true := by
  intro client call
  have ok : call = (⟨Sample.configMap "u" "10", .ok ()⟩, call.2) :=
    Prod.ext (by decide +kernel) (by dsimp only)
  have tracked : (Sample.store call.2.now).isTracked ConfigMap.resource.kind = true := by
    decide +kernel
  have known : client.scheme.isRegistered ConfigMap.resource.kind = true := rfl
  have ⟨_, _, h, _⟩ := get_after_write known ok call.2 rfl .never (Sample.configMap "u" "7")
  exact ⟨tracked, h.symm.trans tracked⟩

end ReadYourWrites
