import ReadYourWrites.Proofs.Client.Read
import ReadYourWrites.Proofs.Client.Write

-- The history of one key whose only writer is a waiting client. The cache shows the history with
-- delay. Before each write it shows all of it, so the read that ends the wait has either the state
-- just before the write or the one just after it, and the wait does not end with the former.

namespace ReadYourWrites

section

variable {K : Type} [Object K]

-- Whether one state of an object is followed by the other: it is the same object in a later version.
structure Succeeds (old new : Metadata) : Prop where
  uid : new.uid = old.uid
  version : ∃ m n, old.resourceVersion.bind Text.readWord = some m ∧
    new.resourceVersion.bind Text.readWord = some n ∧ m < n

theorem Succeeds.compare {old new : Metadata} (h : Succeeds old new) :
    ∃ v, new.resourceVersion = some v ∧
      ∀ u, old.resourceVersion = some u → Version.compare u v = .lt := by
  obtain ⟨m, n, hm, hn, hl⟩ := h.version
  obtain ⟨v, hv, hn⟩ := Option.bind_eq_some_iff.mp hn
  refine ⟨v, hv, fun u hu => ?_⟩
  rw [hu, Option.bind_some] at hm
  simp only [Version.compare, hm, hn]
  exact Nat.compare_eq_lt.mpr hl

-- Whether an object is the one in the given state, in some version. It is if there is none.
def IsVersionOf (object : K) (state : Option K) : Prop :=
  ∀ present ∈ state, (Object.metadata object).uid = (Object.metadata present).uid

-- What an accepted write does on the server to the state of its key. `held` is the object as the
-- server last returned it, `given` is what the write gets, and `returned` is what it hands back.
inductive Change (held given returned : K) : Write → Option K → Option K → Prop
  | created {options} : Change held given returned (.create options) none (some returned)
  | updated {write before} : write.goal = .updatedOrGone →
      Succeeds (Object.metadata before) (Object.metadata returned) →
      Change held given returned write (some before) (some returned)
  -- An update of an object marked for deletion that drops the last finalizer.
  | released {write before} : write.goal = .updatedOrGone →
      (Object.metadata before).deletionTimestamp.isSome = true →
      (Object.metadata returned).finalizers.getD [] = [] →
      Succeeds (Object.metadata before) (Object.metadata returned) →
      Change held given returned write (some before) none
  | removed {options before} : given = held → (Object.metadata before).deletionTimestamp = none →
      Change held given returned (.delete options) (some before) none
  | marked {options before after} : given = held →
      (Object.metadata before).deletionTimestamp = none →
      (Object.metadata after).deletionTimestamp.isSome = true →
      Succeeds (Object.metadata before) (Object.metadata after) →
      Change held given returned (.delete options) (some before) (some after)

-- The accepted writes that change nothing.
inductive Idle (held given returned : K) : Write → Option K → Prop
  | updated {write} : write.goal = .updatedOrGone → Idle held given returned write (some returned)
  | deleted {options before} : given = held →
      (Object.metadata before).deletionTimestamp.isSome = true →
      Idle held given returned (.delete options) (some before)

variable {held given returned : K} {write : Write} {before after : Option K}

theorem Change.isVersionOf (h : Change held given returned write before after)
    (hd : write.goal = .markedOrGone → returned = given) (hv : IsVersionOf held before) :
    IsVersionOf returned after := by
  intro present hp
  cases h with
  | created | updated => cases hp; rfl
  | released | removed => cases hp
  | marked hh _ _ hs =>
    cases hp
    rw [hd rfl, hh, hv _ rfl, hs.uid]

theorem Idle.isVersionOf (h : Idle held given returned write before)
    (hd : write.goal = .markedOrGone → returned = given) (hv : IsVersionOf held before) :
    IsVersionOf returned before := by
  intro present hp
  cases h with
  | updated => cases hp; rfl
  | deleted hh _ => rw [hd rfl, hh, hv _ hp]

-- The states that a key goes through on the server, and what the reads of the cache see of them:
-- the read with a given number finds the state after `shown` changes.
structure History (K : Type) [Object K] [Typed K] (key : Key) where
  state : Nat → Option K
  shown : Nat → Nat
  shown_mono {m n : Nat} : m ≤ n → shown m ≤ shown n
  store : Nat → Store
  shows (n : Nat) : (store n).Shows key (state (shown n))

variable [Typed K]

-- A sequence of successful writes of the key, after which the server has made `latest` changes, the
-- cache has been read `reads` times, and `held` is the object as the server last returned it.
inductive Run (scheme : Scheme) (config : Config) {key : Key} (history : History K key) :
    (latest reads : Nat) → (held : K) → Prop
  | start {latest reads held} : latest ≤ history.shown reads →
      IsVersionOf held (history.state latest) →
      Run scheme config history latest reads held
  | change {latest reads held write token given returned w after} :
      Run scheme config history latest reads held → reads ≤ w.reads →
      Change held given returned write (history.state latest) (history.state (latest + 1)) →
      (Object.metadata returned).key? = some key →
      write.perform ⟨scheme, .ofReads history.store, config⟩ token given w =
        (⟨returned, .ok ()⟩, after) →
      (∀ n < after.reads, history.shown n ≤ latest + 1) →
      Run scheme config history (latest + 1) after.reads returned
  | idle {latest reads held write token given returned w after} :
      Run scheme config history latest reads held → reads ≤ w.reads →
      Idle held given returned write (history.state latest) →
      (Object.metadata returned).key? = some key →
      write.perform ⟨scheme, .ofReads history.store, config⟩ token given w =
        (⟨returned, .ok ()⟩, after) →
      Run scheme config history latest after.reads returned

-- A wait for a change stays open as long as the cache shows the state before it.
theorem Change.leavesOpen (key : Key) (h : Change held given returned write before after)
    (hd : write.goal = .markedOrGone → returned = given) (hv : IsVersionOf held before) :
    write.goal.Open ((Object.metadata returned).receipt key)
      ((Store.showing key before).map Object.metadata) := by
  cases h with
  | created => exact .absent rfl rfl
  | updated hg hs | released hg _ _ hs =>
    have ⟨_, hv, hc⟩ := hs.compare
    exact .outdated hg (.of_uid hs.uid) hv hc
  | removed hh hm | marked hh hm _ _ =>
    have hr : returned = held := (hd rfl).trans hh
    exact .unmarked rfl (.of_uid (hr ▸ hv _ rfl)) hm

variable {scheme : Scheme} {config : Config} {key : Key} {history : History K key}
  {latest reads : Nat}

-- What the last read of a successful write has seen of the history.
theorem History.settled {token : Token} {w final : World}
    (known : scheme.isRegistered (Typed.kind K) = true)
    (named : (Object.metadata returned).key? = some key)
    (ok : write.perform ⟨scheme, .ofReads history.store, config⟩ token given w =
      (⟨returned, .ok ()⟩, final)) :
    (write.goal = .markedOrGone → returned = given) ∧
      ∃ last, w.reads ≤ last ∧ final.reads = last + 1 ∧
        ¬write.goal.Open ((Object.metadata returned).receipt key)
          ((Store.showing key (history.state (history.shown last))).map Object.metadata) := by
  have ⟨_, hg⟩ := Option.isSome_iff_exists.mp known
  have ⟨hd, _, _, last, hk, hl, hf, ho, _⟩ := Write.settled ok hg
  cases named.symm.trans hk
  rw [Cache.get_ofReads, (history.shows last.reads).answer_eq] at ho
  have hr : (write.direct scheme token given w).1.object = returned := congrArg (·.object) hd
  refine ⟨fun hg => ?_, last.reads, hl, by rw [hf, World.counted_reads], ho⟩
  rw [← hr, Write.direct_object hg]

-- After each write the cache shows all changes, and the writer holds the present object.
theorem Run.caughtUp (known : scheme.isRegistered (Typed.kind K) = true)
    (run : Run scheme config history latest reads held) :
    latest ≤ history.shown reads ∧ IsVersionOf held (history.state latest) := by
  induction run with
  | start hs hv => exact ⟨hs, hv⟩
  | @change latest reads _ _ _ _ _ w _ _ hr hc hk ok hb ih =>
    have ⟨hs, hv⟩ := ih
    have ⟨hd, last, hl, hf, ho⟩ := History.settled known hk ok
    refine ⟨?_, hc.isVersionOf hd hv⟩
    -- The last read of the wait has the state before the change or the one after it, and in the
    -- former the wait would have gone on.
    have hn : history.shown last ≠ latest := fun he => ho (he ▸ hc.leavesOpen _ hd hv)
    have hi : history.shown reads ≤ history.shown last := history.shown_mono (Nat.le_trans hr hl)
    have hj : history.shown last ≤ history.shown (last + 1) := history.shown_mono (Nat.le_succ _)
    rw [hf]
    omega
  | idle _ hr hi hk ok ih =>
    have ⟨hs, hv⟩ := ih
    have ⟨hd, last, hl, hf, _⟩ := History.settled known hk ok
    refine ⟨Nat.le_trans hs (history.shown_mono ?_), hi.isVersionOf hd hv⟩
    omega

-- A client that is the only writer of a key reads its own writes. After any sequence of successful
-- creations, updates and deletions the store of the cache is in the latest state of the server, and
-- a read finds it there without a request.
theorem Client.read_your_writes (known : scheme.isRegistered (Typed.kind K) = true)
    (run : Run scheme config history latest reads held) (w : World) (next : reads ≤ w.reads)
    (past : history.shown w.reads ≤ latest) (token : Token) (object : K) :
    (history.store w.reads).Shows key (history.state latest) ∧
      (Client.mk scheme (.ofReads history.store) config).get token object key w =
        (match history.state latest with
          | some present => ⟨present, .ok ()⟩
          | none => ⟨object, .error (.notFound (Typed.kind K).name key)⟩, w.counted) := by
  have he : history.shown w.reads = latest :=
    Nat.le_antisymm past (Nat.le_trans (run.caughtUp known).left (history.shown_mono next))
  have hs := history.shows w.reads
  rw [he] at hs
  refine ⟨hs, ?_⟩
  rw [get_eq, Cache.get_ofReads, hs.answer_eq]
  cases history.state latest <;> rfl

end

-- A config map that is created, gets a finalizer, is marked for deletion and loses the finalizer,
-- in a cache that shows each change to the second read after it.
namespace Sample

def midnight : Timestamp :=
  ⟨⟨2024, 1, 1, 0, 0, 0⟩, by decide⟩

def life : Nat → Option ConfigMap
  | 1 => some (configMap "u" "1")
  | 2 => some { configMap "u" "2" with metadata.finalizers := some ["guard"] }
  | 3 => some { configMap "u" "3" with
      metadata.finalizers := some ["guard"], metadata.deletionTimestamp := some midnight }
  | _ => none

-- The object after so many changes, or as the server returns it when it is gone.
def version (n : Nat) : ConfigMap :=
  (life n).getD { configMap "u" "4" with metadata.deletionTimestamp := some midnight }

def key : Key :=
  ⟨none, "settings"⟩

def listing (state : Option ConfigMap) : Store :=
  .set .empty ConfigMap.resource.kind
    ⟨(state.map fun object => Table.empty.insert key (Object.write object)).getD .empty, true⟩

theorem listing_shows (n : Nat) : (listing (life n)).Shows key (life n) := by
  match n with
  | 0 | n + 4 => exact ⟨.empty, rfl, rfl⟩
  | 1 | 2 | 3 => exact ⟨_, rfl, by decide +kernel⟩

def history : History ConfigMap key where
  state := life
  shown n := (n + 1) / 2
  shown_mono h := by omega
  store n := listing (life ((n + 1) / 2))
  shows n := listing_shows ((n + 1) / 2)

-- The write that makes the change with the given number.
def call (write : Write) (n : Nat) : Outcome ConfigMap × World :=
  write.perform (client (.ofReads history.store)) .never (version (n - 1))
    { world [Object.write (version n)] with reads := 2 * (n - 1) }

theorem run_change {n : Nat} {held returned : ConfigMap} (write : Write)
    (run : Run scheme config history n (2 * n) held)
    (change : Change held (version n) returned write (life n) (life (n + 1)))
    (named : (Object.metadata returned).key? = some key)
    (ok : (call write (n + 1)).1 = ⟨returned, .ok ()⟩)
    (reads : (call write (n + 1)).2.reads = 2 * (n + 1)) :
    Run scheme config history (n + 1) (2 * (n + 1)) returned := by
  have past : ∀ i < (call write (n + 1)).2.reads, history.shown i ≤ n + 1 := by
    intro i hi
    simp only [history]
    omega
  rw [← reads]
  exact .change run (Nat.le_refl _) change named (Prod.ext ok rfl) past

end Sample

theorem Client.read_your_writes_through_life :
    (Sample.client (.ofReads Sample.history.store)).get .never (Sample.version 1) Sample.key
        { Sample.world [] with reads := 8 } =
      (⟨Sample.version 1, .error (.notFound "ConfigMap" Sample.key)⟩,
        { Sample.world [] with reads := 9 }) := by
  have start : Run Sample.scheme Sample.config Sample.history 0 0 (Sample.version 0) :=
    .start (Nat.le_refl 0) fun _ h => nomatch show none = some _ from h
  have created : Run Sample.scheme Sample.config Sample.history 1 2 (Sample.version 1) :=
    Sample.run_change (.create ⟨false, none⟩) start .created rfl (by decide +kernel)
      (by decide +kernel)
  have updated : Run Sample.scheme Sample.config Sample.history 2 4 (Sample.version 2) :=
    Sample.run_change (.update ⟨false, none⟩) created
      (.updated rfl ⟨rfl, 1, 2, by decide +kernel, by decide +kernel, by decide⟩) rfl
      (by decide +kernel) (by decide +kernel)
  have marked : Run Sample.scheme Sample.config Sample.history 3 6 (Sample.version 2) :=
    Sample.run_change (.delete ⟨false, none, none, none⟩) updated
      (.marked rfl rfl rfl ⟨rfl, 2, 3, by decide +kernel, by decide +kernel, by decide⟩) rfl
      (by decide +kernel) (by decide +kernel)
  have released : Run Sample.scheme Sample.config Sample.history 4 8 (Sample.version 4) :=
    Sample.run_change (.update ⟨false, none⟩) marked
      (.released rfl rfl rfl ⟨rfl, 3, 4, by decide +kernel, by decide +kernel, by decide⟩) rfl
      (by decide +kernel) (by decide +kernel)
  have read := Client.read_your_writes rfl released { Sample.world [] with reads := 8 }
    (Nat.le_refl _) (Nat.le_refl _) .never (Sample.version 1)
  exact read.right

end ReadYourWrites
