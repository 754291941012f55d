import ReadYourWrites.Proofs.Client.History
import ReadYourWrites.Proofs.Version

-- Writes that bring an object into being, in the history of a key that many clients write. The cache
-- shows the history with delay. So it may still show the key without an object, or with an earlier
-- object that the server has deleted since.

namespace ReadYourWrites

section

variable {K : Type} [Object K]

theorem Succeeds.trans {a b c : Metadata} (hb : Succeeds a b) (hc : Succeeds b c) :
    Succeeds a c where
  uid := hc.uid.trans hb.uid
  version := by
    have ⟨l, m, hl, hm, hlm⟩ := hb.version
    have ⟨_, n, hm', hn, hmn⟩ := hc.version
    cases hm.symm.trans hm'
    exact ⟨l, n, hl, hn, Nat.lt_trans hlm hmn⟩

-- How the state of a key on the server goes on, whoever writes it. Where a history ends, its last
-- state stays.
inductive Next : Option K → Option K → Prop
  | created {new} : Next none (some new)
  | changed {old new} : Succeeds (Object.metadata old) (Object.metadata new) →
      Next (some old) (some new)
  | removed {old} : Next (some old) none
  | ended {state} : Next state state

-- The states of a key after each change. A new object does not take the uid of an earlier one.
structure Life (state : Nat → Option K) : Prop where
  next (n : Nat) : Next (state n) (state (n + 1))
  fresh {m n : Nat} {old new : K} : m < n → state m = some old → state n = none →
    state (n + 1) = some new →
    (Object.metadata new).uid.getD "" ≠ (Object.metadata old).uid.getD ""

namespace Life

variable {state : Nat → Option K} {m n : Nat} {old new written : K}

-- As long as a key holds one object, its version grows.
theorem follows (life : Life state) (hm : state m = some old) (le : m ≤ n)
    (hn : state n = some new)
    (hu : (Object.metadata new).uid.getD "" = (Object.metadata old).uid.getD "") :
    new = old ∨ Succeeds (Object.metadata old) (Object.metadata new) := by
  induction le generalizing new with
  | refl =>
    cases hm.symm.trans hn
    exact .inl rfl
  | @step n le ih =>
    have hx := life.next n
    rw [hn] at hx
    generalize hp : state n = before at hx
    cases hx with
    | created =>
      have hlt : m < n := Nat.lt_of_le_of_ne le fun he => by simp [← he, hm] at hp
      exact absurd hu (life.fresh hlt hm hp hn)
    | changed hs =>
      right
      cases ih hp (by rw [← hs.uid]; exact hu)
      case inl he => exact he ▸ hs
      case inr ho => exact ho.trans hs
    | ended => exact ih hp hu

theorem reached (h : new = old ∨ Succeeds (Object.metadata old) (Object.metadata new))
    {version : String} (hv : (Object.metadata old).resourceVersion = some version) :
    ∃ observed, (Object.metadata new).resourceVersion = some observed ∧
      Version.compare observed version ≠ .lt := by
  cases h
  case inl he => exact ⟨version, he ▸ hv, by simp [Version.compare_self]⟩
  case inr hs =>
    have ⟨k, l, hk, hl, hlt⟩ := hs.version
    obtain ⟨observed, ho, hl⟩ := Option.bind_eq_some_iff.mp hl
    rw [hv, Option.bind_some] at hk
    refine ⟨observed, ho, ?_⟩
    simp only [Version.compare, hk, hl]
    intro hc
    have := Nat.compare_eq_lt.mp hc
    omega

-- Whatever state of the key the cache shows, it decides a wait for an object that a patch has
-- created: before, the key is empty or belongs to another object, and from then on to one in no
-- older version, to another one or to none.
theorem decides [Typed K] (life : Life state) (absent : state n = none)
    (made : state (n + 1) = some written) (key : Key) (p : Nat) :
    ¬Goal.updatedOrGone.Open ((Object.metadata written).receipt key)
      ((Store.showing key (state p)).map Object.metadata) := by
  intro ho
  cases hp : state p
  case none =>
    rw [hp] at ho
    cases ho with
    | notSynced hs => cases hs
    | absent hg => cases hg
  case some seen =>
    rw [hp] at ho
    cases ho with
    | outdated _ hu hv hl =>
      by_cases hle : p ≤ n
      case pos =>
        have hlt : p < n := Nat.lt_of_le_of_ne hle fun he => by simp [← he, hp] at absent
        exact life.fresh hlt hp absent made hu
      case neg =>
        have ⟨observed, hs, hc⟩ := reached (life.follows made (by omega) hp hu.symm) hv
        exact hc (hl observed hs)
    | unmarked hg => cases hg

end Life

-- A wait for presence stays open just as long as the cache shows no object.
theorem Goal.open_present_iff [Typed K] {receipt : Receipt} {key : Key} {state : Option K} :
    Goal.present.Open receipt ((Store.showing key state).map Object.metadata) ↔ state = none := by
  cases state
  case none => exact ⟨fun _ => rfl, fun _ => .absent rfl rfl⟩
  case some =>
    constructor
    case mp =>
      intro ho
      cases ho with
      | outdated hg | unmarked hg => cases hg
    case mpr => nofun

variable [Typed K] {scheme : Scheme} {config : Config} {key : Key} {history : History K key}

-- What the reads of a successful write have seen of the history: all of them but the last leave its
-- wait open.
theorem History.awaited {write : Write} {token : Token} {object written : K} {w after : World}
    (known : scheme.isRegistered (Typed.kind K) = true)
    (named : (Object.metadata written).key? = some key)
    (ok : write.perform ⟨scheme, .ofReads history.store, config⟩ token object w =
      (⟨written, .ok ()⟩, after)) :
    ∃ last, w.reads ≤ last ∧ after.reads = last + 1 ∧
      (∀ i, w.reads ≤ i → i < last → write.goal.Open ((Object.metadata written).receipt key)
        ((Store.showing key (history.state (history.shown i))).map Object.metadata)) ∧
      ¬write.goal.Open ((Object.metadata written).receipt key)
        ((Store.showing key (history.state (history.shown last))).map Object.metadata) := by
  have ⟨_, hg⟩ := Option.isSome_iff_exists.mp known
  have ⟨_, scratch, mid, n, hk, _, hd, hi, he⟩ := Write.rounds ok hg
  cases named.symm.trans hk
  have hm : mid.reads = w.reads := by
    rw [← write.direct_reads scheme token object w, hd]
  have ha (i : Nat) : Wait.answer (.ofReads history.store) (Wait.plan config write.goal
      (Typed.kind K) ((Object.metadata written).receipt key) scratch mid.now) mid i =
        (Store.showing key (history.state (history.shown (w.reads + i)))).map Object.metadata := by
    rw [Wait.answer, Cache.get_ofReads, Wait.round_reads, hm]
    exact congrArg (Except.map Object.metadata) (history.shows (w.reads + i)).answer_eq
  refine ⟨w.reads + n, Nat.le_add_right .., ?_, ?_, ?_⟩
  case refine_1 => rw [he.frame.right.right, hm]
  case refine_2 =>
    intro i hl hn
    have hu := (hi (i - w.reads) (by omega)).unmet
    rw [ha, Nat.add_sub_cancel' hl] at hu
    exact hu
  case refine_3 =>
    have hu := he.of_ok.left
    rw [ha] at hu
    exact hu

-- A write that creates an object and succeeds has at last seen the history from the creation on, or
-- the key without an object or with an earlier one, which the server had deleted before. A create
-- has waited until the cache shows an object, so it has seen the creation if the cache had seen that
-- deletion before. A patch does not wait at all: its first read counts, whatever it shows.
theorem Client.creation_seen {write : Write} {token : Token} {object written : K} {w after : World}
    {n : Nat} (known : scheme.isRegistered (Typed.kind K) = true) (life : Life history.state)
    (absent : history.state n = none) (made : history.state (n + 1) = some written)
    (named : (Object.metadata written).key? = some key)
    (ok : write.perform ⟨scheme, .ofReads history.store, config⟩ token object w =
      (⟨written, .ok ()⟩, after)) :
    ∃ last, w.reads ≤ last ∧ after.reads = last + 1 ∧
      (n < history.shown last ∨ ∀ seen, history.state (history.shown last) = some seen →
        history.shown last < n ∧
          (Object.metadata seen).uid.getD "" ≠ (Object.metadata written).uid.getD "") ∧
      (∀ options, write = .create options →
        (∀ i, w.reads ≤ i → i < last → history.state (history.shown i) = none) ∧
        (∃ seen, history.state (history.shown last) = some seen) ∧
        (n ≤ history.shown w.reads → n < history.shown last)) ∧
      ∀ body options, write = .patch body options → last = w.reads := by
  have ⟨last, hl, hr, ho, hd⟩ := History.awaited known named ok
  refine ⟨last, hl, hr, ?_, ?_, ?_⟩
  case refine_1 =>
    by_cases hn : n < history.shown last
    case pos => exact .inl hn
    case neg =>
      right
      intro seen hs
      have hx : history.shown last ≠ n := fun he => by simp [he, absent] at hs
      have hlt : history.shown last < n := by omega
      exact ⟨hlt, (life.fresh hlt hs absent made).symm⟩
  case refine_2 =>
    intro options hw
    subst hw
    have ⟨seen, hs⟩ := Option.ne_none_iff_exists'.mp (mt Goal.open_present_iff.mpr hd)
    refine ⟨fun i hi hlt => Goal.open_present_iff.mp (ho i hi hlt), ⟨seen, hs⟩, fun hf => ?_⟩
    have hx : history.shown last ≠ n := fun he => by simp [he, absent] at hs
    have := history.shown_mono hl
    omega
  case refine_3 =>
    intro body options hw
    subst hw
    refine Nat.le_antisymm (Nat.le_of_not_lt fun hlt => ?_) hl
    exact life.decides absent made key _ (ho w.reads (Nat.le_refl _) hlt)

end

-- A config map that is created, deleted and created again.
namespace Sample

def reborn : Nat → Option ConfigMap
  | 0 | 2 => none
  | 1 => some (configMap "u" "1")
  | _ => some (configMap "v" "3")

theorem reborn_life : Life reborn where
  next
    | 0 | 2 => .created
    | 1 => .removed
    | _ + 3 => .ended
  fresh {m n old new} hlt hm hn hs := by
    match n, m with
    | 2, 1 =>
      cases hm
      cases hs
      decide
    | 2, 0 => cases hm
    | 1, _ | _ + 3, _ => cases hn

theorem reborn_shows (n : Nat) : (listing (reborn n)).Shows key (reborn n) := by
  match n with
  | 0 | 2 => exact ⟨.empty, rfl, rfl⟩
  | 1 => exact ⟨_, rfl, by decide +kernel⟩
  | _ + 3 =>
    show (listing (reborn 3)).Shows key (reborn 3)
    exact ⟨_, rfl, by decide +kernel⟩

-- Its history in a cache that has come so far at each read.
def rebirth (shown : Nat → Nat) (mono : ∀ {m n : Nat}, m ≤ n → shown m ≤ shown n) :
    History ConfigMap key where
  state := reborn
  shown := shown
  shown_mono := mono
  store n := listing (reborn (shown n))
  shows n := reborn_shows (shown n)

def stuck (n : Nat) : History ConfigMap key :=
  rebirth (fun _ => n) fun _ => Nat.le_refl n

def catchingUp : History ConfigMap key :=
  rebirth (· + 2) (Nat.add_le_add_right · 2)

-- The write that creates the config map for the second time.
def recreate (write : Write) (history : History ConfigMap key) : Outcome ConfigMap × World :=
  write.perform (client (.ofReads history.store)) .never (configMap "v" "3")
    (world [Object.write (configMap "v" "3")])

end Sample

-- A cache that has seen the deletion shows the new object to the second read.
theorem Client.creation_seen_after_deletion :
    let call := Sample.recreate (.create ⟨false, none⟩) Sample.catchingUp
    call.1 = ⟨Sample.configMap "v" "3", .ok ()⟩ ∧ call.2.reads = 2 ∧
      2 < Sample.catchingUp.shown 1 := by
  intro call
  have ok : call.1 = ⟨Sample.configMap "v" "3", .ok ()⟩ := by decide +kernel
  have reads : call.2.reads = 2 := by decide +kernel
  have absent : Sample.catchingUp.state 2 = none := rfl
  have made : Sample.catchingUp.state 3 = some (Sample.configMap "v" "3") := rfl
  have ⟨last, _, hr, _, hc, _⟩ := creation_seen rfl Sample.reborn_life absent made rfl
    (show call = (⟨Sample.configMap "v" "3", .ok ()⟩, call.2) from Prod.ext ok rfl)
  cases Nat.succ.inj (hr.symm.trans reads)
  exact ⟨ok, reads, (hc _ rfl).right.right (Nat.le_refl 2)⟩

-- A cache that still shows the first config map satisfies the create of the second one. A patch that
-- creates the second one is also satisfied by a cache that shows none.
theorem Client.creation_unseen :
    let written := Sample.configMap "v" "3"
    let create := Sample.recreate (.create ⟨false, none⟩)
    let apply := Sample.recreate (.patch ⟨.apply, Object.write written⟩ ⟨false, true, some "manager"⟩)
    Life Sample.reborn ∧ Sample.reborn 2 = none ∧ Sample.reborn 3 = some written ∧
      ((create (Sample.stuck 1)).1 = ⟨written, .ok ()⟩ ∧ (create (Sample.stuck 1)).2.reads = 1) ∧
      ((apply (Sample.stuck 1)).1 = ⟨written, .ok ()⟩ ∧ (apply (Sample.stuck 1)).2.reads = 1) ∧
      ((apply (Sample.stuck 0)).1 = ⟨written, .ok ()⟩ ∧ (apply (Sample.stuck 0)).2.reads = 1) ∧
      (Sample.stuck 0).shown 0 < 3 ∧ (Sample.stuck 1).shown 0 < 3 := by
  exact ⟨Sample.reborn_life, rfl, rfl, by decide +kernel, by decide +kernel, by decide +kernel,
    by decide, by decide⟩

end ReadYourWrites
