import ReadYourWrites.Proofs.Client.Write

-- What a delete waits for. The server deletes the object that it holds under the key, whatever uid
-- the caller's object has, but the wait looks for the uid of the caller's object.

namespace ReadYourWrites

namespace Goal

-- The answers of the cache that do not show the object with the given uid alive.
inductive Departed (uid : Option String) : Except Error Metadata → Prop
  | missing {e} : e.isNotFound = true → Departed uid (.error e)
  | unheld {e} : e.isNotRegistered = true → Departed uid (.error e)
  | marked {m} : m.deletionTimestamp.isSome = true → Departed uid (.ok m)
  | other {m} : m.uid.getD "" ≠ uid.getD "" → Departed uid (.ok m)

-- An answer that ends a wait after a delete with success does not show the object waited for alive.
theorem Departed.of_verdict {receipt : Receipt} {answer : Except Error Metadata}
    (hd : ¬Open .markedOrGone receipt answer) (hv : verdict answer = .ok ()) :
    Departed receipt.uid answer := by
  cases answer
  case error e =>
    cases hf : e.isNotFound
    case true => exact .missing hf
    case false =>
      cases hr : e.isNotRegistered
      case true => exact .unheld hr
      case false => simp [verdict, hf, hr] at hv
  case ok m =>
    by_cases hu : m.uid.getD "" = receipt.uid.getD ""
    case neg => exact .other hu
    case pos =>
      cases hm : m.deletionTimestamp
      case some => exact .marked (by simp [hm])
      case none => exact absurd (.unmarked rfl hu.symm hm) hd

theorem Departed.congr {uid uid' : Option String} {answer : Except Error Metadata}
    (hu : uid.getD "" = uid'.getD "") (h : Departed uid answer) : Departed uid' answer := by
  cases h with
  | missing hf => exact .missing hf
  | unheld hr => exact .unheld hr
  | marked hm => exact .marked hm
  | other hn => exact .other (hu ▸ hn)

end Goal

variable {K : Type} [Object K]

-- A cache that shows one and the same object for ever.
def Cache.constant (object : K) : Cache where
  find _ _ _ _ := .ok (Object.write object)
  select _ _ _ _ _ := .ok [Object.write object]

theorem Cache.get_constant {object : K} (stored : Object.read (Object.write object) = some object)
    (held : K) (key : Key) (w : World) : ((constant object).get held key w).1 = .ok object := by
  simp only [get, constant, Except.bind, Object.decode, stored]

-- A delete that the server has accepted never succeeds on a read that shows the deleted object alive,
-- through no cache and with no config, just if the caller's object has the uid of the deleted one. A
-- missing uid counts as the empty one. `alive` is the deleted object as a cache may still show it.
theorem Client.delete_departed_iff [Typed K] {scheme : Scheme} {token : Token}
    {options : DeleteOptions} {given alive scratch : K} {key : Key} {registration : Registration}
    {w mid : World}
    (accepted : Direct.delete scheme token given options w = (⟨given, .ok ()⟩, mid))
    (calm : token.isCancelled mid = false)
    (named : (Object.metadata given).key? = some key)
    (known : scheme.get? (Typed.kind K) = some registration)
    (readable : Object.read registration.template = some scratch)
    (unmarked : (Object.metadata alive).deletionTimestamp = none)
    (stored : Object.read (Object.write alive) = some alive) :
    (∀ (cache : Cache) (config : Config) (after : World),
      (Client.mk scheme cache config).delete token given options w = (⟨given, .ok ()⟩, after) →
      ∃ last : World, mid.reads ≤ last.reads ∧ after = last.counted ∧
        Goal.Departed (Object.metadata alive).uid
          ((cache.get scratch key last).1.map Object.metadata)) ↔
    (Object.metadata given).uid.getD "" = (Object.metadata alive).uid.getD "" := by
  constructor
  case mpr =>
    intro hu cache config after ok
    have hp : (Write.delete options).perform ⟨scheme, cache, config⟩ token given w =
      (⟨given, .ok ()⟩, after) := ok
    have ⟨k, s, m, n, hk, hs, hd, _, he⟩ := Write.rounds hp known
    cases named.symm.trans hk
    cases readable.symm.trans hs
    cases accepted.symm.trans hd
    have ⟨ho, hv, ha⟩ := he.of_ok
    exact ⟨_, by simp, ha, (Goal.Departed.of_verdict ho hv).congr hu⟩
  case mp =>
    intro h
    apply Decidable.byContradiction
    intro hu
    -- The wait takes the deleted object for another one that has its key.
    have hc := Cache.get_constant stored scratch key mid
    have hn : ¬(Write.delete options).goal.Open ((Object.metadata given).receipt key)
        (((Cache.constant alive).get scratch key mid).1.map Object.metadata) := by
      rw [hc]
      intro ho
      cases ho with
      | outdated hg => cases hg
      | unmarked _ hm _ => exact hu hm
    have hp : (Write.delete options).perform ⟨scheme, .constant alive, .default⟩ token given w = _ :=
      Write.perform_of_first accepted calm named known readable hn
    rw [hc] at hp
    have ⟨last, _, _, hd⟩ := h (.constant alive) .default _ hp
    rw [Cache.get_constant stored] at hd
    cases hd with
    | marked hm => simp [unmarked] at hm
    | other hm => exact hm rfl

namespace Sample

def plainDelete : DeleteOptions :=
  ⟨false, none, none, none⟩

-- A cache that lets go of the object after its first read.
def burying : Cache where
  find reads _ _ key :=
    if reads = 0 then .ok (Object.write (configMap "u" "9"))
    else .error (.notFound ConfigMap.resource.kind.name key)
  select _ _ _ _ _ := .ok []

def bury : Outcome ConfigMap × World :=
  (client burying).delete .never (configMap "u" "7") plainDelete
    (world [Object.write (configMap "u" "9")])

end Sample

-- A delete of an object that the caller knows in an older version waits for the second read.
theorem Client.delete_departed_later :
    Sample.bury.1 = ⟨Sample.configMap "u" "7", .ok ()⟩ ∧ Sample.bury.2.reads = 2 ∧
      ∃ last : World, Sample.bury.2 = last.counted ∧
        Goal.Departed (some "u") ((Sample.burying.get (⟨.empty, none, none, none⟩ : ConfigMap)
          ⟨none, "settings"⟩ last).1.map Object.metadata) := by
  have ok : Sample.bury.1 = ⟨Sample.configMap "u" "7", .ok ()⟩ := by decide +kernel
  have accepted : Direct.delete Sample.scheme .never (Sample.configMap "u" "7") Sample.plainDelete
      (Sample.world [Object.write (Sample.configMap "u" "9")]) =
        (⟨Sample.configMap "u" "7", .ok ()⟩, _) := rfl
  have readable : Object.read Sample.registration.template =
      some (⟨.empty, none, none, none⟩ : ConfigMap) := rfl
  have named : (Object.metadata (Sample.configMap "u" "7")).key? = some ⟨none, "settings"⟩ := rfl
  have known : Sample.scheme.get? ConfigMap.resource.kind = some Sample.registration := rfl
  have stored : Object.read (Object.write (Sample.configMap "u" "9")) =
    some (Sample.configMap "u" "9") := by decide +kernel
  have departed := (delete_departed_iff accepted rfl named known readable rfl stored).mpr rfl
  have ⟨last, _, ha, hd⟩ := departed Sample.burying Sample.config Sample.bury.2 (Prod.ext ok rfl)
  exact ⟨ok, by decide +kernel, last, ha, hd⟩

-- With a missing uid, or the uid of an earlier object, a delete succeeds on a read that shows the
-- deleted object alive.
theorem Client.delete_unnoticed :
    let alive := Sample.configMap "u" "9"
    let call (given : ConfigMap) := (Sample.client (.constant alive)).delete .never given
      Sample.plainDelete (Sample.world [Object.write alive])
    let unset := { alive with metadata.uid := none }
    let earlier := Sample.configMap "t" "3"
    ((call unset).1 = ⟨unset, .ok ()⟩ ∧ (call unset).2.reads = 1) ∧
      ((call earlier).1 = ⟨earlier, .ok ()⟩ ∧ (call earlier).2.reads = 1) ∧
      ¬Goal.Departed (some "u") (.ok (Object.metadata alive)) := by
  refine ⟨by decide +kernel, by decide +kernel, ?_⟩
  intro hd
  cases hd with
  | marked hm => cases hm
  | other hu => exact hu rfl

end ReadYourWrites
