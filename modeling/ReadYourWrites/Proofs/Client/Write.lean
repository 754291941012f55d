import ReadYourWrites.Client
import ReadYourWrites.Proofs.Wait.Course

-- The writes of single objects as data. Each is carried out by the direct client, and by the
-- waiting client as the same direct call with a wait behind it.

namespace ReadYourWrites

deriving instance DecidableEq for Outcome

-- A write of one object, with what it asks of the server.
inductive Write where
  | create (options : PostOptions)
  | update (options : PostOptions)
  | patch (patch : Patch) (options : PatchOptions)
  | updateStatus (options : PostOptions)
  | patchStatus (patch : Patch) (options : PatchOptions)
  | delete (options : DeleteOptions)
deriving DecidableEq, Repr

namespace Write

-- What the cache has to show after the write.
def goal : Write → Goal
  | .create _ => .present
  | .update _ | .patch _ _ | .updateStatus _ | .patchStatus _ _ => .updatedOrGone
  | .delete _ => .markedOrGone

variable {K : Type} [Object K]

-- The write by the direct client.
def direct (write : Write) (scheme : Scheme) (token : Token) (object : K) (w : World) :
    Outcome K × World :=
  match write with
  | .create options => Direct.create scheme token object options w
  | .update options => Direct.update scheme token object options w
  | .patch body options => Direct.patch scheme token object body options w
  | .updateStatus options => Direct.updateStatus scheme token object options w
  | .patchStatus body options => Direct.patchStatus scheme token object body options w
  | .delete options => Direct.delete scheme token object options w

-- The write by the client that waits for its cache.
def perform (write : Write) (client : Client) (token : Token) (object : K) (w : World) :
    Outcome K × World :=
  match write with
  | .create options => client.create token object options w
  | .update options => client.update token object options w
  | .patch body options => client.patch token object body options w
  | .updateStatus options => client.updateStatus token object options w
  | .patchStatus body options => client.patchStatus token object body options w
  | .delete options => client.delete token object options w

theorem perform_eq (write : Write) (client : Client) (token : Token) (object : K) (w : World) :
    write.perform client token object w =
      client.afterwards token write.goal (write.direct client.scheme token object w) := by
  cases write <;> rfl

end Write

namespace World

-- No request reads the cache.
theorem exchange_reads (token : Token) (request : Except RequestFault Request) (w : World) :
    (w.exchange token request).2.reads = w.reads := by
  simp only [exchange]
  split
  case isTrue => rfl
  case isFalse =>
    split
    case h_1 => rfl
    case h_2 => rfl
    case h_3 =>
      split
      case h_1 => rfl
      case h_2 => split <;> rfl

end World

theorem Prepared.send_reads {α : Type} (token : Token) (call : Except Error (Prepared α))
    (w : World) : (send token call w).2.reads = w.reads := by
  cases call
  case error => rfl
  case ok call => exact w.exchange_reads token call.request

namespace Direct

theorem sendFor_reads {K : Type} (token : Token) (object : K) (call : Except Error (Prepared K))
    (w : World) : (sendFor token object call w).2.reads = w.reads :=
  Prepared.send_reads token call w

end Direct

namespace Write

variable {K : Type} [Object K]

theorem direct_reads (write : Write) (scheme : Scheme) (token : Token) (object : K) (w : World) :
    (write.direct scheme token object w).2.reads = w.reads := by
  cases write
  case delete => exact Prepared.send_reads token _ w
  all_goals exact Direct.sendFor_reads token object _ w

theorem direct_object {write : Write} {scheme : Scheme} {token : Token} {object : K} {w : World}
    (h : write.goal = .markedOrGone) : (write.direct scheme token object w).1.object = object := by
  cases write
  case delete => rfl
  all_goals cases h

-- What becomes of a write that the server has refused.
theorem perform_of_error {write : Write} {client : Client} {token : Token} {object : K} {w : World}
    {e : Error} (h : (write.direct client.scheme token object w).1.result = .error e) :
    write.perform client token object w = write.direct client.scheme token object w := by
  rw [perform_eq]
  cases hd : write.direct client.scheme token object w with
  | mk outcome after =>
    have ⟨written, result⟩ := outcome
    simp only [hd] at h
    rw [h]
    rfl

-- A write that the server has accepted goes on with a wait, which does not touch the object.
theorem perform_of_ok {write : Write} {client : Client} {token : Token} {object written : K}
    {w after : World}
    (h : write.direct client.scheme token object w = (⟨written, .ok ()⟩, after)) :
    ∃ result final, write.perform client token object w = (⟨written, result⟩, final) ∧
      Wait.Course client.cache client.scheme client.config token write.goal written after
        (result, final) := by
  refine ⟨_, _, ?_, Wait.run_course ..⟩
  rw [perform_eq, h]
  rfl

-- An accepted write with nothing to wait for is over.
theorem perform_of_none {write : Write} {client : Client} {token : Token} {object written : K}
    {w mid : World}
    (accepted : write.direct client.scheme token object w = (⟨written, .ok ()⟩, mid))
    (nothing : Wait.subject client.scheme written = .ok none) :
    write.perform client token object w = (⟨written, .ok ()⟩, mid) := by
  have ⟨result, final, hp, hc⟩ := perform_of_ok accepted
  cases hc.of_none nothing
  exact hp

-- An accepted write with something to wait for goes through the rounds of the wait, unless it is
-- cancelled when the wait begins.
theorem perform_of_some {write : Write} {client : Client} {token : Token}
    {object written scratch : K} {w mid : World} {kind : Kind} {receipt : Receipt} {template : Json}
    (accepted : write.direct client.scheme token object w = (⟨written, .ok ()⟩, mid))
    (something : Wait.subject client.scheme written = .ok (some (kind, receipt, template)))
    (readable : Object.read template = some scratch) :
    (token.isCancelled mid = true ∧
        write.perform client token object w = (⟨written, .error .cancelled⟩, mid)) ∨
      token.isCancelled mid = false ∧ ∃ (e : Except Error Unit × World) (n : Nat),
        write.perform client token object w = (⟨written, e.1⟩, e.2) ∧
        (∀ i < n, Wait.Passes client.cache token
          (Wait.plan client.config write.goal kind receipt scratch mid.now) mid i) ∧
        Wait.Ends client.cache token
          (Wait.plan client.config write.goal kind receipt scratch mid.now) mid n e := by
  have ⟨result, final, hp, hc⟩ := perform_of_ok accepted
  obtain ⟨hn, he⟩ | ⟨hn, ⟨ht, -⟩ | ⟨_, n, ht, hi, he⟩⟩ := hc.of_some something
  case inl =>
    cases he
    exact .inl ⟨hn, hp⟩
  case inr.inl => cases ht.symm.trans readable
  case inr.inr =>
    cases ht.symm.trans readable
    exact .inr ⟨hn, (result, final), n, hp, hi, he⟩

-- A write of an object of a registered type that succeeds has been accepted by the server, and it
-- has gone through the rounds of a wait for the written object.
theorem rounds [Typed K] {write : Write} {client : Client} {token : Token} {object written : K}
    {w after : World} {registration : Registration}
    (h : write.perform client token object w = (⟨written, .ok ()⟩, after))
    (hr : client.scheme.get? (Typed.kind K) = some registration) :
    ∃ (key : Key) (scratch : K) (mid : World) (n : Nat),
      (Object.metadata written).key? = some key ∧
      Object.read registration.template = some scratch ∧
      write.direct client.scheme token object w = (⟨written, .ok ()⟩, mid) ∧
      (∀ i < n, Wait.Passes client.cache token (Wait.plan client.config write.goal (Typed.kind K)
        ((Object.metadata written).receipt key) scratch mid.now) mid i) ∧
      Wait.Ends client.cache token (Wait.plan client.config write.goal (Typed.kind K)
        ((Object.metadata written).receipt key) scratch mid.now) mid n (.ok (), after) := by
  cases hd : write.direct client.scheme token object w with
  | mk outcome mid =>
    have ⟨changed, result⟩ := outcome
    cases result
    case error e =>
      have := perform_of_error (congrArg (·.1.result) hd)
      rw [h, hd] at this
      cases this
    case ok =>
      have ⟨result, final, hp, hc⟩ := perform_of_ok hd
      cases h.symm.trans hp
      have ⟨key, hk⟩ := hc.named
      obtain ⟨-, hx⟩ | ⟨-, hx⟩ | ⟨scratch, n, hs, hi, he⟩ := hc.of_typed hk hr
      case inl => cases hx
      case inr.inl => cases hx
      case inr.inr => exact ⟨key, scratch, mid, n, hk, hs, rfl, hi, he⟩

-- The last read of the cache comes just before the end of such a write, and it does not leave the
-- wait open.
theorem settled [Typed K] {write : Write} {client : Client} {token : Token} {object written : K}
    {w after : World} {registration : Registration}
    (h : write.perform client token object w = (⟨written, .ok ()⟩, after))
    (hr : client.scheme.get? (Typed.kind K) = some registration) :
    (write.direct client.scheme token object w).1 = ⟨written, .ok ()⟩ ∧
      ∃ (key : Key) (scratch : K) (last : World), (Object.metadata written).key? = some key ∧
        w.reads ≤ last.reads ∧ after = last.counted ∧
        ¬write.goal.Open ((Object.metadata written).receipt key)
          ((client.cache.get scratch key last).1.map Object.metadata) ∧
        Goal.verdict ((client.cache.get scratch key last).1.map Object.metadata) = .ok () := by
  have ⟨key, scratch, mid, _, hk, _, hd, _, he⟩ := rounds h hr
  have ⟨ho, hv, ha⟩ := he.of_ok
  have hm : mid.reads = w.reads := by
    rw [← write.direct_reads client.scheme token object w, hd]
  exact ⟨congrArg Prod.fst hd, key, scratch, _, hk, by simp [hm], ha, ho, hv⟩

-- A write whose first read of the cache decides the wait ends with that read.
theorem perform_of_first [Typed K] {write : Write} {client : Client} {token : Token}
    {object written scratch : K} {w mid : World} {key : Key} {registration : Registration}
    (accepted : write.direct client.scheme token object w = (⟨written, .ok ()⟩, mid))
    (calm : token.isCancelled mid = false)
    (named : (Object.metadata written).key? = some key)
    (known : client.scheme.get? (Typed.kind K) = some registration)
    (readable : Object.read registration.template = some scratch)
    (decided : ¬write.goal.Open ((Object.metadata written).receipt key)
      ((client.cache.get scratch key mid).1.map Object.metadata)) :
    write.perform client token object w =
      (⟨written, Goal.verdict ((client.cache.get scratch key mid).1.map Object.metadata)⟩,
        mid.counted) := by
  have something := Wait.subject_eq client.scheme named
  rw [known, Option.map_some] at something
  obtain ⟨hn, -⟩ | ⟨-, e, n, hp, hi, he⟩ := perform_of_some accepted something readable
  case inl => cases calm.symm.trans hn
  case inr =>
    have ha : Wait.answer client.cache (Wait.plan client.config write.goal (Typed.kind K)
        ((Object.metadata written).receipt key) scratch mid.now) mid 0 =
          (client.cache.get scratch key mid).1.map Object.metadata := by
      rw [Wait.answer, Wait.round_zero]
      rfl
    have hx := he.of_first hi (by rw [ha]; exact decided)
    rw [hp, hx, ha]

end Write

-- A config map, a server and a client for single runs.
namespace Sample

def configMap (uid version : String) : ConfigMap where
  metadata := { Metadata.empty with
    name := some "settings", uid := some uid, resourceVersion := some version }
  data := none
  binaryData := none
  immutable := none

def registration : Registration :=
  ⟨ConfigMap.resource, Scheme.bareTemplate ConfigMap.resource⟩

-- Each of these answers takes 3 milliseconds.
def world (answers : List Json) : World :=
  ⟨0, answers.map fun json => ⟨3, .ok ⟨200, .json json⟩⟩, [], 0⟩

def scheme : Scheme :=
  .register .empty registration.resource registration.template

-- Reads are 2 milliseconds apart, and a wait takes no more than 4.
def config : Config :=
  ⟨⟨1500000⟩, ⟨3500000⟩⟩

def client (cache : Cache) : Client :=
  ⟨scheme, cache, config⟩

end Sample

end ReadYourWrites
