import ReadYourWrites.Proofs.Watch.Interleaving
import ReadYourWrites.Watch.Feed

-- A cache at work delivers an interleaving of its watches: whatever the server answers and when, the
-- store is at any time what the deliveries up to then have made of the store at the start.

namespace ReadYourWrites

-- Whether one store becomes another by deliveries of some watches.
def Store.Becomes (watches : List Watch) (store after : Store) : Prop :=
  ∃ traffic : Traffic, (∀ x ∈ traffic, x.1 ∈ watches) ∧ after = store.feed traffic

namespace Store.Becomes

variable {watches watches' : List Watch} {watch : Watch} {store mid after : Store}

theorem refl (watches : List Watch) (store : Store) : Becomes watches store store :=
  ⟨[], by simp, rfl⟩

theorem trans : Becomes watches store mid → Becomes watches mid after →
    Becomes watches store after := by
  intro ⟨traffic, hk, hm⟩ ⟨traffic', hk', ha⟩
  refine ⟨traffic ++ traffic', fun x hx => (List.mem_append.mp hx).elim (hk x) (hk' x), ?_⟩
  rw [ha, hm, feed, feed, feed, List.foldl_append]

theorem mono (h : Becomes watches store after) (hs : watches ⊆ watches') :
    Becomes watches' store after := by
  have ⟨traffic, hk, ha⟩ := h
  exact ⟨traffic, fun x hx => hs (hk x hx), ha⟩

theorem of_deliver (watch : Watch) (feed : Feed) (deliveries : List Delivery) :
    Becomes [watch] feed.store (feed.deliver watch.kind deliveries).store := by
  refine ⟨deliveries.map (watch, ·), by simp, ?_⟩
  rw [Store.feed, List.foldl_map]
  rfl

end Store.Becomes

-- A request changes nothing in the store.
theorem Feed.record_store (feed : Feed) (request : Request) :
    (feed.record request).2.store = feed.store := by
  simp only [record]
  split <;> rfl

namespace Follower

-- Whether a follower goes on with its watch and has delivered for that watch only.
structure Advances (watch : Watch) (store : Store) (result : Follower × Feed) : Prop where
  follows : result.1.watch = watch
  delivers : store.Becomes [watch] result.2.store

variable {watch : Watch}

theorem Advances.after {store mid : Store} {result : Follower × Feed}
    (h : Advances watch mid result) (hm : store.Becomes [watch] mid) :
    Advances watch store result :=
  ⟨h.follows, hm.trans h.delivers⟩

theorem advances_still (watch : Watch) (position : Position) (waiting : Waiting) (feed : Feed) :
    Advances watch feed.store (⟨watch, position, waiting⟩, feed) :=
  ⟨rfl, .refl ..⟩

-- To ask for something changes nothing in the store.
theorem ask_store (feed : Feed) (watch : Watch) (position : Position) :
    (ask feed watch position).2.store = feed.store := by
  simp only [ask]
  split
  case h_1 => exact Feed.record_store ..
  case h_2 => rfl

theorem ask_advances (feed : Feed) (watch : Watch) (position : Position) :
    Advances watch feed.store (ask feed watch position) := by
  have hs := ask_store feed watch position
  refine ⟨?_, hs ▸ .refl ..⟩
  simp only [ask]
  split <;> rfl

theorem takeLines_advances {next : Feed → Position → Follower × Feed}
    (h : ∀ feed position, Advances watch feed.store (next feed position)) (feed : Feed)
    (position : Position) (lines : List (List UInt8)) :
    Advances watch feed.store (takeLines feed watch position lines next) := by
  simp only [takeLines]
  split
  case h_1 => exact (h ..).after (.of_deliver ..)
  case h_2 => exact (ask_advances ..).after (.of_deliver ..)

theorem takeStream_advances (held : Bool) (chunks : List Chunk) (due : Nat)
    (unfinished : List UInt8) (feed : Feed) (position : Position) :
    Advances watch feed.store (takeStream watch held chunks due unfinished feed position) := by
  induction chunks generalizing due unfinished feed position with
  | nil =>
    simp only [takeStream]
    split
    case isTrue => exact advances_still ..
    case isFalse => exact takeLines_advances (fun feed position => ask_advances ..) ..
  | cons chunk rest ih =>
    simp only [takeStream]
    split
    case isTrue => exact advances_still ..
    case isFalse => exact takeLines_advances (fun feed position => ih ..) ..

theorem turn_advances (feed : Feed) (follower : Follower) :
    Advances follower.watch feed.store (follower.turn feed) := by
  simp only [turn]
  split
  case h_1 => exact ⟨rfl, .refl ..⟩
  case h_2 => exact takeStream_advances ..
  case h_3 => exact (ask_advances ..).after (.of_deliver ..)
  case h_4 => exact (ask_advances ..).after (.of_deliver ..)
  case h_5 => exact takeStream_advances ..

end Follower

namespace Engine

-- Whether an engine follows some watches and its store comes from another by their deliveries.
structure Serves (watches : List Watch) (store : Store) (engine : Engine) : Prop where
  follows : engine.followers.map Follower.watch = watches
  delivers : store.Becomes watches engine.feed.store

variable {watches : List Watch} {store : Store} {engine : Engine}

theorem turns_serves {turn : Follower → Feed → Follower × Feed}
    (h : ∀ follower feed, Follower.Advances follower.watch feed.store (turn follower feed))
    (followers : List Follower) (feed : Feed) :
    Serves (followers.map Follower.watch) feed.store
      ⟨(turns turn followers feed).1, (turns turn followers feed).2⟩ := by
  induction followers generalizing feed with
  | nil => exact ⟨rfl, .refl ..⟩
  | cons follower rest ih =>
    have hf := h follower feed
    have hr := ih (turn follower feed).2
    refine ⟨congrArg₂ List.cons hf.follows hr.follows, ?_⟩
    exact (hf.delivers.mono (by simp)).trans (hr.delivers.mono (by simp))

theorem Serves.round (h : Serves watches store engine) (time : Nat) :
    Serves watches store (engine.round time) := by
  have hg (follower : Follower) (feed : Feed) :
      Follower.Advances follower.watch feed.store (round.go follower feed) := by
    rw [round.go]
    split
    case isTrue => exact follower.turn_advances feed
    case isFalse => exact ⟨rfl, .refl ..⟩
  have ht := turns_serves hg engine.followers { engine.feed with now := max engine.feed.now time }
  rw [h.follows] at ht
  exact ⟨ht.follows, h.delivers.trans ht.delivers⟩

theorem Serves.pass (h : Serves watches store engine) (limit n : Nat) :
    Serves watches store (engine.pass limit n) := by
  induction n generalizing engine with
  | zero => exact h
  | succ n ih =>
    rw [Engine.pass]
    split
    case h_1 time _ => exact ih (h.round time)
    case h_2 => exact h

theorem start_serves (watches : List Watch) (answers : Table String (List Dispatch)) :
    Serves watches (.started watches) (start watches answers) := by
  have hl (follower : Follower) (feed : Feed) :
      Follower.Advances follower.watch feed.store (start.launch follower feed) :=
    Follower.ask_advances { feed with log := feed.log ++ [.starting] } ..
  have ht := turns_serves hl (watches.map fun watch => ⟨watch, .unlisted, .nothing⟩)
    { now := 0, store := .started watches, answers, requests := .empty, log := [] }
  rw [List.map_map, show Follower.watch ∘ _ = id from rfl, List.map_id] at ht
  exact ht

-- When the first requests are sent, all kinds are tracked and nothing has been delivered.
theorem start_store (watches : List Watch) (answers : Table String (List Dispatch)) :
    (start watches answers).feed.store = .started watches := by
  have ht (followers : List Follower) (feed : Feed) :
      (turns start.launch followers feed).2.store = feed.store := by
    induction followers generalizing feed with
    | nil => rfl
    | cons follower rest ih => exact (ih _).trans (Follower.ask_store ..)
  exact ht ..

-- At any time the store holds what the watches have delivered, in the order of the deliveries.
theorem advance_serves (watches : List Watch) (answers : Table String (List Dispatch))
    (time : Nat) : Serves watches (.started watches) ((start watches answers).advance time) :=
  have h := (start_serves watches answers).pass time (start watches answers).rounds
  ⟨h.follows, h.delivers⟩

end Engine

end ReadYourWrites
