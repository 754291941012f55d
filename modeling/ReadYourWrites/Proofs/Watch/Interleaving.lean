import Mathlib.Data.List.Induction
import Mathlib.Data.List.Nodup
import ReadYourWrites.Proofs.Object.Typed
import ReadYourWrites.Proofs.Store.Collections
import ReadYourWrites.Watch

-- Several watches that fill one store. A store has one collection and one mark of its listing for each
-- kind, so watches of one kind share them, even if each of them follows a namespace of its own.

namespace ReadYourWrites

namespace Watch

-- What a watch follows: a kind, in one namespace or in all.
def target (watch : Watch) : Kind × Option String :=
  (watch.kind, watch.scope)

-- Whether the server hands the object over to the watch.
def Covers (watch : Watch) (m : Metadata) : Prop :=
  watch.scope = none ∨ m.scope = watch.scope

instance (watch : Watch) (m : Metadata) : Decidable (watch.Covers m) :=
  inferInstanceAs (Decidable (_ ∨ _))

end Watch

-- What watches hand over, each delivery with its watch, in the order in which the store takes it in.
abbrev Traffic :=
  List (Watch × Delivery)

namespace Traffic

-- An interleaving of the streams of some watches. The stream of a watch is what it hands over.
structure Interleaves (watches : List Watch) (traffic : Traffic) : Prop where
  known : ∀ x ∈ traffic, x.1 ∈ watches
  covered : ∀ x ∈ traffic, ∀ object ∈ x.2.objects, x.1.Covers object.metadata

-- The stream of one watch.
def of (traffic : Traffic) (watch : Watch) : Traffic :=
  traffic.filter (·.1 = watch)

-- Whether a watch hands over a listing after each listing by another watch of its kind.
def Relists (traffic : Traffic) (watch : Watch) : Prop :=
  ∀ before x after, traffic = before ++ x :: after → x.1 ≠ watch → x.1.kind = watch.kind →
    x.2.IsListing → ∃ d : Delivery, d.IsListing ∧ (watch, d) ∈ after

-- What is delivered of one kind.
def ofKind (traffic : Traffic) (kind : Kind) : List Delivery :=
  (traffic.filter (·.1.kind = kind)).map Prod.snd

end Traffic

namespace Store

-- The store with which a cache starts. The kinds of all watches are tracked.
def started (watches : List Watch) : Store :=
  watches.foldl (fun store watch => store.track watch.kind) .empty

def feed (store : Store) (traffic : Traffic) : Store :=
  traffic.foldl (fun store x => store.deliver x.1.kind x.2) store

-- Whether the store answers reads of what a watch follows as if that watch alone had been running.
def AnswersAlone (watches : List Watch) (traffic : Traffic) (watch : Watch) : Prop :=
  ∀ (K : Type) [Object K] (held : K) (name : String),
    Object.writtenKind? (Object.write held) = some watch.kind →
    ((started watches).feed traffic).get ⟨watch.scope, name⟩ held =
      ((started [watch]).feed (traffic.of watch)).get ⟨watch.scope, name⟩ held

theorem get?_foldl_track (watches : List Watch) (store : Store) (kind : Kind) :
    (watches.foldl (fun store watch => store.track watch.kind) store).kinds.get? kind =
      (store.kinds.get? kind).or
        (if kind ∈ watches.map Watch.kind then some .unlisted else none) := by
  induction watches generalizing store with
  | nil => simp
  | cons watch watches ih =>
    rw [List.foldl_cons, ih, get?_track, Option.or_assoc]
    congr 1
    by_cases hk : kind = watch.kind <;> simp [hk]

theorem get?_started {watches : List Watch} {watch : Watch} (h : watch ∈ watches) :
    (started watches).kinds.get? watch.kind = some .unlisted := by
  rw [started, get?_foldl_track, if_pos (List.mem_map_of_mem h)]
  rfl

-- A tracked kind goes through what is delivered of it.
theorem get?_feed {store : Store} {kind : Kind} {c : Collection}
    (h : store.kinds.get? kind = some c) (traffic : Traffic) :
    (store.feed traffic).kinds.get? kind =
      some ((traffic.ofKind kind).foldl Collection.deliver c) := by
  induction traffic generalizing store c with
  | nil => exact h
  | cons x traffic ih =>
    by_cases hk : x.1.kind = kind
    case pos =>
      subst hk
      rw [feed, List.foldl_cons, ← feed, ih (get?_deliver h x.2)]
      simp [Traffic.ofKind]
    case neg =>
      have hn := (get?_deliver_other (Ne.symm hk) store x.2).trans h
      rw [feed, List.foldl_cons, ← feed, ih hn]
      simp [Traffic.ofKind, hk]

end Store

namespace Collection

-- Whether two collections are the same as far as one namespace is concerned.
structure Agrees (scope : Option String) (c d : Collection) : Prop where
  synced : c.synced = d.synced
  objects (name : String) : c.objects.get? ⟨scope, name⟩ = d.objects.get? ⟨scope, name⟩

namespace Agrees

variable {scope : Option String} {c d : Collection}

theorem refl (c : Collection) : Agrees scope c c :=
  ⟨rfl, fun _ => rfl⟩

-- A listing makes any two collections the same.
theorem of_listing {delivery : Delivery} (h : delivery.IsListing) (c d : Collection) :
    Agrees scope (c.deliver delivery) (d.deliver delivery) := by
  obtain ⟨objects, rfl⟩ := h
  exact refl _

-- Collections that agree still do so when both take in the same delivery.
theorem deliver (h : Agrees scope c d) (delivery : Delivery) :
    Agrees scope (c.deliver delivery) (d.deliver delivery) := by
  by_cases hl : delivery.IsListing
  case pos => exact of_listing hl c d
  case neg =>
    refine ⟨?_, fun name => ?_⟩
    case refine_1 => rw [synced_deliver hl, synced_deliver hl, h.synced]
    case refine_2 => rw [get?_deliver hl, get?_deliver hl, h.objects]

-- What is delivered of other namespaces leaves a collection alone, unless it is a listing.
theorem of_foreign (h : Agrees scope c d) {delivery : Delivery} (hl : ¬delivery.IsListing)
    (hs : ∀ object ∈ delivery.objects, object.metadata.scope ≠ scope) :
    Agrees scope (c.deliver delivery) d := by
  refine ⟨(synced_deliver hl c).trans h.synced, fun name => ?_⟩
  have hk : delivery.key? ≠ some ⟨scope, name⟩ := by
    intro hk
    have ⟨object, ho, he⟩ := Delivery.scope_of_key? hk
    exact hs object ho he
  rw [get?_deliver hl, if_neg hk, h.objects]

end Agrees

end Collection

namespace Traffic

variable {watches : List Watch} {traffic : Traffic} {watch : Watch} {x : Watch × Delivery}

theorem Interleaves.of_append (h : Interleaves watches (traffic ++ [x])) :
    Interleaves watches traffic where
  known y hy := h.known y (List.mem_append_left _ hy)
  covered y hy := h.covered y (List.mem_append_left _ hy)

theorem of_append_self (h : x.1 = watch) : of (traffic ++ [x]) watch = of traffic watch ++ [x] := by
  simp [of, h]

theorem of_append_other (h : x.1 ≠ watch) : of (traffic ++ [x]) watch = of traffic watch := by
  simp [of, h]

theorem ofKind_append_self {kind : Kind} (h : x.1.kind = kind) :
    ofKind (traffic ++ [x]) kind = ofKind traffic kind ++ [x.2] := by
  simp [ofKind, h]

theorem ofKind_append_other {kind : Kind} (h : x.1.kind ≠ kind) :
    ofKind (traffic ++ [x]) kind = ofKind traffic kind := by
  simp [ofKind, h]

-- A watch lists after the others if the last delivery of all is a listing by it.
theorem relists_of_last (h : x.2.IsListing) : Relists (traffic ++ [x]) x.1 := by
  intro before y after ht hn _ _
  refine ⟨x.2, h, ?_⟩
  obtain rfl | ⟨after, z, rfl⟩ := List.eq_nil_or_concat after
  case inl =>
    have ⟨_, hy⟩ := List.append_inj' ht rfl
    cases hy
    exact absurd rfl hn
  case inr =>
    have hl : traffic ++ [x] = (before ++ y :: after) ++ [z] := by simpa using ht
    have ⟨_, hz⟩ := List.append_inj' hl rfl
    cases hz
    simp

-- A watch that has listed after the others had done so before its last delivery, unless that is a
-- listing itself.
theorem Relists.of_append (h : Relists (traffic ++ [x]) watch)
    (hx : x.1 = watch → ¬x.2.IsListing) : Relists traffic watch := by
  intro before y after ht hn hk hl
  have ⟨d, hd, hm⟩ := h before y (after ++ [x]) (by simp [ht]) hn hk hl
  cases List.mem_append.mp hm
  case inl hm => exact ⟨d, hd, hm⟩
  case inr hm =>
    cases List.mem_singleton.mp hm
    exact absurd hd (hx rfl)

-- The last delivery of such a traffic is no listing by another watch of the kind.
theorem Relists.not_listing (h : Relists (traffic ++ [x]) watch) (hn : x.1 ≠ watch)
    (hk : x.1.kind = watch.kind) : ¬x.2.IsListing := by
  intro hl
  have ⟨_, _, hm⟩ := h traffic x [] rfl hn hk hl
  cases hm

-- As long as a watch lists after the other watches of its kind, the collection of the kind is, in the
-- namespace of the watch, what the stream of the watch alone makes of it.
theorem agrees (separate : ∀ other ∈ watches, other ≠ watch → other.kind = watch.kind →
      ∃ scope, other.scope = some scope ∧ watch.scope ≠ some scope)
    (interleaves : Interleaves watches traffic) (relists : Relists traffic watch)
    (c : Collection) :
    Collection.Agrees watch.scope ((traffic.ofKind watch.kind).foldl Collection.deliver c)
      (((traffic.of watch).ofKind watch.kind).foldl Collection.deliver c) := by
  induction traffic using List.reverseRecOn with
  | nil => exact .refl c
  | append_singleton traffic x ih =>
    replace ih := ih interleaves.of_append
    by_cases hx : x.1 = watch
    case pos =>
      rw [ofKind_append_self (congrArg Watch.kind hx), of_append_self hx,
        ofKind_append_self (congrArg Watch.kind hx), List.foldl_concat, List.foldl_concat]
      by_cases hl : x.2.IsListing
      case pos => exact .of_listing hl _ _
      case neg => exact (ih (relists.of_append fun _ => hl)).deliver x.2
    case neg =>
      replace ih := ih (relists.of_append fun he => absurd he hx)
      rw [of_append_other hx]
      by_cases hk : x.1.kind = watch.kind
      case neg =>
        rw [ofKind_append_other hk]
        exact ih
      case pos =>
        have hm : x ∈ traffic ++ [x] := by simp
        have ⟨scope, hs, hn⟩ := separate x.1 (interleaves.known x hm) hx hk
        rw [ofKind_append_self hk, List.foldl_concat]
        refine ih.of_foreign (relists.not_listing hx hk) fun object ho he => hn ?_
        have hc := (interleaves.covered x hm object ho).resolve_left (by simp [hs])
        exact he.symm.trans (hc.trans hs)

end Traffic

namespace Store

variable {watches : List Watch} {traffic : Traffic} {watch : Watch}

theorem answersAlone (member : watch ∈ watches)
    (separate : ∀ other ∈ watches, other ≠ watch → other.kind = watch.kind →
      ∃ scope, other.scope = some scope ∧ watch.scope ≠ some scope)
    (interleaves : traffic.Interleaves watches) (relists : traffic.Relists watch) :
    AnswersAlone watches traffic watch := by
  intro K _ held name hk
  have ha := Traffic.agrees separate interleaves relists .unlisted
  have hf := get?_feed (get?_started member) traffic
  have ho := get?_feed (get?_started (List.mem_singleton_self watch)) (traffic.of watch)
  rw [get, get, find_eq hk hf, find_eq hk ho, ha.synced, ha.objects]

-- A listing by one watch makes up an answer to a read of what another watch of its kind follows.
theorem not_answersAlone {other : Watch} (member : watch ∈ watches) (hn : other ≠ watch)
    (hk : other.kind = watch.kind) {object : Unstructured}
    (ho : Object.writtenKind? (Object.write object) = some watch.kind) :
    ¬AnswersAlone watches [(other, .event (.restarted []))] watch := by
  intro h
  have hf := get?_feed (get?_started member) [(other, .event (.restarted []))]
  have hs := get?_feed (get?_started (List.mem_singleton_self watch)) []
  have he := h Unstructured object "" ho
  rw [show Traffic.of [(other, _)] watch = [] by simp [Traffic.of, hn], get, get, find_eq ho hf,
    find_eq ho hs] at he
  simp [Traffic.ofKind, hk, Collection.deliver, Collection.handle, Collection.unlisted, bind,
    Except.bind, Table.ofList] at he

-- Watches of different namespaces do not disturb each other, whatever their streams and however these
-- are interleaved, just if no two of them are of one kind. Of several watches of one kind, one that
-- has listed after the others answers as if it had been alone.
theorem answersAlone_iff (restricted : ∀ watch ∈ watches, watch.scope ≠ none)
    (distinct : (watches.map Watch.target).Nodup)
    (inhabited : ∀ watch ∈ watches, ∃ object : Unstructured,
      Object.writtenKind? (Object.write object) = some watch.kind) :
    (∀ traffic : Traffic, traffic.Interleaves watches → ∀ watch ∈ watches, traffic.Relists watch →
      AnswersAlone watches traffic watch) ∧
    ((∀ traffic : Traffic, traffic.Interleaves watches → ∀ watch ∈ watches,
        AnswersAlone watches traffic watch) ↔
      (watches.map Watch.kind).Nodup) := by
  have separate : ∀ watch ∈ watches, ∀ other ∈ watches, other ≠ watch → other.kind = watch.kind →
      ∃ scope, other.scope = some scope ∧ watch.scope ≠ some scope := by
    intro watch hw other ho hn hk
    have ⟨scope, hs⟩ := Option.ne_none_iff_exists'.mp (restricted other ho)
    refine ⟨scope, hs, fun he => hn ?_⟩
    exact List.inj_on_of_nodup_map distinct ho hw (Prod.ext hk (hs.trans he.symm))
  have alone : ∀ traffic : Traffic, traffic.Interleaves watches → ∀ watch ∈ watches,
      traffic.Relists watch → AnswersAlone watches traffic watch :=
    fun _ hi watch hw => answersAlone hw (separate watch hw) hi
  refine ⟨alone, ?_, ?_⟩
  case refine_1 =>
    intro h
    refine (List.nodup_map_iff_inj_on (.of_map _ distinct)).mpr fun other ho watch hw hk => ?_
    by_contra hn
    have ⟨object, hx⟩ := inhabited watch hw
    refine not_answersAlone hw hn hk hx (h _ ⟨?_, ?_⟩ watch hw)
    case refine_1 => simpa using ho
    case refine_2 => simp [Delivery.objects]
  case refine_2 =>
    intro h traffic hi watch hw
    refine alone traffic hi watch hw fun before x after ht hn hk => absurd ?_ hn
    exact List.inj_on_of_nodup_map h (hi.known x (by simp [ht])) hw hk

end Store

namespace Sample

def following (scope : String) : Watch :=
  ⟨ConfigMap.resource, some scope, .default⟩

def both : List Watch :=
  [following "a", following "b"]

def item (scope name : String) : Unstructured :=
  .bare (some ⟨"v1", "ConfigMap"⟩)
    { Metadata.empty with name := some name, scope := some scope }

def listed (scope : String) (names : List String) : Watch × Delivery :=
  (following scope, .event (.restarted (names.map (item scope))))

-- The first watch has to list again after the second.
def relisted : Traffic :=
  [listed "a" ["x"], listed "b" ["y"], (following "b", .event (.deleted (item "b" "y")))] ++
    [listed "a" ["x", "z"]]

end Sample

-- The first of two watches of one kind lists again after the second, which has come between.
theorem Store.answersAlone_relisted :
    Store.AnswersAlone Sample.both Sample.relisted (Sample.following "a") ∧
      ((Store.started Sample.both).feed Sample.relisted).get ⟨some "a", "z"⟩ (Sample.item "a" "z") =
        .ok (Sample.item "a" "z") ∧
      ¬∀ traffic : Traffic, traffic.Interleaves Sample.both → ∀ watch ∈ Sample.both,
        AnswersAlone Sample.both traffic watch := by
  have restricted : ∀ watch ∈ Sample.both, watch.scope ≠ none := by decide
  have distinct : (Sample.both.map Watch.target).Nodup := by decide
  have inhabited : ∀ watch ∈ Sample.both, ∃ object : Unstructured,
      Object.writtenKind? (Object.write object) = some watch.kind := by
    intro watch hw
    refine ⟨Sample.item "" "", ?_⟩
    revert watch
    decide
  have interleaves : Sample.relisted.Interleaves Sample.both := ⟨by decide, by decide⟩
  have relists : Sample.relisted.Relists (Sample.following "a") := Traffic.relists_of_last ⟨_, rfl⟩
  have ⟨alone, undisturbed⟩ := answersAlone_iff restricted distinct inhabited
  refine ⟨alone _ interleaves _ (by decide) relists, by decide +kernel, fun h => ?_⟩
  exact absurd (undisturbed.mp h) (by decide)

-- Of two watches of one kind, the listing of one takes the objects of the other away, or answers for
-- the other before it has listed.
theorem Store.answersAlone_disturbed :
    let replaced : Traffic := [Sample.listed "a" ["x"], Sample.listed "b" []]
    let early : Traffic := [Sample.listed "b" []]
    let get (watches : List Watch) (traffic : Traffic) :=
      ((started watches).feed traffic).get ⟨some "a", "x"⟩ (Sample.item "a" "x")
    let missing := .error (.notFound "ConfigMap" ⟨some "a", "x"⟩)
    (replaced.Interleaves Sample.both ∧ early.Interleaves Sample.both) ∧
      (get [Sample.following "a"] (replaced.of (Sample.following "a")) = .ok (Sample.item "a" "x") ∧
        get Sample.both replaced = missing) ∧
      (get [Sample.following "a"] (early.of (Sample.following "a")) =
          .error (.notSynced ConfigMap.resource.kind) ∧
        get Sample.both early = missing) := by
  refine ⟨⟨⟨by decide, by decide⟩, by decide, by decide⟩, ?_⟩
  decide +kernel

end ReadYourWrites
