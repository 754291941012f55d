-- Tables: finite maps as lists of entries in which no key comes twice.

namespace ReadYourWrites

structure Table (α β : Type) where
  entries : List (α × β)
  nodup : (entries.map Prod.fst).Nodup := by simp

namespace Table

variable {α β : Type}

def empty : Table α β :=
  { entries := [] }

instance : Inhabited (Table α β) :=
  ⟨empty⟩

def keys (t : Table α β) : List α :=
  t.entries.map Prod.fst

def values (t : Table α β) : List β :=
  t.entries.map Prod.snd

variable [DecidableEq α]

def get? (t : Table α β) (a : α) : Option β :=
  t.entries.lookup a

def contains (t : Table α β) (a : α) : Bool :=
  (t.get? a).isSome

def erase (t : Table α β) (a : α) : Table α β where
  entries := t.entries.filter (·.1 ≠ a)
  nodup := t.nodup.sublist (List.filter_sublist.map _)

-- A new key goes to the end.
def insert (t : Table α β) (a : α) (b : β) : Table α β where
  entries := (t.erase a).entries ++ [(a, b)]
  nodup := by
    have h := (t.erase a).nodup
    simp only [List.map_append, List.map_cons, List.map_nil, List.nodup_append]
    refine ⟨h, by simp, ?_⟩
    simp only [erase, List.mem_map, List.mem_filter, decide_eq_true_eq]
    grind

-- Of several entries with one key the last counts.
def ofList (entries : List (α × β)) : Table α β :=
  entries.foldl (fun t (a, b) => t.insert a b) empty

@[simp]
theorem get?_empty (a : α) : (empty : Table α β).get? a = none :=
  rfl

theorem lookup_filter_ne (entries : List (α × β)) (a c : α) :
    (entries.filter (·.1 ≠ a)).lookup c = if c = a then none else entries.lookup c := by
  induction entries with
  | nil => simp
  | cons e es ih => grind

@[simp]
theorem get?_erase (t : Table α β) (a c : α) :
    (t.erase a).get? c = if c = a then none else t.get? c :=
  lookup_filter_ne t.entries a c

theorem lookup_append_one (entries : List (α × β)) (a c : α) (b : β) :
    (entries ++ [(a, b)]).lookup c = (entries.lookup c).or (if c = a then some b else none) := by
  induction entries with
  | nil => grind
  | cons e es ih => grind

@[simp]
theorem get?_insert (t : Table α β) (a c : α) (b : β) :
    (t.insert a b).get? c = if c = a then some b else t.get? c := by
  have h := lookup_append_one (t.erase a).entries a c b
  have e := get?_erase t a c
  simp only [get?, insert] at *
  rw [h, e]
  split <;> simp

theorem mem_entries_iff (t : Table α β) (a : α) (b : β) :
    (a, b) ∈ t.entries ↔ t.get? a = some b := by
  obtain ⟨entries, nodup⟩ := t
  induction entries with
  | nil => simp [get?]
  | cons e es ih =>
    simp only [List.map_cons, List.nodup_cons] at nodup
    have := ih nodup.2
    simp only [get?] at *
    grind

end Table

end ReadYourWrites
