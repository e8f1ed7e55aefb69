/-
ComponentWiring.Keyed — dictionaries that remember the order of their keys.

* `Entries` — look-up and replacement on a list of pairs.
* `Keyed` — a list of pairs with distinct keys. A key keeps the place where it was first
  written; writing it again replaces its value only.

The main statements say what each operation does to `get?` and to `keys`.
-/

namespace ComponentWiring

/-! ## 1. Lists of pairs -/

namespace Entries

variable {α β : Type} [DecidableEq α]

/-- The value of the first pair with the key. -/
def get? (k : α) : List (α × β) → Option β
  | [] => none
  | (k', v) :: r => if k' = k then some v else get? k r

/-- Replaces the value of a key where it stands, or adds the pair at the end. -/
def put (k : α) (v : β) : List (α × β) → List (α × β)
  | [] => [(k, v)]
  | (k', v') :: r => if k' = k then (k, v) :: r else (k', v') :: put k v r

/-- The pairs of a list written one after the other. -/
def ofPairs (l : List (α × β)) : List (α × β) :=
  l.foldl (fun acc p => put p.1 p.2 acc) []

theorem get?_put (k k' : α) (v : β) (l : List (α × β)) :
    get? k' (put k v l) = if k = k' then some v else get? k' l := by
  induction l with
  | nil => simp [put, get?]
  | cons p l ih =>
    obtain ⟨a, b⟩ := p
    by_cases h : a = k
    · subst h
      by_cases h' : a = k' <;> simp [put, get?, h']
    · by_cases h' : a = k'
      · subst h'
        simp [put, get?, h, Ne.symm h]
      · simp [put, get?, h, h', ih]

theorem keys_put (k : α) (v : β) (l : List (α × β)) :
    (put k v l).map Prod.fst = if k ∈ l.map Prod.fst then l.map Prod.fst
      else l.map Prod.fst ++ [k] := by
  induction l with
  | nil => simp [put]
  | cons p l ih =>
    obtain ⟨a, b⟩ := p
    by_cases h : a = k
    · simp [put, h]
    · have h' : ¬ k = a := fun e => h e.symm
      by_cases hk : k ∈ l.map Prod.fst
      · simp only [put, if_neg h, List.map_cons, ih, List.mem_cons, hk, or_true, if_true]
      · have : ¬ k ∈ (a, b).1 :: l.map Prod.fst := by simp [h', hk]
        simp only [put, if_neg h, List.map_cons, ih, if_neg hk, if_neg this, List.cons_append]

theorem nodup_keys_put {k : α} {v : β} {l : List (α × β)} (h : (l.map Prod.fst).Nodup) :
    ((put k v l).map Prod.fst).Nodup := by
  rw [keys_put]
  by_cases hk : k ∈ l.map Prod.fst
  · rwa [if_pos hk]
  · rw [if_neg hk]
    refine List.nodup_append.mpr ⟨h, by simp, ?_⟩
    intro a ha b hb e
    rw [List.mem_singleton] at hb
    exact hk (hb ▸ e ▸ ha)

theorem get?_eq_none_iff {k : α} {l : List (α × β)} :
    get? k l = none ↔ k ∉ l.map Prod.fst := by
  induction l with
  | nil => simp [get?]
  | cons p l ih =>
    obtain ⟨a, b⟩ := p
    by_cases h : a = k
    · simp [get?, h]
    · simp only [get?, if_neg h, ih, List.map_cons, List.mem_cons, not_or]
      exact ⟨fun hl => ⟨fun e => h e.symm, hl⟩, fun hl => hl.2⟩

theorem mem_of_get?_eq_some {k : α} {v : β} {l : List (α × β)} (h : get? k l = some v) :
    (k, v) ∈ l := by
  induction l with
  | nil => simp [get?] at h
  | cons p l ih =>
    obtain ⟨a, b⟩ := p
    by_cases hk : a = k
    · simp only [get?, if_pos hk, Option.some.injEq] at h
      simp [hk, h]
    · exact List.mem_cons_of_mem _ (ih (by simpa [get?, hk] using h))

/-- What holds of all pairs and of the written one holds of all pairs afterwards. -/
theorem forall_put {P : α × β → Prop} {k : α} {v : β} {l : List (α × β)}
    (hl : ∀ e ∈ l, P e) (h : P (k, v)) : ∀ e ∈ put k v l, P e := by
  induction l with
  | nil => simpa [put] using h
  | cons p l ih =>
    obtain ⟨a, b⟩ := p
    intro e he
    by_cases hk : a = k
    · simp only [put, if_pos hk, List.mem_cons] at he
      rcases he with rfl | he
      · exact h
      · exact hl e (by simp [he])
    · simp only [put, if_neg hk, List.mem_cons] at he
      rcases he with rfl | he
      · exact hl _ (by simp)
      · exact ih (fun e he => hl e (by simp [he])) e he

end Entries

/-! ## 2. Dictionaries -/

/-- Pairs of a key and a value, each key once, in the order in which the keys were
first written. -/
structure Keyed (α β : Type) where
  entries : List (α × β)
  nodup_keys : (entries.map Prod.fst).Nodup

namespace Keyed

variable {α β : Type}

/-- The dictionary without keys. -/
def empty : Keyed α β := ⟨[], by simp⟩

instance : Inhabited (Keyed α β) := ⟨empty⟩

/-- The keys in order. -/
def keys (m : Keyed α β) : List α := m.entries.map Prod.fst

/-- The values in the order of their keys. -/
def values (m : Keyed α β) : List β := m.entries.map Prod.snd

/-- The number of keys. -/
def size (m : Keyed α β) : Nat := m.entries.length

/-- Whether there is no key. -/
def isEmpty (m : Keyed α β) : Bool := m.entries.isEmpty

@[simp] theorem keys_empty : (empty : Keyed α β).keys = [] := rfl

theorem keys_nodup (m : Keyed α β) : m.keys.Nodup := m.nodup_keys

variable [DecidableEq α]

/-- The value of a key. -/
def get? (m : Keyed α β) (k : α) : Option β := Entries.get? k m.entries

/-- Whether the key has a value. -/
def contains (m : Keyed α β) (k : α) : Bool := (m.get? k).isSome

/-- Writes a value: a known key keeps its place, a new one comes last. -/
def insert (m : Keyed α β) (k : α) (v : β) : Keyed α β :=
  ⟨Entries.put k v m.entries, Entries.nodup_keys_put m.nodup_keys⟩

/-- The pairs of a list written one after the other. -/
def ofList (l : List (α × β)) : Keyed α β :=
  l.foldl (fun m p => m.insert p.1 p.2) empty

@[simp] theorem get?_empty (k : α) : (empty : Keyed α β).get? k = none := rfl

theorem get?_insert (m : Keyed α β) (k k' : α) (v : β) :
    (m.insert k v).get? k' = if k = k' then some v else m.get? k' :=
  Entries.get?_put k k' v m.entries

theorem keys_insert (m : Keyed α β) (k : α) (v : β) :
    (m.insert k v).keys = if k ∈ m.keys then m.keys else m.keys ++ [k] :=
  Entries.keys_put k v m.entries

theorem get?_eq_none_iff {m : Keyed α β} {k : α} : m.get? k = none ↔ k ∉ m.keys :=
  Entries.get?_eq_none_iff

theorem contains_iff {m : Keyed α β} {k : α} : m.contains k = true ↔ k ∈ m.keys := by
  rw [contains, Option.isSome_iff_ne_none, ne_eq, get?_eq_none_iff, Classical.not_not]

end Keyed

end ComponentWiring
