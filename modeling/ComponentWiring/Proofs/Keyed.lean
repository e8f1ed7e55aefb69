/-
ComponentWiring.Proofs.Keyed — dictionaries that are filled from lists.

* `mapValues` — a dictionary with other values under the same keys.
* `entries_insert_of_new` — a new key comes last.
* `lastValue?` — the value that a list of pairs gives for a key last.
* `lastValue?_of_forall₂` — that value, where values are computed from others.
* `get?_ofList` — a key of a filled dictionary has that value.
* `entries_ofList_of_nodup` — pairs with distinct keys are kept as they are.
* `eraseDups_concat`, `nodup_eraseDups` — lists without repetitions.
-/
import ComponentWiring.Keyed
import Mathlib.Data.List.Forall2

namespace ComponentWiring

variable {α β γ : Type}

namespace Keyed

/-! ## 1. Values under a map -/

/-- The dictionary with other values under the same keys. -/
def mapValues (f : β → γ) (m : Keyed α β) : Keyed α γ where
  entries := m.entries.map fun e => (e.1, f e.2)
  nodup_keys := by simpa [Function.comp_def] using m.nodup_keys

theorem ext_entries {m n : Keyed α β} (same : m.entries = n.entries) : m = n := by
  cases m
  cases n
  cases same
  rfl

theorem size_mapValues (f : β → γ) (m : Keyed α β) : (m.mapValues f).size = m.size :=
  List.length_map ..

end Keyed

variable [DecidableEq α]

theorem Entries.get?_map (f : β → γ) (l : List (α × β)) (k : α) :
    get? k (l.map fun e => (e.1, f e.2)) = (get? k l).map f := by
  induction l with
  | nil => rfl
  | cons p l ih =>
    rw [List.map_cons, get?, get?, ih]
    split <;> rfl

theorem Entries.put_map (f : β → γ) (l : List (α × β)) (k : α) (v : β) :
    put k (f v) (l.map fun e => (e.1, f e.2)) = (put k v l).map fun e => (e.1, f e.2) := by
  induction l with
  | nil => rfl
  | cons p l ih =>
    rw [List.map_cons, put, put, ih]
    split <;> rfl

namespace Keyed

theorem get?_mapValues (f : β → γ) (m : Keyed α β) (k : α) :
    (m.mapValues f).get? k = (m.get? k).map f :=
  Entries.get?_map f m.entries k

theorem mapValues_insert (f : β → γ) (m : Keyed α β) (k : α) (v : β) :
    (m.insert k v).mapValues f = (m.mapValues f).insert k (f v) :=
  ext_entries (Entries.put_map f m.entries k v).symm

end Keyed

/-! ## 2. New keys -/

theorem Entries.put_of_new {k : α} {l : List (α × β)} (h : k ∉ l.map Prod.fst) (v : β) :
    put k v l = l ++ [(k, v)] := by
  induction l with
  | nil => rfl
  | cons p l ih =>
    obtain ⟨a, b⟩ := p
    simp only [List.map_cons, List.mem_cons, not_or] at h
    rw [put, if_neg fun e => h.1 e.symm, ih h.2]
    rfl

theorem Entries.get?_of_mem {l : List (α × β)} (h : (l.map Prod.fst).Nodup) {k : α} {v : β}
    (mem : (k, v) ∈ l) : get? k l = some v := by
  induction l with
  | nil => cases mem
  | cons p l ih =>
    obtain ⟨a, b⟩ := p
    rw [List.map_cons, List.nodup_cons] at h
    rcases List.mem_cons.mp mem with same | mem
    · cases same
      exact if_pos rfl
    · have other : a ≠ k := by
        rintro rfl
        exact h.1 (List.mem_map.mpr ⟨_, mem, rfl⟩)
      rw [get?, if_neg other]
      exact ih h.2 mem

namespace Keyed

theorem entries_insert_of_new {m : Keyed α β} {k : α} (h : k ∉ m.keys) (v : β) :
    (m.insert k v).entries = m.entries ++ [(k, v)] :=
  Entries.put_of_new h v

theorem keys_insert_of_new {m : Keyed α β} {k : α} (h : k ∉ m.keys) (v : β) :
    (m.insert k v).keys = m.keys ++ [k] := by
  rw [keys_insert, if_neg h]

theorem values_insert_of_new {m : Keyed α β} {k : α} (h : k ∉ m.keys) (v : β) :
    (m.insert k v).values = m.values ++ [v] := by
  rw [values, entries_insert_of_new h, List.map_append]
  rfl

theorem get?_eq_some_iff {m : Keyed α β} {k : α} {v : β} :
    m.get? k = some v ↔ (k, v) ∈ m.entries :=
  ⟨Entries.mem_of_get?_eq_some, Entries.get?_of_mem m.nodup_keys⟩

/-! ## 3. Lists of pairs -/

/-- The value that a list of pairs gives for a key last. -/
def lastValue? (l : List (α × β)) (k : α) : Option β :=
  (l.filter (·.1 = k)).getLast?.map Prod.snd

theorem lastValue?_eq_none_iff {l : List (α × β)} {k : α} :
    lastValue? l k = none ↔ k ∉ l.map Prod.fst := by
  rw [lastValue?, Option.map_eq_none_iff, List.getLast?_eq_none_iff, List.filter_eq_nil_iff]
  constructor
  · intro h mem
    obtain ⟨p, hp, rfl⟩ := List.mem_map.mp mem
    exact h p hp (decide_eq_true rfl)
  · intro h p hp same
    exact h (List.mem_map.mpr ⟨p, hp, of_decide_eq_true same⟩)

theorem lastValue?_cons (p : α × β) (l : List (α × β)) (k : α) :
    lastValue? (p :: l) k = (lastValue? l k).or (if p.1 = k then some p.2 else none) := by
  unfold lastValue?
  by_cases h : p.1 = k
  · simp only [List.filter_cons, if_true, h]
    cases l.filter (·.1 = k) with
    | nil => simp
    | cons q r => simp [List.getLast?_cons]
  · simp [h]

/-- The value that is given last stands behind all others of its key. -/
theorem lastValue?_eq_some_iff {l : List (α × β)} {k : α} {v : β} :
    lastValue? l k = some v ↔
      ∃ before after, l = before ++ (k, v) :: after ∧ k ∉ after.map Prod.fst := by
  induction l with
  | nil => simp [lastValue?]
  | cons p l ih =>
    rw [lastValue?_cons, Option.or_eq_some_iff, ih, lastValue?_eq_none_iff]
    constructor
    · rintro (⟨before, after, rfl, last⟩ | ⟨last, given⟩)
      · exact ⟨p :: before, after, rfl, last⟩
      · obtain ⟨rfl, rfl⟩ : p.1 = k ∧ p.2 = v := by simpa using given
        exact ⟨[], l, rfl, last⟩
    · intro h
      obtain ⟨before, after, split, last⟩ := h
      rcases List.cons_eq_append_iff.mp split with ⟨rfl, same⟩ | ⟨before', rfl, rfl⟩
      · cases same
        exact .inr ⟨last, if_pos rfl⟩
      · exact .inl ⟨before', after, rfl, last⟩

theorem lastValue?_filterMap_eq_some_iff {f : γ → Option (α × β)} {l : List γ} {k : α} {v : β} :
    lastValue? (l.filterMap f) k = some v ↔
      ∃ before c after, l = before ++ c :: after ∧ f c = some (k, v) ∧
        ∀ d ∈ after, ∀ w, f d ≠ some (k, w) := by
  rw [lastValue?_eq_some_iff]
  constructor
  · intro h
    obtain ⟨_, _, split, last⟩ := h
    obtain ⟨before, rest, rfl, _, found⟩ := List.filterMap_eq_append_iff.mp split
    obtain ⟨skipped, c, after, rfl, _, given, rfl⟩ := List.filterMap_eq_cons_iff.mp found
    refine ⟨before ++ skipped, c, after, (List.append_assoc ..).symm, given, fun d hd w again => ?_⟩
    exact last (List.mem_map.mpr ⟨_, List.mem_filterMap.mpr ⟨d, hd, again⟩, rfl⟩)
  · intro h
    obtain ⟨before, c, after, rfl, given, last⟩ := h
    refine ⟨before.filterMap f, after.filterMap f, ?_, fun again => ?_⟩
    · rw [List.filterMap_append, List.filterMap_cons_some given]
    · obtain ⟨⟨k', w⟩, mem, rfl⟩ := List.mem_map.mp again
      obtain ⟨d, hd, found⟩ := List.mem_filterMap.mp mem
      exact last d hd w found

/-- Where the values of pairs are computed, the value given last is that of the last pair. -/
theorem lastValue?_of_forall₂ {δ : Type} {f : γ → Option δ} {l : List (α × γ)} {m : List (α × δ)}
    (each : List.Forall₂ (fun p q => p.1 = q.1 ∧ f p.2 = some q.2) l m) (k : α) :
    lastValue? m k = (lastValue? l k).bind f := by
  induction each with
  | nil => rfl
  | @cons p q l m first rest ih =>
    have keys : l.map Prod.fst = m.map Prod.fst := by
      rw [← List.forall₂_eq_eq_eq, List.forall₂_map_left_iff, List.forall₂_map_right_iff]
      exact rest.imp fun _ _ both => both.1
    obtain ⟨key, made⟩ := first
    rw [lastValue?_cons, lastValue?_cons, key]
    cases found : lastValue? m k with
    | none =>
      have missing : lastValue? l k = none := by
        rw [lastValue?_eq_none_iff, keys]
        exact lastValue?_eq_none_iff.mp found
      rw [missing, Option.none_or, Option.none_or]
      split
      · exact made.symm
      · rfl
    | some v =>
      obtain ⟨c, given, value⟩ := Option.bind_eq_some_iff.mp (ih.symm.trans found)
      rw [given, Option.some_or, Option.some_or, Option.bind_some, value]

theorem get?_foldl_insert (l : List (α × β)) (m : Keyed α β) (k : α) :
    (l.foldl (fun m p => m.insert p.1 p.2) m).get? k = (lastValue? l k).or (m.get? k) := by
  induction l generalizing m with
  | nil => simp [lastValue?]
  | cons p l ih =>
    rw [List.foldl_cons, ih, get?_insert, lastValue?_cons, Option.or_assoc]
    by_cases h : p.1 = k <;> simp [h]

/-- A key has the value that was written for it last. -/
theorem get?_ofList (l : List (α × β)) (k : α) : (ofList l).get? k = lastValue? l k := by
  rw [ofList, get?_foldl_insert]
  simp

theorem entries_foldl_insert {l : List (α × β)} {m : Keyed α β}
    (h : (m.keys ++ l.map Prod.fst).Nodup) :
    (l.foldl (fun m p => m.insert p.1 p.2) m).entries = m.entries ++ l := by
  induction l generalizing m with
  | nil => simp
  | cons p l ih =>
    have new : p.1 ∉ m.keys := by
      intro known
      have apart := (List.nodup_append.mp h).2.2 p.1 known p.1 (by simp)
      exact apart rfl
    rw [List.foldl_cons, ih, entries_insert_of_new new, List.append_assoc]
    · rfl
    · rw [keys_insert_of_new new]
      simpa using h

/-- Pairs with distinct keys are kept as they are. -/
theorem entries_ofList_of_nodup {l : List (α × β)} (h : (l.map Prod.fst).Nodup) :
    (ofList l).entries = l := by
  rw [ofList, entries_foldl_insert (by simpa using h)]
  rfl

end Keyed

/-! ## 4. Lists without repetitions -/

theorem eraseDups_concat (l : List α) (a : α) :
    (l ++ [a]).eraseDups = if a ∈ l then l.eraseDups else l.eraseDups ++ [a] := by
  rw [List.eraseDups_append]
  by_cases known : a ∈ l <;> simp [List.removeAll, known, List.eraseDups_cons]

theorem nodup_eraseDups (l : List α) : l.eraseDups.Nodup := by
  match l with
  | [] => exact List.nodup_nil
  | a :: l =>
    rw [List.eraseDups_cons, List.nodup_cons, List.mem_eraseDups]
    have shorter := List.length_filter_le (fun b => !b == a) l
    exact ⟨by simp, nodup_eraseDups _⟩
termination_by l.length
decreasing_by simp; omega

end ComponentWiring
