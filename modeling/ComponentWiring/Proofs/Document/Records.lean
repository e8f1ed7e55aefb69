/-
ComponentWiring.Proofs.Document.Records — fields of records.

* `knownFields?_eq_some_iff` — the known fields of a record, if none is given twice.
* `filter_key_eq_singleton_iff` — a field that is given once is the one that is found.
* `Node.listField`, `forall₂_listField` — a field that holds a list is read item by item.
-/
import ComponentWiring.Document.Node
import ComponentWiring.Proofs.Outcome
import Mathlib.Data.List.Nodup

namespace ComponentWiring.Document

variable {α β : Type}

/-! ## 1. Keys of pairs -/

section Pairs

variable [DecidableEq α] {l : List (α × β)} {k : α} {v : β}

/-- The value that is found for a key is the first one. -/
theorem lookup_eq_head? (l : List (α × β)) (k : α) :
    l.lookup k = (l.filter (·.1 = k)).head?.map Prod.snd := by
  induction l with
  | nil => rfl
  | cons p l ih =>
    obtain ⟨a, b⟩ := p
    by_cases same : a = k
    · subst same
      simp
    · have other : (k == a) = false := by simpa using Ne.symm same
      simp [List.lookup_cons, other, same, ih]

/-- Keys are distinct exactly if each stands at most once. -/
theorem nodup_keys_iff : (l.map Prod.fst).Nodup ↔ ∀ k, (l.filter (·.1 = k)).length ≤ 1 := by
  simp only [List.nodup_iff_count_le_one, List.count, List.countP_eq_length_filter, beq_eq_decide,
    List.filter_map, List.length_map, Function.comp_def]

theorem filter_key_eq_singleton_iff :
    l.filter (·.1 = k) = [(k, v)] ↔
      (l.filter (·.1 = k)).length ≤ 1 ∧ l.lookup k = some v := by
  rw [lookup_eq_head?]
  cases found : l.filter (·.1 = k) with
  | nil => simp
  | cons p r =>
    have key : p.1 = k := by
      have listed : p ∈ l.filter (·.1 = k) := found ▸ List.mem_cons_self
      simpa using (List.mem_filter.mp listed).2
    obtain ⟨a, b⟩ := p
    subst key
    cases r <;> simp

/-- Of distinct keys each has the value that stands beside it. -/
theorem lookup_of_mem (distinct : (l.map Prod.fst).Nodup) (mem : (k, v) ∈ l) :
    l.lookup k = some v := by
  have listed : (k, v) ∈ l.filter (·.1 = k) := List.mem_filter.mpr ⟨mem, by simp⟩
  have once : (l.filter (·.1 = k)).length ≤ 1 := nodup_keys_iff.mp distinct k
  obtain ⟨p, single⟩ := List.length_eq_one_iff.mp
    (Nat.le_antisymm once (List.length_pos_of_mem listed))
  rw [single, List.mem_singleton] at listed
  exact (filter_key_eq_singleton_iff.mp (listed ▸ single)).2

theorem filter_key_eq_nil_iff : l.filter (·.1 = k) = [] ↔ l.lookup k = none := by
  rw [lookup_eq_head?, Option.map_eq_none_iff, List.head?_eq_none_iff]

/-- Among pairs of some keys, those of one of these keys are all that there are. -/
theorem filter_key_filter {p : α → Bool} (known : p k = true) :
    (l.filter fun e => p e.1).filter (·.1 = k) = l.filter (·.1 = k) := by
  rw [List.filter_filter]
  refine List.filter_congr fun e _ => ?_
  by_cases same : e.1 = k
  · simp [same, known]
  · simp [same]

theorem filter_key_filter_of_not {p : α → Bool} (unknown : p k = false) :
    (l.filter fun e => p e.1).filter (·.1 = k) = [] := by
  rw [List.filter_eq_nil_iff]
  intro e he
  rw [List.mem_filter] at he
  simp only [decide_eq_true_eq]
  rintro rfl
  exact Bool.false_ne_true (unknown.symm.trans he.2)

end Pairs

/-! ## 2. Plain values -/

theorem Node.text?_eq_some_iff {n : Node} {s : String} : n.text? = some s ↔ n = .text s := by
  cases n <;> simp [Node.text?]

theorem Node.bool?_eq_some_iff {n : Node} {b : Bool} : n.bool? = some b ↔ n = .bool b := by
  cases n <;> simp [Node.bool?]

theorem Node.allReadable_iff {items : List Node} :
    Node.allReadable items = true ↔ ∀ n ∈ items, n.isReadable = true := by
  induction items with
  | nil => simp [Node.allReadable]
  | cons n items ih => rw [Node.allReadable, Bool.and_eq_true, ih, List.forall_mem_cons]

theorem Node.allReadableEntries_iff {entries : List (String × Node)} :
    Node.allReadableEntries entries = true ↔ ∀ e ∈ entries, e.2.isReadable = true := by
  induction entries with
  | nil => simp [Node.allReadableEntries]
  | cons e entries ih =>
    rw [Node.allReadableEntries, Bool.and_eq_true, ih, List.forall_mem_cons, Node.entryReadable]

/-! ## 3. Known fields -/

variable {names : List String} {entries found : List (String × Node)}

/-- The known fields are those that the record gives, none of them twice. -/
theorem knownFields?_eq_some_iff :
    knownFields? names entries = some found ↔
      found = entries.filter (names.contains ·.1) ∧
        ∀ k ∈ names, (entries.filter (·.1 = k)).length ≤ 1 := by
  have once : ((entries.filter (names.contains ·.1)).map Prod.fst).Nodup ↔
      ∀ k ∈ names, (entries.filter (·.1 = k)).length ≤ 1 := by
    rw [nodup_keys_iff]
    refine forall_congr' fun k => ?_
    by_cases known : k ∈ names
    · rw [filter_key_filter (List.contains_iff_mem.mpr known)]
      simp [known]
    · rw [filter_key_filter_of_not (by simpa using known)]
      simp [known]
  rw [knownFields?, Option.ite_none_right_eq_some, once, Option.some.injEq, and_comm, eq_comm]

/-- A record that gives each known field once, and no other one, gives all of its entries. -/
theorem Node.record?_of_keys (d : Dialect) (keys : entries.map Prod.fst = names)
    (distinct : names.Nodup) : Node.record? d names (.record entries) = some entries := by
  have all : entries.filter (names.contains ·.1) = entries := by
    refine List.filter_eq_self.mpr fun e he => List.contains_iff_mem.mpr ?_
    rw [← keys]
    exact List.mem_map_of_mem he
  rw [Node.record?, knownFields?, all, keys, if_pos distinct]

theorem lookup_knownFields {k : String} (known : k ∈ names) :
    (entries.filter (names.contains ·.1)).lookup k = entries.lookup k := by
  rw [lookup_eq_head?, lookup_eq_head?, filter_key_filter (List.contains_iff_mem.mpr known)]

theorem defaulted?_eq_some_iff {field : String} {default x : α} {read : Node → Option α} :
    defaulted? found field default read = some x ↔
      found.lookup field = none ∧ x = default ∨
        ∃ n, found.lookup field = some n ∧ read n = some x := by
  unfold defaulted?
  cases found.lookup field <;> simp [eq_comm]

/-! ## 4. Lists -/

/-- The items of a field that holds a list. -/
def Node.listField (d : Dialect) (names : List String) (field : String) (n : Node) : List Node :=
  match (n.record? d names).bind (·.lookup field) with
  | some (.list items) => items
  | _ => []

/-- A field that holds a list is read item by item; without the field there are no items. -/
theorem forall₂_listField {d : Dialect} {n : Node} {field : String} {read : Node → Option α}
    {xs : List α} (given : n.record? d names = some found)
    (made : defaulted? found field [] (Node.list? read) = some xs) :
    List.Forall₂ (fun item x => read item = some x) (n.listField d names field) xs := by
  rw [Node.listField, given, Option.bind_some]
  unfold defaulted? at made
  cases value : found.lookup field with
  | none =>
    rw [value] at made
    cases made
    exact .nil
  | some node =>
    rw [value] at made
    cases node with
    | list items => exact mapM_eq_some_iff.mp made
    | null | bool | integer | text | record | fraction | unreadable => cases made

end ComponentWiring.Document
