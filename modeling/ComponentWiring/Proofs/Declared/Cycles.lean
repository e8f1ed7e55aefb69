/-
ComponentWiring.Proofs.Declared.Cycles — which types can be reached from themselves.

* `TypeStore.unvisited` — how many declared names a walk has not visited.
* `TypeStore.Settles` — what a walk leaves behind: names it has visited newly, and no steps that lead
  out of them.
* `TypeStore.IsSupertype` — one step upwards, to the superclass or to an interface.
* `TypeStore.exists_closed_of_meets` — a search that does not meet a name leaves behind a list of
  names that no supertype leads out of.
* `TypeStore.hasCycle_iff` — the search for a cycle finds one exactly if there is one.
* `TypeStore.IsNameSearch.unique` — one function obeys the recursion of a search.
-/
import ComponentWiring.Declared.Hierarchy
import Mathlib.Data.List.Flatten
import Mathlib.Data.List.Perm.Subperm
import Mathlib.Logic.Relation

namespace ComponentWiring.TypeStore

open Relation

variable {s : TypeStore} {t u p : TypeElement} {name : String} {seen visited : List String}

/-! ## 1. Declared names -/

theorem mem_names_of_get? {n : String} {t : TypeElement} (h : s.get? n = some t) : n ∈ s.names := by
  refine Classical.byContradiction fun unknown => ?_
  cases h.symm.trans (get?_eq_none_iff.mpr unknown)

/-- Distinct declared names are no more than the declared types. -/
theorem length_le_size {ns : List String} (distinct : ns.Nodup) (declared : ∀ n ∈ ns, n ∈ s.names) :
    ns.length ≤ s.size := by
  have fits := (distinct.subperm declared).length_le
  rwa [names, Keyed.keys, List.length_map] at fits

/-- A resolved type is stored under its own name. -/
theorem get?_of_resolve {r : TypeRef} {t : TypeElement} (h : s.resolve r = some t) :
    s.get? t.qualifiedName = some t := by
  obtain ⟨n, _, known⟩ := Option.bind_eq_some_iff.mp h
  rwa [qualifiedName_of_get? known]

/-- The number of declared names that are not visited. -/
def unvisited (s : TypeStore) (visited : List String) : Nat :=
  (s.names.filter (!visited.contains ·)).length

theorem unvisited_le_size (s : TypeStore) (visited : List String) :
    s.unvisited visited ≤ s.size := by
  have fits := List.length_filter_le (!visited.contains ·) s.names
  rwa [names, Keyed.keys, List.length_map] at fits

theorem unvisited_anti {visited' : List String} (grows : ∀ n ∈ visited, n ∈ visited') :
    s.unvisited visited' ≤ s.unvisited visited := by
  refine (List.monotone_filter_right s.names fun n new => ?_).length_le
  simp only [Bool.not_eq_true', List.contains_eq_mem, decide_eq_false_iff_not] at new ⊢
  exact fun old => new (grows n old)

/-- A declared name that is visited leaves one less to visit. -/
theorem unvisited_cons_lt {n : String} (declared : n ∈ s.names) (new : n ∉ visited) :
    s.unvisited (n :: visited) < s.unvisited visited := by
  have same : s.names.filter (!(n :: visited).contains ·) =
      (s.names.filter (!visited.contains ·)).filter (· ≠ n) := by
    rw [List.filter_filter]
    refine List.filter_congr fun m _ => ?_
    simp [Bool.not_or]
  rw [unvisited, same, unvisited, List.length_filter_lt_length_iff_exists]
  exact ⟨n, List.mem_filter.mpr ⟨declared, by simpa using new⟩, by simp⟩

/-! ## 2. Settled names -/

/-- The names visited newly are those of types with a property, and steps lead from these types to
visited names only. -/
structure Settles (s : TypeStore) (P : TypeElement → Prop) (step : TypeElement → TypeElement → Prop)
    (visited visited' : List String) : Prop where
  grows : ∀ n ∈ visited, n ∈ visited'
  settled : ∀ u, s.get? u.qualifiedName = some u → u.qualifiedName ∈ visited' →
    u.qualifiedName ∉ visited → P u ∧ ∀ p, step u p → p.qualifiedName ∈ visited'

section Settles

variable {P : TypeElement → Prop} {step : TypeElement → TypeElement → Prop}
  {visited' later : List String}

theorem settles_refl (s : TypeStore) (P : TypeElement → Prop)
    (step : TypeElement → TypeElement → Prop) (visited : List String) :
    s.Settles P step visited visited :=
  ⟨fun _ => id, fun _ _ old new => absurd old new⟩

theorem Settles.trans (h : s.Settles P step visited visited')
    (h' : s.Settles P step visited' later) : s.Settles P step visited later := by
  refine ⟨fun n hn => h'.grows n (h.grows n hn), fun u known inside new => ?_⟩
  by_cases first : u.qualifiedName ∈ visited'
  · obtain ⟨holds, closed⟩ := h.settled u known first new
    exact ⟨holds, fun p next => h'.grows _ (closed p next)⟩
  · exact h'.settled u known inside first

/-- A stored type is settled with the names that are visited after its own. -/
theorem Settles.of_cons (h : s.Settles P step (t.qualifiedName :: visited) visited')
    (known : s.get? t.qualifiedName = some t)
    (own : P t ∧ ∀ p, step t p → p.qualifiedName ∈ visited') :
    s.Settles P step visited visited' := by
  refine ⟨fun n hn => h.grows n (List.mem_cons_of_mem _ hn), fun u knownU inside new => ?_⟩
  by_cases same : u.qualifiedName = t.qualifiedName
  · cases knownU.symm.trans (same ▸ known)
    exact own
  · exact h.settled u knownU inside fun old => (List.mem_cons.mp old).elim same new

end Settles

/-! ## 3. One step upwards -/

/-- The second type is the declared superclass of the first one, or a declared interface of it. -/
def IsSupertype (s : TypeStore) (t p : TypeElement) : Prop :=
  ∃ r ∈ t.superclass :: t.interfaces, s.resolve r = some p

theorem mem_supertypes_iff {t p : TypeElement} : p ∈ s.supertypes t ↔ s.IsSupertype t p :=
  List.mem_filterMap

/-- A supertype is stored under its own name. -/
theorem IsSupertype.get?_eq {t p : TypeElement} (h : s.IsSupertype t p) :
    s.get? p.qualifiedName = some p := by
  obtain ⟨r, _, found⟩ := h
  exact get?_of_resolve found

theorem get?_of_above (known : s.get? t.qualifiedName = some t)
    (above : ReflTransGen s.IsSupertype t u) : s.get? u.qualifiedName = some u := by
  rcases above.cases_tail with rfl | ⟨_, _, step⟩
  · exact known
  · exact step.get?_eq

/-- No supertype leads out of the names. -/
def IsClosed (s : TypeStore) (names : List String) : Prop :=
  ∀ u, s.get? u.qualifiedName = some u → u.qualifiedName ∈ names →
    ∀ p, s.IsSupertype u p → p.qualifiedName ∈ names

theorem IsClosed.mem_of_above {names : List String} (closed : s.IsClosed names)
    (known : s.get? t.qualifiedName = some t) (inside : t.qualifiedName ∈ names)
    (above : ReflTransGen s.IsSupertype t u) : u.qualifiedName ∈ names := by
  induction above with
  | refl => exact inside
  | tail below step ih => exact closed _ (get?_of_above known below) ih _ step

/-! ## 4. The search for a name -/

/-- What a search meets lies on the stack or above it. -/
theorem exists_above_of_meets {fuel : Nat} {stack : List TypeElement}
    (met : s.meets name fuel seen stack = true) :
    ∃ u ∈ stack, ∃ v, ReflTransGen s.IsSupertype u v ∧ v.qualifiedName = name := by
  induction fuel generalizing seen stack with
  | zero => cases met
  | succ fuel ih =>
    cases stack with
    | nil => cases met
    | cons u stack =>
      rw [meets, meetsWith] at met
      split at met
      · next here => exact ⟨u, List.mem_cons_self, u, .refl, here⟩
      · split at met
        · obtain ⟨w, hw, above⟩ := ih met
          exact ⟨w, List.mem_cons_of_mem u hw, above⟩
        · obtain ⟨w, hw, v, path, named⟩ := ih met
          rcases List.mem_append.mp hw with new | old
          · have step := mem_supertypes_iff.mp (List.mem_reverse.mp new)
            exact ⟨u, List.mem_cons_self, v, path.head step, named⟩
          · exact ⟨w, List.mem_cons_of_mem u old, v, path, named⟩

/-- How many types still get on the stack, those that lie on it included. -/
def stackingsLeft (s : TypeStore) (seen : List String) (stack : List TypeElement) : Nat :=
  (stack ++ (s.elements.filter (!seen.contains ·.qualifiedName)).flatMap s.supertypes).length

theorem stackingsLeft_pop (u : TypeElement) (stack : List TypeElement) :
    s.stackingsLeft seen (u :: stack) = s.stackingsLeft seen stack + 1 := rfl

theorem mem_elements_of_get? (known : s.get? name = some t) : t ∈ s.elements :=
  List.mem_map.mpr ⟨(name, t), Entries.mem_of_get?_eq_some known, rfl⟩

/-- With a stored type that is met first, the supertypes of one type less are left. -/
theorem stackingsLeft_cons (known : s.get? u.qualifiedName = some u) (new : u.qualifiedName ∉ seen)
    (stack : List TypeElement) :
    s.stackingsLeft (u.qualifiedName :: seen) ((s.supertypes u).reverse ++ stack) <
      s.stackingsLeft seen (u :: stack) := by
  have later : s.elements.filter (!(u.qualifiedName :: seen).contains ·.qualifiedName) =
      (s.elements.filter (!seen.contains ·.qualifiedName)).filter
        (·.qualifiedName ≠ u.qualifiedName) := by
    rw [List.filter_filter]
    refine List.filter_congr fun v _ => ?_
    simp [Bool.not_or]
  have listed : u ∈ s.elements.filter (!seen.contains ·.qualifiedName) :=
    List.mem_filter.mpr ⟨mem_elements_of_get? known, by simpa using new⟩
  have apart : u ∉ (s.elements.filter (!seen.contains ·.qualifiedName)).filter
      (·.qualifiedName ≠ u.qualifiedName) := by simp
  obtain ⟨all, same, fewer⟩ := List.subperm_iff.mp
    (List.cons_subperm_of_not_mem_of_mem apart listed List.filter_sublist.subperm)
  have length_le := (fewer.flatMap s.supertypes).length_le
  rw [(same.flatMap_right s.supertypes).length_eq, List.flatMap_cons, List.length_append]
    at length_le
  simp only [stackingsLeft, later, List.length_append, List.length_reverse, List.length_cons]
  omega

/-- The search has not met the name among the names it has seen, and these lead to names it has seen
or to types of the stack. -/
structure IsUnmet (s : TypeStore) (name : String) (seen : List String) (stack : List TypeElement) :
    Prop where
  other : name ∉ seen
  stored : ∀ u ∈ stack, s.get? u.qualifiedName = some u
  next : ∀ u, s.get? u.qualifiedName = some u → u.qualifiedName ∈ seen →
    ∀ p, s.IsSupertype u p → p.qualifiedName ∈ seen ∨ p ∈ stack

theorem IsUnmet.isClosed (h : s.IsUnmet name seen []) : s.IsClosed seen :=
  fun u known inside p step => (h.next u known inside p step).resolve_right List.not_mem_nil

/-- A type that was seen is taken from the stack. -/
theorem IsUnmet.drop {stack : List TypeElement} (h : s.IsUnmet name seen (u :: stack))
    (again : u.qualifiedName ∈ seen) : s.IsUnmet name seen stack := by
  refine ⟨h.other, fun v hv => h.stored v (List.mem_cons_of_mem u hv), ?_⟩
  intro v known inside p step
  refine (h.next v known inside p step).elim .inl fun waits => ?_
  rcases List.mem_cons.mp waits with rfl | waits
  · exact .inl again
  · exact .inr waits

/-- The supertypes of a type that is not the one searched for take its place on the stack. -/
theorem IsUnmet.replace {stack : List TypeElement} (h : s.IsUnmet name seen (u :: stack))
    (different : u.qualifiedName ≠ name) :
    s.IsUnmet name (u.qualifiedName :: seen) ((s.supertypes u).reverse ++ stack) := by
  have known := h.stored u List.mem_cons_self
  refine ⟨?_, fun v hv => ?_, fun v knownV inside p step => ?_⟩
  · rw [List.mem_cons, not_or]
    exact ⟨fun same => different same.symm, h.other⟩
  · rcases List.mem_append.mp hv with above | waits
    · exact (mem_supertypes_iff.mp (List.mem_reverse.mp above)).get?_eq
    · exact h.stored v (List.mem_cons_of_mem u waits)
  · rcases List.mem_cons.mp inside with same | inside
    · cases knownV.symm.trans (same ▸ known)
      exact .inr (List.mem_append_left _ (List.mem_reverse.mpr (mem_supertypes_iff.mpr step)))
    · rcases h.next v knownV inside p step with old | waits
      · exact .inl (List.mem_cons_of_mem _ old)
      · rcases List.mem_cons.mp waits with rfl | waits
        · exact .inl List.mem_cons_self
        · exact .inr (List.mem_append_right _ waits)

/-- A search that does not meet a name, and may take as many types from the stack as get on it, ends
with an empty stack: there are names among which are those of the stack, and that no supertype leads
out of. -/
theorem exists_closed_of_meets {fuel : Nat} {stack : List TypeElement}
    (h : s.IsUnmet name seen stack) (unmet : s.meets name fuel seen stack = false)
    (enough : s.stackingsLeft seen stack ≤ fuel) :
    ∃ names, s.IsClosed names ∧ name ∉ names ∧ (∀ n ∈ seen, n ∈ names) ∧
      ∀ u ∈ stack, u.qualifiedName ∈ names := by
  induction fuel generalizing seen stack with
  | zero =>
    cases stack with
    | nil => exact ⟨seen, h.isClosed, h.other, fun _ => id, nofun⟩
    | cons u stack =>
      rw [stackingsLeft_pop] at enough
      omega
  | succ fuel ih =>
    cases stack with
    | nil => exact ⟨seen, h.isClosed, h.other, fun _ => id, nofun⟩
    | cons u stack =>
      rw [meets, meetsWith] at unmet
      split at unmet
      · cases unmet
      · next different =>
        split at unmet
        · next again =>
          have again : u.qualifiedName ∈ seen := by simpa using again
          rw [stackingsLeft_pop] at enough
          obtain ⟨names, closed, avoids, kept, held⟩ :=
            ih (h.drop again) unmet (Nat.le_of_succ_le_succ enough)
          exact ⟨names, closed, avoids, kept, List.forall_mem_cons.mpr ⟨kept _ again, held⟩⟩
        · next new =>
          have fewer :=
            stackingsLeft_cons (h.stored u List.mem_cons_self) (by simpa using new) stack
          have enough := Nat.le_of_lt_succ (Nat.lt_of_lt_of_le fewer enough)
          obtain ⟨names, closed, avoids, kept, held⟩ := ih (h.replace different) unmet enough
          exact ⟨names, closed, avoids, fun n hn => kept n (List.mem_cons_of_mem _ hn),
            List.forall_mem_cons.mpr ⟨kept _ List.mem_cons_self,
              fun v hv => held v (List.mem_append_right _ hv)⟩⟩

/-! ## 5. Cycles -/

theorem get?_of_mem_supertypes (h : u ∈ (s.supertypes t).reverse) :
    s.get? u.qualifiedName = some u :=
  (mem_supertypes_iff.mp (List.mem_reverse.mp h)).get?_eq

/-- The search meets the name of the type, if a type of this name lies above it. -/
theorem hasCycle_of_above (step : s.IsSupertype t u) (path : ReflTransGen s.IsSupertype u p)
    (named : p.qualifiedName = t.qualifiedName) : s.hasCycle t = true := by
  refine Classical.byContradiction fun unmet => ?_
  have start : s.IsUnmet t.qualifiedName [] (s.supertypes t).reverse :=
    ⟨List.not_mem_nil, fun _ => get?_of_mem_supertypes, fun _ _ => nofun⟩
  have enough : s.stackingsLeft [] (s.supertypes t).reverse ≤ s.stackings t := by
    simp [stackingsLeft, stackings]
  obtain ⟨names, closed, avoids, -, held⟩ :=
    exists_closed_of_meets start (Bool.not_eq_true _ ▸ unmet) enough
  have first := held u (List.mem_reverse.mpr (mem_supertypes_iff.mpr step))
  exact avoids (named ▸ closed.mem_of_above step.get?_eq first path)

/-- A stored type has a cycle exactly if it lies above itself. -/
theorem hasCycle_iff (known : s.get? t.qualifiedName = some t) :
    s.hasCycle t = true ↔ TransGen s.IsSupertype t t := by
  constructor
  · intro met
    obtain ⟨u, hu, v, path, named⟩ := exists_above_of_meets met
    have step := mem_supertypes_iff.mp (List.mem_reverse.mp hu)
    cases known.symm.trans (named ▸ get?_of_above step.get?_eq path)
    exact .head' step path
  · intro cycle
    obtain ⟨u, step, back⟩ := TransGen.head'_iff.mp cycle
    exact hasCycle_of_above step back rfl

/-! ## 6. The recursion -/

/-- The function searches for the name as the recursion tells, without any bound. -/
def IsNameSearch (s : TypeStore) (name : String)
    (meets : List String → List TypeElement → Bool) : Prop :=
  ∀ seen stack, meets seen stack = s.meetsWith name meets seen stack

open Classical in
/-- What is met within some bound is met without one. -/
theorem isNameSearch_meets (s : TypeStore) (name : String) :
    s.IsNameSearch name fun seen stack => decide (∃ fuel, s.meets name fuel seen stack = true) := by
  intro seen stack
  have next : (∃ fuel, s.meets name fuel seen stack = true) ↔
      ∃ fuel, s.meetsWith name (s.meets name fuel) seen stack = true := by
    constructor
    · rintro ⟨fuel, met⟩
      cases fuel with
      | zero => cases met
      | succ fuel => exact ⟨fuel, met⟩
    · exact fun ⟨fuel, met⟩ => ⟨fuel + 1, met⟩
  rw [Bool.eq_iff_iff, decide_eq_true_iff, next]
  cases stack with
  | nil => simp [meetsWith]
  | cons u stack =>
    simp only [meetsWith]
    split
    · simp
    · split <;> exact decide_eq_true_iff.symm

section Unique

variable {meets meets' : List String → List TypeElement → Bool}

/-- What two functions answer is settled by what they answer for the types below stored ones. -/
theorem IsNameSearch.eq_of_below (h : s.IsNameSearch name meets)
    (h' : s.IsNameSearch name meets') {below : List TypeElement}
    (same : ∀ seen, meets seen below = meets' seen below) (n : Nat) {stack : List TypeElement}
    (stored : ∀ u ∈ stack, s.get? u.qualifiedName = some u)
    (left : s.stackingsLeft seen stack < n) :
    meets seen (stack ++ below) = meets' seen (stack ++ below) := by
  induction n generalizing seen stack with
  | zero => exact absurd left (Nat.not_lt_zero _)
  | succ n ih =>
    cases stack with
    | nil => exact same seen
    | cons u stack =>
      obtain ⟨known, others⟩ := List.forall_mem_cons.mp stored
      rw [List.cons_append, h, h', meetsWith, meetsWith]
      split
      · rfl
      · split
        · exact ih others (Nat.lt_of_succ_lt_succ left)
        · next new =>
          rw [← List.append_assoc]
          refine ih (List.forall_mem_append.mpr ⟨fun _ => get?_of_mem_supertypes, others⟩) ?_
          exact Nat.lt_of_lt_of_le (stackingsLeft_cons known (by simpa using new) stack)
            (Nat.le_of_lt_succ left)

/-- There is no second function that obeys the recursion, so a search comes to an end, be the types
on its stack stored or not. -/
theorem IsNameSearch.unique (h : s.IsNameSearch name meets) (h' : s.IsNameSearch name meets') :
    meets = meets' := by
  funext seen stack
  induction stack generalizing seen with
  | nil => rw [h, h', meetsWith, meetsWith]
  | cons u stack ih =>
    rw [h, h', meetsWith, meetsWith]
    split
    · rfl
    · split
      · exact ih seen
      · exact h.eq_of_below h' ih _ (fun _ => get?_of_mem_supertypes) (Nat.lt_succ_self _)

open Classical in
/-- The bound of the search for a cycle is out of its reach. -/
theorem IsNameSearch.hasCycle_eq (h : s.IsNameSearch t.qualifiedName meets) :
    s.hasCycle t = meets [] (s.supertypes t).reverse := by
  rw [h.unique (isNameSearch_meets s t.qualifiedName), Bool.eq_iff_iff, decide_eq_true_iff]
  constructor
  · exact fun met => ⟨_, met⟩
  · rintro ⟨fuel, met⟩
    obtain ⟨u, hu, v, path, named⟩ := exists_above_of_meets met
    exact hasCycle_of_above (mem_supertypes_iff.mp (List.mem_reverse.mp hu)) path named

end Unique

end ComponentWiring.TypeStore
