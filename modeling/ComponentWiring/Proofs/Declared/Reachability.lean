/-
ComponentWiring.Proofs.Declared.Reachability — the two searches for an interface.

* `TypeStore.isSearch_iff` — there is one function that obeys the recursion of a search.
* `TypeStore.findInterface_eq_some_iff` — the first one answers the target, if interfaces lead
  there.
* `TypeStore.findDeclaringInterface_eq_some_iff` — the second one answers the first reference that
  is the target or leads there.
* `TypeStore.interfaceSearches_exact` — both come to an end, and they succeed together. It makes no
  difference whether the second one goes on with what failed searches have visited or starts anew.
-/
import ComponentWiring.Proofs.Declared.Interfaces

namespace ComponentWiring.TypeStore

open Relation

variable {s : TypeStore} {refs : List TypeRef} {target : String} {t : TypeElement}
  {visited : List String}

/-! ## 1. The recursion -/

section Recursion

variable {search search' : List String → List TypeRef → Search} {n : Nat}
  (same : ∀ visited refs, s.unvisited visited < n → search' visited refs = search visited refs)

include same in
/-- Interfaces are searched with one name less left. -/
theorem searchWith_congr (left : s.unvisited visited < n + 1) (r : TypeRef) :
    s.searchWith target search' visited r = s.searchWith target search visited r := by
  unfold searchWith
  split
  · rfl
  · next p resolved =>
    split
    · rfl
    · next new =>
      have declared := mem_names_of_get? (get?_of_resolve resolved)
      rw [same _ _ (Nat.lt_of_lt_of_le (unvisited_cons_lt declared (by simpa using new))
        (Nat.le_of_lt_succ left))]

include same in
theorem searchEach_congr (thorough : s.IsThorough target search n)
    (left : s.unvisited visited < n + 1) (refs : List TypeRef) :
    s.searchEach target search' visited refs = s.searchEach target search visited refs := by
  unfold searchEach
  induction refs generalizing visited with
  | nil => rfl
  | cons r refs ih =>
    rw [List.foldlM_cons, List.foldlM_cons, searchWith_congr same left]
    cases first : s.searchWith target search visited r with
    | error t => rfl
    | ok between =>
      exact ih (Nat.lt_of_le_of_lt (unvisited_anti (thorough.searchWith first left).1.grows) left)

end Recursion

/-- The function searches references as the recursion tells, without any bound. -/
def IsSearch (s : TypeStore) (target : String) (search : List String → List TypeRef → Search) :
    Prop :=
  ∀ visited refs, search visited refs = s.searchEach target search visited refs

/-- With a bound for all names that are left, a search does what the recursion tells. -/
theorem IsSearch.eq_search {search : List String → List TypeRef → Search}
    (h : s.IsSearch target search) (fuel : Nat) : ∀ visited refs,
      s.unvisited visited < fuel → search visited refs = s.search target fuel visited refs := by
  induction fuel with
  | zero => exact fun _ _ => nofun
  | succ fuel ih =>
    intro visited refs left
    rw [h]
    exact searchEach_congr ih (isThorough_search fuel) left refs

/-- A higher bound makes no difference then. -/
theorem search_succ (fuel : Nat) : ∀ visited refs, s.unvisited visited < fuel →
    s.search target (fuel + 1) visited refs = s.search target fuel visited refs := by
  induction fuel with
  | zero => exact fun _ _ => nofun
  | succ fuel ih => exact fun visited refs left =>
      searchEach_congr ih (isThorough_search fuel) left refs

/-- There is one function that obeys the recursion, so a search comes to an end. Its bound is out of
its reach. -/
theorem isSearch_iff {search : List String → List TypeRef → Search} :
    s.IsSearch target search ↔ search = s.searchAll target := by
  have left (visited : List String) : s.unvisited visited < s.size + 1 :=
    Nat.lt_succ_of_le (unvisited_le_size s visited)
  constructor
  · intro h
    funext visited refs
    exact h.eq_search (s.size + 1) visited refs (left visited)
  · rintro rfl visited refs
    exact (search_succ (s.size + 1) visited refs (left visited)).symm

/-! ## 2. The target -/

/-- A stored type leads to a name exactly if interfaces reach the type stored under the name. -/
theorem leadsTo_iff_reaches (stored : s.get? t.qualifiedName = some t) :
    s.LeadsTo target t ↔ ∃ u, s.get? target = some u ∧ ReflTransGen s.IsInterface t u := by
  constructor
  · rintro ⟨u, path, rfl⟩
    exact ⟨u, get?_of_above stored (above_of_interfaces path), path⟩
  · rintro ⟨u, known, path⟩
    exact ⟨u, path, qualifiedName_of_get? known⟩

/-- The search answers the type of the name, if a reference leads to it through interfaces. -/
theorem findInterface_eq_some_iff :
    s.findInterface refs target = some t ↔ s.get? target = some t ∧
      ∃ r ∈ refs, ∃ p, s.resolve r = some p ∧ ReflTransGen s.IsInterface p t := by
  have stored {u : TypeElement} (named : u.qualifiedName = target) {r : TypeRef} {p : TypeElement}
      (found : s.resolve r = some p) (path : ReflTransGen s.IsInterface p u) :
      s.get? target = some u := by
    rw [← named]
    exact get?_of_above (get?_of_resolve found) (above_of_interfaces path)
  unfold findInterface
  rcases searchAll_cases (isExplored_nil s target) refs with
    ⟨u, ended, named, r, hr, p, found, path⟩ | ⟨visited, failed, -, lost⟩
  · rw [ended]
    constructor
    · rintro ⟨⟩
      exact ⟨stored named found path, r, hr, p, found, path⟩
    · rintro ⟨known, -⟩
      exact (stored named found path).symm.trans known
  · rw [failed]
    refine iff_of_false nofun ?_
    rintro ⟨known, r, hr, p, found, path⟩
    exact lost r hr p found ⟨t, path, qualifiedName_of_get? known⟩

theorem isSome_findInterface_iff :
    (s.findInterface refs target).isSome = true ↔
      ∃ r ∈ refs, ∃ p, s.resolve r = some p ∧ s.LeadsTo target p := by
  simp only [Option.isSome_iff_exists, findInterface_eq_some_iff]
  constructor
  · rintro ⟨t, known, r, hr, p, found, path⟩
    exact ⟨r, hr, p, found, t, path, qualifiedName_of_get? known⟩
  · rintro ⟨r, hr, p, found, leads⟩
    obtain ⟨t, known, path⟩ := (leadsTo_iff_reaches (get?_of_resolve found)).mp leads
    exact ⟨t, known, r, hr, p, found, path⟩

/-! ## 3. The reference -/

/-- The search answers the first reference that is the target or leads to it. -/
theorem findDeclaringInterface_eq_some_iff :
    s.findDeclaringInterface refs target = some t ↔
      ∃ before r after, refs = before ++ r :: after ∧ s.resolve r = some t ∧ s.LeadsTo target t ∧
        ∀ q ∈ before, ∀ p, s.resolve q = some p → ¬ s.LeadsTo target p := by
  rw [findDeclaringInterface_eq, List.findSome?_eq_some_iff]
  simp only [leading?_eq_some_iff, leading?_eq_none_iff, and_assoc]

theorem isSome_findDeclaringInterface_iff :
    (s.findDeclaringInterface refs target).isSome = true ↔
      ∃ r ∈ refs, ∃ p, s.resolve r = some p ∧ s.LeadsTo target p := by
  rw [findDeclaringInterface_eq, List.isSome_findSome?, List.any_eq_true]
  simp only [Option.isSome_iff_exists, leading?_eq_some_iff]

/-! ## 4. Visited names -/

/-- Each reference may be searched on its own. -/
theorem findDeclaringInterface_eq_findSome? (s : TypeStore) (refs : List TypeRef)
    (target : String) :
    s.findDeclaringInterface refs target =
      refs.findSome? fun r => s.findDeclaringInterface [r] target := by
  simp only [findDeclaringInterface_eq, List.findSome?_singleton]

/-- What a failed search has visited may be passed over. -/
theorem findDeclaringAfter_of_failed {earlier : List TypeRef}
    (failed : s.searchAll target [] earlier = .ok visited) (refs : List TypeRef) :
    s.findDeclaringAfter target visited refs = s.findDeclaringInterface refs target := by
  rcases searchAll_cases (isExplored_nil s target) earlier with
    ⟨_, ended, -⟩ | ⟨_, failed', explored, -⟩
  · cases failed.symm.trans ended
  · cases failed.symm.trans failed'
    rw [findDeclaringAfter_eq explored, findDeclaringInterface_eq]

/-! ## 5. Both searches -/

/-- A search through interfaces comes to an end: its recursion allows for one outcome. The first
search answers the stored type of the name exactly if some reference leads to it through declared
interfaces, and the second one answers the first reference that is the target or leads to it. So one
succeeds exactly if the other does. Visited names are kept from one reference to the next. This
hides nothing: each reference may be searched on its own, and what any failed search has visited may
be passed over. -/
theorem interfaceSearches_exact (s : TypeStore) (refs : List TypeRef) (target : String) :
    (∃! search, ∀ visited rs, search visited rs = s.searchEach target search visited rs) ∧
    (∀ search, (∀ visited rs, search visited rs = s.searchEach target search visited rs) →
      s.findInterface refs target = (search [] refs).found?) ∧
    (∀ t, s.findInterface refs target = some t ↔ s.get? target = some t ∧
      ∃ r ∈ refs, ∃ p, s.resolve r = some p ∧ ReflTransGen s.IsInterface p t) ∧
    (∀ t, s.findDeclaringInterface refs target = some t ↔
      ∃ before r after, refs = before ++ r :: after ∧ s.resolve r = some t ∧ s.LeadsTo target t ∧
        ∀ q ∈ before, ∀ p, s.resolve q = some p → ¬ s.LeadsTo target p) ∧
    ((s.findInterface refs target).isSome = true ↔
      (s.findDeclaringInterface refs target).isSome = true) ∧
    s.findDeclaringInterface refs target =
      refs.findSome? (fun r => s.findDeclaringInterface [r] target) ∧
    ∀ earlier visited, s.searchAll target [] earlier = .ok visited →
      s.findDeclaringAfter target visited refs = s.findDeclaringInterface refs target := by
  refine ⟨⟨s.searchAll target, isSearch_iff.mpr rfl, fun _ h => isSearch_iff.mp h⟩, ?_,
    fun _ => findInterface_eq_some_iff, fun _ => findDeclaringInterface_eq_some_iff,
    isSome_findInterface_iff.trans isSome_findDeclaringInterface_iff.symm,
    findDeclaringInterface_eq_findSome? s refs target,
    fun _ _ failed => findDeclaringAfter_of_failed failed refs⟩
  intro search h
  rw [isSearch_iff.mp h, findInterface]

/-- The first of two interfaces that extend each other. -/
def leftInterface : TypeElement :=
  { TypeElement.ofInterface "Left" with interfaces := [.named "Right", .named "Missing"] }

/-- Both of them, one they lead to, and one beside them. -/
def circleStore : TypeStore :=
  empty.insertAll [leftInterface,
    { TypeElement.ofInterface "Right" with interfaces := [.named "Left", .named "Top"] },
    .ofInterface "Aside", .ofInterface "Top"]

/-- Past a reference that is not declared and one that leads elsewhere, the circle is entered where
it is named first, also after a search that has visited what lies beside it. -/
theorem interfaceSearches_exact_of_circle :
    let refs : List TypeRef := [.named "Missing", .named "Aside", .named "Left", .named "Right"]
    (∃ r ∈ refs, ∃ p, circleStore.resolve r = some p ∧
      ReflTransGen circleStore.IsInterface p (.ofInterface "Top")) ∧
    (∃ before r after, refs = before ++ r :: after ∧ circleStore.resolve r = some leftInterface ∧
      circleStore.LeadsTo "Top" leftInterface ∧
      ∀ q ∈ before, ∀ p, circleStore.resolve q = some p → ¬ circleStore.LeadsTo "Top" p) ∧
    circleStore.searchAll "Top" [] [.named "Aside"] = .ok ["Aside"] ∧
    circleStore.findDeclaringAfter "Top" ["Aside"] refs =
      circleStore.findDeclaringInterface refs "Top" := by
  intro refs
  obtain ⟨-, -, target, declaring, -, -, visited⟩ := interfaceSearches_exact circleStore refs "Top"
  have failed : circleStore.searchAll "Top" [] [.named "Aside"] = .ok ["Aside"] := by rfl
  refine ⟨?_, (declaring leftInterface).mp (by rfl), failed, visited _ _ failed⟩
  exact ((target (.ofInterface "Top")).mp (by rfl)).2

end ComponentWiring.TypeStore
