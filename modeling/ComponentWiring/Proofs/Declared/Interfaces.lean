/-
ComponentWiring.Proofs.Declared.Interfaces — which reference leads to an interface.

* `TypeStore.IsInterface` — one step upwards, to a declared interface.
* `TypeStore.LeadsTo` — a type is the target or reaches it in such steps.
* `TypeStore.IsExplored` — visited names that no interface leads out of, and not the target.
* `TypeStore.isTruthful_search`, `TypeStore.isThorough_search` — a search ends at the target only,
  and it fails only with explored names, among which are those of all references.
* `TypeStore.findDeclaringInterface_eq` — the search answers the first reference that leads to the
  target.

Later references are not searched for what earlier ones have led to. This hides nothing: what was
visited by a search that failed holds no type that leads to the target.
-/
import ComponentWiring.Proofs.Declared.Cycles
import ComponentWiring.Proofs.Outcome

namespace ComponentWiring.TypeStore

open Relation

variable {s : TypeStore} {target : String} {t : TypeElement} {refs : List TypeRef}
  {visited visited' : List String}

/-! ## 1. One step upwards -/

/-- The second type is a declared interface of the first one. -/
def IsInterface (s : TypeStore) (t p : TypeElement) : Prop :=
  ∃ r ∈ t.interfaces, s.resolve r = some p

theorem IsInterface.isSupertype {t p : TypeElement} (h : s.IsInterface t p) :
    s.IsSupertype t p := by
  obtain ⟨r, hr, found⟩ := h
  exact ⟨r, List.mem_cons_of_mem _ hr, found⟩

theorem above_of_interfaces {t u : TypeElement} (path : ReflTransGen s.IsInterface t u) :
    ReflTransGen s.IsSupertype t u :=
  ReflTransGen.mono (fun _ _ => IsInterface.isSupertype) t u path

/-- The type is the target or leads to it through interfaces. -/
def LeadsTo (s : TypeStore) (target : String) (t : TypeElement) : Prop :=
  ∃ u, ReflTransGen s.IsInterface t u ∧ u.qualifiedName = target

theorem leadsTo_iff {target : String} {t : TypeElement} :
    s.LeadsTo target t ↔ t.qualifiedName = target ∨
      ∃ r ∈ t.interfaces, ∃ p, s.resolve r = some p ∧ s.LeadsTo target p := by
  constructor
  · rintro ⟨u, path, rfl⟩
    rcases path.cases_head with rfl | ⟨p, ⟨r, hr, found⟩, path⟩
    · exact .inl rfl
    · exact .inr ⟨r, hr, p, found, u, path, rfl⟩
  · rintro (rfl | ⟨r, hr, p, found, u, path, rfl⟩)
    · exact ⟨t, .refl, rfl⟩
    · exact ⟨u, path.head ⟨r, hr, found⟩, rfl⟩

/-! ## 2. Explored names -/

/-- None of the types whose names are visited newly is the target, and interfaces lead from them to
visited names only. Names visited before may lead anywhere. -/
abbrev Explores (s : TypeStore) (target : String) : List String → List String → Prop :=
  s.Settles (·.qualifiedName ≠ target) s.IsInterface

/-- None of the stored types of these names is the target, and interfaces lead from them to types of
these names only. -/
abbrev IsExplored (s : TypeStore) (target : String) : List String → Prop := s.Explores target []

theorem isExplored_nil (s : TypeStore) (target : String) : s.IsExplored target [] :=
  settles_refl ..

/-- What was explored does not lead to the target. -/
theorem IsExplored.not_leadsTo (explored : s.IsExplored target visited)
    (known : s.get? t.qualifiedName = some t) (inside : t.qualifiedName ∈ visited) :
    ¬ s.LeadsTo target t := by
  rintro ⟨u, path, named⟩
  induction path using ReflTransGen.head_induction_on with
  | refl => exact (explored.settled _ known inside List.not_mem_nil).1 named
  | head step _ ih =>
    have closed := (explored.settled _ known inside List.not_mem_nil).2
    exact ih step.isSupertype.get?_eq (closed _ step)

/-! ## 3. Searches -/

/-- A search ends at the target only, when a reference leads there. -/
def IsTruthful (s : TypeStore) (target : String)
    (search : List String → List TypeRef → Search) : Prop :=
  ∀ visited refs t, search visited refs = .error t → t.qualifiedName = target ∧
    ∃ r ∈ refs, ∃ p, s.resolve r = some p ∧ ReflTransGen s.IsInterface p t

/-- A search that fails with fewer names left has explored the references. -/
def IsThorough (s : TypeStore) (target : String) (search : List String → List TypeRef → Search)
    (n : Nat) : Prop :=
  ∀ visited refs visited', search visited refs = .ok visited' → s.unvisited visited < n →
    s.Explores target visited visited' ∧
      ∀ r ∈ refs, ∀ p, s.resolve r = some p → p.qualifiedName ∈ visited'

section Steps

variable {search : List String → List TypeRef → Search}

theorem IsTruthful.searchWith (truthful : s.IsTruthful target search) {r : TypeRef}
    (found : s.searchWith target search visited r = .error t) :
    t.qualifiedName = target ∧ ∃ p, s.resolve r = some p ∧ ReflTransGen s.IsInterface p t := by
  unfold TypeStore.searchWith at found
  split at found
  · cases found
  · next p resolved =>
    split at found
    · cases found
    · split at found
      · next here =>
        cases found
        exact ⟨here, _, resolved, .refl⟩
      · obtain ⟨named, q, hq, u, above, path⟩ := truthful _ _ _ found
        exact ⟨named, p, resolved, path.head ⟨q, hq, above⟩⟩

theorem IsTruthful.searchEach (truthful : s.IsTruthful target search) :
    s.IsTruthful target (s.searchEach target search) := by
  intro visited refs t found
  unfold TypeStore.searchEach at found
  induction refs generalizing visited with
  | nil => cases found
  | cons r refs ih =>
    rw [List.foldlM_cons, bind_error_iff] at found
    rcases found with here | ⟨between, _, later⟩
    · obtain ⟨named, p, resolved, path⟩ := truthful.searchWith here
      exact ⟨named, r, List.mem_cons_self, p, resolved, path⟩
    · obtain ⟨named, q, hq, way⟩ := ih between later
      exact ⟨named, q, List.mem_cons_of_mem r hq, way⟩

theorem IsThorough.searchWith {n : Nat} (thorough : s.IsThorough target search n) {r : TypeRef}
    (failed : s.searchWith target search visited r = .ok visited')
    (left : s.unvisited visited < n + 1) :
    s.Explores target visited visited' ∧
      ∀ p, s.resolve r = some p → p.qualifiedName ∈ visited' := by
  unfold TypeStore.searchWith at failed
  split at failed
  · next unknown =>
    cases failed
    exact ⟨settles_refl .., fun p resolved => nomatch unknown.symm.trans resolved⟩
  · next p resolved =>
    have known := get?_of_resolve resolved
    split at failed
    · next old =>
      cases failed
      refine ⟨settles_refl .., fun q resolved' => ?_⟩
      cases resolved.symm.trans resolved'
      simpa using old
    · next new =>
      split at failed
      · cases failed
      · next other =>
        have new : p.qualifiedName ∉ visited := by simpa using new
        have fewer := Nat.lt_of_lt_of_le (unvisited_cons_lt (mem_names_of_get? known) new)
          (Nat.le_of_lt_succ left)
        obtain ⟨explores, held⟩ := thorough _ _ _ failed fewer
        have inside := explores.grows _ List.mem_cons_self
        have own (q : TypeElement) (step : s.IsInterface p q) : q.qualifiedName ∈ visited' := by
          obtain ⟨r, hr, found⟩ := step
          exact held r hr q found
        refine ⟨explores.of_cons known ⟨other, own⟩, fun q resolved' => ?_⟩
        cases resolved.symm.trans resolved'
        exact inside

theorem IsThorough.searchEach {n : Nat} (thorough : s.IsThorough target search n) :
    s.IsThorough target (s.searchEach target search) (n + 1) := by
  intro visited refs visited' failed left
  unfold TypeStore.searchEach at failed
  induction refs generalizing visited with
  | nil =>
    cases failed
    exact ⟨settles_refl .., nofun⟩
  | cons r refs ih =>
    rw [List.foldlM_cons, bind_ok_iff] at failed
    obtain ⟨between, first, rest⟩ := failed
    obtain ⟨explores, here⟩ := thorough.searchWith first left
    obtain ⟨explores', others⟩ :=
      ih between rest (Nat.lt_of_le_of_lt (unvisited_anti explores.grows) left)
    exact ⟨explores.trans explores',
      List.forall_mem_cons.mpr ⟨fun p found => explores'.grows _ (here p found), others⟩⟩

end Steps

theorem isTruthful_search (fuel : Nat) : s.IsTruthful target (s.search target fuel) := by
  induction fuel with
  | zero => exact fun _ _ _ => nofun
  | succ fuel ih => exact ih.searchEach

theorem isThorough_search (fuel : Nat) : s.IsThorough target (s.search target fuel) fuel := by
  induction fuel with
  | zero => exact fun _ _ _ _ => nofun
  | succ fuel ih => exact ih.searchEach

/-- After a search that failed, the next one ends at the target if a reference leads there, and
otherwise fails as well. -/
theorem searchAll_cases (explored : s.IsExplored target visited) (refs : List TypeRef) :
    (∃ t, s.searchAll target visited refs = .error t ∧ t.qualifiedName = target ∧
      ∃ r ∈ refs, ∃ p, s.resolve r = some p ∧ ReflTransGen s.IsInterface p t) ∨
    ∃ visited', s.searchAll target visited refs = .ok visited' ∧ s.IsExplored target visited' ∧
      ∀ r ∈ refs, ∀ p, s.resolve r = some p → ¬ s.LeadsTo target p := by
  cases outcome : s.searchAll target visited refs with
  | error t => exact .inl ⟨t, rfl, isTruthful_search _ _ _ _ outcome⟩
  | ok visited' =>
    obtain ⟨explores, held⟩ := isThorough_search _ _ _ _ outcome
      (Nat.lt_succ_of_le (unvisited_le_size s visited))
    have explored' : s.IsExplored target visited' := explored.trans explores
    exact .inr ⟨visited', rfl, explored', fun r hr p found =>
      explored'.not_leadsTo (get?_of_resolve found) (held r hr p found)⟩

/-! ## 4. The reference that leads to the target -/

open Classical in
/-- The declared type of a reference, if it leads to the target. -/
noncomputable def leading? (s : TypeStore) (target : String) (r : TypeRef) : Option TypeElement :=
  (s.resolve r).filter fun t => decide (s.LeadsTo target t)

theorem leading?_eq_some_iff {target : String} {r : TypeRef} {t : TypeElement} :
    s.leading? target r = some t ↔ s.resolve r = some t ∧ s.LeadsTo target t := by
  simp [leading?, Option.filter_eq_some_iff]

theorem leading?_eq_none_iff {r : TypeRef} :
    s.leading? target r = none ↔ ∀ p, s.resolve r = some p → ¬ s.LeadsTo target p := by
  rw [Option.eq_none_iff_forall_ne_some]
  simp only [ne_eq, leading?_eq_some_iff, not_and]

/-- After a search that failed, a reference is the target or leads there, or the search goes on. -/
theorem searchBelow_cases (explored : s.IsExplored target visited) (r : TypeRef) :
    (∃ t, s.searchBelow target visited r = .error t ∧ s.leading? target r = some t) ∨
    ∃ visited', s.searchBelow target visited r = .ok visited' ∧ s.IsExplored target visited' ∧
      s.leading? target r = none := by
  unfold searchBelow
  cases resolved : s.resolve r with
  | none =>
    refine .inr ⟨visited, rfl, explored, leading?_eq_none_iff.mpr fun p found => ?_⟩
    cases resolved.symm.trans found
  | some t =>
    by_cases here : t.qualifiedName = target
    · exact .inl ⟨t, if_pos here, leading?_eq_some_iff.mpr ⟨resolved, leadsTo_iff.mpr (.inl here)⟩⟩
    · simp only [if_neg here]
      rcases searchAll_cases explored t.interfaces with
        ⟨u, found, named, q, hq, p, above, path⟩ | ⟨visited', failed, explored', lost⟩
      · rw [found]
        refine .inl ⟨t, rfl, leading?_eq_some_iff.mpr ⟨resolved, leadsTo_iff.mpr (.inr ?_)⟩⟩
        exact ⟨q, hq, p, above, u, path, named⟩
      · rw [failed]
        refine .inr ⟨visited', rfl, explored', leading?_eq_none_iff.mpr fun p found leads => ?_⟩
        cases resolved.symm.trans found
        obtain ⟨q, hq, p, above, leads⟩ := (leadsTo_iff.mp leads).resolve_left here
        exact lost q hq p above leads

/-- A search that goes on after one that failed answers the first reference that leads to the
target. -/
theorem findDeclaringAfter_eq (explored : s.IsExplored target visited) (refs : List TypeRef) :
    s.findDeclaringAfter target visited refs = refs.findSome? (s.leading? target) := by
  unfold findDeclaringAfter
  induction refs generalizing visited with
  | nil => rfl
  | cons r refs ih =>
    rw [List.foldlM_cons, List.findSome?_cons]
    rcases searchBelow_cases explored r with
      ⟨t, found, leads⟩ | ⟨visited', failed, explored', lost⟩
    · rw [found, leads]
      rfl
    · rw [failed, lost]
      exact ih explored'

/-- The search answers the first reference that leads to the target. -/
theorem findDeclaringInterface_eq (refs : List TypeRef) (target : String) :
    s.findDeclaringInterface refs target = refs.findSome? (s.leading? target) :=
  findDeclaringAfter_eq (isExplored_nil s target) refs

end ComponentWiring.TypeStore
