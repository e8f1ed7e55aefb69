/-
ComponentWiring.Proofs.Declared.Validity — which types are valid.

* `TypeStore.IsWellFormed` — what is asked of one type, without a look at anything above it.
* `TypeStore.IsCleared` — what holds of the names that a visit adds to those visited before.
* `TypeStore.isSound_visit` — a visit that succeeds has cleared the type.
* `TypeStore.isComplete_visit` — a visit succeeds if nothing is wrong with any type above.
* `TypeStore.isValid_iff` — a stored type is valid exactly if every type above it, itself included,
  is well formed and does not lie above itself.
* `TypeStore.isVisit_iff` — there is one function that obeys the recursion of a visit.
* `TypeStore.validation_exact` — so the check comes to an end, and it is exact.

A type that is visited again has not been left yet or lies on several ways. Only in the first case
does it lie above itself, and this is searched for then. So a type is cleared as soon as its visit
succeeds: if it lay above itself, so would one of its supertypes, which have been cleared before.
-/
import ComponentWiring.Proofs.Declared.Cycles

namespace ComponentWiring.TypeStore

open Relation

variable {s : TypeStore} {t : TypeElement} {visited visited' : List String}

/-! ## 1. Well-formed types -/

/-- The signatures of the methods are resolved, and the direct supertypes are declared and of the
right kind. -/
structure IsWellFormed (s : TypeStore) (t : TypeElement) : Prop where
  returns : ∀ m ∈ t.methods, ∀ n, m.returns ≠ .unresolved n
  parameters : ∀ m ∈ t.methods, ∀ p ∈ m.parameters, ∀ n, p.2 ≠ .unresolved n
  superclass : t.superclass = .absent ∨
    ∃ p, s.resolve t.superclass = some p ∧ p.kind = .classType
  interfaces : ∀ r ∈ t.interfaces, ∃ p, s.resolve r = some p ∧ p.kind = .interfaceType

theorem not_isUnresolved_iff {r : TypeRef} : r.isUnresolved = false ↔ ∀ n, r ≠ .unresolved n := by
  cases r <;> simp [TypeRef.isUnresolved]

/-- No method of the type has an unresolved signature. -/
theorem any_hasUnresolved_eq_false_iff {methods : List MethodElement} :
    methods.any (·.hasUnresolved) = false ↔
      (∀ m ∈ methods, ∀ n, m.returns ≠ .unresolved n) ∧
        ∀ m ∈ methods, ∀ p ∈ m.parameters, ∀ n, p.2 ≠ .unresolved n := by
  simp only [List.any_eq_false, MethodElement.hasUnresolved, Bool.not_eq_true, Bool.or_eq_false_iff,
    not_isUnresolved_iff, forall_and]

/-- The type and everything above it is well formed and does not lie above itself. -/
abbrev IsInOrder (s : TypeStore) (t : TypeElement) : Prop :=
  ∀ u, ReflTransGen s.IsSupertype t u → s.IsWellFormed u ∧ ¬ TransGen s.IsSupertype u u

/-! ## 2. Successful visits -/

/-- The names visited newly are those of well-formed types that do not lie above themselves, and
supertypes lead from them to visited names only. -/
abbrev IsCleared (s : TypeStore) : List String → List String → Prop :=
  s.Settles (fun u => s.IsWellFormed u ∧ ¬ TransGen s.IsSupertype u u) s.IsSupertype

/-- The reference is to a declared type of the kind that is visited and does not lie above
itself. -/
def IsPassed (s : TypeStore) (kind : ElementKind) (visited : List String) (r : TypeRef) : Prop :=
  ∃ p, s.resolve r = some p ∧ p.kind = kind ∧ p.qualifiedName ∈ visited ∧
    ¬ TransGen s.IsSupertype p p

theorem IsPassed.mono {kind : ElementKind} {r : TypeRef} (h : s.IsPassed kind visited r)
    (grows : ∀ n ∈ visited, n ∈ visited') : s.IsPassed kind visited' r := by
  obtain ⟨p, found, sort, inside, acyclic⟩ := h
  exact ⟨p, found, sort, grows _ inside, acyclic⟩

/-- A visit of a stored type that succeeds clears names, and the type is among those visited and
does not lie above itself. -/
def IsSound (s : TypeStore) (visit : List String → TypeElement → Option (List String)) : Prop :=
  ∀ visited t visited', s.get? t.qualifiedName = some t → visit visited t = some visited' →
    s.IsCleared visited visited' ∧ t.qualifiedName ∈ visited' ∧ ¬ TransGen s.IsSupertype t t

section Sound

variable {visit : List String → TypeElement → Option (List String)} (sound : s.IsSound visit)
include sound

theorem IsSound.visitAs {kind : ElementKind} {r : TypeRef}
    (passed : s.visitAs visit kind visited r = some visited') :
    s.IsCleared visited visited' ∧ s.IsPassed kind visited' r := by
  unfold TypeStore.visitAs at passed
  split at passed
  · next p found =>
    split at passed
    · next sort =>
      obtain ⟨cleared, inside, acyclic⟩ := sound _ p _ (get?_of_resolve found) passed
      exact ⟨cleared, p, found, sort, inside, acyclic⟩
    · cases passed
  · cases passed

theorem IsSound.visitSuperclass {r : TypeRef}
    (passed : s.visitSuperclass visit visited r = some visited') :
    s.IsCleared visited visited' ∧ (r = .absent ∨ s.IsPassed .classType visited' r) := by
  unfold TypeStore.visitSuperclass at passed
  split at passed
  · cases passed
    exact ⟨settles_refl .., .inl rfl⟩
  · exact (sound.visitAs passed).imp_right .inr

theorem IsSound.visitEach {kind : ElementKind} {refs : List TypeRef}
    (passed : refs.foldlM (s.visitAs visit kind) visited = some visited') :
    s.IsCleared visited visited' ∧ ∀ r ∈ refs, s.IsPassed kind visited' r := by
  induction refs generalizing visited with
  | nil =>
    cases passed
    exact ⟨settles_refl .., nofun⟩
  | cons r refs ih =>
    rw [List.foldlM_cons] at passed
    obtain ⟨between, first, rest⟩ := Option.bind_eq_some_iff.mp passed
    obtain ⟨cleared, here⟩ := sound.visitAs first
    obtain ⟨cleared', others⟩ := ih rest
    exact ⟨cleared.trans cleared', List.forall_mem_cons.mpr ⟨here.mono cleared'.grows, others⟩⟩

/-- A type is cleared by a visit that clears its supertypes. -/
theorem IsSound.visitWith : s.IsSound (s.visitWith visit) := by
  intro visited t visited' known passed
  unfold TypeStore.visitWith at passed
  split at passed
  · next again =>
    split at passed
    · cases passed
    · next acyclic =>
      cases passed
      rw [hasCycle_iff known] at acyclic
      exact ⟨settles_refl .., by simpa using again, acyclic⟩
  · next new =>
    split at passed
    · cases passed
    · next resolved =>
      obtain ⟨between, superclass, interfaces⟩ := Option.bind_eq_some_iff.mp passed
      obtain ⟨cleared, above⟩ := sound.visitSuperclass superclass
      obtain ⟨cleared', declared⟩ := sound.visitEach interfaces
      have cleared := cleared.trans cleared'
      have above := above.imp_right fun passed => passed.mono cleared'.grows
      have inside := cleared.grows _ List.mem_cons_self
      -- All supertypes are visited, and none of them lies above itself.
      have supertypes (p : TypeElement) (step : s.IsSupertype t p) :
          p.qualifiedName ∈ visited' ∧ ¬ TransGen s.IsSupertype p p := by
        have passed : ∃ r kind, s.resolve r = some p ∧ s.IsPassed kind visited' r := by
          obtain ⟨r, hr, found⟩ := step
          rcases List.mem_cons.mp hr with rfl | hr
          · refine above.elim (fun absent => ?_) fun passed => ⟨_, _, found, passed⟩
            rw [absent] at found
            cases found
          · exact ⟨r, _, found, declared r hr⟩
        obtain ⟨r, kind, found, q, found', _, inside, acyclic⟩ := passed
        cases found.symm.trans found'
        exact ⟨inside, acyclic⟩
      have wellFormed : s.IsWellFormed t := by
        obtain ⟨returns, parameters⟩ :=
          any_hasUnresolved_eq_false_iff.mp (Bool.not_eq_true _ ▸ resolved)
        refine ⟨returns, parameters, above.imp_right ?_, fun r hr => ?_⟩
        · rintro ⟨p, found, sort, _⟩
          exact ⟨p, found, sort⟩
        · obtain ⟨p, found, sort, _⟩ := declared r hr
          exact ⟨p, found, sort⟩
      have acyclic : ¬ TransGen s.IsSupertype t t := by
        intro cycle
        obtain ⟨p, step, back⟩ := TransGen.head'_iff.mp cycle
        exact (supertypes p step).2 (.tail' back step)
      have own := fun p step => (supertypes p step).1
      exact ⟨cleared.of_cons known ⟨⟨wellFormed, acyclic⟩, own⟩, inside, acyclic⟩

end Sound

/-- However high a visit may go, it has cleared the type if it succeeds. -/
theorem isSound_visit (fuel : Nat) : s.IsSound (s.visit fuel) := by
  induction fuel with
  | zero => exact fun _ _ _ _ => nofun
  | succ fuel ih => exact ih.visitWith

/-! ## 3. Visits that succeed -/

/-- The visit of a stored type with nothing wrong above it succeeds, as long as fewer names are left
to visit. -/
def IsComplete (s : TypeStore) (visit : List String → TypeElement → Option (List String))
    (n : Nat) : Prop :=
  ∀ visited t, s.get? t.qualifiedName = some t → s.IsInOrder t → s.unvisited visited < n →
    ∃ visited', visit visited t = some visited'

section Complete

variable {visit : List String → TypeElement → Option (List String)} {n : Nat}
  (sound : s.IsSound visit) (complete : s.IsComplete visit n)

include complete in
theorem IsComplete.visitAs {kind : ElementKind} {r : TypeRef} {p : TypeElement}
    (found : s.resolve r = some p) (sort : p.kind = kind) (inOrder : s.IsInOrder p)
    (left : s.unvisited visited < n) :
    ∃ visited', s.visitAs visit kind visited r = some visited' := by
  rw [TypeStore.visitAs, found]
  simp only [if_pos sort]
  exact complete visited p (get?_of_resolve found) inOrder left

include sound complete in
theorem IsComplete.visitEach {kind : ElementKind} {refs : List TypeRef}
    (declared : ∀ r ∈ refs, ∃ p, s.resolve r = some p ∧ p.kind = kind ∧ s.IsInOrder p)
    (left : s.unvisited visited < n) :
    ∃ visited', refs.foldlM (s.visitAs visit kind) visited = some visited' := by
  induction refs generalizing visited with
  | nil => exact ⟨visited, rfl⟩
  | cons r refs ih =>
    obtain ⟨⟨p, found, sort, inOrder⟩, others⟩ := List.forall_mem_cons.mp declared
    obtain ⟨between, first⟩ := complete.visitAs found sort inOrder left
    have left := Nat.lt_of_le_of_lt (unvisited_anti (sound.visitAs first).1.grows) left
    obtain ⟨visited', rest⟩ := ih others left
    exact ⟨visited', by rw [List.foldlM_cons, first]; exact rest⟩

include sound complete in
theorem IsComplete.visitWith : s.IsComplete (s.visitWith visit) (n + 1) := by
  intro visited t known inOrder left
  obtain ⟨wellFormed, acyclic⟩ := inOrder t .refl
  have resolved := any_hasUnresolved_eq_false_iff.mpr ⟨wellFormed.returns, wellFormed.parameters⟩
  have higher {r : TypeRef} {p : TypeElement} (hr : r ∈ t.superclass :: t.interfaces)
      (found : s.resolve r = some p) : s.IsInOrder p :=
    fun u above => inOrder u (.head ⟨r, hr, found⟩ above)
  unfold TypeStore.visitWith
  by_cases again : t.qualifiedName ∈ visited
  · rw [if_pos (List.contains_iff_mem.mpr again),
      if_neg fun cycle => acyclic ((hasCycle_iff known).mp cycle)]
    exact ⟨visited, rfl⟩
  · have fewer := unvisited_cons_lt (mem_names_of_get? known) again
    have left := Nat.lt_of_lt_of_le fewer (Nat.le_of_lt_succ left)
    rw [if_neg fun old => again (List.contains_iff_mem.mp old), if_neg (by simp [resolved])]
    obtain ⟨between, superclass⟩ : ∃ between,
        s.visitSuperclass visit (t.qualifiedName :: visited) t.superclass = some between := by
      rcases wellFormed.superclass with absent | ⟨p, found, sort⟩
      · exact ⟨_, by rw [absent, TypeStore.visitSuperclass]⟩
      · obtain ⟨between, passed⟩ :=
          complete.visitAs found sort (higher List.mem_cons_self found) left
        refine ⟨between, ?_⟩
        unfold TypeStore.visitSuperclass
        split
        · next absent =>
          rw [absent] at found
          cases found
        · exact passed
    have left :=
      Nat.lt_of_le_of_lt (unvisited_anti (sound.visitSuperclass superclass).1.grows) left
    rw [superclass, Option.bind_some]
    refine IsComplete.visitEach sound complete (fun r hr => ?_) left
    obtain ⟨p, found, sort⟩ := wellFormed.interfaces r hr
    exact ⟨p, found, sort, higher (List.mem_cons_of_mem _ hr) found⟩

end Complete

/-- A visit that may go as high as there are names to visit, and once again to one of them, succeeds
if nothing is wrong above. -/
theorem isComplete_visit (fuel : Nat) : s.IsComplete (s.visit fuel) fuel := by
  induction fuel with
  | zero => exact fun _ _ _ _ => nofun
  | succ fuel ih => exact IsComplete.visitWith (isSound_visit fuel) ih

/-! ## 4. Valid types -/

/-- A stored type is valid exactly if every type above it, itself included, is well formed and does
not lie above itself. -/
theorem isValid_iff (known : s.get? t.qualifiedName = some t) :
    s.isValid t = true ↔ s.IsInOrder t := by
  rw [isValid, Option.isSome_iff_exists]
  constructor
  · rintro ⟨visited, passed⟩ u above
    obtain ⟨cleared, inside, -⟩ := isSound_visit _ _ _ _ known passed
    have closed : s.IsClosed visited := fun u known inside =>
      (cleared.settled u known inside List.not_mem_nil).2
    exact (cleared.settled u (get?_of_above known above)
      (closed.mem_of_above known inside above) List.not_mem_nil).1
  · intro inOrder
    have left := unvisited_le_size s []
    exact isComplete_visit (s.size + 2) [] t known inOrder (by omega)

/-! ## 5. The recursion -/

section Recursion

variable {visit visit' : List String → TypeElement → Option (List String)} {n : Nat}
  (same : ∀ visited t, s.get? t.qualifiedName = some t → s.unvisited visited < n →
    visit' visited t = visit visited t)

include same in
theorem visitAs_congr (left : s.unvisited visited < n) (kind : ElementKind) (r : TypeRef) :
    s.visitAs visit' kind visited r = s.visitAs visit kind visited r := by
  unfold visitAs
  split
  · next p found => rw [same visited p (get?_of_resolve found) left]
  · rfl

include same in
theorem visitEach_congr (sound : s.IsSound visit) (kind : ElementKind) {refs : List TypeRef}
    (left : s.unvisited visited < n) :
    refs.foldlM (s.visitAs visit' kind) visited = refs.foldlM (s.visitAs visit kind) visited := by
  induction refs generalizing visited with
  | nil => rfl
  | cons r refs ih =>
    rw [List.foldlM_cons, List.foldlM_cons, visitAs_congr same left]
    refine Option.bind_congr fun between passed => ?_
    exact ih (Nat.lt_of_le_of_lt (unvisited_anti (sound.visitAs passed).1.grows) left)

include same in
/-- A visit asks for visits of stored types only, when fewer names are left. -/
theorem visitWith_congr (sound : s.IsSound visit)
    (left : t.qualifiedName ∉ visited → s.unvisited (t.qualifiedName :: visited) < n) :
    s.visitWith visit' visited t = s.visitWith visit visited t := by
  unfold visitWith
  split
  · rfl
  · next new =>
    have left := left fun old => new (List.contains_iff_mem.mpr old)
    have superclass : s.visitSuperclass visit' (t.qualifiedName :: visited) t.superclass =
        s.visitSuperclass visit (t.qualifiedName :: visited) t.superclass := by
      unfold visitSuperclass
      split
      · rfl
      · exact visitAs_congr same left ..
    rw [superclass]
    refine congrArg (ite _ _) (Option.bind_congr fun between passed => ?_)
    refine visitEach_congr same sound _ ?_
    exact Nat.lt_of_le_of_lt (unvisited_anti (sound.visitSuperclass passed).1.grows) left

end Recursion

/-- The function visits types as the recursion tells, without any bound. -/
def IsVisit (s : TypeStore) (check : List String → TypeElement → Option (List String)) : Prop :=
  ∀ visited t, check visited t = s.visitWith check visited t

/-- With a bound for all names that are left, the visit of a stored type does what the recursion
tells. -/
theorem IsVisit.eq_visit {check : List String → TypeElement → Option (List String)}
    (h : s.IsVisit check) (fuel : Nat) : ∀ visited t, s.get? t.qualifiedName = some t →
      s.unvisited visited < fuel → check visited t = s.visit fuel visited t := by
  induction fuel with
  | zero => exact fun _ _ _ => nofun
  | succ fuel ih =>
    intro visited t known left
    rw [h]
    refine visitWith_congr ih (isSound_visit fuel) fun new => ?_
    exact Nat.lt_of_lt_of_le (unvisited_cons_lt (mem_names_of_get? known) new)
      (Nat.le_of_lt_succ left)

/-- A higher bound makes no difference then. -/
theorem visit_succ (fuel : Nat) : ∀ visited t, s.get? t.qualifiedName = some t →
    s.unvisited visited < fuel → s.visit (fuel + 1) visited t = s.visit fuel visited t := by
  induction fuel with
  | zero => exact fun _ _ _ => nofun
  | succ fuel ih =>
    intro visited t known left
    refine visitWith_congr ih (isSound_visit fuel) fun new => ?_
    exact Nat.lt_of_lt_of_le (unvisited_cons_lt (mem_names_of_get? known) new)
      (Nat.le_of_lt_succ left)

/-- There is one function that obeys the recursion, so a visit comes to an end for every type, be it
stored or not. The bound of the check is out of its reach. -/
theorem isVisit_iff {check : List String → TypeElement → Option (List String)} :
    s.IsVisit check ↔ check = s.visit (s.size + 2) := by
  have left (visited : List String) : s.unvisited visited < s.size + 1 :=
    Nat.lt_succ_of_le (unvisited_le_size s visited)
  constructor
  · intro h
    funext visited t
    rw [h]
    exact visitWith_congr (h.eq_visit (s.size + 1)) (isSound_visit _) fun _ => left _
  · rintro rfl visited t
    exact (visitWith_congr (visit_succ (s.size + 1)) (isSound_visit _) fun _ => left _).symm

/-- The check of a type comes to an end, and so does the search for a cycle that it makes if a type
is visited again: the recursion of each allows for one answer, whatever the type. A stored type is
accepted exactly if for every type above it, itself included, the methods have no unresolved
signature, the superclass is missing by design or a declared class, all interfaces are declared
interfaces, and the type does not lie above itself. On how many ways a type is reached does not
matter. -/
theorem validation_exact (s : TypeStore) :
    (∀ name, ∃! meets, ∀ seen stack, meets seen stack = s.meetsWith name meets seen stack) ∧
    (∀ t meets, (∀ seen stack, meets seen stack = s.meetsWith t.qualifiedName meets seen stack) →
      s.hasCycle t = meets [] (s.supertypes t).reverse) ∧
    (∃! check, ∀ visited t, check visited t = s.visitWith check visited t) ∧
    (∀ check, (∀ visited t, check visited t = s.visitWith check visited t) →
      ∀ t, s.isValid t = (check [] t).isSome) ∧
    ∀ t, s.get? t.qualifiedName = some t → (s.isValid t = true ↔
      ∀ u, ReflTransGen s.IsSupertype t u → s.IsWellFormed u ∧ ¬ TransGen s.IsSupertype u u) := by
  have unique (name : String) (meets) (h : s.IsNameSearch name meets) :=
    h.unique (isNameSearch_meets s name)
  refine ⟨fun name => ⟨_, isNameSearch_meets s name, unique name⟩,
    fun _ _ => IsNameSearch.hasCycle_eq,
    ⟨s.visit (s.size + 2), isVisit_iff.mpr rfl, fun _ h => isVisit_iff.mp h⟩, ?_,
    fun _ known => isValid_iff known⟩
  intro check h t
  rw [isVisit_iff.mp h, isValid]

/-- A class that leads to one interface on two ways, and names one of its own twice. -/
def diamondClass : TypeElement :=
  { TypeElement.ofKind .classType "Both" with
    interfaces := [.named "Left", .named "Right", .named "Left"] }

/-- The class, its interfaces, and one that they share. -/
def diamondStore : TypeStore :=
  empty.insertAll [diamondClass,
    { TypeElement.ofInterface "Left" with interfaces := [.named "Root"] },
    { TypeElement.ofInterface "Right" with interfaces := [.named "Root"] },
    .ofInterface "Root"]

/-- Two ways to one interface and an interface named twice are no obstacle: the class is accepted,
and so nothing above it lies above itself. -/
theorem validation_exact_of_diamond :
    (∃ check : List String → TypeElement → Option (List String),
      (∀ visited t, check visited t = diamondStore.visitWith check visited t) ∧
        (check [] diamondClass).isSome = true) ∧
    diamondStore.get? diamondClass.qualifiedName = some diamondClass ∧
    ∀ u, ReflTransGen diamondStore.IsSupertype diamondClass u →
      diamondStore.IsWellFormed u ∧ ¬ TransGen diamondStore.IsSupertype u u := by
  obtain ⟨-, -, ⟨check, recursive, -⟩, answers, accepts⟩ := validation_exact diamondStore
  have valid : diamondStore.isValid diamondClass = true := by decide +kernel
  exact ⟨⟨check, recursive, (answers check recursive diamondClass).symm.trans valid⟩, rfl,
    (accepts diamondClass rfl).mp valid⟩

end ComponentWiring.TypeStore
