/-
ComponentWiring.Proofs.Declared.Superclasses — the superclasses of a type up to the root.

* `TypeStore.Superclasses` — a complete walk up the superclasses, without any bound.
* `TypeStore.Climbs` — declared superclasses lead from one type to another.
* `TypeStore.chainAfter_of_climbs` — the bounded walk goes along such a way as long as it meets new
  names.
* `TypeStore.superclassChain_of_superclasses` — the bounded walk is the complete one, if there
  is one.
* `TypeStore.ascent_length_le` — ascents without a cycle above their start are bounded.
* `TypeStore.superclasses_of_isValid` — so a complete walk starts at every valid type.
* `TypeStore.IsBelow` — a valid class below a base.

A complete walk is determined by where it starts, so it meets no type twice: the walk above the
second meeting would be the walk above the first.
-/
import ComponentWiring.Proofs.Declared.Validity
import Mathlib.Data.List.Chain

namespace ComponentWiring.TypeStore

open Relation

variable {s : TypeStore} {t u : TypeElement} {met ns : List String}

/-! ## 1. Complete walks -/

/-- The superclasses of a type are these, nearest first, and the last one has no superclass. -/
inductive Superclasses (s : TypeStore) : TypeElement → List String → Prop
  | root {t : TypeElement} (none_above : t.superclass = .absent) : Superclasses s t []
  | next {t parent : TypeElement} {n : String} {ns : List String} (named : t.superclass = .named n)
      (known : s.get? n = some parent) (above : Superclasses s parent ns) :
      Superclasses s t (n :: ns)

theorem Superclasses.unique {t : TypeElement} {ns ms : List String} (h : s.Superclasses t ns)
    (h' : s.Superclasses t ms) : ns = ms := by
  induction h generalizing ms with
  | root none_above =>
    cases h' with
    | root => rfl
    | next named => cases none_above.symm.trans named
  | next named known _ ih =>
    cases h' with
    | root none_above => cases none_above.symm.trans named
    | next named' known' above' =>
      cases named.symm.trans named'
      cases known.symm.trans known'
      rw [ih above']

theorem Superclasses.above {t : TypeElement} {below ns : List String} {n : String}
    (h : s.Superclasses t (below ++ n :: ns)) :
    ∃ p, s.get? n = some p ∧ s.Superclasses p ns := by
  induction below generalizing t with
  | nil =>
    cases h with
    | next named known above => exact ⟨_, known, above⟩
  | cons m below ih =>
    cases h with
    | next named known above => exact ih above

/-- No type is among its own superclasses. -/
theorem Superclasses.self_notMem {t : TypeElement} {n : String} {ns : List String}
    (known : s.get? n = some t) (h : s.Superclasses t ns) : n ∉ ns := by
  intro again
  obtain ⟨below, ms, rfl⟩ := List.append_of_mem again
  obtain ⟨t', known', above⟩ := h.above
  cases known.symm.trans known'
  have length := congrArg List.length (h.unique above)
  simp only [List.length_append, List.length_cons] at length
  omega

theorem Superclasses.nodup {t : TypeElement} {ns : List String} (h : s.Superclasses t ns) :
    ns.Nodup := by
  induction h with
  | root => exact List.nodup_nil
  | next _ known above ih => exact List.nodup_cons.mpr ⟨above.self_notMem known, ih⟩

/-! ## 2. Walks in part -/

/-- The names lead from the first type up to the second one, superclass by superclass. -/
inductive Climbs (s : TypeStore) : TypeElement → List String → TypeElement → Prop
  | here (t : TypeElement) : Climbs s t [] t
  | up {t parent u : TypeElement} {n : String} {ns : List String} (named : t.superclass = .named n)
      (known : s.get? n = some parent) (above : Climbs s parent ns u) : Climbs s t (n :: ns) u

/-- A complete walk is one that leads to a class without superclass. -/
theorem superclasses_iff_climbs :
    s.Superclasses t ns ↔ ∃ u, s.Climbs t ns u ∧ u.superclass = .absent := by
  constructor
  · intro h
    induction h with
    | root none_above => exact ⟨_, .here _, none_above⟩
    | next named known _ ih =>
      obtain ⟨u, walk, none_above⟩ := ih
      exact ⟨u, .up named known walk, none_above⟩
  · rintro ⟨u, walk, none_above⟩
    induction walk with
    | here t => exact .root none_above
    | up named known _ ih => exact .next named known (ih none_above)

theorem Climbs.mem_names (walk : s.Climbs t ns u) : ∀ n ∈ ns, n ∈ s.names := by
  induction walk with
  | here t => exact List.forall_mem_nil _
  | up named known _ ih => exact List.forall_mem_cons.mpr ⟨mem_names_of_get? known, ih⟩

theorem Superclasses.mem_names (h : s.Superclasses t ns) : ∀ n ∈ ns, n ∈ s.names := by
  obtain ⟨u, walk, -⟩ := superclasses_iff_climbs.mp h
  exact walk.mem_names

/-- There are no more superclasses than declared types. -/
theorem Superclasses.length_le (h : s.Superclasses t ns) : ns.length ≤ s.size :=
  length_le_size h.nodup h.mem_names

/-! ## 3. The bounded walk -/

/-- A step up that meets a new name goes on from the declared superclass. -/
theorem chainAfter_succ_of_known {n : String} {parent : TypeElement} (fuel : Nat)
    (named : t.superclass = .named n) (new : n ∉ met) (known : s.get? n = some parent) :
    s.chainAfter (fuel + 1) met t =
      (n :: (s.chainAfter fuel (n :: met) parent).1, (s.chainAfter fuel (n :: met) parent).2) := by
  have first : ¬ met.contains n = true := fun seen => new (List.contains_iff_mem.mp seen)
  simp only [chainAfter, named, if_neg first, known]

/-- The bounded walk goes up as far as names are new, and then on from there. -/
theorem chainAfter_of_climbs (walk : s.Climbs t ns u) (fuel : Nat) (new : (ns ++ met).Nodup) :
    s.chainAfter (fuel + ns.length) met t =
      (ns ++ (s.chainAfter fuel (ns.reverse ++ met) u).1,
        (s.chainAfter fuel (ns.reverse ++ met) u).2) := by
  induction walk generalizing met with
  | here t => rfl
  | @up t parent u n ns named known _ ih =>
    obtain ⟨first, rest⟩ := List.nodup_cons.mp new
    have newAbove : (ns ++ n :: met).Nodup :=
      List.perm_middle.nodup_iff.mpr (List.nodup_cons.mpr ⟨first, rest⟩)
    have unmet : n ∉ met := fun seen => first (List.mem_append_right ns seen)
    rw [List.length_cons, ← Nat.add_assoc, chainAfter_succ_of_known _ named unmet known,
      ih newAbove, List.reverse_cons, List.append_assoc]
    rfl

/-- The superclasses that are found for a declared type are all there are. -/
theorem superclassChain_of_superclasses (known : s.get? t.qualifiedName = some t)
    (h : s.Superclasses t ns) : s.superclassChain t = (ns, .root) := by
  obtain ⟨u, walk, none_above⟩ := superclasses_iff_climbs.mp h
  have new : (ns ++ [t.qualifiedName]).Nodup :=
    (List.perm_append_singleton _ ns).nodup_iff.mpr
      (List.nodup_cons.mpr ⟨h.self_notMem known, h.nodup⟩)
  obtain ⟨rest, bound⟩ := Nat.exists_eq_add_of_le' h.length_le
  rw [superclassChain, bound, Nat.add_right_comm, chainAfter_of_climbs walk _ new]
  simp [chainAfter, none_above]

/-! ## 4. Ascents -/

/-- The list leads upwards from the type, one step at a time. -/
abbrev Ascends (s : TypeStore) (t : TypeElement) (us : List TypeElement) : Prop :=
  List.IsChain s.IsSupertype (t :: us)

/-- On an ascent every type lies above all types before it. -/
theorem Ascends.pairwise {t : TypeElement} {us : List TypeElement} (ascent : s.Ascends t us) :
    (t :: us).Pairwise (TransGen s.IsSupertype) :=
  (List.IsChain.imp (fun _ _ => TransGen.single) ascent).pairwise

/-- Ascents without a cycle above their start meet every type once, so they are no longer than the
list of declared types. -/
theorem ascent_length_le {t : TypeElement} {us : List TypeElement}
    (acyclic : ∀ u, ReflTransGen s.IsSupertype t u → ¬ TransGen s.IsSupertype u u)
    (ascent : s.Ascends t us) : us.length ≤ s.size := by
  obtain ⟨start, above⟩ := List.pairwise_cons.mp ascent.pairwise
  have stored : ∀ u ∈ us, s.get? u.qualifiedName = some u := by
    intro u hu
    obtain ⟨p, _, step⟩ := TransGen.tail'_iff.mp (start u hu)
    exact step.get?_eq
  have distinct : (us.map (·.qualifiedName)).Nodup := by
    refine List.pairwise_map.mpr (above.imp_of_mem fun {u v} hu hv higher same => ?_)
    have name : s.get? u.qualifiedName = some v := by
      rw [same]
      exact stored v hv
    cases (stored u hu).symm.trans name
    exact acyclic u (start u hu).to_reflTransGen higher
  have fits := length_le_size distinct fun n hn => by
    obtain ⟨u, hu, rfl⟩ := List.mem_map.mp hn
    exact mem_names_of_get? (stored u hu)
  rwa [List.length_map] at fits

/-! ## 5. Valid types -/

theorem resolve_eq_some_iff {r : TypeRef} {t : TypeElement} :
    s.resolve r = some t ↔ ∃ n, r = .named n ∧ s.get? n = some t := by
  unfold resolve
  cases r <;> simp [TypeRef.name?]

/-- A complete walk starts at every type from which ascents are bounded and meet well-formed types
only. -/
theorem superclasses_of_ascents {n : Nat} {t : TypeElement}
    (ascents : ∀ us, s.Ascends t us → us.length < n ∧ ∀ u ∈ t :: us, s.IsWellFormed u) :
    ∃ ns, s.Superclasses t ns := by
  obtain ⟨start, wellFormed⟩ := ascents [] (List.isChain_singleton t)
  -- The induction is on the bound, which is smaller for the superclass.
  induction n generalizing t with
  | zero => exact absurd start (Nat.not_lt_zero _)
  | succ n ih =>
    rcases (wellFormed t List.mem_cons_self).superclass with none_above | ⟨p, found, _⟩
    · exact ⟨[], .root none_above⟩
    · have step : s.IsSupertype t p := ⟨_, List.mem_cons_self, found⟩
      have higher (us : List TypeElement) (ascent : s.Ascends p us) :
          us.length < n ∧ ∀ u ∈ p :: us, s.IsWellFormed u := by
        obtain ⟨short, others⟩ := ascents (p :: us) (List.isChain_cons_cons.mpr ⟨step, ascent⟩)
        exact ⟨Nat.lt_of_succ_lt_succ short, (List.forall_mem_cons.mp others).2⟩
      obtain ⟨start, wellFormed⟩ := higher [] (List.isChain_singleton p)
      obtain ⟨ns, walk⟩ := ih higher start wellFormed
      obtain ⟨name, named, known⟩ := resolve_eq_some_iff.mp found
      exact ⟨name :: ns, .next named known walk⟩

/-- A valid type has superclasses up to the root. -/
theorem superclasses_of_isValid {t : TypeElement} (known : s.get? t.qualifiedName = some t)
    (valid : s.isValid t = true) : ∃ ns, s.Superclasses t ns := by
  have inOrder := (isValid_iff known).mp valid
  refine superclasses_of_ascents (n := s.size + 1) fun us ascent => ⟨?_, ?_⟩
  · exact Nat.lt_succ_of_le (ascent_length_le (fun u above => (inOrder u above).2) ascent)
  · obtain ⟨start, _⟩ := List.pairwise_cons.mp ascent.pairwise
    exact List.forall_mem_cons.mpr ⟨(inOrder t .refl).1,
      fun u hu => (inOrder u (start u hu).to_reflTransGen).1⟩

/-- The type is a class, it can be resolved, and the base is among its superclasses. -/
structure IsBelow (s : TypeStore) (base : String) (t : TypeElement) : Prop where
  isClass : t.isClass = true
  valid : s.isValid t = true
  base : ∃ ns, s.Superclasses t ns ∧ base ∈ ns

/-- A valid class is below a base exactly if the search among its superclasses finds it. -/
theorem isBelow_iff_contains {t : TypeElement} {base : String} (isClass : t.isClass = true)
    (valid : s.isValid t = true) (known : s.get? t.qualifiedName = some t) :
    s.IsBelow base t ↔ (s.superclassChain t).1.contains base = true := by
  obtain ⟨ns, walk⟩ := superclasses_of_isValid known valid
  rw [superclassChain_of_superclasses known walk, List.contains_iff_mem]
  constructor
  · intro h
    obtain ⟨_, _, ms, walk', mem⟩ := h
    rwa [walk.unique walk']
  · exact fun mem => ⟨isClass, valid, ns, walk, mem⟩

end ComponentWiring.TypeStore
