/-
ComponentWiring.Proofs.Declared.Agreement — stores that agree on everything above a type.

* `TypeStore.LooksUp` — the names that references above a type ask for.
* `TypeStore.AgreesAbove` — two stores answer the same for all of them.
* `AgreesAbove.findDeclaringInterface_eq`, `AgreesOn.isValid_eq`, `AgreesOn.classify_eq` — what
  is computed for the type is the same then.

A walk through a store is bounded by the number of declared types, which may differ. So the walks
are not compared step by step; what they decide is, and no bound is left in that.
-/
import ComponentWiring.Proofs.Declared.Interfaces
import ComponentWiring.Proofs.Declared.Superclasses

namespace ComponentWiring

open Relation

/-! ## 1. Paths -/

/-- Relations that agree wherever one of them leads have the same paths. -/
theorem reflTransGen_iff_of_agree {α : Type} {R R' : α → α → Prop} {a b : α}
    (agree : ∀ c, ReflTransGen R a c → ∀ d, R' c d ↔ R c d) :
    ReflTransGen R' a b ↔ ReflTransGen R a b := by
  constructor
  · intro path
    induction path with
    | refl => exact .refl
    | tail _ step ih => exact ih.tail ((agree _ ih _).mp step)
  · intro path
    induction path with
    | refl => exact .refl
    | tail before step ih => exact ih.tail ((agree _ before _).mpr step)

/-- The names by which a type refers to its supertypes. -/
def TypeElement.references (t : TypeElement) : List String :=
  (t.superclass :: t.interfaces).filterMap TypeRef.name?

namespace TypeStore

variable {s s' : TypeStore} {t u p : TypeElement}

/-- A type above the first one, itself included, refers to a supertype by the name. -/
def LooksUp (s : TypeStore) (t : TypeElement) (n : String) : Prop :=
  ∃ u, ReflTransGen s.IsSupertype t u ∧ n ∈ u.references

/-- What is looked up from a type is in every list that holds its references, and with the name of
a declared type the references of that type. -/
theorem LooksUp.mem_of_closed {names : List String} {n : String} (h : s.LooksUp t n)
    (first : ∀ m ∈ t.references, m ∈ names)
    (closed : ∀ m ∈ names, ∀ p, s.get? m = some p → ∀ k ∈ p.references, k ∈ names) : n ∈ names := by
  obtain ⟨u, path, asked⟩ := h
  suffices ∀ m ∈ u.references, m ∈ names from this n asked
  clear asked
  induction path with
  | refl => exact first
  | tail _ step ih =>
    obtain ⟨r, hr, found⟩ := step
    obtain ⟨m, named, known⟩ := Option.bind_eq_some_iff.mp found
    exact closed m (ih m (List.mem_filterMap.mpr ⟨r, hr, named⟩)) _ known

/-- The second store answers as the first one does to all names that are looked up from the
type. -/
def AgreesAbove (s s' : TypeStore) (t : TypeElement) : Prop :=
  ∀ n, s.LooksUp t n → s'.get? n = s.get? n

namespace AgreesAbove

variable (h : AgreesAbove s s' t)
include h

/-! ## 2. Agreement upwards -/

theorem of_above (above : ReflTransGen s.IsSupertype t u) : AgreesAbove s s' u := by
  intro n looked
  obtain ⟨v, higher, named⟩ := looked
  exact h n ⟨v, above.trans higher, named⟩

theorem resolve_eq {r : TypeRef} (hr : r ∈ t.superclass :: t.interfaces) :
    s'.resolve r = s.resolve r := by
  cases r with
  | named n => exact h n ⟨t, .refl, List.mem_filterMap.mpr ⟨_, hr, rfl⟩⟩
  | absent => rfl
  | unresolved n => rfl

theorem resolve_interface_eq {r : TypeRef} (hr : r ∈ t.interfaces) :
    s'.resolve r = s.resolve r :=
  h.resolve_eq (List.mem_cons_of_mem _ hr)

theorem isSupertype_iff : s'.IsSupertype t p ↔ s.IsSupertype t p := by
  refine exists_congr fun r => and_congr_right fun hr => ?_
  rw [h.resolve_eq hr]

theorem isInterface_iff : s'.IsInterface t p ↔ s.IsInterface t p := by
  refine exists_congr fun r => and_congr_right fun hr => ?_
  rw [h.resolve_interface_eq hr]

theorem above_iff : ReflTransGen s'.IsSupertype t u ↔ ReflTransGen s.IsSupertype t u :=
  reflTransGen_iff_of_agree fun _ above _ => (h.of_above above).isSupertype_iff

theorem strictlyAbove_iff : TransGen s'.IsSupertype t u ↔ TransGen s.IsSupertype t u := by
  rw [TransGen.head'_iff, TransGen.head'_iff]
  refine exists_congr fun p => ?_
  rw [h.isSupertype_iff]
  exact and_congr_right fun step => (h.of_above (.single step)).above_iff

/-! ## 3. What is computed -/

theorem isWellFormed_iff : s'.IsWellFormed t ↔ s.IsWellFormed t := by
  have above {r : TypeRef} {kind : ElementKind} (hr : r ∈ t.superclass :: t.interfaces) :
      (∃ p, s'.resolve r = some p ∧ p.kind = kind) ↔ ∃ p, s.resolve r = some p ∧ p.kind = kind := by
    rw [h.resolve_eq hr]
  constructor
  · intro wf
    exact ⟨wf.returns, wf.parameters, wf.superclass.imp_right (above List.mem_cons_self).mp,
      fun r hr => (above (List.mem_cons_of_mem _ hr)).mp (wf.interfaces r hr)⟩
  · intro wf
    exact ⟨wf.returns, wf.parameters, wf.superclass.imp_right (above List.mem_cons_self).mpr,
      fun r hr => (above (List.mem_cons_of_mem _ hr)).mpr (wf.interfaces r hr)⟩

/-- Everything above the type is in order in both stores, or in none. -/
theorem isInOrder_iff : s'.IsInOrder t ↔ s.IsInOrder t := by
  refine forall_congr' fun u => ?_
  rw [h.above_iff]
  refine forall_congr' fun above => ?_
  have h := h.of_above above
  rw [h.isWellFormed_iff, h.strictlyAbove_iff]

/-- A complete walk in one store is one in the other. -/
theorem superclasses {ns : List String} (walk : s.Superclasses t ns) : s'.Superclasses t ns := by
  induction walk with
  | root none_above => exact .root none_above
  | @next t parent n ns named known _ ih =>
    have found : s.resolve t.superclass = some parent := named ▸ known
    have found' := (h.resolve_eq List.mem_cons_self).trans found
    rw [named] at found'
    exact .next named found' (ih (h.of_above (.single ⟨_, List.mem_cons_self, found⟩)))

theorem leadsTo_iff {target : String} : s'.LeadsTo target t ↔ s.LeadsTo target t := by
  refine exists_congr fun u => and_congr_left fun _ => ?_
  refine reflTransGen_iff_of_agree fun v path w => ?_
  exact (h.of_above (above_of_interfaces path)).isInterface_iff

/-- An interface of the type leads to the target in both stores, or in none. -/
theorem leading?_eq {target : String} {r : TypeRef} (hr : r ∈ t.interfaces) :
    s'.leading? target r = s.leading? target r := by
  refine Option.ext fun p => ?_
  rw [leading?_eq_some_iff, leading?_eq_some_iff, h.resolve_interface_eq hr]
  refine and_congr_right fun found => ?_
  have step : s.IsSupertype t p := ⟨r, List.mem_cons_of_mem _ hr, found⟩
  exact (h.of_above (.single step)).leadsTo_iff

/-- The search through the interfaces of the type finds the same in both stores. -/
theorem findDeclaringInterface_eq (target : String) :
    s'.findDeclaringInterface t.interfaces target =
      s.findDeclaringInterface t.interfaces target := by
  rw [TypeStore.findDeclaringInterface_eq, TypeStore.findDeclaringInterface_eq,
    ← List.head?_filterMap, ← List.head?_filterMap]
  exact congrArg List.head? (List.filterMap_congr fun r hr => h.leading?_eq hr)

end AgreesAbove

/-- Both stores declare the type under its name, and they agree on everything above it. -/
structure AgreesOn (s s' : TypeStore) (t : TypeElement) : Prop where
  known : s.get? t.qualifiedName = some t
  known' : s'.get? t.qualifiedName = some t
  above : AgreesAbove s s' t

namespace AgreesOn

variable (h : AgreesOn s s' t)
include h

/-- Both stores take the type for valid, or none does. -/
theorem isValid_eq : s'.isValid t = s.isValid t := by
  rw [Bool.eq_iff_iff, isValid_iff h.known, isValid_iff h.known', h.above.isInOrder_iff]

/-- A valid type has the same superclasses in both stores. -/
theorem superclassChain_eq (valid : s.isValid t = true) :
    s'.superclassChain t = s.superclassChain t := by
  obtain ⟨ns, walk⟩ := superclasses_of_isValid h.known valid
  rw [superclassChain_of_superclasses h.known walk,
    superclassChain_of_superclasses h.known' (h.above.superclasses walk)]

/-- Discovery learns the same about a valid type. -/
theorem classify_eq (valid : s.isValid t = true) (presenterBase contractRoot : String) :
    s'.classify t presenterBase contractRoot = s.classify t presenterBase contractRoot := by
  rw [classify, classify, h.superclassChain_eq valid, h.above.findDeclaringInterface_eq]

end AgreesOn

end TypeStore

end ComponentWiring
