/-
ComponentWiring.Proofs.Declared.Literals — types whose annotations name classes in another way.

* `TypeElement.mapLiterals` — a type with other class literals in its annotations and those of its
  methods.
* `TypeStore.isValid_mapLiterals`, `TypeStore.superclassChain_mapLiterals`,
  `TypeStore.classify_mapLiterals` — what is asked about a type does not depend on its literals.
* `Round.elementsWith_mapLiterals` — nor does it matter for which elements carry an annotation.
-/
import ComponentWiring.Declared.Hierarchy
import ComponentWiring.Declared.Platform
import ComponentWiring.Declared.Round
import ComponentWiring.Proofs.Keyed

namespace ComponentWiring

variable (f : ClassLiteral → ClassLiteral)

/-! ## 1. Annotations -/

/-- The value with another class literal, if it is one. -/
def AnnotationValue.mapLiteral : AnnotationValue → AnnotationValue
  | .classLiteral c => .classLiteral (f c)
  | v => v

/-- The annotation with other class literals as members. -/
def AnnotationElement.mapLiterals (a : AnnotationElement) : AnnotationElement :=
  { a with values := a.values.mapValues (·.mapLiteral f) }

theorem AnnotationElement.classValue?_mapLiterals (a : AnnotationElement) (member : String) :
    (a.mapLiterals f).classValue? member = (a.classValue? member).map f := by
  have value : (a.mapLiterals f).values.get? member = (a.values.get? member).map (·.mapLiteral f) :=
    Keyed.get?_mapValues ..
  rw [classValue?, classValue?, value]
  rcases a.values.get? member with _ | v
  · rfl
  · cases v <;> rfl

theorem markerOf?_mapLiterals (as : List AnnotationElement) (type : String) :
    markerOf? (as.map (·.mapLiterals f)) type = (markerOf? as type).map (·.mapLiterals f) :=
  List.find?_map

/-! ## 2. Types -/

/-- The method with other class literals in its annotations. -/
def MethodElement.mapLiterals (m : MethodElement) : MethodElement :=
  { m with annotations := m.annotations.map (·.mapLiterals f) }

/-- The type with other class literals in its annotations and those of its methods. -/
def TypeElement.mapLiterals (t : TypeElement) : TypeElement :=
  { t with
    annotations := t.annotations.map (·.mapLiterals f)
    methods := t.methods.map (·.mapLiterals f) }

/-- The element with other class literals in all annotations. -/
def Element.mapLiterals : Element → Element
  | .type t => .type (t.mapLiterals f)
  | .method m owner => .method (m.mapLiterals f) (owner.mapLiterals f)

theorem MethodElement.marker?_mapLiterals (m : MethodElement) (marker : String) :
    (m.mapLiterals f).marker? marker = (m.marker? marker).map (·.mapLiterals f) :=
  markerOf?_mapLiterals ..

theorem TypeElement.marker?_mapLiterals (t : TypeElement) (marker : String) :
    (t.mapLiterals f).marker? marker = (t.marker? marker).map (·.mapLiterals f) :=
  markerOf?_mapLiterals ..

theorem Element.class?_mapLiterals (e : Element) :
    (e.mapLiterals f).class? = e.class?.map (·.mapLiterals f) := by
  cases e with
  | type t =>
    show (some (t.mapLiterals f)).filter _ = ((some t).filter _).map _
    rw [Option.filter_some, Option.filter_some]
    show (if t.isClass then _ else _) = _
    split <;> rfl
  | method m owner => rfl

theorem Element.displayName_mapLiterals (e : Element) :
    (e.mapLiterals f).displayName = e.displayName := by
  cases e <;> rfl

/-! ## 3. Stores -/

/-- The store with other class literals in all annotations. -/
def TypeStore.mapLiterals (s : TypeStore) : TypeStore where
  types := s.types.mapValues (·.mapLiterals f)
  named := by
    intro e he
    obtain ⟨e', listed, rfl⟩ := List.mem_map.mp he
    exact s.named e' listed

namespace TypeStore

variable (s : TypeStore)

theorem get?_mapLiterals (n : String) :
    (s.mapLiterals f).get? n = (s.get? n).map (·.mapLiterals f) :=
  Keyed.get?_mapValues ..

theorem size_mapLiterals : (s.mapLiterals f).size = s.size :=
  Keyed.size_mapValues ..

theorem insert_mapLiterals (t : TypeElement) :
    (s.insert t).mapLiterals f = (s.mapLiterals f).insert (t.mapLiterals f) := by
  rw [mk.injEq]
  exact Keyed.mapValues_insert ..

theorem insertAll_mapLiterals (ts : List TypeElement) :
    (s.insertAll ts).mapLiterals f = (s.mapLiterals f).insertAll (ts.map (·.mapLiterals f)) := by
  induction ts generalizing s with
  | nil => rfl
  | cons t ts ih =>
    show ((s.insert t).insertAll ts).mapLiterals f = _
    rw [ih, insert_mapLiterals]
    rfl

end TypeStore

/-- The types of the platform carry no annotations. -/
theorem Platform.store_mapLiterals (n : FrameworkNames) :
    (Platform.store n).mapLiterals f = Platform.store n := by
  have bare : (types n).map (·.mapLiterals f) = types n := by
    rw [types, List.map_append, List.map_map]
    rfl
  rw [store, TypeStore.insertAll_mapLiterals, bare]
  rfl

namespace TypeStore

variable (s : TypeStore)

/-! ## 4. Supertypes -/

theorem resolve_mapLiterals (r : TypeRef) :
    (s.mapLiterals f).resolve r = (s.resolve r).map (·.mapLiterals f) := by
  rw [resolve, resolve]
  cases r.name? with
  | none => rfl
  | some n => exact get?_mapLiterals ..

theorem supertypes_mapLiterals (t : TypeElement) :
    (s.mapLiterals f).supertypes (t.mapLiterals f) = (s.supertypes t).map (·.mapLiterals f) := by
  rw [supertypes, supertypes, List.map_filterMap]
  exact List.filterMap_congr fun r _ => resolve_mapLiterals f s r

theorem elements_mapLiterals : (s.mapLiterals f).elements = s.elements.map (·.mapLiterals f) := by
  rw [elements, elements, Keyed.values, Keyed.values, List.map_map]
  exact List.map_map

theorem stackings_mapLiterals (t : TypeElement) :
    (s.mapLiterals f).stackings (t.mapLiterals f) = s.stackings t := by
  simp only [stackings, supertypes_mapLiterals, elements_mapLiterals, List.flatMap_map,
    ← List.map_flatMap, ← List.map_append, List.length_map]

theorem meets_mapLiterals (name : String) (fuel : Nat) (seen : List String)
    (stack : List TypeElement) :
    (s.mapLiterals f).meets name fuel seen (stack.map (·.mapLiterals f)) =
      s.meets name fuel seen stack := by
  induction fuel generalizing seen stack with
  | zero => rfl
  | succ fuel ih =>
    cases stack with
    | nil => rfl
    | cons u stack =>
      have named : (u.mapLiterals f).qualifiedName = u.qualifiedName := rfl
      simp only [List.map_cons, meets, meetsWith, named, supertypes_mapLiterals, ← List.map_reverse,
        ← List.map_append, ih]

theorem hasCycle_mapLiterals (t : TypeElement) :
    (s.mapLiterals f).hasCycle (t.mapLiterals f) = s.hasCycle t := by
  rw [hasCycle, hasCycle, stackings_mapLiterals, supertypes_mapLiterals, ← List.map_reverse,
    meets_mapLiterals]
  rfl

/-! ## 5. Validity -/

section Visits

variable {visit visit' : List String → TypeElement → Option (List String)}
  (same : ∀ visited t, visit' visited (t.mapLiterals f) = visit visited t)
include same

theorem visitAs_mapLiterals (kind : ElementKind) (visited : List String) (r : TypeRef) :
    (s.mapLiterals f).visitAs visit' kind visited r = s.visitAs visit kind visited r := by
  rw [visitAs, visitAs, resolve_mapLiterals]
  cases s.resolve r with
  | none => rfl
  | some p =>
    have sort : (p.mapLiterals f).kind = p.kind := rfl
    simp only [Option.map_some, sort, same]

theorem visitSuperclass_mapLiterals (visited : List String) (r : TypeRef) :
    (s.mapLiterals f).visitSuperclass visit' visited r = s.visitSuperclass visit visited r := by
  cases r with
  | absent => rfl
  | named n => exact visitAs_mapLiterals f s same .classType visited (.named n)
  | unresolved n => exact visitAs_mapLiterals f s same .classType visited (.unresolved n)

theorem visitWith_mapLiterals (visited : List String) (t : TypeElement) :
    (s.mapLiterals f).visitWith visit' visited (t.mapLiterals f) = s.visitWith visit visited t := by
  have methods : (t.mapLiterals f).methods.any (·.hasUnresolved) =
      t.methods.any (·.hasUnresolved) := List.any_map
  have each : (s.mapLiterals f).visitAs visit' .interfaceType = s.visitAs visit .interfaceType :=
    funext₂ (visitAs_mapLiterals f s same .interfaceType)
  rw [visitWith, visitWith, methods, hasCycle_mapLiterals, each,
    visitSuperclass_mapLiterals f s same]
  rfl

end Visits

theorem visit_mapLiterals (fuel : Nat) (visited : List String) (t : TypeElement) :
    (s.mapLiterals f).visit fuel visited (t.mapLiterals f) = s.visit fuel visited t := by
  induction fuel generalizing visited t with
  | zero => rfl
  | succ fuel ih => exact visitWith_mapLiterals f s ih visited t

theorem isValid_mapLiterals (t : TypeElement) :
    (s.mapLiterals f).isValid (t.mapLiterals f) = s.isValid t := by
  rw [isValid, isValid, size_mapLiterals, visit_mapLiterals]

/-! ## 6. Walks -/

theorem chainAfter_mapLiterals (fuel : Nat) (met : List String) (t : TypeElement) :
    (s.mapLiterals f).chainAfter fuel met (t.mapLiterals f) = s.chainAfter fuel met t := by
  induction fuel generalizing met t with
  | zero => rfl
  | succ fuel ih =>
    have above : (t.mapLiterals f).superclass = t.superclass := rfl
    rw [chainAfter, chainAfter, above]
    cases t.superclass with
    | absent | unresolved => rfl
    | named n =>
      simp only [get?_mapLiterals]
      cases s.get? n with
      | none => rfl
      | some parent => simp only [Option.map_some, ih]

theorem superclassChain_mapLiterals (t : TypeElement) :
    (s.mapLiterals f).superclassChain (t.mapLiterals f) = s.superclassChain t := by
  rw [superclassChain, superclassChain, size_mapLiterals, chainAfter_mapLiterals]
  rfl

theorem inheritsFrom_mapLiterals (t : TypeElement) (name : String) :
    (s.mapLiterals f).inheritsFrom (t.mapLiterals f) name = s.inheritsFrom t name := by
  rw [inheritsFrom, inheritsFrom, superclassChain_mapLiterals]

/-- The course of a search that has found a type with other class literals. -/
def Search.mapLiterals : Search → Search
  | .error t => .error (t.mapLiterals f)
  | .ok visited => .ok visited

theorem Search.found?_mapLiterals (outcome : Search) :
    (outcome.mapLiterals f).found? = outcome.found?.map (·.mapLiterals f) := by
  cases outcome <;> rfl

/-- Searches of one reference that agree up to class literals make searches of many that do. -/
theorem Search.foldlM_mapLiterals {step step' : List String → TypeRef → Search}
    (same : ∀ visited r, step' visited r = (step visited r).mapLiterals f) (visited : List String)
    (refs : List TypeRef) :
    refs.foldlM step' visited = Search.mapLiterals f (refs.foldlM step visited) := by
  induction refs generalizing visited with
  | nil => rfl
  | cons r refs ih =>
    rw [List.foldlM_cons, List.foldlM_cons, same]
    cases step visited r with
    | error t => rfl
    | ok between => exact ih between

theorem search_mapLiterals (target : String) (fuel : Nat) (visited : List String)
    (refs : List TypeRef) : (s.mapLiterals f).search target fuel visited refs =
      (s.search target fuel visited refs).mapLiterals f := by
  induction fuel generalizing visited refs with
  | zero => rfl
  | succ fuel ih =>
    refine Search.foldlM_mapLiterals f (fun visited r => ?_) visited refs
    rw [searchWith, searchWith, resolve_mapLiterals]
    cases s.resolve r with
    | none => rfl
    | some t =>
      have named : (t.mapLiterals f).qualifiedName = t.qualifiedName := rfl
      have above : (t.mapLiterals f).interfaces = t.interfaces := rfl
      simp only [Option.map_some, named, above, ih]
      split
      · rfl
      · split <;> rfl

theorem findDeclaringInterface_mapLiterals (refs : List TypeRef) (target : String) :
    (s.mapLiterals f).findDeclaringInterface refs target =
      (s.findDeclaringInterface refs target).map (·.mapLiterals f) := by
  rw [findDeclaringInterface, findDeclaringInterface, findDeclaringAfter, findDeclaringAfter,
    ← Search.found?_mapLiterals]
  refine congrArg Search.found? (Search.foldlM_mapLiterals f (fun visited r => ?_) [] refs)
  rw [searchBelow, searchBelow, resolve_mapLiterals]
  cases s.resolve r with
  | none => rfl
  | some t =>
    have named : (t.mapLiterals f).qualifiedName = t.qualifiedName := rfl
    have above : (t.mapLiterals f).interfaces = t.interfaces := rfl
    simp only [Option.map_some, named, above, searchAll, size_mapLiterals, search_mapLiterals]
    split
    · rfl
    · cases s.search target (s.size + 1) visited t.interfaces <;> rfl

theorem classify_mapLiterals (t : TypeElement) (presenterBase contractRoot : String) :
    (s.mapLiterals f).classify (t.mapLiterals f) presenterBase contractRoot =
      s.classify t presenterBase contractRoot := by
  have contract : ((s.mapLiterals f).findDeclaringInterface (t.mapLiterals f).interfaces
      contractRoot).map (·.qualifiedName) =
        (s.findDeclaringInterface t.interfaces contractRoot).map (·.qualifiedName) := by
    rw [findDeclaringInterface_mapLiterals, Option.map_map]
    rfl
  simp only [classify, superclassChain_mapLiterals, contract]

end TypeStore

/-! ## 7. Rounds -/

namespace Round

/-- The round over the store with other class literals. -/
def mapLiterals (r : Round) : Round := { r with store := r.store.mapLiterals f }

theorem carriers_mapLiterals (marker : String) (t : TypeElement) :
    carriers marker (t.mapLiterals f) = (carriers marker t).map (·.mapLiterals f) := by
  have methods : (t.mapLiterals f).methods = t.methods.map (·.mapLiterals f) := rfl
  rw [carriers, carriers, List.map_append, TypeElement.marker?_mapLiterals, Option.isSome_map,
    methods, List.filter_map, List.map_map, List.map_map]
  simp only [Function.comp_def, MethodElement.marker?_mapLiterals, Option.isSome_map]
  congr 1
  split <;> rfl

theorem elementsWith_mapLiterals (r : Round) (marker : String) :
    (r.mapLiterals f).elementsWith marker = (r.elementsWith marker).map (·.mapLiterals f) := by
  have roots : (r.mapLiterals f).rootElements = r.rootElements.map (·.mapLiterals f) := by
    rw [rootElements, rootElements, List.map_filterMap]
    exact List.filterMap_congr fun n _ => TypeStore.get?_mapLiterals f r.store n
  rw [elementsWith, elementsWith, roots, List.flatMap_map, List.map_flatMap]
  simp only [carriers_mapLiterals]

theorem markersPresent_mapLiterals (r : Round) (annotations : List String) :
    (r.mapLiterals f).markersPresent annotations = r.markersPresent annotations := by
  simp only [markersPresent, elementsWith_mapLiterals, List.isEmpty_map]

end Round

end ComponentWiring
