/-
ComponentWiring.Proofs.Java.Occurrences — the places of a declaration where a class is written.

* `TypeDecl.occurrences` — the classes that stand in the text of a type, one for each place, in
  the order of the text.
* `TypeDecl.occurrences_subset` — a type refers to every class that it writes.

Not every reference is written. A method without a body keeps its code to itself; an anonymous
class has no annotations in its text, and of its supertypes only the first one.
-/
import ComponentWiring.Java.Render
import ComponentWiring.Proofs.Java.References

namespace ComponentWiring.Java

/-! ## 1. Occurrences -/

mutual
/-- The classes that an argument writes. -/
def CodeArg.occurrences : CodeArg → List ClassName
  | .type t => t.references
  | .literal _ => []
  | .text _ => []
  | .name _ => []
  | .block code => occurrencesOfCode code
  | .anonymous decl => decl.occurrences
/-- The classes that code writes. -/
def occurrencesOfCode : List Segment → List ClassName
  | [] => []
  | ⟨_, arguments⟩ :: code => occurrencesOfArguments arguments ++ occurrencesOfCode code
/-- The classes that arguments write. -/
def occurrencesOfArguments : List CodeArg → List ClassName
  | [] => []
  | a :: as => a.occurrences ++ occurrencesOfArguments as
/-- The classes that the members of an annotation write. -/
def occurrencesOfMembers : List (String × List Segment) → List ClassName
  | [] => []
  | (_, code) :: ms => occurrencesOfCode code ++ occurrencesOfMembers ms
/-- The classes that an annotation writes. -/
def AnnotationUse.occurrences : AnnotationUse → List ClassName
  | ⟨type, members⟩ => type :: occurrencesOfMembers members
/-- The classes that annotations write. -/
def occurrencesOfAnnotations : List AnnotationUse → List ClassName
  | [] => []
  | u :: us => u.occurrences ++ occurrencesOfAnnotations us
/-- The classes that an initial value writes. -/
def occurrencesOfInitializer : Option (List Segment) → List ClassName
  | none => []
  | some code => occurrencesOfCode code
/-- The classes that a field writes. -/
def FieldDecl.occurrences : FieldDecl → List ClassName
  | ⟨type, _, _, annotations, initializer⟩ =>
    occurrencesOfAnnotations annotations ++
      (type.references ++ occurrencesOfInitializer initializer)
/-- The classes that fields write. -/
def occurrencesOfFields : List FieldDecl → List ClassName
  | [] => []
  | f :: fs => f.occurrences ++ occurrencesOfFields fs
/-- The classes that a method writes, its code only where it has a body. -/
def MethodDecl.occurrences (inInterface : Bool) : MethodDecl → List ClassName
  | ⟨_, modifiers, annotations, _, returns, parameters, code⟩ =>
    occurrencesOfAnnotations annotations ++ (returns.references ++
      (parameters.flatMap (·.type.references) ++
        if hasBody inInterface modifiers then occurrencesOfCode code else []))
/-- The classes that methods write. -/
def occurrencesOfMethods (inInterface : Bool) : List MethodDecl → List ClassName
  | [] => []
  | m :: ms => m.occurrences inInterface ++ occurrencesOfMethods inInterface ms
/-- The classes above the members of a type, given those of its annotations: an anonymous class
is created from its first supertype with the arguments. -/
def TypeKind.occurrences (annotated : List ClassName) (supertypes : List TypeExpr) :
    TypeKind → List ClassName
  | .classNamed _ => annotated ++ TypeExpr.referencesOfAll supertypes
  | .interfaceNamed _ => annotated ++ TypeExpr.referencesOfAll supertypes
  | .anonymous arguments =>
    TypeExpr.referencesOfAll (supertypes.take 1) ++ occurrencesOfCode arguments
/-- The classes that a type writes. -/
def TypeDecl.occurrences : TypeDecl → List ClassName
  | t@⟨kind, _, annotations, superclass, superinterfaces, fields, methods⟩ =>
    kind.occurrences (occurrencesOfAnnotations annotations) (superclass.toList ++ superinterfaces)
      ++ (occurrencesOfFields fields ++ occurrencesOfMethods t.isInterface methods)
end

/-! ## 2. What is written is referred to -/

private theorem append_subset_append {α : Type} {l m l' m' : List α} (h : l ⊆ l') (h' : m ⊆ m') :
    l ++ m ⊆ l' ++ m' :=
  List.append_subset.mpr ⟨List.subset_append_of_subset_left m' h,
    List.subset_append_of_subset_right l' h'⟩

/-- What stands above the members of a type is among the references of the type. -/
theorem TypeKind.occurrences_subset {kind : TypeKind} {annotated refs : List ClassName}
    (supertypes : List TypeExpr) (h : annotated ⊆ refs)
    (arguments : ∀ code, kind = .anonymous code → occurrencesOfCode code ⊆ referencesOfCode code) :
    kind.occurrences annotated supertypes ⊆
      kind.references ++ (refs ++ TypeExpr.referencesOfAll supertypes) := by
  cases kind with
  | classNamed | interfaceNamed =>
    rw [TypeKind.references, List.nil_append]
    exact append_subset_append h (List.Subset.refl _)
  | anonymous code =>
    have first : TypeExpr.referencesOfAll (supertypes.take 1) ⊆
        TypeExpr.referencesOfAll supertypes := by
      cases supertypes <;> simp [TypeExpr.referencesOfAll]
    intro c hc
    rcases List.mem_append.mp hc with there | there
    · exact List.mem_append_right _ (List.mem_append_right _ (first there))
    · exact List.mem_append_left _ (arguments code rfl there)

/-- A type refers to what it writes if its parts do: the arguments of an anonymous class,
annotations, fields and methods. -/
theorem TypeDecl.occurrences_subset_of_parts {t : TypeDecl}
    (arguments : ∀ code, t.kind = .anonymous code →
      occurrencesOfCode code ⊆ referencesOfCode code)
    (annotated : occurrencesOfAnnotations t.annotations ⊆ referencesOfAnnotations t.annotations)
    (fields : occurrencesOfFields t.fields ⊆ referencesOfFields t.fields)
    (methods : ∀ inInterface,
      occurrencesOfMethods inInterface t.methods ⊆ referencesOfMethods t.methods) :
    t.occurrences ⊆ t.references := by
  obtain ⟨kind, modifiers, annotations, superclass, superinterfaces, fs, ms⟩ := t
  have supertypes : TypeExpr.referencesOfAll (superclass.toList ++ superinterfaces) =
      superclass.elim [] TypeExpr.references ++ TypeExpr.referencesOfAll superinterfaces := by
    cases superclass <;> rfl
  have above := TypeKind.occurrences_subset (superclass.toList ++ superinterfaces) annotated
    arguments
  rw [supertypes] at above
  rw [TypeDecl.occurrences, TypeDecl.references]
  simpa only [List.append_assoc] using
    append_subset_append above (append_subset_append fields (methods _))

mutual
theorem CodeArg.occurrences_subset : ∀ a : CodeArg, a.occurrences ⊆ a.references
  | .type t => List.Subset.refl t.references
  | .literal _ | .text _ | .name _ => List.nil_subset _
  | .block code => occurrencesOfCode_subset code
  | .anonymous t => t.occurrences_subset
theorem occurrencesOfCode_subset : ∀ code : List Segment,
    occurrencesOfCode code ⊆ referencesOfCode code
  | [] => List.nil_subset _
  | ⟨_, arguments⟩ :: code =>
    append_subset_append (occurrencesOfArguments_subset arguments) (occurrencesOfCode_subset code)
theorem occurrencesOfArguments_subset : ∀ as : List CodeArg,
    occurrencesOfArguments as ⊆ referencesOfArguments as
  | [] => List.nil_subset _
  | a :: as => append_subset_append a.occurrences_subset (occurrencesOfArguments_subset as)
theorem occurrencesOfMembers_subset : ∀ ms : List (String × List Segment),
    occurrencesOfMembers ms ⊆ referencesOfMembers ms
  | [] => List.nil_subset _
  | (_, code) :: ms =>
    append_subset_append (occurrencesOfCode_subset code) (occurrencesOfMembers_subset ms)
theorem occurrencesOfAnnotations_subset : ∀ us : List AnnotationUse,
    occurrencesOfAnnotations us ⊆ referencesOfAnnotations us
  | [] => List.nil_subset _
  | ⟨type, members⟩ :: us =>
    append_subset_append (List.cons_subset_cons type (occurrencesOfMembers_subset members))
      (occurrencesOfAnnotations_subset us)
theorem occurrencesOfFields_subset : ∀ fs : List FieldDecl,
    occurrencesOfFields fs ⊆ referencesOfFields fs
  | [] => List.nil_subset _
  | ⟨_, _, _, annotations, none⟩ :: fs =>
    append_subset_append (append_subset_append (occurrencesOfAnnotations_subset annotations)
      (List.Subset.refl _)) (occurrencesOfFields_subset fs)
  | ⟨_, _, _, annotations, some code⟩ :: fs =>
    append_subset_append (append_subset_append (occurrencesOfAnnotations_subset annotations)
      (append_subset_append (List.Subset.refl _) (occurrencesOfCode_subset code)))
      (occurrencesOfFields_subset fs)
theorem occurrencesOfMethods_subset (inInterface : Bool) : ∀ ms : List MethodDecl,
    occurrencesOfMethods inInterface ms ⊆ referencesOfMethods ms
  | [] => List.nil_subset _
  | ⟨_, modifiers, annotations, _, _, _, code⟩ :: ms => by
    have body : (if hasBody inInterface modifiers then occurrencesOfCode code else []) ⊆
        referencesOfCode code := by
      split
      · exact occurrencesOfCode_subset code
      · exact List.nil_subset _
    exact append_subset_append (append_subset_append (occurrencesOfAnnotations_subset annotations)
      (append_subset_append (List.Subset.refl _) (append_subset_append (List.Subset.refl _) body)))
      (occurrencesOfMethods_subset inInterface ms)
theorem kindOccurrences_subset : ∀ (kind : TypeKind) (code : Code), kind = .anonymous code →
    occurrencesOfCode code ⊆ referencesOfCode code
  | .anonymous code, _, same => by
    cases same
    exact occurrencesOfCode_subset code
/-- A type refers to every class that it writes, whatever it is nested in. -/
theorem TypeDecl.occurrences_subset : ∀ t : TypeDecl, t.occurrences ⊆ t.references
  | ⟨kind, _, annotations, _, _, fields, methods⟩ =>
    TypeDecl.occurrences_subset_of_parts (kindOccurrences_subset kind)
      (occurrencesOfAnnotations_subset annotations) (occurrencesOfFields_subset fields)
      (fun inInterface => occurrencesOfMethods_subset inInterface methods)
end

end ComponentWiring.Java
