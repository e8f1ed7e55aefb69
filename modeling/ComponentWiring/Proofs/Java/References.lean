/-
ComponentWiring.Proofs.Java.References — the classes that put-together declarations refer to.

* `referencesOfCode_append`, `mem_referencesOfCode_flatten` — code that is put together.
* `mem_referencesOfFields`, `mem_referencesOfMethods` — the members of a type.
* `ClassName.IsWellFormed`, `isWellFormed_of_parse?` — names that are read have identifiers as
  simple names.
-/
import ComponentWiring.Java.References
import ComponentWiring.Proofs.Java.Names

namespace ComponentWiring.Java

/-! ## 1. Code -/

@[simp] theorem referencesOfArguments_nil : referencesOfArguments [] = [] := rfl

@[simp] theorem referencesOfArguments_cons (a : CodeArg) (as : List CodeArg) :
    referencesOfArguments (a :: as) = a.references ++ referencesOfArguments as := rfl

@[simp] theorem referencesOfCode_nil : referencesOfCode [] = [] := rfl

@[simp] theorem referencesOfCode_cons (s : Segment) (code : Code) :
    referencesOfCode (s :: code) = s.references ++ referencesOfCode code := rfl

@[simp] theorem Segment.references_mk (format : String) (arguments : List CodeArg) :
    (Segment.mk format arguments).references = referencesOfArguments arguments := rfl

@[simp] theorem referencesOfCode_append (code more : Code) :
    referencesOfCode (code ++ more) = referencesOfCode code ++ referencesOfCode more := by
  induction code with
  | nil => simp
  | cons s code ih => simp [ih]

@[simp] theorem referencesOfCode_of (format : String) (arguments : List CodeArg) :
    referencesOfCode (Code.of format arguments) = referencesOfArguments arguments := by
  simp [Code.of]

@[simp] theorem referencesOfCode_statement (format : String) (arguments : List CodeArg) :
    referencesOfCode (Code.statement format arguments) = referencesOfArguments arguments :=
  referencesOfCode_of _ arguments

@[simp] theorem referencesOfCode_opening (format : String) (arguments : List CodeArg) :
    referencesOfCode (Code.opening format arguments) = referencesOfArguments arguments :=
  referencesOfCode_of _ arguments

@[simp] theorem referencesOfCode_closing : referencesOfCode Code.closing = [] := by
  simp [Code.closing]

@[simp] theorem referencesOfCode_outdent : referencesOfCode Code.outdent = [] := by
  simp [Code.outdent]

theorem mem_referencesOfCode_flatten {c : ClassName} {codes : List Code} :
    c ∈ referencesOfCode codes.flatten ↔ ∃ code ∈ codes, c ∈ referencesOfCode code := by
  induction codes with
  | nil => simp
  | cons code codes ih => simp [ih]

@[simp] theorem CodeArg.references_type (t : TypeExpr) :
    (CodeArg.type t).references = t.references := rfl

@[simp] theorem CodeArg.references_literal (s : String) : (CodeArg.literal s).references = [] := rfl

@[simp] theorem CodeArg.references_text (s : String) : (CodeArg.text s).references = [] := rfl

@[simp] theorem CodeArg.references_name (s : String) : (CodeArg.name s).references = [] := rfl

@[simp] theorem CodeArg.references_anonymous (t : TypeDecl) :
    (CodeArg.anonymous t).references = t.references := rfl

/-! ## 2. Declarations -/

@[simp] theorem TypeExpr.references_void : TypeExpr.void.references = [] := rfl

@[simp] theorem TypeExpr.references_ofClass (c : ClassName) :
    (TypeExpr.ofClass c).references = [c] := rfl

theorem TypeExpr.referencesOfAll_eq_flatMap (ts : List TypeExpr) :
    TypeExpr.referencesOfAll ts = ts.flatMap TypeExpr.references := by
  induction ts with
  | nil => rfl
  | cons t ts ih => rw [TypeExpr.referencesOfAll, ih, List.flatMap_cons]

@[simp] theorem referencesOfAnnotations_nil : referencesOfAnnotations [] = [] := rfl

@[simp] theorem referencesOfAnnotations_cons (a : AnnotationUse) (as : List AnnotationUse) :
    referencesOfAnnotations (a :: as) = a.references ++ referencesOfAnnotations as := rfl

@[simp] theorem AnnotationUse.references_plain (c : ClassName) :
    (AnnotationUse.plain c).references = [c] := rfl

@[simp] theorem referencesOfFields_nil : referencesOfFields [] = [] := rfl

@[simp] theorem referencesOfFields_cons (f : FieldDecl) (fs : List FieldDecl) :
    referencesOfFields (f :: fs) = f.references ++ referencesOfFields fs := rfl

theorem mem_referencesOfFields {c : ClassName} {fields : List FieldDecl} :
    c ∈ referencesOfFields fields ↔ ∃ f ∈ fields, c ∈ f.references := by
  induction fields with
  | nil => simp
  | cons f fields ih => simp [ih]

@[simp] theorem referencesOfMethods_nil : referencesOfMethods [] = [] := rfl

@[simp] theorem referencesOfMethods_cons (m : MethodDecl) (ms : List MethodDecl) :
    referencesOfMethods (m :: ms) = m.references ++ referencesOfMethods ms := rfl

theorem mem_referencesOfMethods {c : ClassName} {methods : List MethodDecl} :
    c ∈ referencesOfMethods methods ↔ ∃ m ∈ methods, c ∈ m.references := by
  induction methods with
  | nil => simp
  | cons m methods ih => simp [ih]

/-- Where a type declaration refers to a class. -/
theorem TypeDecl.mem_references {c : ClassName} {t : TypeDecl} :
    c ∈ t.references ↔ c ∈ t.kind.references ∨ c ∈ referencesOfAnnotations t.annotations ∨
      c ∈ t.superclass.elim [] TypeExpr.references ∨
      c ∈ TypeExpr.referencesOfAll t.superinterfaces ∨
      (∃ f ∈ t.fields, c ∈ f.references) ∨ ∃ m ∈ t.methods, c ∈ m.references := by
  obtain ⟨kind, modifiers, annotations, superclass, superinterfaces, fields, methods⟩ := t
  simp only [TypeDecl.references, List.mem_append, mem_referencesOfFields, mem_referencesOfMethods]

/-- Where a method refers to a class. -/
theorem MethodDecl.mem_references {c : ClassName} {m : MethodDecl} :
    c ∈ m.references ↔ c ∈ referencesOfAnnotations m.annotations ∨ c ∈ m.returns.references ∨
      (∃ p ∈ m.parameters, c ∈ p.type.references) ∨ c ∈ referencesOfCode m.code := by
  obtain ⟨name, modifiers, annotations, typeVariables, returns, parameters, code⟩ := m
  simp only [MethodDecl.references, List.mem_append, List.mem_flatMap]

/-! ## 3. Well-formed names -/

namespace ClassName

/-- The names of the class and of those around it are identifiers. -/
def IsWellFormed (c : ClassName) : Prop := ∀ n ∈ c.simpleNames, isIdentifier n.toList = true

instance (c : ClassName) : Decidable c.IsWellFormed :=
  inferInstanceAs (Decidable (∀ n ∈ c.simpleNames, _))

/-- Only well-formed names are read. -/
theorem isWellFormed_of_parse? {name : String} {c : ClassName} (h : parse? name = some c) :
    c.IsWellFormed := by
  have readable : IsReadable name := parse?_isSome_iff.mp (by simp [h])
  unfold parse? at h
  have all : (Text.segments '.' name.toList).all isIdentifier = true := List.all_eq_true.mpr readable
  simp only [if_pos all] at h
  split at h
  · cases h
  · rename_i outer nested spelled
    cases h
    intro n hn
    have mem : n ∈ ((Text.segments '.' name.toList).drop
        (classStart (Text.segments '.' name.toList))).map String.ofList := by
      rw [spelled]
      exact hn
    obtain ⟨s, hs, rfl⟩ := List.mem_map.mp mem
    rw [String.toList_ofList]
    exact readable s (List.mem_of_mem_drop hs)

end ClassName

end ComponentWiring.Java
