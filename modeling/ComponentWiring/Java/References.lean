/-
ComponentWiring.Java.References — the classes that a declaration refers to.

Every place of a declaration where a class is spelled adds the class: annotations and their
members, supertypes, fields and their initial values, signatures, code, and the anonymous
classes within code.
-/
import ComponentWiring.Java.Decl

namespace ComponentWiring.Java

mutual
/-- The classes an argument refers to. -/
def CodeArg.references : CodeArg → List ClassName
  | .type t => t.references
  | .literal _ => []
  | .text _ => []
  | .name _ => []
  | .block code => referencesOfCode code
  | .anonymous decl => decl.references
/-- The classes a segment refers to. -/
def Segment.references : Segment → List ClassName
  | ⟨_, arguments⟩ => referencesOfArguments arguments
/-- The classes code refers to. -/
def referencesOfCode : List Segment → List ClassName
  | [] => []
  | s :: ss => s.references ++ referencesOfCode ss
/-- The classes arguments refer to. -/
def referencesOfArguments : List CodeArg → List ClassName
  | [] => []
  | a :: as => a.references ++ referencesOfArguments as
/-- The classes a member of an annotation refers to. -/
def referencesOfMember : String × List Segment → List ClassName
  | (_, code) => referencesOfCode code
/-- The classes the members of an annotation refer to. -/
def referencesOfMembers : List (String × List Segment) → List ClassName
  | [] => []
  | m :: ms => referencesOfMember m ++ referencesOfMembers ms
/-- The classes an annotation refers to. -/
def AnnotationUse.references : AnnotationUse → List ClassName
  | ⟨type, members⟩ => type :: referencesOfMembers members
/-- The classes annotations refer to. -/
def referencesOfAnnotations : List AnnotationUse → List ClassName
  | [] => []
  | a :: as => a.references ++ referencesOfAnnotations as
/-- The classes an initial value refers to. -/
def referencesOfInitializer : Option (List Segment) → List ClassName
  | none => []
  | some code => referencesOfCode code
/-- The classes a field refers to. -/
def FieldDecl.references : FieldDecl → List ClassName
  | ⟨type, _, _, annotations, initializer⟩ =>
    referencesOfAnnotations annotations ++ (type.references ++ referencesOfInitializer initializer)
/-- The classes fields refer to. -/
def referencesOfFields : List FieldDecl → List ClassName
  | [] => []
  | f :: fs => f.references ++ referencesOfFields fs
/-- The classes a method refers to. -/
def MethodDecl.references : MethodDecl → List ClassName
  | ⟨_, _, annotations, _, returns, parameters, code⟩ =>
    referencesOfAnnotations annotations ++ (returns.references ++
      (parameters.flatMap (·.type.references) ++ referencesOfCode code))
/-- The classes methods refer to. -/
def referencesOfMethods : List MethodDecl → List ClassName
  | [] => []
  | m :: ms => m.references ++ referencesOfMethods ms
/-- The classes the arguments of an anonymous class refer to. -/
def TypeKind.references : TypeKind → List ClassName
  | .classNamed _ => []
  | .interfaceNamed _ => []
  | .anonymous arguments => referencesOfCode arguments
/-- The classes a type declaration refers to. -/
def TypeDecl.references : TypeDecl → List ClassName
  | ⟨kind, _, annotations, superclass, superinterfaces, fields, methods⟩ =>
    kind.references ++ (referencesOfAnnotations annotations ++
      (superclass.elim [] TypeExpr.references ++
        (TypeExpr.referencesOfAll superinterfaces ++
          (referencesOfFields fields ++ referencesOfMethods methods))))
end

end ComponentWiring.Java
