/-
ComponentWiring.Java.TypeExpr — the types that generated declarations mention.
-/
import ComponentWiring.Java.ClassName

namespace ComponentWiring.Java

/-- A type as a declaration mentions it. -/
inductive TypeExpr
  | void
  | ofClass (c : ClassName)
  | parameterized (raw : ClassName) (arguments : List TypeExpr)
  | variable (name : String)
  /-- Any type. -/
  | wildcard
  /-- Any type below the bound. -/
  | extending (bound : TypeExpr)
deriving Inhabited

namespace TypeExpr

mutual
/-- The classes a type refers to, in order. -/
def references : TypeExpr → List ClassName
  | .void => []
  | .ofClass c => [c]
  | .parameterized raw arguments => raw :: referencesOfAll arguments
  | .variable _ => []
  | .wildcard => []
  | .extending bound => bound.references
/-- The classes that types refer to, in order. -/
def referencesOfAll : List TypeExpr → List ClassName
  | [] => []
  | t :: ts => t.references ++ referencesOfAll ts
end

/-- Whether the type is the class and nothing else. -/
def isClass (c : ClassName) : TypeExpr → Bool
  | .ofClass d => d = c
  | _ => false

theorem isClass_iff {c : ClassName} {t : TypeExpr} : t.isClass c = true ↔ t = .ofClass c := by
  cases t <;> simp [isClass]

end TypeExpr

end ComponentWiring.Java
